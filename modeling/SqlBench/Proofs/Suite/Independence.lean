import SqlBench.Proofs.Suite.Echo
import SqlBench.Proofs.Suite.Lasting
import SqlBench.Proofs.Suite.News

set_option autoImplicit false

namespace SqlBench.Suite

variable {σ : Type} {s : Suite σ} {d : Span} {before before' : List (Moment × Event)} {c c' : Course σ}

theorem warm_up_later (steady : s.services.Steady) (impartial : s.services.collector.Impartial (.later d))
    (source : Plan.Source) (echoes : Course.Echoes (.later d) before before' c c') :
    (∃ halt, s.warmUp source c = .error halt ∧ s.warmUp source c' = .error halt) ∨
      ∃ begun begun', s.warmUp source c = .ok begun ∧ s.warmUp source c' = .ok begun' ∧
        Course.Echoes (.later d) before before' begun begun' := by
  rw [warmUp, warmUp]
  by_cases cold : source.benchmark.prewarmRuns = 0
  · rw [if_pos cold, if_pos cold]
    exact .inr ⟨c, c', rfl, rfl, echoes⟩
  · rw [if_neg cold, if_neg cold]
    cases Plan.executions source source.benchmark.prewarmRuns with
    | error cause => exact .inl ⟨_, rfl, rfl⟩
    | ok planned =>
        cases (s.pool source.benchmark none).setUp with
        | error halt => exact .inl ⟨halt, rfl, rfl⟩
        | ok =>
            have same : planned.map (Echo.later d).execution = planned := List.map_id planned
            have states := Pool.run_echoes (p := s.warmUpPool source.benchmark none) steady impartial rfl
              planned echoes
            rw [same] at states
            exact .inr ⟨_, _, rfl, rfl, states.course⟩

theorem execute_later (steady : s.services.Steady)
    (impartial : s.services.collector.Impartial (.later d)) (b : Benchmark)
    (echoes : Course.Echoes (.later d) before before' c c') :
    Executed (.later d) before before' (s.execute b none c) (s.execute b none c') := by
  cases loads : Plan.templates s.services.queries b with
  | error cause =>
      rw [execute_unloaded loads, execute_unloaded loads]
      exact ⟨rfl, echoes⟩
  | ok templates =>
      rw [execute_warmed steady loads echoes.stop, execute_warmed steady loads echoes.stop']
      rcases warm_up_later steady impartial (s.loaded b templates) echoes with
        ⟨halt, fails, fails'⟩ | ⟨begun, begun', ok, ok', arrived⟩
      · rw [fails, fails']
        exact ⟨rfl, echoes⟩
      · rw [ok, ok']
        exact measure_echoes steady impartial (s.loaded b templates) arrived

theorem reject_later (b : Benchmark) (cause : Failure)
    (echoes : Course.Echoes (.later d) before before' c c') :
    Reports (.later d) before before' (reject b cause c) (reject b cause c') := by
  have same : (BenchmarkResult.start b c'.now).addFailure cause =
      (Echo.later d).report ((BenchmarkResult.start b c.now).addFailure cause) := by
    rw [echoes.now]
    rfl
  rw [reject, reject, same]
  exact finish_echoes echoes _ .failed

theorem run_until_later (steady : s.services.Steady)
    (impartial : s.services.collector.Impartial (.later d)) (b : Benchmark)
    (echoes : Course.Echoes (.later d) before before' c c') :
    Reports (.later d) before before' (s.runUntil none b c) (s.runUntil none b c') := by
  rw [runUntil, runUntil]
  cases b.validate with
  | error cause => exact reject_later b cause echoes
  | ok =>
      obtain ⟨outcome, hooks⟩ := Hook.bracket_echoes steady (echoes.post (.benchmarkStarted b))
        (.beforeBenchmark b) (.beforeBenchmark b) (some b) b.beforeBenchmark
      exact concluded_echoes steady impartial (stages_echoes (b := b) echoes.now outcome (fun _ _ => hooks)
        fun _ => execute_later steady impartial b hooks)

theorem run_checked_later (steady : s.services.Steady)
    (impartial : s.services.collector.Impartial (.later d)) (b : Benchmark)
    (echoes : Course.Echoes (.later d) before before' c c') :
    Reports (.later d) before before' (s.runChecked none b c) (s.runChecked none b c') := by
  obtain ⟨outcome, checked⟩ := Hook.bracket_echoes steady echoes (.healthCheck b) (.healthCheck b)
    (some b) s.healthCheck
  rw [Option.map_some, show (Echo.later d).benchmark b = b from rfl] at outcome checked
  rw [runChecked, runChecked]
  generalize Hook.bracket s.services (.healthCheck b) (some b) s.healthCheck c' = done' at outcome checked ⊢
  generalize Hook.bracket s.services (.healthCheck b) (some b) s.healthCheck c = done at outcome checked ⊢
  obtain ⟨came', later'⟩ := done'
  obtain ⟨came, later⟩ := done
  cases outcome
  cases came' with
  | ok => exact run_until_later steady impartial b checked
  | error halt =>
      cases halt with
      | failed cause => exact reject_later b cause checked
      | crashed panic => exact ⟨rfl, checked⟩

theorem clean_up_all_later (steady : s.services.Steady)
    (echoes : Course.Echoes (.later d) before before' c c') : (s.cleanUpAll c').1 = (s.cleanUpAll c).1 := by
  obtain ⟨outcome, -⟩ := Hook.bracket_echoes steady echoes .afterAll .afterAll none s.afterAll
  rw [Option.map_none] at outcome
  rw [cleanUpAll, cleanUpAll]
  generalize Hook.bracket s.services .afterAll none s.afterAll c' = done' at outcome ⊢
  generalize Hook.bracket s.services .afterAll none s.afterAll c = done at outcome ⊢
  obtain ⟨came', later'⟩ := done'
  obtain ⟨came, later⟩ := done
  cases outcome
  rcases came' with (⟨cause⟩ | ⟨panic⟩) | _ <;> rfl

theorem onward_echoes (onward : c.Onward c') (unasked : c.stop = .never) (unasked' : c'.stop = .never) :
    Course.Echoes (.later (c'.now - c.now)) c.events c'.events c c' :=
  ⟨(Nat.sub_add_cancel onward.now).symm, onward.tick, unasked, unasked', [], by simp, by simp⟩

theorem run_in_order_unasked (carriesOn : s.failurePolicy = .carryOn) (unasked : c.stop = .never)
    (b : Benchmark) (rest : List Benchmark) :
    s.runInOrder none (b :: rest) c = Course.andThen (s.runChecked none b c) fun r c =>
      Course.andThen (s.runInOrder none rest c) fun others c => (.ok (r :: others), c) := by
  simp [runInOrder, isReached, carriesOn, Course.isStopped, StopRequest.holds, StopRequest.never, unasked]

-- What the results of benchmarks are, by what each of them comes to at one place.
def AsAlone (s : Suite σ) (base : Course σ) :
    List Benchmark → Except String (List BenchmarkResult) → Prop
  | benchmarks, .ok results => List.Forall₂ (fun b r => ∃ alone d,
      (s.runChecked none b base).1 = .ok alone ∧ r = (Echo.later d).report alone) benchmarks results
  | benchmarks, .error panic => ∃ b ∈ benchmarks, (s.runChecked none b base).1 = .error panic

theorem run_in_order_later (steady : s.services.Steady)
    (impartial : ∀ d, s.services.collector.Impartial (.later d))
    (carriesOn : s.failurePolicy = .carryOn) {base : Course σ} (unasked : base.stop = .never)
    (onward : base.Onward c) (still : c.stop = .never) (benchmarks : List Benchmark) :
    s.AsAlone base benchmarks (s.runInOrder none benchmarks c).1 ∧
      base.Onward (s.runInOrder none benchmarks c).2 ∧
      (s.runInOrder none benchmarks c).2.stop = .never := by
  induction benchmarks generalizing c with
  | nil => exact ⟨.nil, onward, still⟩
  | cons b rest ih =>
      have later : base.Onward (s.runChecked none b c).2 := onward.trans
        (run_checked_kept (Pool.onward_lasting s.services) Course.onward_note none b c)
      have silent : (s.runChecked none b c).2.stop = .never :=
        (run_checked_kept (Pool.calm_lasting steady.calm) (fun _ _ => rfl) none b c).trans still
      have own := (run_checked_later steady (impartial _) b (onward_echoes onward unasked still)).1
      rw [run_in_order_unasked carriesOn still]
      generalize s.runChecked none b c = done at later silent own ⊢
      obtain ⟨outcome, mid⟩ := done
      cases alone : (s.runChecked none b base).1 with
      | error panic =>
          rw [alone] at own
          cases own
          exact ⟨⟨b, List.mem_cons_self, alone⟩, later, silent⟩
      | ok r =>
          rw [alone] at own
          cases own
          obtain ⟨others, further, quiet⟩ := ih later silent
          dsimp only [Course.andThen]
          generalize s.runInOrder none rest mid = done at others further quiet ⊢
          obtain ⟨outcome, last⟩ := done
          cases outcome with
          | error panic =>
              obtain ⟨culprit, member, panics⟩ := others
              exact ⟨⟨culprit, List.mem_cons_of_mem b member, panics⟩, further, quiet⟩
          | ok results => exact ⟨.cons ⟨r, c.now - base.now, alone, rfl⟩ others, further, quiet⟩

def returned (tidied : Except String Unit) (outcome : Except String (List BenchmarkResult)) :
    Except String (Except Failure (List BenchmarkResult)) :=
  match outcome with
  | .error panic => .error panic
  | .ok results => tidied.map fun _ => .ok results

structure Undisturbed (s : Suite σ) (c : Course σ) : Prop where
  steady : s.services.Steady
  impartial : ∀ d, s.services.collector.Impartial (.later d)
  carriesOn : s.failurePolicy = .carryOn
  unlimited : s.timeLimit = none
  unasked : c.stop = .never

section Undisturbed

variable (undisturbed : s.Undisturbed c) {begun : Course σ} (begins : s.beforeAllHooks c = (.ok (), begun))

include undisturbed begins

theorem begun_unasked : begun.stop = .never := by
  have kept : (s.beforeAllHooks c).2.stop = c.stop :=
    bracket_kept (Pool.calm_lasting undisturbed.steady.calm) (fun _ _ => rfl) .beforeAll none s.beforeAll c
  rw [begins] at kept
  exact kept.trans undisturbed.unasked

theorem run_as_alone (benchmarks : List Benchmark) :
    s.AsAlone begun benchmarks (s.runInOrder none benchmarks begun).1 ∧
      (s.run benchmarks c).1 =
        returned (s.cleanUpAll begun).1 (s.runInOrder none benchmarks begun).1 := by
  have still := begun_unasked undisturbed begins
  obtain ⟨steady, impartial, carriesOn, unlimited, unasked⟩ := undisturbed
  have endless : s.deadline c.now = none := by
    rw [deadline, unlimited]
    rfl
  have tells : s.tellsDeadline c.now = true := by
    rw [tellsDeadline, unlimited]
    rfl
  obtain ⟨each, onward, quiet⟩ :=
    run_in_order_later steady impartial carriesOn still (.refl begun) still benchmarks
  have tidied := clean_up_all_later steady (onward_echoes onward still quiet)
  refine ⟨each, ?_⟩
  rw [run_closes, body, if_pos tells, begins, endless, ← tidied]
  dsimp only
  cases (s.runInOrder none benchmarks begun).1 <;> rfl

theorem run_alone (b : Benchmark) : (s.run [b] c).1 =
    returned (s.cleanUpAll begun).1 ((s.runChecked none b begun).1.map ([·])) := by
  rw [(run_as_alone undisturbed begins [b]).2,
    run_in_order_unasked undisturbed.carriesOn (begun_unasked undisturbed begins)]
  generalize s.runChecked none b begun = done
  obtain ⟨outcome, later⟩ := done
  cases outcome <;> rfl

end Undisturbed

theorem returned_ok {tidied : Except String Unit} {outcome : Except String (List BenchmarkResult)}
    {results : List BenchmarkResult} :
    returned tidied outcome = .ok (.ok results) ↔ tidied = .ok () ∧ outcome = .ok results := by
  cases tidied <;> cases outcome <;> simp [returned, Except.map]

/-- What the others do, whether they fail, break down or are rejected, makes no difference to a
benchmark, as long as each of them returns on its own. -/
theorem benchmarks_independent (s : Suite σ) (benchmarks : List Benchmark) (c : Course σ)
    (undisturbed : s.Undisturbed c) (begins : (s.beforeAllHooks c).1 = .ok ()) :
    (∀ results, (s.run benchmarks c).1 = .ok (.ok results) →
      List.Forall₂ (fun b r => ∃ alone d, (s.run [b] c).1 = .ok (.ok [alone]) ∧
        r = (Echo.later d).report alone) benchmarks results) ∧
    ((∃ results, (s.run benchmarks c).1 = .ok (.ok results)) ↔
      (s.run [] c).1 = .ok (.ok []) ∧ ∀ b ∈ benchmarks, ∃ alone, (s.run [b] c).1 = .ok (.ok [alone])) := by
  have starts : s.beforeAllHooks c = (.ok (), (s.beforeAllHooks c).2) := Prod.ext begins rfl
  generalize (s.beforeAllHooks c).2 = begun at starts
  obtain ⟨each, ran⟩ := run_as_alone undisturbed starts benchmarks
  have nothing : (s.run [] c).1 = returned (s.cleanUpAll begun).1 (.ok []) :=
    (run_as_alone undisturbed starts []).2
  have alone (b : Benchmark) (r : BenchmarkResult) : (s.run [b] c).1 = .ok (.ok [r]) ↔
      (s.cleanUpAll begun).1 = .ok () ∧ (s.runChecked none b begun).1 = .ok r := by
    rw [run_alone undisturbed starts, returned_ok]
    cases (s.runChecked none b begun).1 <;> simp [Except.map]
  have together (results : List BenchmarkResult) (came : (s.run benchmarks c).1 = .ok (.ok results)) :
      List.Forall₂ (fun b r => ∃ alone d, (s.run [b] c).1 = .ok (.ok [alone]) ∧
        r = (Echo.later d).report alone) benchmarks results := by
    obtain ⟨tidied, same⟩ := returned_ok.mp (ran.symm.trans came)
    rw [same] at each
    refine each.imp ?_
    rintro b r ⟨own, d, goes, later⟩
    exact ⟨own, d, (alone b own).mpr ⟨tidied, goes⟩, later⟩
  refine ⟨together, ?_, ?_⟩
  · rintro ⟨results, came⟩
    obtain ⟨tidied, -⟩ := returned_ok.mp (ran.symm.trans came)
    refine ⟨nothing.trans (returned_ok.mpr ⟨tidied, rfl⟩), ?_⟩
    have single : List.Forall₂ (fun b (_ : BenchmarkResult) =>
        (∃ alone, (s.run [b] c).1 = .ok (.ok [alone])) ∧ True) benchmarks results := by
      refine (together results came).imp ?_
      rintro b r ⟨own, -, goes, -⟩
      exact ⟨⟨own, goes⟩, trivial⟩
    exact ((List.forall₂_and_left _ _).mp single).1
  · rintro ⟨empty, singles⟩
    obtain ⟨tidied, -⟩ := returned_ok.mp (nothing.symm.trans empty)
    cases outcome : (s.runInOrder none benchmarks begun).1 with
    | ok results => exact ⟨results, ran.trans (returned_ok.mpr ⟨tidied, outcome⟩)⟩
    | error panic =>
        rw [outcome] at each
        obtain ⟨b, member, panics⟩ := each
        obtain ⟨own, goes⟩ := singles b member
        cases panics.symm.trans ((alone b own).mp goes).2

def erraticPromise : Call → Promise
  | .connect source =>
    if source = "down" then ⟨5, 0, false, .failed (.unknownSource source)⟩ else .instant .done
  | .send _ statement =>
    if statement = "SELECT boom" then ⟨2, 0, false, .crashed "boom"⟩ else ⟨3, 1, false, .rows 1 none⟩
  | .shell hook _ _ => if hook = "mess" then .instant (.failed (.hookExit hook 1)) else ⟨4, 0, false, .done⟩

def erratic : Services Unit where
  take call world := (erraticPromise call, world)
  queries := ⟨.directory [("q.sql", .file "SELECT 1".toUTF8.toList),
    ("boom.sql", .file "SELECT boom".toUTF8.toList)], ["."], Dict.empty⟩
  hooks := Dict.ofList [("open", some "true"), ("mess", some "false")]
  collector := Collector.standard ++ [(.optional, .engine fun _ world => (.instant (.ok []), world))]

theorem erratic_steady : erratic.Steady where
  alike {call call'} same world world' := by
    have own : ∀ call world, (erratic.take call world).1 = erraticPromise call.unnumbered := by
      intro call world
      cases call <;> rfl
    rw [own, own, same]
  calm call world := by
    cases call <;> simp only [erratic, erraticPromise] <;> split <;> rfl

def erraticSuite : Suite Unit :=
  ⟨erratic, .carryOn, .always, ["open"], [], ["q.sql"], none⟩

def crashing : Benchmark :=
  { Benchmark.named "crashing" "memory" with queries := ["boom", "q"], concurrency := 2 }

def unreachable : Benchmark :=
  { Benchmark.named "unreachable" "down" with queries := ["q"] }

def messed : Benchmark :=
  { Benchmark.named "messed" "memory" with queries := ["q"], beforeBenchmark := ["mess"] }

def sound : Benchmark :=
  { Benchmark.named "sound" "memory" with queries := ["q"], prewarmRuns := 2 }

theorem erratic_undisturbed : erraticSuite.Undisturbed (.start .never ()) :=
  ⟨erratic_steady, fun d => Collector.standard_impartial (fun _ _ _ => rfl) (.later d), rfl, rfl, rfl⟩

theorem sound_among_others :
    ∃ results later, erraticSuite.run [crashing, unreachable, messed, sound] (.start .never ()) =
        (.ok (.ok results), later) ∧
      results.map (fun r => (r.executions.length, r.isSuccessful)) =
        [(2, false), (0, false), (0, false), (1, true)] ∧
      List.Forall₂ (fun b r => ∃ alone d, (erraticSuite.run [b] (.start .never ())).1 = .ok (.ok [alone]) ∧
        r = (Echo.later d).report alone) [crashing, unreachable, messed, sound] results := by
  obtain ⟨results, later, ran, shown⟩ := erraticSuite.shown_results
    [crashing, unreachable, messed, sound] (.start .never ())
    (List.map fun r => (r.executions.length, r.isSuccessful))
    [(2, false), (0, false), (0, false), (1, true)] (by decide +kernel)
  obtain ⟨each, -⟩ := benchmarks_independent erraticSuite [crashing, unreachable, messed, sound]
    (.start .never ()) erratic_undisturbed (by decide +kernel)
  exact ⟨results, later, ran, shown, each results (congrArg Prod.fst ran)⟩

-- The panic of one benchmark's pool takes the results of the others with it.
theorem crowded_among_others :
    ¬ ∀ (s : Suite Unit) (benchmarks : List Benchmark) (c : Course Unit), s.Undisturbed c →
      (s.beforeAllHooks c).1 = .ok () → ∃ results, (s.run benchmarks c).1 = .ok (.ok results) := by
  intro returns
  obtain ⟨results, ran⟩ := returns erraticSuite [sound, crowded] (.start .never ()) erratic_undisturbed
    (by decide +kernel)
  have panics : (erraticSuite.run [sound, crowded] (.start .never ())).1.toOption.isSome = false := by
    decide +kernel
  rw [ran] at panics
  cases panics

end SqlBench.Suite
