import SqlBench.Proofs.Hook.Conduct
import SqlBench.Proofs.Suite.Lasting
import SqlBench.Proofs.Suite.News

set_option autoImplicit false

namespace SqlBench

-- What hooks and executions do themselves.
def Entry.IsWork : Entry → Prop
  | .posted _ => False
  | .hooks .. => False
  | _ => True

def Entry.IsExecution : Entry → Prop
  | .posted (.executionStarted _) => True
  | .posted (.executionFinished _) => True
  | entry => entry.IsWork

def Entry.event? : Entry → Option Event
  | .posted event => some event
  | _ => none

theorem Entry.work_is_execution (entry : Entry) (work : entry.IsWork) : entry.IsExecution := by
  cases entry with
  | posted event => cases work
  | _ => exact work

theorem Entry.work_unheard {entries : List Entry} (works : ∀ x ∈ entries, x.IsWork) :
    entries.filterMap Entry.event? = [] := by
  refine List.filterMap_eq_nil_iff.mpr fun x member => ?_
  have work := works x member
  cases x with
  | posted event => cases work
  | _ => rfl

namespace Course

variable {σ : Type}

def deeds (c : Course σ) : List Entry :=
  c.journal.map Prod.snd

theorem deeds_note (c : Course σ) (entry : Entry) : (c.note entry).deeds = c.deeds ++ [entry] := by
  simp [deeds, note]

theorem news_deeds (c : Course σ) : c.news = c.deeds.filterMap Entry.event? := by
  rw [news, events, deeds, List.map_filterMap, List.filterMap_map]
  congr 1
  funext x
  obtain ⟨t, entry⟩ := x
  cases entry <;> rfl

def Does (Q : Entry → Prop) (c later : Course σ) : Prop :=
  ∃ added, later.deeds = c.deeds ++ added ∧ ∀ x ∈ added, Q x

variable {Q : Entry → Prop}

theorem does_nothing {c later : Course σ} (same : later.deeds = c.deeds) : Does Q c later :=
  ⟨[], by rw [same, List.append_nil], by simp⟩

theorem does_one (c : Course σ) (entry : Entry) (kind : Q entry) : Does Q c (c.note entry) :=
  ⟨[entry], c.deeds_note entry, by simpa using kind⟩

theorem Does.trans {a b c : Course σ} (before : Does Q a b) (behind : Does Q b c) : Does Q a c := by
  obtain ⟨early, begun, kind⟩ := before
  obtain ⟨late, ended, same⟩ := behind
  exact ⟨early ++ late, by rw [ended, begun, List.append_assoc], List.forall_mem_append.mpr ⟨kind, same⟩⟩

theorem settle_does (works : ∀ entry : Entry, entry.IsWork → Q entry) (c : Course σ) (call : Call)
    (promise : Promise) : Does Q c (c.settle call promise).2 := by
  cases call with
  | connect source =>
      cases ending : promise.ending with
      | crashed panic =>
          simp only [settle, ending]
          exact does_nothing rfl
      | failed cause =>
          simp only [settle, ending]
          exact does_one _ (.refused source) (works _ trivial)
      | _ =>
          simp only [settle, ending]
          exact does_one _ (.connected ⟨c.opened, source⟩) (works _ trivial)
  | _ =>
      cases ending : promise.ending <;>
        · simp only [settle, ending]
          exact does_nothing rfl

theorem does_kept (services : Services σ) (works : ∀ entry : Entry, entry.IsWork → Q entry) :
    Pool.Kept services (Does Q) fun _ _ => True where
  refl _ := does_nothing rfl
  trans := .trans
  reads _ := does_nothing rfl
  closes c line := by
    cases line with
    | none => exact does_nothing rfl
    | some line => exact does_one c (.closed line) (works _ trivial)
  takes c call := by
    cases call with
    | connect source => exact does_nothing rfl
    | send line statement => exact does_one c (.sent line statement) (works _ trivial)
    | shell hook command environment => exact does_one c (.commanded hook) (works _ trivial)
  promised _ _ := trivial
  carries _ _ := trivial
  settles c call promise _ := settle_does works c call promise

theorem execution_lasting (services : Services σ) :
    Pool.Lasting services (Does Entry.IsExecution) fun _ _ => True where
  toKept := does_kept services Entry.work_is_execution
  advances _ _ := does_nothing rfl
  starts c e := does_one c (.posted (.executionStarted e)) trivial
  finishes c r := does_one c (.posted (.executionFinished r)) trivial
  asks _ _ _ _ := does_nothing rfl

theorem settle_deeds (c : Course σ) (call : Call) (promise : Promise) :
    (c.settle call promise).2.deeds = c.deeds ++
      match call, (c.settle call promise).1 with
      | .connect _, .connected line => [.connected line]
      | .connect source, .failed _ => [.refused source]
      | _, _ => [] := by
  cases call with
  | connect source =>
      cases ending : promise.ending <;> simp [settle, ending, deeds, advanceTo, note]
  | _ => cases ending : promise.ending <;> simp [settle, ending, deeds, advanceTo]

end Course

namespace Hook

def Act.entries : Act → List Entry
  | .called (.connect _) (.connected line) => [.connected line]
  | .called (.connect source) (.failed _) => [.refused source]
  | .called (.connect _) _ => []
  | .called (.send line statement) _ => [.sent line statement]
  | .called (.shell hook _ _) _ => [.commanded hook]
  | .closed line => [.closed line]

variable {σ : Type} {services : Services σ} {b : Option Benchmark} {names : List String}
  {outcome : Except Halt Unit} {work : List Entry}

theorem await_deeds (services : Services σ) (call : Call) (c : Course σ) :
    (c.await services call).2.deeds =
      c.deeds ++ (Act.called call (c.await services call).1).entries := by
  have settled := Course.settle_deeds
    ((c.take services call).2.advanceTo ((c.take services call).2.now + (c.take services call).1.delay))
    call (c.take services call).1
  rw [Course.await]
  dsimp only
  rw [settled]
  cases call with
  | connect source =>
      generalize (Course.settle _ _ _).1 = answer
      cases answer <;> rfl
  | send line statement =>
      rw [List.append_nil]
      exact c.deeds_note (.sent line statement)
  | shell hook command environment =>
      rw [List.append_nil]
      exact c.deeds_note (.commanded hook)

theorem enacts_deeds {acts : List Act} {c later : Course σ} (enacts : Enacts services acts c later) :
    later.deeds = c.deeds ++ acts.flatMap Act.entries := by
  induction enacts with
  | rest c => exact (List.append_nil _).symm
  | @called call answer acts c mid later awaited behind ih =>
      have adds := await_deeds services call c
      rw [awaited] at adds
      rw [ih, adds, List.flatMap_cons, List.append_assoc]
  | @closed line acts c later behind ih =>
      rw [ih, List.flatMap_cons, Course.close, Course.deeds_note, List.append_assoc]
      rfl

theorem act_works (act : Act) : ∀ x ∈ act.entries, x.IsWork := by
  intro x member
  cases act with
  | closed line => exact List.mem_singleton.mp member ▸ trivial
  | called call answer =>
      cases call with
      | connect source =>
          cases answer with
          | connected line => exact List.mem_singleton.mp member ▸ trivial
          | failed cause => exact List.mem_singleton.mp member ▸ trivial
          | rows | done | crashed => cases member
      | _ => exact List.mem_singleton.mp member ▸ trivial

-- What a list of hooks does: the acts of each hook in its turn, up to the first that fails.
def Performed (services : Services σ) (b : Option Benchmark) (names : List String)
    (outcome : Except Halt Unit) (work : List Entry) : Prop :=
  ∃ opened rounds, UpToFailure names rounds outcome ∧
    (∀ r ∈ rounds,
      Conduct services b (Setting.around b).attributes none opened r.name r.acts r.outcome) ∧
    work = (rounds.flatMap Round.acts).flatMap Act.entries

theorem performed_works (performed : Performed services b names outcome work) :
    ∀ x ∈ work, x.IsWork := by
  obtain ⟨opened, rounds, -, -, rfl⟩ := performed
  intro x member
  obtain ⟨act, -, own⟩ := List.mem_flatMap.mp member
  exact act_works act x own

theorem bracket_deeds (services : Services σ) (occasion : Occasion) (b : Option Benchmark)
    (names : List String) (c : Course σ) :
    ∃ work, (bracket services occasion b names c).2.deeds = c.deeds ++ .hooks occasion names :: work ∧
      Performed services b names (bracket services occasion b names c).1 work := by
  obtain ⟨rounds, inOrder, enacts, conducts⟩ :=
    rounds_conducted services b none names (c.note (.hooks occasion names))
  refine ⟨_, ?_, _, rounds, inOrder, conducts, rfl⟩
  rw [bracket, enacts_deeds enacts, Course.deeds_note, List.append_assoc]
  rfl

end Hook

namespace Suite

variable {σ : Type}

-- What is done to clean up behind a benchmark: its hooks are gone through once, or left out.
inductive CleansUp (s : Suite σ) (r : BenchmarkResult) : Except Halt Unit → List Entry → Prop where
  | skipped (skips : s.SkipsCleanUp r) : CleansUp s r (.ok ()) []
  | started {outcome : Except Halt Unit} {work : List Entry} (due : ¬ s.SkipsCleanUp r)
      (performed : Hook.Performed s.services (some r.benchmark) r.benchmark.afterBenchmark outcome work) :
      CleansUp s r outcome
        (.hooks (.afterBenchmark r.benchmark) r.benchmark.afterBenchmark :: work)

structure Works (s : Suite σ) (b : Benchmark) (executions : List ExecutionResult)
    (entries : List Entry) : Prop where
  parts : ∃ outcome prepared executed,
    Hook.Performed s.services (some b) b.beforeBenchmark outcome prepared ∧
    (∀ x ∈ executed, x.IsExecution) ∧ Bracketed executions (executed.filterMap Entry.event?) ∧
    entries = .posted (.benchmarkStarted b) ::
      .hooks (.beforeBenchmark b) b.beforeBenchmark :: (prepared ++ executed)

-- What is done for a benchmark that is accepted.
inductive Runs (s : Suite σ) (b : Benchmark) : Except String BenchmarkResult → List Entry → Prop where
  | ended {r : BenchmarkResult} {entries cleaned : List Entry} {outcome : Except Failure Unit}
      (own : r.benchmark = b) (works : Works s b r.executions entries)
      (cleans : CleansUp s r (outcome.mapError .failed) cleaned) :
      Runs s b (.ok r) (entries ++ cleaned ++ [.posted (.benchmarkFinished r)])
  | unwound {panic : String} {executions : List ExecutionResult} {entries : List Entry}
      (works : Works s b executions entries) : Runs s b (.error panic) entries
  | unclean {panic : String} {r : BenchmarkResult} {entries cleaned : List Entry}
      (own : r.benchmark = b) (works : Works s b r.executions entries)
      (cleans : CleansUp s r (.error (.crashed panic)) cleaned) :
      Runs s b (.error panic) (entries ++ cleaned)

structure Rejected (b : Benchmark) (cause : Failure) (r : BenchmarkResult) : Prop where
  benchmark : r.benchmark = b
  phase : r.phase = .failed
  causes : r.failureCauses = [cause]
  executions : r.executions = []

theorem rejection_rejected (b : Benchmark) (cause : Failure) (c : Course σ) :
    Rejected b cause (rejection b cause c) :=
  ⟨rfl, rfl, rfl, rfl⟩

inductive Round (s : Suite σ) (b : Benchmark) (c : Course σ) :
    Except String BenchmarkResult → List Entry → Prop where
  | unwound {panic : String} {work : List Entry} (fails : (s.checks b c).1 = .error (.crashed panic))
      (performed : Hook.Performed s.services (some b) s.healthCheck (.error (.crashed panic)) work) :
      Round s b c (.error panic) (.hooks (.healthCheck b) s.healthCheck :: work)
  | unhealthy {r : BenchmarkResult} {cause : Failure} {work : List Entry}
      (fails : (s.checks b c).1 = .error (.failed cause))
      (performed : Hook.Performed s.services (some b) s.healthCheck (.error (.failed cause)) work)
      (rejected : Rejected b cause r) :
      Round s b c (.ok r)
        (.hooks (.healthCheck b) s.healthCheck :: (work ++ [.posted (.benchmarkFinished r)]))
  | invalid {r : BenchmarkResult} {cause : Failure} {work : List Entry}
      (passes : (s.checks b c).1 = .ok ()) (invalid : b.validate = .error cause)
      (performed : Hook.Performed s.services (some b) s.healthCheck (.ok ()) work)
      (rejected : Rejected b cause r) :
      Round s b c (.ok r)
        (.hooks (.healthCheck b) s.healthCheck :: (work ++ [.posted (.benchmarkFinished r)]))
  | ran {outcome : Except String BenchmarkResult} {work entries : List Entry}
      (passes : (s.checks b c).1 = .ok ()) (valid : b.validate = .ok ())
      (performed : Hook.Performed s.services (some b) s.healthCheck (.ok ()) work)
      (runs : Runs s b outcome entries) :
      Round s b c outcome (.hooks (.healthCheck b) s.healthCheck :: (work ++ entries))

theorem prepare_deeds (s : Suite σ) (deadline : Option Moment) (r : BenchmarkResult) (c : Course σ) :
    ∃ outcome prepared executed, (s.prepareAndExecute deadline r c).2.deeds =
        c.deeds ++ .hooks (.beforeBenchmark r.benchmark) r.benchmark.beforeBenchmark ::
          (prepared ++ executed) ∧
      Hook.Performed s.services (some r.benchmark) r.benchmark.beforeBenchmark outcome prepared ∧
      ∀ x ∈ executed, x.IsExecution := by
  obtain ⟨work, hooked, performed⟩ := Hook.bracket_deeds s.services (.beforeBenchmark r.benchmark)
    (some r.benchmark) r.benchmark.beforeBenchmark c
  rw [← beforeHooks] at hooked performed
  have executed (begun : Course σ) :=
    execute_kept (Course.execution_lasting s.services) r.benchmark deadline begun
  have prepares := prepare_prepares s deadline r c
  generalize (s.prepareAndExecute deadline r c).1 = outcome at prepares
  generalize (s.prepareAndExecute deadline r c).2 = ended at prepares ⊢
  cases prepares with
  | refused hooks | unwound hooks =>
      rw [hooks] at hooked
      exact ⟨_, work, [], by rw [List.append_nil]; exact hooked, performed, by simp⟩
  | @failed _ begun _ hooks executes | @crashed _ begun _ hooks executes
  | @staged _ begun _ hooks executes =>
      obtain ⟨added, adds, kind⟩ := executed begun
      rw [executes] at adds
      rw [hooks] at hooked
      refine ⟨_, work, added, ?_, performed, kind⟩
      exact adds.trans ((congrArg (· ++ added) hooked).trans (List.append_assoc _ _ _))

theorem prepare_works (s : Suite σ) (deadline : Option Moment) (b : Benchmark) (c : Course σ) :
    ∃ entries,
      (s.prepareAndExecute deadline (.start b c.now) (c.post (.benchmarkStarted b))).2.deeds =
        c.deeds ++ entries ∧
      Works s b (reportedSoFar (s.prepareAndExecute deadline (.start b c.now)
        (c.post (.benchmarkStarted b))).1) entries := by
  have begins : (c.post (.benchmarkStarted b)).deeds = c.deeds ++ [.posted (.benchmarkStarted b)] :=
    c.deeds_note _
  obtain ⟨outcome, prepared, executed, adds, performed, executes⟩ :=
    prepare_deeds s deadline (.start b c.now) (c.post (.benchmarkStarted b))
  obtain ⟨middle, whole, bracketed⟩ :=
    prepare_tells s deadline (r := .start b c.now) rfl (c.post (.benchmarkStarted b))
  rw [Course.news_deeds, adds, Course.news_deeds] at whole
  simp only [List.filterMap_append, List.filterMap_cons, Entry.event?,
    Entry.work_unheard (Hook.performed_works performed), List.nil_append,
    List.append_cancel_left_eq] at whole
  refine ⟨_, ?_, ⟨outcome, prepared, executed, performed, executes, whole ▸ bracketed, rfl⟩⟩
  rw [adds, begins]
  simp only [List.append_assoc, List.cons_append, List.nil_append, BenchmarkResult.start]

theorem aggregate_deeds (s : Suite σ) (r : BenchmarkResult) (c : Course σ) :
    (s.aggregate r c).2.deeds = c.deeds := by
  rw [Course.deeds, aggregate_journal, ← Course.deeds]

theorem skips_alike {s : Suite σ} {r later : BenchmarkResult} (benchmark : later.benchmark = r.benchmark)
    (executions : later.executions = r.executions) : s.SkipsCleanUp later ↔ s.SkipsCleanUp r := by
  rw [SkipsCleanUp, benchmark, executions, SkipsCleanUp]

theorem CleansUp.of_alike {s : Suite σ} {r later : BenchmarkResult} {outcome : Except Halt Unit}
    {entries : List Entry} (cleans : CleansUp s r outcome entries)
    (benchmark : later.benchmark = r.benchmark) (executions : later.executions = r.executions) :
    CleansUp s later outcome entries := by
  have alike := skips_alike (s := s) benchmark executions
  cases cleans with
  | skipped skips => exact .skipped (alike.mpr skips)
  | started due performed =>
      rw [← benchmark] at performed ⊢
      exact .started (mt alike.mp due) performed

theorem clean_up_deeds (s : Suite σ) (r : BenchmarkResult) (c : Course σ) :
    match s.cleanUp r c with
    | (.ok _, later) => ∃ (outcome : Except Failure Unit) (entries : List Entry),
        later.deeds = c.deeds ++ entries ∧ CleansUp s r (outcome.mapError .failed) entries
    | (.error panic, later) => ∃ entries,
        later.deeds = c.deeds ++ entries ∧ CleansUp s r (.error (.crashed panic)) entries := by
  obtain ⟨work, hooked, performed⟩ := Hook.bracket_deeds s.services (.afterBenchmark r.benchmark)
    (some r.benchmark) r.benchmark.afterBenchmark c
  rw [← afterHooks] at hooked performed
  have tidies := clean_up_tidies s r c
  generalize s.cleanUp r c = done at tidies ⊢
  obtain ⟨outcome, later⟩ := done
  cases tidies with
  | skipped skips => exact ⟨.ok (), [], (List.append_nil _).symm, .skipped skips⟩
  | fine due hooks =>
      rw [hooks] at hooked performed
      exact ⟨.ok (), _, hooked, .started due performed⟩
  | @failed cause _ due hooks =>
      rw [hooks] at hooked performed
      exact ⟨.error cause, _, hooked, .started due performed⟩
  | unwound due hooks =>
      rw [hooks] at hooked performed
      exact ⟨_, hooked, .started due performed⟩

section Accepted

variable {s : Suite σ} {deadline : Option Moment} {b : Benchmark} {c : Course σ}

theorem passage_runs (p : s.Passage deadline b c) :
    ∃ entries, p.ended.deeds = c.deeds ++ entries ∧ Runs s b (.ok p.result) entries := by
  obtain ⟨entries, prepared, works⟩ := prepare_works s deadline b c
  have asked := aggregate_deeds s p.staged p.executed
  have tidied := clean_up_deeds s p.gathered p.collected
  rw [p.prepares] at prepared works
  rw [p.collects] at asked
  rw [p.cleans] at tidied
  obtain ⟨outcome, cleaned, adds, cleans⟩ := tidied
  have executions : p.result.executions = p.gathered.executions :=
    (clean_up_worsens p.cleans).executions
  refine ⟨entries ++ cleaned ++ [.posted (.benchmarkFinished p.result)], ?_, ?_⟩
  · rw [Passage.ended, Course.post, Course.deeds_note, adds, asked, prepared]
    simp only [List.append_assoc]
  · refine .ended p.result_benchmark ?_
      (cleans.of_alike (p.result_benchmark.trans p.gathered_benchmark.symm) executions)
    exact p.worsens.executions.symm ▸ works

theorem unwound_runs {panic : String} {later : Course σ}
    (ran : s.runAccepted deadline b c = (.error panic, later)) :
    ∃ entries, later.deeds = c.deeds ++ entries ∧ Runs s b (.error panic) entries := by
  obtain ⟨entries, prepared, works⟩ := prepare_works s deadline b c
  rw [runAccepted] at ran
  rcases Course.and_then_stops_iff.mp ran with stops | ⟨staged, executed, prepares, ran⟩
  · rw [stops] at prepared
    exact ⟨entries, prepared, .unwound works⟩
  · rw [prepares] at prepared works
    have asked := aggregate_deeds s staged.1 executed
    rcases Course.and_then_stops_iff.mp ran with stops | ⟨gathered, collected, collects, ran⟩
    · rw [stops] at asked
      exact ⟨entries, asked.trans prepared, .unwound works⟩
    · have tidied := clean_up_deeds s gathered collected
      rw [collects] at asked
      rcases Course.and_then_stops_iff.mp ran with stops | ⟨cleaned, tidied, -, ends⟩
      · rw [stops] at tidied
        obtain ⟨cleaned, adds, cleans⟩ := tidied
        have own : gathered.benchmark = b :=
          (aggregate_benchmark collects).trans (prepare_benchmark prepares)
        refine ⟨entries ++ cleaned, ?_, .unclean own ?_ cleans⟩
        · rw [adds, asked, prepared, List.append_assoc]
        · exact (aggregate_worsens collects).executions.symm ▸ works
      · cases ends

theorem run_accepted_runs (s : Suite σ) (deadline : Option Moment) (b : Benchmark) (c : Course σ) :
    ∃ entries, (s.runAccepted deadline b c).2.deeds = c.deeds ++ entries ∧
      Runs s b (s.runAccepted deadline b c).1 entries := by
  cases ran : s.runAccepted deadline b c with
  | mk outcome later =>
      cases outcome with
      | ok r =>
          obtain ⟨p, rfl, rfl⟩ := run_accepted_returns_iff.mp ran
          exact passage_runs p
      | error panic => exact unwound_runs ran

end Accepted

theorem rejected_deeds (b : Benchmark) (cause : Failure) (c : Course σ) :
    (rejectedAt b cause c).deeds = c.deeds ++ [.posted (.benchmarkFinished (rejection b cause c))] :=
  c.deeds_note _

theorem run_checked_round {s : Suite σ} {deadline : Option Moment} {b : Benchmark} {c later : Course σ}
    {outcome : Except String BenchmarkResult} (ran : s.runChecked deadline b c = (outcome, later)) :
    ∃ entries, later.deeds = c.deeds ++ entries ∧ Round s b c outcome entries := by
  obtain ⟨work, hooked, performed⟩ :=
    Hook.bracket_deeds s.services (.healthCheck b) (some b) s.healthCheck c
  rw [← checks] at hooked performed
  cases checked_checks ran with
  | unwound hooks =>
      rw [hooks] at hooked performed
      exact ⟨_, hooked, .unwound (congrArg Prod.fst hooks) performed⟩
  | @unhealthy cause checked hooks =>
      rw [hooks] at hooked performed
      refine ⟨_, ?_, .unhealthy (congrArg Prod.fst hooks) performed
        (rejection_rejected b cause checked)⟩
      exact (rejected_deeds b cause checked).trans (by rw [hooked, List.append_assoc]; rfl)
  | @healthy _ checked _ hooks ran =>
      have passes : (s.checks b c).1 = .ok () := congrArg Prod.fst hooks
      rw [hooks] at hooked performed
      cases valid : b.validate with
      | error cause =>
          rw [run_until_rejects valid] at ran
          cases ran
          refine ⟨_, ?_, .invalid passes valid performed (rejection_rejected b cause checked)⟩
          rw [rejected_deeds, hooked, List.append_assoc]
          rfl
      | ok =>
          obtain ⟨entries, adds, runs⟩ := run_accepted_runs s deadline b checked
          rw [run_until_accepts valid] at ran
          rw [ran] at adds runs
          refine ⟨_, ?_, .ran passes valid performed runs⟩
          rw [adds, hooked, List.append_assoc]
          rfl

-- What is done for benchmarks one after the other, from some course to another, and why it ends.
inductive Annals (s : Suite σ) (deadline : Option Moment) :
    List Benchmark → Course σ → Except String (List BenchmarkResult) → List Entry → Course σ →
      Prop where
  | finished (c : Course σ) : Annals s deadline [] c (.ok []) [] c
  | cut {b : Benchmark} {rest : List Benchmark} {c : Course σ} (isOver : IsOver deadline c) :
      Annals s deadline (b :: rest) c (.ok []) [] c
  | aborted {b : Benchmark} {rest : List Benchmark} {c last : Course σ} {r : BenchmarkResult}
      {entries : List Entry} (goesOn : ¬ IsOver deadline c)
      (ran : s.runChecked deadline b c = (.ok r, last)) (round : Round s b c (.ok r) entries)
      (strict : s.failurePolicy = .abort) (failed : r.isSuccessful = false) :
      Annals s deadline (b :: rest) c (.ok [r]) entries last
  | unwound {b : Benchmark} {rest : List Benchmark} {c last : Course σ} {panic : String}
      {entries : List Entry} (goesOn : ¬ IsOver deadline c)
      (ran : s.runChecked deadline b c = (.error panic, last))
      (round : Round s b c (.error panic) entries) :
      Annals s deadline (b :: rest) c (.error panic) entries last
  | next {b : Benchmark} {rest : List Benchmark} {c later last : Course σ} {r : BenchmarkResult}
      {entries others : List Entry} {outcome : Except String (List BenchmarkResult)}
      (goesOn : ¬ IsOver deadline c) (ran : s.runChecked deadline b c = (.ok r, later))
      (round : Round s b c (.ok r) entries)
      (carriesOn : s.failurePolicy = .abort → r.isSuccessful = true)
      (behind : Annals s deadline rest later outcome others last) :
      Annals s deadline (b :: rest) c (outcome.map (r :: ·)) (entries ++ others) last

theorem in_order_annals {s : Suite σ} {deadline : Option Moment} {benchmarks : List Benchmark}
    {c last : Course σ} {outcome : Except String (List BenchmarkResult)}
    (goes : InOrder s deadline benchmarks c outcome last) :
    ∃ entries, last.deeds = c.deeds ++ entries ∧ Annals s deadline benchmarks c outcome entries last := by
  induction goes with
  | finished c => exact ⟨[], (List.append_nil _).symm, .finished c⟩
  | cut isOver => exact ⟨[], (List.append_nil _).symm, .cut isOver⟩
  | aborted goesOn ran strict failed =>
      obtain ⟨entries, adds, round⟩ := run_checked_round ran
      exact ⟨entries, adds, .aborted goesOn ran round strict failed⟩
  | unwound goesOn ran =>
      obtain ⟨entries, adds, round⟩ := run_checked_round ran
      exact ⟨entries, adds, .unwound goesOn ran round⟩
  | next goesOn ran carriesOn behind ih =>
      obtain ⟨entries, adds, round⟩ := run_checked_round ran
      obtain ⟨others, after, annals⟩ := ih
      exact ⟨entries ++ others, by rw [after, adds, List.append_assoc],
        .next goesOn ran round carriesOn annals⟩

-- What a suite does before the hooks behind all: its hooks before, and a round for each benchmark.
inductive Story (s : Suite σ) (benchmarks : List Benchmark) (c : Course σ) :
    Except String (Except Failure (List BenchmarkResult)) → List Entry → Course σ → Prop where
  | pastClock (tells : s.tellsDeadline c.now = false) :
      Story s benchmarks c (.error Instant.overflow) [] c
  | unprepared {panic : String} {begun : Course σ} {setup : List Entry}
      (hooks : s.beforeAllHooks c = (.error (.crashed panic), begun))
      (performed : Hook.Performed s.services none s.beforeAll (.error (.crashed panic)) setup) :
      Story s benchmarks c (.error panic) (.hooks .beforeAll s.beforeAll :: setup) begun
  | refused {cause : Failure} {begun : Course σ} {setup : List Entry}
      (hooks : s.beforeAllHooks c = (.error (.failed cause), begun))
      (performed : Hook.Performed s.services none s.beforeAll (.error (.failed cause)) setup) :
      Story s benchmarks c (.ok (.error cause)) (.hooks .beforeAll s.beforeAll :: setup) begun
  | ran {begun last : Course σ} {setup entries : List Entry}
      {outcome : Except String (List BenchmarkResult)} (hooks : s.beforeAllHooks c = (.ok (), begun))
      (performed : Hook.Performed s.services none s.beforeAll (.ok ()) setup)
      (annals : Annals s (s.deadline c.now) benchmarks begun outcome entries last) :
      Story s benchmarks c (outcome.map .ok) (.hooks .beforeAll s.beforeAll :: (setup ++ entries)) last

theorem body_story {s : Suite σ} {benchmarks : List Benchmark} {c ended : Course σ}
    {outcome : Except String (Except Failure (List BenchmarkResult))}
    (body : Body s benchmarks c outcome ended) :
    ∃ entries, ended.deeds = c.deeds ++ entries ∧ Story s benchmarks c outcome entries ended := by
  obtain ⟨setup, hooked, performed⟩ := Hook.bracket_deeds s.services .beforeAll none s.beforeAll c
  rw [← beforeAllHooks] at hooked performed
  cases body with
  | pastClock tells => exact ⟨[], (List.append_nil _).symm, .pastClock tells⟩
  | unprepared tells hooks =>
      rw [hooks] at hooked performed
      exact ⟨_, hooked, .unprepared hooks performed⟩
  | refused tells hooks =>
      rw [hooks] at hooked performed
      exact ⟨_, hooked, .refused hooks performed⟩
  | ran tells hooks goes =>
      obtain ⟨entries, adds, annals⟩ := in_order_annals (in_order_goes goes)
      rw [hooks] at hooked performed
      refine ⟨_, ?_, .ran hooks performed annals⟩
      rw [adds, hooked, List.append_assoc]
      rfl

theorem run_story (s : Suite σ) (benchmarks : List Benchmark) (c : Course σ) :
    ∃ entries, (s.body benchmarks c).2.deeds = c.deeds ++ entries ∧
      Story s benchmarks c (s.body benchmarks c).1 entries (s.body benchmarks c).2 ∧
      match s.body benchmarks c with
      | (.error panic, ended) => s.run benchmarks c = (.error panic, ended)
      | (.ok returned, ended) => ∃ hooks work, Hook.Performed s.services none s.afterAll hooks work ∧
          (s.run benchmarks c).2.deeds = ended.deeds ++ .hooks .afterAll s.afterAll :: work ∧
          (s.run benchmarks c).1 = match hooks with
            | .error (.crashed panic) => .error panic
            | _ => .ok returned := by
  obtain ⟨entries, adds, story⟩ := body_story (body_goes s benchmarks c)
  refine ⟨entries, adds, story, ?_⟩
  have goes := run_closes s benchmarks c
  generalize s.body benchmarks c = body at goes ⊢
  obtain ⟨outcome, ended⟩ := body
  cases outcome with
  | error panic => exact goes
  | ok returned =>
      obtain ⟨work, tidied, performed⟩ := Hook.bracket_deeds s.services .afterAll none s.afterAll ended
      refine ⟨_, work, performed, ?_⟩
      rw [goes, closed, cleanUpAll]
      cases hooks : Hook.bracket s.services .afterAll none s.afterAll ended with
      | mk outcome later =>
          rw [hooks] at tidied
          cases outcome with
          | ok => exact ⟨tidied, rfl⟩
          | error halt => cases halt <;> exact ⟨tidied, rfl⟩

end Suite

end SqlBench
