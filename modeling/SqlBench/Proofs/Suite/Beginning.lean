import SqlBench.Proofs.Suite.Journal

set_option autoImplicit false

namespace SqlBench

def Entry.begins : Entry → Bool
  | .posted (.benchmarkStarted _) => true
  | .hooks (.beforeBenchmark _) _ => true
  | _ => false

theorem Entry.execution_not_begins {entry : Entry} (execution : entry.IsExecution) :
    entry.begins = false := by
  cases entry with
  | posted event =>
      cases event with
      | benchmarkStarted b => cases execution
      | _ => rfl
  | hooks occasion names => cases execution
  | _ => rfl

theorem Entry.work_not_begins {entry : Entry} (work : entry.IsWork) : entry.begins = false :=
  Entry.execution_not_begins (entry.work_is_execution work)

namespace Course

variable {σ : Type}

def beginnings (c : Course σ) : List (Moment × Entry) :=
  c.journal.filter fun x => x.2.begins

def Extends (c later : Course σ) : Prop :=
  c.journal <+: later.journal

theorem extends_note (c : Course σ) (entry : Entry) : Extends c (c.note entry) :=
  List.prefix_append c.journal _

theorem extends_lasting (services : Services σ) :
    Pool.Lasting services Extends fun _ _ => True where
  refl c := List.prefix_refl c.journal
  trans := List.IsPrefix.trans
  reads c := List.prefix_refl c.journal
  closes c line := by
    cases line with
    | none => exact List.prefix_refl c.journal
    | some line => exact extends_note c (.closed line)
  takes c call := by
    cases call with
    | connect source => exact List.prefix_refl c.journal
    | send line statement => exact extends_note c (.sent line statement)
    | shell hook command environment => exact extends_note c (.commanded hook)
  promised _ _ := trivial
  carries _ _ := trivial
  settles c call promise _ := by
    rcases settle_course c call promise with same | ⟨opened, entry, -, same⟩
    · rw [same]
      exact List.prefix_refl c.journal
    · rw [same]
      exact extends_note { c.elapse promise with opened := opened } entry
  advances c _ := List.prefix_refl c.journal
  starts c e := extends_note c (.posted (.executionStarted e))
  finishes c r := extends_note c (.posted (.executionFinished r))
  asks _ _ c _ := List.prefix_refl c.journal

theorem beginnings_same {c later : Course σ} (onward : Extends c later)
    (does : Does (fun entry => entry.begins = false) c later) : later.beginnings = c.beginnings := by
  obtain ⟨added, whole⟩ := onward
  obtain ⟨deeds, adds, quiet⟩ := does
  have same : added.map Prod.snd = deeds := by
    rw [Course.deeds, Course.deeds, ← whole, List.map_append] at adds
    exact List.append_cancel_left adds
  have nothing : added.filter (fun x => x.2.begins) = [] := by
    refine List.filter_eq_nil_iff.mpr fun x member => ?_
    rw [quiet x.2 (same ▸ List.mem_map_of_mem member)]
    exact Bool.false_ne_true
  rw [beginnings, ← whole, List.filter_append, nothing, List.append_nil, beginnings]

end Course

namespace Suite

variable {σ : Type}

def noted (b : Benchmark) (now : Moment) : List (Moment × Entry) :=
  [(now, .posted (.benchmarkStarted b)), (now, .hooks (.beforeBenchmark b) b.beforeBenchmark)]

theorem opened_deeds (b : Benchmark) (c : Course σ) :
    (opened b c).deeds = c.deeds ++ [.posted (.benchmarkStarted b),
      .hooks (.beforeBenchmark b) b.beforeBenchmark] := by
  rw [opened, Course.deeds_note, Course.post, Course.deeds_note, List.append_assoc]
  rfl

theorem opened_beginnings (b : Benchmark) (c : Course σ) :
    (opened b c).beginnings = c.beginnings ++ noted b c.now := by
  simp [opened, Course.beginnings, Course.post, Course.note, Entry.begins, noted]

theorem bracket_extends (s : Suite σ) (occasion : Occasion) (b : Option Benchmark)
    (names : List String) (c : Course σ) :
    Course.Extends c (Hook.bracket s.services occasion b names c).2 :=
  bracket_kept (Course.extends_lasting s.services) Course.extends_note occasion b names c

theorem performed_not_begins {services : Services σ} {b : Option Benchmark} {names : List String}
    {outcome : Except Halt Unit} {work : List Entry}
    (performed : Hook.Performed services b names outcome work) : ∀ x ∈ work, x.begins = false :=
  fun x member => Entry.work_not_begins (Hook.performed_works performed x member)

theorem bracket_beginnings (s : Suite σ) (occasion : Occasion)
    (other : ∀ b, occasion ≠ .beforeBenchmark b) (b : Option Benchmark) (names : List String)
    (c : Course σ) : (Hook.bracket s.services occasion b names c).2.beginnings = c.beginnings := by
  obtain ⟨work, adds, performed⟩ := Hook.bracket_deeds s.services occasion b names c
  refine Course.beginnings_same (bracket_extends s occasion b names c) ⟨_, adds, ?_⟩
  refine List.forall_mem_cons.mpr ⟨?_, performed_not_begins performed⟩
  cases occasion with
  | beforeBenchmark b => exact absurd rfl (other b)
  | _ => rfl

theorem rejected_beginnings (b : Benchmark) (cause : Failure) (c : Course σ) :
    (rejectedAt b cause c).beginnings = c.beginnings := by
  simp [rejectedAt, Course.beginnings, Course.post, Course.note, Entry.begins]

theorem cleans_up_not_begins {s : Suite σ} {r : BenchmarkResult} {outcome : Except Halt Unit}
    {entries : List Entry} (cleans : CleansUp s r outcome entries) :
    ∀ x ∈ entries, x.begins = false := by
  cases cleans with
  | skipped => simp
  | started due performed => exact List.forall_mem_cons.mpr ⟨rfl, performed_not_begins performed⟩

-- The first two deeds for a benchmark begin it, and no later one does.
def BeginsOnce (b : Benchmark) (entries : List Entry) : Prop :=
  ∃ rest, entries = [.posted (.benchmarkStarted b), .hooks (.beforeBenchmark b) b.beforeBenchmark] ++ rest ∧
    ∀ x ∈ rest, x.begins = false

theorem BeginsOnce.append {b : Benchmark} {entries more : List Entry} (begins : BeginsOnce b entries)
    (quiet : ∀ x ∈ more, x.begins = false) : BeginsOnce b (entries ++ more) := by
  obtain ⟨rest, rfl, others⟩ := begins
  exact ⟨rest ++ more, List.append_assoc _ _ _, List.forall_mem_append.mpr ⟨others, quiet⟩⟩

theorem works_begin {s : Suite σ} {b : Benchmark} {executions : List ExecutionResult}
    {entries : List Entry} (works : Works s b executions entries) : BeginsOnce b entries := by
  obtain ⟨outcome, prepared, executed, performed, executes, -, rfl⟩ := works.parts
  refine ⟨prepared ++ executed, rfl, List.forall_mem_append.mpr ⟨performed_not_begins performed, ?_⟩⟩
  exact fun x member => Entry.execution_not_begins (executes x member)

theorem runs_begin {s : Suite σ} {b : Benchmark} {outcome : Except String BenchmarkResult}
    {entries : List Entry} (runs : Runs s b outcome entries) : BeginsOnce b entries := by
  cases runs with
  | ended own works cleans =>
      exact ((works_begin works).append (cleans_up_not_begins cleans)).append
        (List.forall_mem_singleton.mpr rfl)
  | unwound works => exact works_begin works
  | unclean own works cleans => exact (works_begin works).append (cleans_up_not_begins cleans)

theorem run_until_beginnings (s : Suite σ) (deadline : Option Moment) {b : Benchmark}
    (valid : b.validate = .ok ()) (c : Course σ) :
    (s.runUntil deadline b c).2.beginnings = c.beginnings ++ noted b c.now := by
  have onward : Course.Extends (opened b c) (s.runAccepted deadline b c).2 :=
    run_accepted_behind (Course.extends_lasting s.services) Course.extends_note deadline b c
  obtain ⟨entries, adds, runs⟩ := run_accepted_runs s deadline b c
  obtain ⟨rest, rfl, quiet⟩ := runs_begin runs
  rw [run_until_accepts valid, ← opened_beginnings]
  refine Course.beginnings_same onward ⟨rest, ?_, quiet⟩
  rw [adds, opened_deeds, List.append_assoc]

structure Turn (σ : Type) where
  benchmark : Benchmark
  course : Course σ

def Turn.checked (s : Suite σ) (x : Turn σ) : Except Halt Unit × Course σ :=
  s.checks x.benchmark x.course

-- What is begun at a turn, which is nothing if the benchmark is rejected.
def Turn.begins (s : Suite σ) (x : Turn σ) : List (Moment × Entry) :=
  match (x.checked s).1, x.benchmark.validate with
  | .ok (), .ok () => noted x.benchmark (x.checked s).2.now
  | _, _ => []

theorem run_checked_beginnings {s : Suite σ} {deadline : Option Moment} {x : Turn σ} {later : Course σ}
    {outcome : Except String BenchmarkResult}
    (ran : s.runChecked deadline x.benchmark x.course = (outcome, later)) :
    later.beginnings = x.course.beginnings ++ x.begins s := by
  have before : (x.checked s).2.beginnings = x.course.beginnings :=
    bracket_beginnings s (.healthCheck x.benchmark) (by simp) (some x.benchmark) s.healthCheck x.course
  rw [Turn.checked] at before
  rw [Turn.begins, Turn.checked]
  cases checked_checks ran with
  | unwound hooks =>
      rw [hooks] at before ⊢
      exact before.trans (List.append_nil _).symm
  | unhealthy hooks =>
      rw [hooks] at before ⊢
      exact (rejected_beginnings _ _ _).trans (before.trans (List.append_nil _).symm)
  | @healthy _ checked _ hooks ran =>
      rw [hooks] at before ⊢
      have made := congrArg (Course.beginnings ∘ Prod.snd) ran
      dsimp only [Function.comp_apply] at made
      rw [← made, ← before]
      cases valid : x.benchmark.validate with
      | error cause =>
          rw [run_until_rejects valid]
          exact (rejected_beginnings _ _ _).trans (List.append_nil _).symm
      | ok => exact run_until_beginnings s deadline valid checked

def turns (s : Suite σ) (deadline : Option Moment) : List Benchmark → Course σ → List (Turn σ)
  | [], _ => []
  | b :: rest, c =>
    if c.isStopped || isReached deadline c.now then []
    else
      match s.runChecked deadline b c with
      | (.error _, _) => [⟨b, c⟩]
      | (.ok r, later) =>
        if !r.isSuccessful && s.failurePolicy = .abort then [⟨b, c⟩]
        else ⟨b, c⟩ :: turns s deadline rest later

section Turns

variable {s : Suite σ} {deadline : Option Moment} {b : Benchmark} {rest : List Benchmark}
  {c last : Course σ}

theorem turns_over (isOver : IsOver deadline c) : s.turns deadline (b :: rest) c = [] := by
  rw [turns, if_pos (Bool.or_eq_true_iff.mpr isOver)]

theorem turns_go (goesOn : ¬ IsOver deadline c) : s.turns deadline (b :: rest) c =
    match s.runChecked deadline b c with
    | (.error _, _) => [⟨b, c⟩]
    | (.ok r, later) =>
      if !r.isSuccessful && s.failurePolicy = .abort then [⟨b, c⟩]
      else ⟨b, c⟩ :: s.turns deadline rest later := by
  rw [turns, if_neg (mt Bool.or_eq_true_iff.mp goesOn)]

theorem in_order_turns {benchmarks : List Benchmark} {outcome : Except String (List BenchmarkResult)}
    (goes : InOrder s deadline benchmarks c outcome last) :
    last.beginnings = c.beginnings ++ (s.turns deadline benchmarks c).flatMap (Turn.begins s) ∧
      ∀ x ∈ s.turns deadline benchmarks c, ¬ IsOver deadline x.course := by
  induction goes with
  | finished c => simp [turns]
  | cut isOver => simp [turns_over isOver]
  | aborted goesOn ran strict failed =>
      rw [turns_go goesOn, ran]
      simpa [strict, failed, goesOn] using run_checked_beginnings (x := ⟨_, _⟩) ran
  | unwound goesOn ran =>
      rw [turns_go goesOn, ran]
      simpa [goesOn] using run_checked_beginnings (x := ⟨_, _⟩) ran
  | @next b rest c later last r outcome goesOn ran carriesOn behind ih =>
      have carries : ¬ (!r.isSuccessful && s.failurePolicy = .abort) = true := by
        simpa using fun failed strict => by simp [carriesOn strict] at failed
      obtain ⟨others, inTime⟩ := ih
      rw [turns_go goesOn, ran]
      dsimp only
      rw [if_neg carries, List.flatMap_cons, others, run_checked_beginnings (x := ⟨b, c⟩) ran,
        List.append_assoc]
      exact ⟨rfl, List.forall_mem_cons.mpr ⟨goesOn, inTime⟩⟩

end Turns

-- The turns of a whole suite: none if the hooks before all benchmarks fail.
def allTurns (s : Suite σ) (benchmarks : List Benchmark) (c : Course σ) : List (Turn σ) :=
  if s.tellsDeadline c.now then
    match s.beforeAllHooks c with
    | (.error _, _) => []
    | (.ok (), begun) => s.turns (s.deadline c.now) benchmarks begun
  else []

theorem body_turns {s : Suite σ} {benchmarks : List Benchmark} {c ended : Course σ}
    {outcome : Except String (Except Failure (List BenchmarkResult))}
    (body : Body s benchmarks c outcome ended) :
    ended.beginnings = c.beginnings ++ (s.allTurns benchmarks c).flatMap (Turn.begins s) ∧
      ∀ x ∈ s.allTurns benchmarks c, ¬ IsOver (s.deadline c.now) x.course := by
  have prepared : (s.beforeAllHooks c).2.beginnings = c.beginnings :=
    bracket_beginnings s .beforeAll (by simp) none s.beforeAll c
  rw [allTurns]
  cases body with
  | pastClock tells => simp [tells]
  | unprepared tells hooks | refused tells hooks =>
      rw [hooks] at prepared
      simp [tells, hooks, prepared]
  | ran tells hooks goes =>
      rw [hooks] at prepared
      rw [if_pos tells, hooks, ← prepared]
      exact in_order_turns (in_order_goes goes)

theorem run_beginnings (s : Suite σ) (benchmarks : List Benchmark) (c : Course σ) :
    (s.run benchmarks c).2.beginnings = (s.body benchmarks c).2.beginnings := by
  rw [run_closes]
  generalize s.body benchmarks c = body
  obtain ⟨outcome, ended⟩ := body
  cases outcome with
  | error panic => rfl
  | ok returned =>
      have tidied := bracket_beginnings s .afterAll (by simp) none s.afterAll ended
      rw [closed, cleanUpAll]
      generalize Hook.bracket s.services .afterAll none s.afterAll ended = hooks at tidied ⊢
      obtain ⟨outcome, later⟩ := hooks
      cases outcome with
      | ok => exact tidied
      | error halt => cases halt <;> exact tidied

inductive Comes (deadline : Option Moment) (c later : Course σ) : Prop where
  | asked (before : c.stop.made = false) (behind : later.stop.made = true)
  | fired {t : Moment} (due : c.stop.moment = some t) (before : c.now < t) (behind : t ≤ later.now)
  | elapsed {t : Moment} (due : deadline = some t) (before : c.now < t) (behind : t ≤ later.now)

theorem over_iff_comes {deadline : Option Moment} {c later : Course σ} (goesOn : ¬ IsOver deadline c)
    (onward : c.Onward later) : IsOver deadline later ↔ Comes deadline c later := by
  have unmade : c.stop.made = false := by
    by_contra made
    exact goesOn (.inl (by simp [Course.isStopped, StopRequest.holds, made]))
  have unfired : ∀ t, c.stop.moment = some t → c.now < t := by
    intro t due
    by_contra late
    exact goesOn (.inl (by simp [Course.isStopped, StopRequest.holds, due, Nat.le_of_not_lt late]))
  have inTime : ∀ t, deadline = some t → c.now < t := by
    intro t due
    by_contra late
    exact goesOn (.inr (by simp [isReached, due, Nat.le_of_not_lt late]))
  rw [IsOver, Course.isStopped, StopRequest.holds, isReached, Bool.or_eq_true, Option.any_eq_true,
    Option.any_eq_true, onward.moment]
  simp only [decide_eq_true_eq]
  constructor
  · rintro ((made | ⟨t, due, behind⟩) | ⟨t, due, behind⟩)
    · exact .asked unmade made
    · exact .fired due (unfired t due) behind
    · exact .elapsed due (inTime t due) behind
  · rintro (⟨-, made⟩ | ⟨due, -, behind⟩ | ⟨due, -, behind⟩)
    · exact .inl (.inl made)
    · exact .inl (.inr ⟨_, due, behind⟩)
    · exact .inr ⟨_, due, behind⟩

/-- A benchmark begins behind the health checks of its turn. When it has its turn, nothing is over, so
it begins too late only if a stop or the deadline has come during those checks. -/
theorem benchmarks_begin_behind_checks (s : Suite σ) (benchmarks : List Benchmark) (c : Course σ) :
    (s.run benchmarks c).2.beginnings =
        c.beginnings ++ (s.allTurns benchmarks c).flatMap (Turn.begins s) ∧
      ∀ x ∈ s.allTurns benchmarks c,
        ¬ IsOver (s.deadline c.now) x.course ∧
        (IsOver (s.deadline c.now) (x.checked s).2 ↔
          Comes (s.deadline c.now) x.course (x.checked s).2) ∧
        (s.healthCheck = [] → ¬ IsOver (s.deadline c.now) (x.checked s).2) := by
  obtain ⟨whole, turned⟩ := body_turns (body_goes s benchmarks c)
  refine ⟨(run_beginnings s benchmarks c).trans whole, fun x member => ?_⟩
  have goesOn := turned x member
  have onward : x.course.Onward (x.checked s).2 :=
    bracket_kept (Pool.onward_lasting s.services) Course.onward_note _ _ _ x.course
  refine ⟨goesOn, over_iff_comes goesOn onward, fun unchecked => ?_⟩
  rw [Turn.checked, checks, unchecked]
  exact goesOn

def probing : Services Unit where
  take call _ :=
    match call with
    | .send .. => (⟨10, 0, false, .rows 1 none⟩, ())
    | _ => (.instant .done, ())
  queries := ⟨.directory [("probe.sql", .file "PROBE".toUTF8.toList),
    ("q.sql", .file "SELECT 1".toUTF8.toList)], ["."], Dict.empty⟩
  hooks := Dict.empty
  collector := []

def probingSuite (timeLimit : Option Span) : Suite Unit :=
  ⟨probing, .carryOn, .always, [], [], ["probe.sql"], timeLimit⟩

def late : Benchmark :=
  { Benchmark.named "late" "memory" with queries := ["q"] }

theorem first_turn {s : Suite σ} (b : Benchmark) (rest : List Benchmark) {c begun : Course σ}
    (tells : s.tellsDeadline c.now = true) (hooks : s.beforeAllHooks c = (.ok (), begun))
    (goesOn : ¬ IsOver (s.deadline c.now) begun) : ⟨b, begun⟩ ∈ s.allTurns (b :: rest) c := by
  rw [allTurns, if_pos tells, hooks]
  dsimp only
  rw [turns_go goesOn]
  generalize s.runChecked (s.deadline c.now) b begun = ran
  obtain ⟨outcome, later⟩ := ran
  cases outcome with
  | error panic => exact List.mem_cons_self
  | ok r =>
      dsimp only
      split <;> exact List.mem_cons_self

theorem late_benchmark_overtaken :
    ∃ x ∈ (probingSuite none).allTurns [late] (.start ⟨false, some 5⟩ ()),
      x.course.now = 0 ∧ (x.begins (probingSuite none)).map Prod.fst = [10, 10] ∧
        Comes none x.course (x.checked (probingSuite none)).2 := by
  have goesOn : ¬ IsOver none ((probingSuite none).beforeAllHooks (.start ⟨false, some 5⟩ ())).2 := by
    unfold IsOver
    decide +kernel
  have turn := first_turn (s := probingSuite none) (c := .start ⟨false, some 5⟩ ()) late [] rfl rfl goesOn
  obtain ⟨-, each⟩ :=
    benchmarks_begin_behind_checks (probingSuite none) [late] (.start ⟨false, some 5⟩ ())
  obtain ⟨-, overtaken, -⟩ := each _ turn
  exact ⟨_, turn, rfl, by decide +kernel, overtaken.mp (.inl (by decide +kernel))⟩

-- So a benchmark may begin when a stop has come already, or when the time is up.
theorem benchmarks_begin_too_late :
    (¬ ∀ (s : Suite Unit) (benchmarks : List Benchmark) (stop : Moment),
      ∀ x ∈ (s.run benchmarks (.start ⟨false, some stop⟩ ())).2.beginnings, x.1 < stop) ∧
    ¬ ∀ (s : Suite Unit) (benchmarks : List Benchmark) (limit : Span), s.timeLimit = some limit →
      ∀ x ∈ (s.run benchmarks (.start .never ())).2.beginnings, x.1 < limit := by
  have begun : (((probingSuite none).run [late] (.start ⟨false, some 5⟩ ())).2.beginnings.map
      Prod.fst) = [10, 10] := by
    decide +kernel
  have second : (((probingSuite (some 5)).run [late] (.start .never ())).2.beginnings.map
      Prod.fst) = [10, 10] := by
    decide +kernel
  have overdue : ∀ (entries : List (Moment × Entry)), entries.map Prod.fst = [10, 10] →
      ¬ ∀ x ∈ entries, x.1 < 5 := by
    intro entries moments early
    have ten : 10 ∈ entries.map Prod.fst := by simp [moments]
    obtain ⟨x, member, same⟩ := List.mem_map.mp ten
    exact absurd (same ▸ early x member) (by decide)
  exact ⟨fun inTime => overdue _ begun (inTime (probingSuite none) [late] 5),
    fun inTime => overdue _ second (inTime (probingSuite (some 5)) [late] 5 rfl)⟩

end Suite

end SqlBench
