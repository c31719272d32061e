import SqlBench.Proofs.Hook
import SqlBench.Proofs.Pool.News
import SqlBench.Proofs.Suite.Ending

set_option autoImplicit false

namespace SqlBench

variable {σ : Type}

theorem Hook.silent_bracket (services : Services σ) (occasion : Occasion) (b : Option Benchmark)
    (names : List String) (c : Course σ) :
    c.Silent (Hook.bracket services occasion b names c).2 := by
  have noted := c.silent_note (.hooks occasion names) (by simp)
  exact noted.trans (run_all_kept (Pool.silent_kept services) Course.silent_advance b none names _)

namespace Suite

-- Executions that are not begun have no results.
def reported : Except Halt Stage → List ExecutionResult
  | .ok stage => stage.executions
  | .error _ => []

-- What is told on the way from a course to a later one is of these results.
def Tells (c later : Course σ) (results : List ExecutionResult) : Prop :=
  ∃ middle, later.news = c.news ++ middle ∧ Bracketed results middle

theorem tells_nothing {c later : Course σ} (same : later.news = c.news) : Tells c later [] :=
  ⟨[], by rw [same, List.append_nil], bracketed_nothing⟩

theorem tells_behind {a b c d : Course σ} {results : List ExecutionResult} (tells : Tells b c results)
    (before : b.news = a.news) (behind : d.news = c.news) : Tells a d results := by
  obtain ⟨middle, whole, bracketed⟩ := tells
  exact ⟨middle, by rw [behind, whole, before], bracketed⟩

theorem warm_up_quiet {s : Suite σ} {source : Plan.Source} {deadline : Option Moment}
    {c begun : Course σ} (warms : WarmsUp s source deadline c begun) : begun.news = c.news := by
  cases warms with
  | cold => rfl
  | warm => exact (Pool.quiet_run (p := s.warmUpPool source.benchmark deadline) rfl _ c).news

theorem pool_tells {p : Pool σ} (loud : p.isQuiet = false) (records : p.recordsCrashes = true)
    {planned : List Execution} (ascending : planned.Pairwise fun a b => a.number < b.number)
    (c : Course σ) : Tells c (p.run planned c).course (p.run planned c).results := by
  have distinct : (planned.map Execution.number).Nodup :=
    List.pairwise_map.mpr (ascending.imp Nat.ne_of_lt)
  exact Pool.done_bracketed loud records distinct (Pool.run_reached p planned c).1
    (Pool.run_done p planned c)

theorem execute_tells (s : Suite σ) (b : Benchmark) (deadline : Option Moment) (c : Course σ) :
    Tells c (s.execute b deadline c).2 (reported (s.execute b deadline c).1) := by
  have executes := execute_executes s b deadline c
  generalize (s.execute b deadline c).2 = ended at executes ⊢
  generalize (s.execute b deadline c).1 = outcome at executes ⊢
  cases executes with
  | unloaded | cold | unfit => exact tells_nothing rfl
  | cutShort =>
      rw [reported, attributed_executions]
      exact tells_nothing (Pool.quiet_run (p := s.warmUpPool b deadline) rfl _ c).news
  | unplanned loads warms => exact tells_nothing (warm_up_quiet warms)
  | @measured templates planned begun loads warms fits plans =>
      rw [reported, attributed_executions]
      exact tells_behind (pool_tells (p := s.pool b deadline) rfl rfl (Plan.executions_ascend plans) begun)
        (warm_up_quiet warms) rfl

def reportedSoFar : Except String (BenchmarkResult × Bool) → List ExecutionResult
  | .ok (r, _) => r.executions
  | .error _ => []

theorem prepare_tells (s : Suite σ) (deadline : Option Moment) {r : BenchmarkResult}
    (fresh : r.executions = []) (c : Course σ) :
    Tells c (s.prepareAndExecute deadline r c).2
      (reportedSoFar (s.prepareAndExecute deadline r c).1) := by
  have silent : (s.beforeHooks r.benchmark c).2.news = c.news :=
    (Hook.silent_bracket s.services _ _ _ c).news
  have tells (begun : Course σ) := execute_tells s r.benchmark deadline begun
  have prepares := prepare_prepares s deadline r c
  generalize (s.prepareAndExecute deadline r c).1 = outcome at prepares ⊢
  generalize (s.prepareAndExecute deadline r c).2 = ended at prepares ⊢
  cases prepares with
  | refused hooks =>
      rw [hooks] at silent
      exact (fresh ▸ tells_nothing silent : Tells c _ r.executions)
  | unwound hooks =>
      rw [hooks] at silent
      exact tells_nothing silent
  | @failed _ begun _ hooks executes =>
      have told := tells begun
      rw [executes] at told
      rw [hooks] at silent
      have nothing : Tells c ended [] := tells_behind told silent rfl
      exact (fresh ▸ nothing : Tells c ended r.executions)
  | @crashed _ begun _ hooks executes | @staged _ begun _ hooks executes =>
      have told := tells begun
      rw [executes] at told
      rw [hooks] at silent
      exact tells_behind told silent rfl

theorem aggregate_news (s : Suite σ) (r : BenchmarkResult) (c : Course σ) :
    (s.aggregate r c).2.news = c.news := by
  rw [Course.news, Course.events, aggregate_journal, ← Course.events, ← Course.news]

theorem clean_up_news (s : Suite σ) (r : BenchmarkResult) (c : Course σ) :
    (s.cleanUp r c).2.news = c.news := by
  have silent : (s.afterHooks r c).2.news = c.news := (Hook.silent_bracket s.services _ _ _ c).news
  have tidies := clean_up_tidies s r c
  generalize (s.cleanUp r c).1 = outcome at tidies
  generalize (s.cleanUp r c).2 = later at tidies ⊢
  cases tidies with
  | skipped => rfl
  | fine due hooks | failed due hooks | unwound due hooks =>
      rw [hooks] at silent
      exact silent

def Rejects (s : Suite σ) (b : Benchmark) (c : Course σ) : Prop :=
  (∃ cause, (s.checks b c).1 = .error (.failed cause)) ∨ ∃ cause, b.validate = .error cause

-- What is told of one benchmark, up to its result or to the panic that unwinds it.
inductive Block (s : Suite σ) (b : Benchmark) (c : Course σ) :
    Except String BenchmarkResult → List Event → Prop where
  | rejected {r : BenchmarkResult} (rejects : s.Rejects b c) :
      Block s b c (.ok r) [.benchmarkFinished r]
  | ran {r : BenchmarkResult} {middle : List Event} (accepts : ¬ s.Rejects b c)
      (bracketed : Bracketed r.executions middle) :
      Block s b c (.ok r) (.benchmarkStarted b :: (middle ++ [.benchmarkFinished r]))
  | unchecked {panic : String} (unwound : (s.checks b c).1 = .error (.crashed panic)) :
      Block s b c (.error panic) []
  | broken {panic : String} {middle : List Event} {executions : List ExecutionResult}
      (accepts : ¬ s.Rejects b c) (bracketed : Bracketed executions middle) :
      Block s b c (.error panic) (.benchmarkStarted b :: middle)

inductive Chronicle (s : Suite σ) (deadline : Option Moment) :
    List Benchmark → Course σ → Except String (List BenchmarkResult) → List Event → Course σ →
      Prop where
  | done (benchmarks : List Benchmark) (c : Course σ) : Chronicle s deadline benchmarks c (.ok []) [] c
  | unwound {b : Benchmark} {rest : List Benchmark} {c last : Course σ} {block : List Event}
      {panic : String} (ran : s.runChecked deadline b c = (.error panic, last))
      (told : Block s b c (.error panic) block) :
      Chronicle s deadline (b :: rest) c (.error panic) block last
  | next {b : Benchmark} {rest : List Benchmark} {c later last : Course σ} {block others : List Event}
      {r : BenchmarkResult} {outcome : Except String (List BenchmarkResult)}
      (ran : s.runChecked deadline b c = (.ok r, later)) (told : Block s b c (.ok r) block)
      (behind : Chronicle s deadline rest later outcome others last) :
      Chronicle s deadline (b :: rest) c (outcome.map (r :: ·)) (block ++ others) last

theorem rejected_news (b : Benchmark) (cause : Failure) (c : Course σ) :
    (rejectedAt b cause c).news = c.news ++ [.benchmarkFinished (rejection b cause c)] :=
  c.news_post _

theorem run_accepted_news (s : Suite σ) (deadline : Option Moment) (b : Benchmark) (c : Course σ) :
    match s.runAccepted deadline b c with
    | (.ok r, later) => ∃ middle, Bracketed r.executions middle ∧
        later.news = c.news ++ (.benchmarkStarted b :: (middle ++ [.benchmarkFinished r]))
    | (.error _, later) => ∃ executions middle, Bracketed executions middle ∧
        later.news = c.news ++ (.benchmarkStarted b :: middle) := by
  have begins := c.news_post (.benchmarkStarted b)
  obtain ⟨middle, whole, bracketed⟩ := prepare_tells s deadline (r := .start b c.now) rfl
    (c.post (.benchmarkStarted b))
  rw [begins, List.append_assoc] at whole
  cases ran : s.runAccepted deadline b c with
  | mk outcome later =>
      cases outcome with
      | ok r =>
          obtain ⟨p, rfl, rfl⟩ := run_accepted_returns_iff.mp ran
          have gathered := aggregate_news s p.staged p.executed
          have tidied := clean_up_news s p.gathered p.collected
          rw [p.collects] at gathered
          rw [p.cleans] at tidied
          rw [p.prepares] at whole bracketed
          refine ⟨middle, p.worsens.executions.symm ▸ bracketed, ?_⟩
          rw [Passage.ended, Course.news_post, tidied, gathered, whole]
          simp only [List.append_assoc, List.cons_append, List.nil_append]
      | error panic =>
          have trans {a b c : Course σ} (early : b.news = a.news) (late : c.news = b.news) :
              c.news = a.news := late.trans early
          refine ⟨_, middle, bracketed, ?_⟩
          refine Eq.trans ?_ whole
          refine Course.and_then_stopped (R := fun a b => b.news = a.news) trans rfl
            (fun staged _ _ stops => ?_) ran
          refine Course.and_then_stopped (R := fun a b => b.news = a.news) trans
            (aggregate_news s _ _) (fun gathered _ _ stops => ?_) stops
          exact Course.and_then_stopped (R := fun a b => b.news = a.news) trans
            (clean_up_news s _ _) (fun cleaned _ _ stops => by cases stops) stops

theorem run_checked_block (s : Suite σ) (deadline : Option Moment) (b : Benchmark) (c : Course σ) :
    ∃ block, (s.runChecked deadline b c).2.news = c.news ++ block ∧
      Block s b c (s.runChecked deadline b c).1 block := by
  have silent : (s.checks b c).2.news = c.news := (Hook.silent_bracket s.services _ _ _ c).news
  have checks := run_checked_checks s deadline b c
  generalize (s.runChecked deadline b c).1 = outcome at checks ⊢
  generalize (s.runChecked deadline b c).2 = later at checks ⊢
  cases checks with
  | unwound hooks =>
      rw [hooks] at silent
      exact ⟨[], by rw [silent, List.append_nil], .unchecked (congrArg Prod.fst hooks)⟩
  | unhealthy hooks =>
      rw [hooks] at silent
      rw [rejected_news, silent]
      exact ⟨_, rfl, .rejected (.inl ⟨_, congrArg Prod.fst hooks⟩)⟩
  | @healthy _ checked _ hooks ran =>
      rw [hooks] at silent
      cases valid : b.validate with
      | error cause =>
          rw [run_until_rejects valid] at ran
          cases ran
          rw [rejected_news, silent]
          exact ⟨_, rfl, .rejected (.inr ⟨cause, valid⟩)⟩
      | ok =>
          have accepts : ¬ s.Rejects b c := by
            rintro (⟨cause, failed⟩ | ⟨cause, invalid⟩)
            · rw [hooks] at failed
              cases failed
            · rw [valid] at invalid
              cases invalid
          have news := run_accepted_news s deadline b checked
          rw [run_until_accepts valid] at ran
          rw [ran, silent] at news
          cases outcome with
          | ok r =>
              obtain ⟨middle, bracketed, whole⟩ := news
              exact ⟨_, whole, .ran accepts bracketed⟩
          | error panic =>
              obtain ⟨executions, middle, bracketed, whole⟩ := news
              exact ⟨_, whole, .broken accepts bracketed⟩

theorem in_order_chronicle {s : Suite σ} {deadline : Option Moment} {benchmarks : List Benchmark}
    {c last : Course σ} {outcome : Except String (List BenchmarkResult)}
    (goes : InOrder s deadline benchmarks c outcome last) :
    ∃ events, last.news = c.news ++ events ∧ Chronicle s deadline benchmarks c outcome events last := by
  have block {b : Benchmark} {c later : Course σ} {outcome : Except String BenchmarkResult}
      (ran : s.runChecked deadline b c = (outcome, later)) :
      ∃ block, later.news = c.news ++ block ∧ Block s b c outcome block := by
    have told := run_checked_block s deadline b c
    rwa [ran] at told
  induction goes with
  | finished c | cut => exact ⟨[], (List.append_nil _).symm, .done _ _⟩
  | aborted goesOn ran =>
      obtain ⟨events, whole, told⟩ := block ran
      exact ⟨events ++ [], by rw [whole, List.append_nil], .next ran told (.done _ _)⟩
  | unwound goesOn ran =>
      obtain ⟨events, whole, told⟩ := block ran
      exact ⟨events, whole, .unwound ran told⟩
  | next goesOn ran carriesOn behind ih =>
      obtain ⟨events, whole, told⟩ := block ran
      obtain ⟨others, after, chronicle⟩ := ih
      exact ⟨events ++ others, by rw [after, whole, List.append_assoc], .next ran told chronicle⟩

theorem clean_up_all_news (s : Suite σ) (c : Course σ) : (s.cleanUpAll c).2.news = c.news := by
  have silent := (Hook.silent_bracket s.services .afterAll none s.afterAll c).news
  rw [cleanUpAll]
  cases hooks : Hook.bracket s.services .afterAll none s.afterAll c with
  | mk outcome later =>
      rw [hooks] at silent
      cases outcome with
      | ok => exact silent
      | error halt => cases halt <;> exact silent

theorem closed_news (s : Suite σ) (outcome : Except String (Except Failure (List BenchmarkResult)))
    (ended : Course σ) : (s.closed outcome ended).2.news = ended.news := by
  cases outcome with
  | error panic => rfl
  | ok returned => exact clean_up_all_news s ended

/-- A suite tells a block for each of its results, in their order. A panic that unwinds it breaks the
last block off, and nothing is told if the hooks before all fail. -/
theorem suite_tells_in_blocks (s : Suite σ) (benchmarks : List Benchmark) (c : Course σ) :
    ∃ events, (s.run benchmarks c).2.news = c.news ++ events ∧
      (s.tellsDeadline c.now = false ∨ (∃ halt, (s.beforeAllHooks c).1 = .error halt) → events = []) ∧
      ∀ begun, s.tellsDeadline c.now = true → s.beforeAllHooks c = (.ok (), begun) →
        ∃ outcome last, Chronicle s (s.deadline c.now) benchmarks begun outcome events last ∧
          (s.run benchmarks c).1 = (s.closed (outcome.map .ok) last).1 := by
  have silent : (s.beforeAllHooks c).2.news = c.news := (Hook.silent_bracket s.services _ _ _ c).news
  have body := body_goes s benchmarks c
  rw [run_closes, closed_news]
  generalize s.body benchmarks c = done at body ⊢
  obtain ⟨outcome, ended⟩ := done
  cases body with
  | pastClock past =>
      exact ⟨[], (List.append_nil _).symm, fun _ => rfl, fun begun tells => by simp [past] at tells⟩
  | unprepared tells hooks | refused tells hooks =>
      rw [hooks] at silent
      refine ⟨[], by rw [List.append_nil]; exact silent, fun _ => rfl, fun begun _ fine => ?_⟩
      cases hooks.symm.trans fine
  | ran tells hooks inOrder =>
      obtain ⟨events, told, chronicle⟩ := in_order_chronicle (in_order_goes inOrder)
      rw [hooks] at silent
      refine ⟨events, by rw [told, silent], ?_, fun begun _ fine => ?_⟩
      · rintro (past | ⟨halt, failed⟩)
        · cases past.symm.trans tells
        · rw [hooks] at failed
          cases failed
      · cases hooks.symm.trans fine
        exact ⟨_, _, chronicle, rfl⟩

def busy : List Benchmark :=
  [{ sized with concurrency := 3 }, Benchmark.named "" "memory"]

theorem busy_suite_told :
    ∃ outcome events last,
      Chronicle obligingSuite (some 100) busy (obligingSuite.beforeAllHooks (.start .never ())).2
        outcome events last ∧
      events.map Event.number? =
        [none, some 0, some 1, some 2, some 0, some 3, some 1, some 2, some 3, none, none] := by
  have numbers : (obligingSuite.run busy (.start .never ())).2.news.map Event.number? =
      [none, some 0, some 1, some 2, some 0, some 3, some 1, some 2, some 3, none, none] := by
    decide +kernel
  obtain ⟨events, whole, -, tells⟩ := suite_tells_in_blocks obligingSuite busy (.start .never ())
  have same : (obligingSuite.run busy (.start .never ())).2.news = events := whole
  obtain ⟨outcome, last, chronicle, -⟩ := tells _ rfl rfl
  exact ⟨outcome, events, last, chronicle, same ▸ numbers⟩

-- More at once than a pool can count.
def crowded : Benchmark :=
  { sized with concurrency := 2 ^ 64 - 1 }

def Event.starts : Event → Bool
  | .benchmarkStarted _ => true
  | _ => false

-- It is told that the benchmark has started, and then its pool panics.
theorem crowded_benchmark_left_open :
    ¬ ∀ (s : Suite Unit) (benchmarks : List Benchmark) (c : Course Unit) (b : Benchmark),
      .benchmarkStarted b ∈ (s.run benchmarks c).2.news →
        ∃ r, .benchmarkFinished r ∈ (s.run benchmarks c).2.news := by
  intro closed
  have told : (obligingSuite.run [crowded] (.start .never ())).2.news.map Event.starts = [true] := by
    decide +kernel
  obtain ⟨event, same⟩ := List.map_eq_singleton_iff.mp told
  cases event with
  | benchmarkStarted b =>
      obtain ⟨r, member⟩ := closed obligingSuite [crowded] (.start .never ()) b
        (by rw [same.1]; exact List.mem_singleton_self _)
      rw [same.1] at member
      cases List.mem_singleton.mp member
  | _ => cases same.2

end Suite

end SqlBench
