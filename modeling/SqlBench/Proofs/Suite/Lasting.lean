import SqlBench.Proofs.Hook
import SqlBench.Proofs.Pool.Lasting
import SqlBench.Proofs.Suite.Ending

set_option autoImplicit false

namespace SqlBench.Suite

variable {σ : Type} {s : Suite σ} {R : Course σ → Course σ → Prop} {P : Course σ → Promise → Prop}

theorem warm_up_kept (lasting : Pool.Lasting s.services R P) {source : Plan.Source}
    {deadline : Option Moment} {c begun : Course σ} (warms : WarmsUp s source deadline c begun) :
    R c begun := by
  cases warms with
  | cold => exact lasting.refl c
  | warm => exact Pool.run_kept (p := s.warmUpPool source.benchmark deadline) lasting _ c

theorem execute_kept (lasting : Pool.Lasting s.services R P) (b : Benchmark)
    (deadline : Option Moment) (c : Course σ) : R c (s.execute b deadline c).2 := by
  have executes := execute_executes s b deadline c
  generalize (s.execute b deadline c).1 = outcome at executes
  generalize (s.execute b deadline c).2 = ended at executes ⊢
  cases executes with
  | unloaded | cold | unfit => exact lasting.refl c
  | cutShort => exact Pool.run_kept (p := s.warmUpPool b deadline) lasting _ c
  | unplanned loads warms => exact warm_up_kept lasting warms
  | measured loads warms =>
      exact lasting.trans (warm_up_kept lasting warms)
        (Pool.run_kept (p := s.pool b deadline) lasting _ _)

theorem prepare_behind (lasting : Pool.Lasting s.services R P) (deadline : Option Moment)
    (r : BenchmarkResult) (c : Course σ) :
    R (c.note (.hooks (.beforeBenchmark r.benchmark) r.benchmark.beforeBenchmark))
      (s.prepareAndExecute deadline r c).2 := by
  have performed : R (c.note (.hooks (.beforeBenchmark r.benchmark) r.benchmark.beforeBenchmark))
      (s.beforeHooks r.benchmark c).2 :=
    Hook.run_all_kept lasting.toKept lasting.advances (some r.benchmark) none
      r.benchmark.beforeBenchmark _
  have executed (begun : Course σ) := execute_kept lasting r.benchmark deadline begun
  have prepares := prepare_prepares s deadline r c
  generalize (s.prepareAndExecute deadline r c).1 = outcome at prepares
  generalize (s.prepareAndExecute deadline r c).2 = ended at prepares ⊢
  cases prepares with
  | refused hooks | unwound hooks =>
      rw [hooks] at performed
      exact performed
  | @failed _ begun _ hooks executes | @crashed _ begun _ hooks executes
  | @staged _ begun _ hooks executes =>
      have behind := executed begun
      rw [executes] at behind
      rw [hooks] at performed
      exact lasting.trans performed behind

theorem collect_kept (lasting : Pool.Lasting s.services R P) (subject : Subject)
    (heard : List Measurement) (c : Course σ) :
    R c (c.collect subject s.services.collector heard).2 := by
  have each (rest : Collector σ) (within : ∀ x ∈ rest, x ∈ s.services.collector)
      (heard : List Measurement) (c : Course σ) : R c (c.collect subject rest heard).2 := by
    induction rest generalizing heard c with
    | nil => exact lasting.refl c
    | cons x rest ih =>
        obtain ⟨own, others⟩ := List.forall_mem_cons.mp within
        have waited := lasting.trans (lasting.asks x own c subject)
          (lasting.advances _ (c.now + (x.2 subject c.world).1.delay))
        rw [Course.collect]
        dsimp only
        cases x.1.heed heard (x.2 subject c.world).1.finding with
        | ok found => exact lasting.trans waited (ih others found _)
        | error halt => exact waited
  exact each _ (fun x member => member) heard c

theorem aggregate_kept (lasting : Pool.Lasting s.services R P) (r : BenchmarkResult) (c : Course σ) :
    R c (s.aggregate r c).2 := by
  have asked : R c (s.answered r c).2 := collect_kept lasting _ _ c
  have sums := aggregate_sums s r c
  generalize (s.aggregate r c).1 = outcome at sums
  generalize (s.aggregate r c).2 = later at sums ⊢
  cases sums with
  | answered answers | unwound answers =>
      rw [answers] at asked
      exact asked

def opened (b : Benchmark) (c : Course σ) : Course σ :=
  (c.post (.benchmarkStarted b)).note (.hooks (.beforeBenchmark b) b.beforeBenchmark)

section Noted

variable (lasting : Pool.Lasting s.services R P) (notes : ∀ c entry, R c (c.note entry))

include lasting notes

theorem bracket_kept (occasion : Occasion) (b : Option Benchmark) (names : List String) (c : Course σ) :
    R c (Hook.bracket s.services occasion b names c).2 :=
  lasting.trans (notes c (.hooks occasion names))
    (Hook.run_all_kept lasting.toKept lasting.advances b none names _)

theorem clean_up_kept (r : BenchmarkResult) (c : Course σ) : R c (s.cleanUp r c).2 := by
  have tidied : R c (s.afterHooks r c).2 := bracket_kept lasting notes _ _ _ c
  have tidies := clean_up_tidies s r c
  generalize (s.cleanUp r c).1 = outcome at tidies
  generalize (s.cleanUp r c).2 = later at tidies ⊢
  cases tidies with
  | skipped => exact lasting.refl c
  | fine due hooks | failed due hooks | unwound due hooks =>
      rw [hooks] at tidied
      exact tidied

theorem run_accepted_behind (deadline : Option Moment) (b : Benchmark) (c : Course σ) :
    R (opened b c) (s.runAccepted deadline b c).2 := by
  have begun : R (opened b c)
      (s.prepareAndExecute deadline (.start b c.now) (c.post (.benchmarkStarted b))).2 :=
    prepare_behind lasting deadline (.start b c.now) (c.post (.benchmarkStarted b))
  rw [runAccepted]
  refine Course.and_then_kept lasting.trans begun fun staged => ?_
  refine Course.and_then_kept lasting.trans (aggregate_kept lasting staged.1 _) fun gathered => ?_
  exact Course.and_then_kept lasting.trans (clean_up_kept lasting notes gathered _)
    fun cleaned => notes _ _

theorem run_until_kept (deadline : Option Moment) (b : Benchmark) (c : Course σ) :
    R c (s.runUntil deadline b c).2 := by
  cases valid : b.validate with
  | error cause =>
      rw [run_until_rejects valid]
      exact notes c _
  | ok =>
      rw [run_until_accepts valid]
      exact lasting.trans (lasting.trans (notes c _) (notes _ _))
        (run_accepted_behind lasting notes deadline b c)

theorem run_checked_kept (deadline : Option Moment) (b : Benchmark) (c : Course σ) :
    R c (s.runChecked deadline b c).2 := by
  have checked : R c (s.checks b c).2 := bracket_kept lasting notes _ _ _ c
  have checks := run_checked_checks s deadline b c
  generalize (s.runChecked deadline b c).1 = outcome at checks
  generalize (s.runChecked deadline b c).2 = later at checks ⊢
  cases checks with
  | unwound hooks =>
      rw [hooks] at checked
      exact checked
  | unhealthy hooks =>
      rw [hooks] at checked
      exact lasting.trans checked (notes _ _)
  | @healthy _ begun _ hooks ran =>
      have behind := run_until_kept lasting notes deadline b begun
      rw [ran] at behind
      rw [hooks] at checked
      exact lasting.trans checked behind

end Noted

end SqlBench.Suite
