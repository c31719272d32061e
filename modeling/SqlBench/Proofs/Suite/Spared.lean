import SqlBench.Proofs.Collector
import SqlBench.Proofs.Suite.Ending

set_option autoImplicit false

namespace SqlBench

variable {σ : Type}

def Services.asking (services : Services σ) (collector : Collector σ) : Services σ :=
  { services with collector := collector }

namespace Hook

variable (services : Services σ) (collector : Collector σ)

theorem perform_asking (steps : List Step) (lines : Lines) (c : Course σ) :
    perform (services.asking collector) steps lines c = perform services steps lines c := by
  have await (call : Call) (c : Course σ) :
      c.await (services.asking collector) call = c.await services call := rfl
  induction steps generalizing lines c with
  | nil => rfl
  | cons step rest ih => cases step <;> simp only [perform, await, ih]

theorem bracket_asking (occasion : Occasion) (b : Option Benchmark) (names : List String)
    (c : Course σ) : bracket (services.asking collector) occasion b names c =
      bracket services occasion b names c :=
  perform_asking services collector _ _ _

end Hook

namespace Pool

theorem work_asking (services : Services σ) (collector : Collector σ) (tasks : List Task) (w : Worker)
    (c : Course σ) : work (services.asking collector) tasks w c = work services tasks w c := by
  have take (call : Call) (c : Course σ) :
      c.take (services.asking collector) call = c.take services call := rfl
  induction tasks generalizing w c with
  | nil => rfl
  | cons task rest ih => simp only [work, take, ih]

def asking (p : Pool σ) (collector : Collector σ) : Pool σ :=
  { p with services := p.services.asking collector }

section Asking

variable {p : Pool σ} {collector : Collector σ} (same : collector.Matches p.services.collector)

include same

theorem inquire_asking (index : Nat) (e : Execution) (r : ExecutionResult) (asked : Nat)
    (heard : Finding) (s : State σ) :
    (p.asking collector).inquire index e r asked heard s = p.inquire index e r asked heard s := by
  have rounds (world : σ) :
      (p.asking collector).services.collector.goOn (.execution r) asked heard world =
        p.services.collector.goOn (.execution r) asked heard world := same.rounds _ _ _ _
  simp only [inquire, rounds]
  rfl

theorem follow_asking (index : Nat) (e : Execution) (standing : Standing) (s : State σ) :
    (p.asking collector).follow index e standing s = p.follow index e standing s := by
  cases standing with
  | finished r => exact inquire_asking same index e r 0 (.ok []) s
  | waiting nap => rfl
  | dropped cause => rfl
  | crashed panic => rfl

theorem launch_asking (index : Nat) (e : Execution) (s : State σ) :
    (p.asking collector).launch index e s = p.launch index e s := by
  have works (c : Course σ) : work (p.asking collector).services
      (tasks (p.asking collector).services e) (.start e) c =
        work p.services (tasks p.services e) (.start e) c :=
    work_asking p.services collector _ _ c
  simp only [launch, follow_asking same, works]
  rfl

theorem grant_asking (queue : List (Nat × Execution)) (s : State σ) :
    (p.asking collector).grant queue s = p.grant queue s := by
  induction queue generalizing s with
  | nil => rfl
  | cons x rest ih =>
      simp only [grant, launch_asking same, ih]
      rfl

theorem resume_asking (x : Sleeper) (s : State σ) :
    (p.asking collector).resume x s = p.resume x s := by
  have resumes (nap : Nap) (c : Course σ) :
      nap.resume (p.asking collector).services c = nap.resume p.services c := by
    simp only [Nap.resume, asking, work_asking]
  rw [resume, resume]
  cases x.wait with
  | call nap => simp only [resumes, follow_asking same]
  | answer r heard asked => exact inquire_asking same _ _ _ _ _ _

theorem turn_asking (s : State σ) : (p.asking collector).turn s = p.turn s := by
  simp only [turn, resume_asking same, grant_asking same]

theorem run_asking (executions : List Execution) (c : Course σ) :
    (p.asking collector).run executions c = p.run executions c := by
  have turns (n : Nat) (s : State σ) : (p.asking collector).turns n s = p.turns n s := by
    induction n generalizing s with
    | zero => rfl
    | succ n ih => rw [Pool.turns, turn_asking same, ih, Pool.turns]
  have tasks (e : Execution) : Pool.tasks (p.asking collector).services e = Pool.tasks p.services e := rfl
  have providers : (p.asking collector).services.collector.length = p.services.collector.length :=
    same.length
  have load : (p.asking collector).workload executions = p.workload executions := by
    simp only [workload, tasks, providers]
  rw [run, run, grant_asking same, turns, load]

end Asking

end Pool

namespace Suite

def asking (s : Suite σ) (collector : Collector σ) : Suite σ :=
  { s with services := s.services.asking collector }

theorem asking_services (s : Suite σ) (collector : Collector σ) :
    (s.asking collector).services = s.services.asking collector :=
  rfl

section Asking

variable {s : Suite σ} {collector : Collector σ} (same : collector.Matches s.services.collector)

include same

theorem measure_asking (source : Plan.Source) (deadline : Option Moment) (c : Course σ) :
    (s.asking collector).measure source deadline c = s.measure source deadline c := by
  have runs (planned : List Execution) :
      ((s.asking collector).pool source.benchmark deadline).run planned c =
        (s.pool source.benchmark deadline).run planned c :=
    Pool.run_asking (p := s.pool source.benchmark deadline) same planned c
  simp only [measure, runs]
  rfl

theorem warm_up_asking (source : Plan.Source) (deadline : Option Moment) (c : Course σ) :
    (s.asking collector).warmUpAndMeasure source deadline c = s.warmUpAndMeasure source deadline c := by
  have runs (planned : List Execution) :
      ((s.asking collector).warmUpPool source.benchmark deadline).run planned c =
        (s.warmUpPool source.benchmark deadline).run planned c :=
    Pool.run_asking (p := s.warmUpPool source.benchmark deadline) same planned c
  simp only [warmUpAndMeasure, runs, measure_asking same]
  rfl

theorem execute_asking (b : Benchmark) (deadline : Option Moment) (c : Course σ) :
    (s.asking collector).execute b deadline c = s.execute b deadline c := by
  simp only [execute, warm_up_asking same]
  rfl

theorem prepare_asking (deadline : Option Moment) (r : BenchmarkResult) (c : Course σ) :
    (s.asking collector).prepareAndExecute deadline r c = s.prepareAndExecute deadline r c := by
  simp only [prepareAndExecute, asking_services, Hook.bracket_asking, execute_asking same]

theorem aggregate_asking (r : BenchmarkResult) (c : Course σ) :
    (s.asking collector).aggregate r c = s.aggregate r c := by
  have collects (subject : Subject) : c.collect subject (s.asking collector).services.collector [] =
      c.collect subject s.services.collector [] := same.collects c subject []
  simp only [aggregate, collects]

omit same in
theorem clean_up_asking (r : BenchmarkResult) (c : Course σ) :
    (s.asking collector).cleanUp r c = s.cleanUp r c := by
  simp only [cleanUp, asking_services, Hook.bracket_asking]
  rfl

theorem run_until_asking (deadline : Option Moment) (b : Benchmark) (c : Course σ) :
    (s.asking collector).runUntil deadline b c = s.runUntil deadline b c := by
  simp only [runUntil, runAccepted, prepare_asking same, aggregate_asking same, clean_up_asking]

end Asking

/-- If no provider panics, a round fails if and only if a required provider does. What ends a round is
the first failure of a required provider or panic, and without one it gives what the others say. So
optional providers that fail could as well have nothing to say: the same becomes of a benchmark and of
the course of the run. -/
theorem optional_failures_unseen :
    (∀ (collector : Collector σ) (subject : Subject) (c : Course σ),
      ((∀ x ∈ Collector.answers subject collector c.world, ∀ panic, x.2 ≠ .error (.crashed panic)) →
        ((∃ halt, (c.collect subject collector []).1 = .error halt) ↔
          ∃ cause, (.required, .error (.failed cause)) ∈ Collector.answers subject collector c.world)) ∧
      (∀ halt, (c.collect subject collector []).1 = .error halt ↔
        Collector.FirstRefusal (Collector.answers subject collector c.world) halt) ∧
      ((∀ x ∈ Collector.answers subject collector c.world, Collector.refusal? x = none) →
        (c.collect subject collector []).1 =
          .ok ((Collector.answers subject collector c.world).flatMap Collector.told))) ∧
    ∀ (s : Suite σ) (spared : Collector σ) (b : Benchmark) (c : Course σ),
      List.Forall₂ Collector.Spares spared s.services.collector →
      (s.asking spared).runBenchmark b c = s.runBenchmark b c := by
  refine ⟨fun collector subject c => ?_, fun s spared b c spares => ?_⟩
  · rw [Collector.collect_answers]
    refine ⟨fun unbroken => ?_, Collector.verdict_error_iff _ [], Collector.verdict_ok []⟩
    rw [Collector.verdict_fails_iff]
    exact Collector.refused_iff unbroken
  · simp only [runBenchmark, run_until_asking (Collector.spared_matches spares)]
    rfl

def lost : Failure :=
  .transient (.unsent "http://engine")

def rows : Measurement :=
  ⟨"rows", .plain, 1.0⟩

def patchy : Provider Unit
  | .execution r, world =>
    (.instant (if r.execution.number % 2 = 0 then .ok [rows] else .error lost), world)
  | .benchmark _, world => (.instant (.error lost), world)

def patched : Provider Unit
  | .execution r, world =>
    (.instant (.ok (if r.execution.number % 2 = 0 then [rows] else [])), world)
  | .benchmark _, world => (.instant (.ok []), world)

theorem patched_spares : patched.Spares patchy := by
  intro subject world
  cases subject with
  | execution r =>
      by_cases even : r.execution.number % 2 = 0
      · exact .inl (by simp [patched, patchy, even])
      · refine .inr ⟨0, lost, world, ?_, ?_⟩
        · rw [patchy, if_neg even]
          rfl
        · rw [patched, if_neg even]
          rfl
  | benchmark r => exact .inr ⟨0, lost, world, rfl, rfl⟩

def asked : Collector Unit :=
  [(.required, Provider.duration), (.optional, patchy)]

def patchySuite : Suite Unit :=
  obligingSuite.asking asked

def tried : ExecutionResult :=
  { (default : ExecutionResult) with execution := { (default : Execution) with number := 1 } }

theorem patchy_engine_unseen :
    ((Course.start .never ()).collect (.execution tried) asked []).1 =
        .ok [Provider.durationOf tried.duration] ∧
    (∃ halt, ((Course.start .never ()).collect (.execution tried)
      [(.optional, patchy), (.required, patchy)] []).1 = .error halt) ∧
    (patchySuite.runBenchmark sized (.start .never ())).1.toOption.map BenchmarkResult.phase =
      some .completed ∧
    (patchySuite.asking [(.required, Provider.duration), (.optional, patched)]).runBenchmark sized
      (.start .never ()) = patchySuite.runBenchmark sized (.start .never ()) := by
  obtain ⟨rounds, spared⟩ := @optional_failures_unseen Unit
  obtain ⟨-, -, answers⟩ := rounds asked (.execution tried) (.start .never ())
  obtain ⟨fails, -, -⟩ :=
    rounds [(.optional, patchy), (.required, patchy)] (.execution tried) (.start .never ())
  refine ⟨answers ?_, (fails ?_).mpr ⟨lost, List.mem_cons_of_mem _ List.mem_cons_self⟩,
    by decide +kernel,
    spared patchySuite _ sized _ (.cons (.same _) (.cons (.optional patched_spares) .nil))⟩
  · intro x member
    rcases List.mem_pair.mp member with rfl | rfl <;> rfl
  · intro x member panic same
    rcases List.mem_pair.mp member with rfl | rfl <;> cases same

end Suite

end SqlBench
