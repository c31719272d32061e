import SqlBench.Proofs.Collector
import SqlBench.Proofs.Pool.Script

set_option autoImplicit false

namespace SqlBench

structure Echo where
  -- By how much later a benchmark has started.
  since : Span
  -- By how much later everything else is.
  delay : Span
  -- What becomes of the number of warm-up runs, in which alone benchmarks may differ.
  warmUps : Nat → Nat

namespace Echo

def later (d : Span) : Echo :=
  ⟨d, d, id⟩

variable (k : Echo)

def benchmark (b : Benchmark) : Benchmark :=
  { b with prewarmRuns := k.warmUps b.prewarmRuns }

def execution (e : Execution) : Execution :=
  { e with benchmark := k.benchmark e.benchmark }

def result (r : ExecutionResult) : ExecutionResult :=
  { r with execution := k.execution r.execution, start := k.delay + r.start, finish := k.delay + r.finish }

def report (r : BenchmarkResult) : BenchmarkResult :=
  { r with
    benchmark := k.benchmark r.benchmark
    startedAt := k.since + r.startedAt
    finishedAt := r.finishedAt.map (k.delay + ·)
    executions := r.executions.map k.result }

def subject : Subject → Subject
  | .execution r => .execution (k.result r)
  | .benchmark r => .benchmark (k.report r)

def event : Event → Event
  | .benchmarkStarted b => .benchmarkStarted (k.benchmark b)
  | .benchmarkFinished r => .benchmarkFinished (k.report r)
  | .executionStarted e => .executionStarted (k.execution e)
  | .executionFinished r => .executionFinished (k.result r)

def heard (x : Moment × Event) : Moment × Event :=
  (k.delay + x.1, k.event x.2)

theorem result_duration (r : ExecutionResult) : (k.result r).duration = r.duration :=
  Nat.add_sub_add_left k.delay r.finish r.start

theorem result_fail (r : ExecutionResult) (cause : Failure) :
    (k.result r).fail cause = k.result (r.fail cause) :=
  rfl

theorem report_fail (r : BenchmarkResult) (cause : Failure) :
    (k.report r).addFailure cause = k.report (r.addFailure cause) :=
  rfl

theorem report_successful (r : BenchmarkResult) : (k.report r).isSuccessful = r.isSuccessful := by
  simp only [BenchmarkResult.isSuccessful, report, List.all_map]
  rfl

theorem report_status (r : BenchmarkResult) : (k.report r).status = r.status := by
  rw [BenchmarkResult.status, report_successful, BenchmarkResult.status]

theorem report_failed (r : BenchmarkResult) : (k.report r).failedExecutions = r.failedExecutions := by
  simp only [BenchmarkResult.failedExecutions, report, List.filter_map, List.length_map]
  rfl

theorem report_causes (r : BenchmarkResult) : (k.report r).failureCauses = r.failureCauses := by
  simp only [BenchmarkResult.failureCauses, report, List.filterMap_map]
  rfl

theorem foldl_moved {f : Nat → Nat → Nat} (moves : ∀ d a b, f (d + a) (d + b) = d + f a b) (d : Span)
    (first : Moment) (rest : List Moment) :
    (rest.map (d + ·)).foldl f (d + first) = d + rest.foldl f first := by
  induction rest generalizing first with
  | nil => rfl
  | cons next rest ih =>
      rw [List.map_cons, List.foldl_cons, moves, ih, List.foldl_cons]

theorem earliest_moved (d : Span) (moments : List Moment) :
    BenchmarkResult.earliest? (moments.map (d + ·)) = (BenchmarkResult.earliest? moments).map (d + ·) := by
  cases moments with
  | nil => rfl
  | cons first rest => exact congrArg some (foldl_moved Nat.add_min_add_left d first rest)

theorem latest_moved (d : Span) (moments : List Moment) :
    BenchmarkResult.latest? (moments.map (d + ·)) = (BenchmarkResult.latest? moments).map (d + ·) := by
  cases moments with
  | nil => rfl
  | cons first rest => exact congrArg some (foldl_moved Nat.add_max_add_left d first rest)

theorem report_duration (r : BenchmarkResult) : (k.report r).queryDuration = r.queryDuration := by
  have starts : (k.report r).executions.map ExecutionResult.start =
      (r.executions.map ExecutionResult.start).map (k.delay + ·) := by
    simp only [report, List.map_map]
    rfl
  have ends : (k.report r).executions.map ExecutionResult.finish =
      (r.executions.map ExecutionResult.finish).map (k.delay + ·) := by
    simp only [report, List.map_map]
    rfl
  rw [BenchmarkResult.queryDuration, starts, ends, earliest_moved, latest_moved,
    BenchmarkResult.queryDuration]
  cases BenchmarkResult.earliest? (r.executions.map ExecutionResult.start) with
  | none => rfl
  | some first =>
      cases BenchmarkResult.latest? (r.executions.map ExecutionResult.finish) with
      | none => rfl
      | some last => exact congrArg some (Nat.add_sub_add_left k.delay last first)

end Echo

variable {σ : Type}

-- How long a call takes and how it ends depends on nothing but the call, whatever number its
-- connection has, and none asks for a stop.
structure Services.Steady (services : Services σ) : Prop where
  alike : ∀ {call call' : Call}, call'.unnumbered = call.unnumbered → ∀ world world',
    (services.take call' world').1 = (services.take call world).1
  calm : ∀ call world, (services.take call world).1.requestsStop = false

-- What is told of a subject, and how long it takes, does not depend on when it was, or on what was
-- asked before.
def Collector.Impartial (collector : Collector σ) (k : Echo) : Prop :=
  ∀ x ∈ collector, ∀ subject world world',
    (x.2 (k.subject subject) world').1 = (x.2 subject world).1

namespace Collector

theorem ask_impartial {k : Echo} {rest : Collector σ} (impartial : rest.Impartial k)
    (subject : Subject) (asked : Nat) (heard : List Measurement) (world world' : σ) :
    (ask (k.subject subject) rest asked heard world').1 = (ask subject rest asked heard world).1 := by
  induction rest generalizing asked heard world world' with
  | nil => rfl
  | cons x rest ih =>
      obtain ⟨own, others⟩ := List.forall_mem_cons.mp impartial
      have later (heard : List Measurement) :=
        ih others (asked + 1) heard (x.2 subject world).2 (x.2 (k.subject subject) world').2
      rw [ask, ask]
      dsimp only
      rw [own subject world world']
      split
      · cases x.1.heed heard (x.2 subject world).1.finding with
        | ok found => exact later found
        | error halt => rfl
      · rfl

theorem go_on_impartial {k : Echo} {collector : Collector σ} (impartial : collector.Impartial k)
    (subject : Subject) (asked : Nat) (heard : Finding) (world world' : σ) :
    (collector.goOn (k.subject subject) asked heard world').1 =
      (collector.goOn subject asked heard world).1 := by
  cases heard with
  | ok heard =>
      exact ask_impartial (fun x member => impartial x (List.mem_of_mem_drop member)) subject asked heard
        world world'
  | error halt => rfl

theorem duration_impartial (k : Echo) (subject : Subject) (world world' : σ) :
    (Provider.duration (k.subject subject) world').1 = (Provider.duration subject world).1 := by
  cases subject with
  | execution r =>
      simp only [Echo.subject, Provider.duration, Echo.result_duration]
  | benchmark r =>
      have same : (k.report r).benchmark.isConcurrent = r.benchmark.isConcurrent := rfl
      simp only [Echo.subject, Provider.duration, same, Echo.report_duration]
      split
      · split <;> rfl
      · rfl

theorem throughput_impartial (k : Echo) (subject : Subject) (world world' : σ) :
    (Provider.throughput (k.subject subject) world').1 = (Provider.throughput subject world).1 := by
  cases subject with
  | execution r => rfl
  | benchmark r =>
      have same : (k.report r).benchmark.isConcurrent = r.benchmark.isConcurrent := rfl
      have count : (k.report r).executions.length = r.executions.length := List.length_map _
      simp only [Echo.subject, Provider.throughput, Provider.throughputOf, same, count,
        Echo.report_successful, Echo.report_duration]
      rfl

theorem engine_impartial {client : EngineClient σ}
    (steady : ∀ id world world', (client id world').1 = (client id world).1) (k : Echo)
    (subject : Subject) (world world' : σ) :
    (Provider.engine client (k.subject subject) world').1 =
      (Provider.engine client subject world).1 := by
  cases subject with
  | execution r =>
      have same : (k.result r).queryId = r.queryId := rfl
      simp only [Echo.subject, Provider.engine, same]
      cases r.queryId with
      | none => rfl
      | some id => exact steady id world world'
  | benchmark r => rfl

theorem standard_impartial {client : EngineClient σ}
    (steady : ∀ id world world', (client id world').1 = (client id world).1) (k : Echo) :
    (standard ++ [(Requirement.optional, Provider.engine client)]).Impartial k := by
  simp only [Collector.Impartial, standard, List.cons_append, List.nil_append, List.forall_mem_cons]
  exact ⟨duration_impartial k, throughput_impartial k, engine_impartial steady k, by simp⟩

end Collector

theorem map_alike {ε α β γ : Type} {f : α → γ} {g : β → γ} {x : Except ε α} {y : Except ε β}
    (same : y.map g = x.map f) :
    (∃ e, x = .error e ∧ y = .error e) ∨ ∃ a b, x = .ok a ∧ y = .ok b ∧ g b = f a := by
  cases x with
  | error e =>
      cases y with
      | error e' =>
          cases same
          exact .inl ⟨e, rfl, rfl⟩
      | ok b => cases same
  | ok a =>
      cases y with
      | error e => cases same
      | ok b => exact .inr ⟨a, b, rfl, rfl, Except.ok.inj same⟩

theorem cases_alike {x y : Except Halt Unit} {A B : Halt → Prop} {C D : Prop} (same : y = x)
    (one : (∃ cause, x = .error cause ∧ A cause) ∨ (x = .ok () ∧ C))
    (second : (∃ cause, y = .error cause ∧ B cause) ∨ (y = .ok () ∧ D)) :
    (∃ cause, x = .error cause ∧ A cause ∧ B cause) ∨ (x = .ok () ∧ C ∧ D) := by
  rcases one with ⟨cause, failed, remains⟩ | ⟨fine, remains⟩
  · rcases second with ⟨cause', failed', follows⟩ | ⟨fine', -⟩
    · rw [same, failed] at failed'
      cases failed'
      exact .inl ⟨cause, failed, remains, follows⟩
    · rw [same, failed] at fine'
      cases fine'
  · rcases second with ⟨cause', failed', -⟩ | ⟨-, follows⟩
    · rw [same, fine] at failed'
      cases failed'
    · exact .inr ⟨fine, remains, follows⟩

namespace Course

-- A course at which another has arrived that is behind it, if neither is to stop. Since some moment
-- the other has told what this one has.
structure Echoes (k : Echo) (before before' : List (Moment × Event)) (c c' : Course σ) : Prop where
  now : c'.now = k.delay + c.now
  tick : c'.tick = c.tick
  stop : c.stop = .never
  stop' : c'.stop = .never
  events : ∃ told, c.events = before ++ told ∧ c'.events = before' ++ told.map k.heard

variable {k : Echo} {before before' : List (Moment × Event)} {c c' : Course σ}

theorem Echoes.silent (echoes : Echoes k before before' c c') {later later' : Course σ}
    (quiet : c.Silent later) (quiet' : c'.Silent later') (now : later'.now = k.delay + later.now)
    (stop : later.stop = c.stop) (stop' : later'.stop = c'.stop) :
    Echoes k before before' later later' :=
  ⟨now, by rw [quiet'.tick, quiet.tick, echoes.tick], stop.trans echoes.stop,
    stop'.trans echoes.stop', by rw [quiet.events, quiet'.events]; exact echoes.events⟩

theorem Echoes.advance (echoes : Echoes k before before' c c') (t : Moment) :
    Echoes k before before' (c.advanceTo t) (c'.advanceTo (k.delay + t)) := by
  refine echoes.silent (c.silent_advance t) (c'.silent_advance _) ?_ rfl rfl
  simp only [advanceTo, echoes.now, Nat.add_max_add_left]

theorem Echoes.wait (echoes : Echoes k before before' c c') (d : Span) :
    Echoes k before before' (c.advanceTo (c.now + d)) (c'.advanceTo (c'.now + d)) := by
  rw [echoes.now, Nat.add_assoc]
  exact echoes.advance (c.now + d)

theorem Echoes.read (echoes : Echoes k before before' c c') :
    Echoes k before before' c.readClock.2 c'.readClock.2 := by
  simp only [readClock, echoes.tick]
  exact echoes.wait c.tick

theorem Echoes.note (echoes : Echoes k before before' c c') {entry entry' : Entry}
    (quiet : ∀ event, entry ≠ .posted event) (quiet' : ∀ event, entry' ≠ .posted event) :
    Echoes k before before' (c.note entry) (c'.note entry') :=
  echoes.silent (c.silent_note entry quiet) (c'.silent_note entry' quiet') echoes.now rfl rfl

theorem Echoes.close (echoes : Echoes k before before' c c') (line line' : Option Connection) :
    Echoes k before before' (c.close line) (c'.close line') := by
  refine echoes.silent (c.silent_close line) (c'.silent_close line') ?_ ?_ ?_
  · cases line <;> cases line' <;> exact echoes.now
  · cases line <;> rfl
  · cases line' <;> rfl

theorem Echoes.post (echoes : Echoes k before before' c c') (event : Event) :
    Echoes k before before' (c.post event) (c'.post (k.event event)) := by
  obtain ⟨told, whole, whole'⟩ := echoes.events
  refine ⟨echoes.now, echoes.tick, echoes.stop, echoes.stop', told ++ [(c.now, event)], ?_, ?_⟩
  · rw [events_post, whole, List.append_assoc]
  · rw [events_post, whole', echoes.now, List.map_append, List.append_assoc]
    rfl

theorem Echoes.turn (echoes : Echoes k before before' c c') (world world' : σ) :
    Echoes k before before' { c with world := world } { c' with world := world' } :=
  ⟨echoes.now, echoes.tick, echoes.stop, echoes.stop', echoes.events⟩

theorem Echoes.take {services : Services σ} (steady : services.Steady)
    (echoes : Echoes k before before' c c') {call call' : Call}
    (same : call'.unnumbered = call.unnumbered) :
    (c'.take services call').1 = (c.take services call).1 ∧
      Echoes k before before' (c.take services call).2 (c'.take services call').2 := by
  refine ⟨steady.alike same c.world c'.world, ?_⟩
  refine echoes.silent (c.silent_take services call) (c'.silent_take services call') ?_ ?_ ?_
  · cases call <;> cases call' <;> exact echoes.now
  · cases call <;> rfl
  · cases call' <;> rfl

theorem settle_alike {call call' : Call} (same : call'.unnumbered = call.unnumbered)
    (promise : Promise) (c c' : Course σ) :
    (c'.settle call' promise).1.unnumbered = (c.settle call promise).1.unnumbered := by
  -- To a script that always ends like this the two calls are one.
  let script : Pool.Script := ⟨fun _ => 0, fun _ => promise.ending, []⟩
  have brought : (c.settle call promise).1.unnumbered = script.outcome call.unnumbered :=
    Pool.settle_unnumbered rfl c
  have brought' : (c'.settle call' promise).1.unnumbered = script.outcome call'.unnumbered :=
    Pool.settle_unnumbered rfl c'
  rw [brought', brought, same]

theorem settled_now (c : Course σ) (call : Call) (promise : Promise) :
    (c.settle call promise).2.now = (c.elapse promise).now ∧
      (c.settle call promise).2.stop = (c.elapse promise).stop := by
  rcases settle_course c call promise with same | ⟨opened, entry, -, same⟩
  · rw [same]
    exact ⟨rfl, rfl⟩
  · rw [same]
    exact ⟨rfl, rfl⟩

theorem Echoes.settle (echoes : Echoes k before before' c c') (call call' : Call) {promise : Promise}
    (calm : promise.requestsStop = false) :
    Echoes k before before' (c.settle call promise).2 (c'.settle call' promise).2 := by
  obtain ⟨now, stop⟩ := settled_now c call promise
  obtain ⟨now', stop'⟩ := settled_now c' call' promise
  refine echoes.silent (c.silent_settle call promise) (c'.silent_settle call' promise) ?_ ?_ ?_
  · rw [now, now']
    exact (echoes.wait promise.effort).now
  · rw [stop, elapse, calm, Bool.or_false]
    rfl
  · rw [stop', elapse, calm, Bool.or_false]
    rfl

end Course

namespace Hook

variable {services : Services σ} {k : Echo} {before before' : List (Moment × Event)} {c c' : Course σ}

theorem steps_echo (services : Services σ) (k : Echo) (s : Setting) (name : String) :
    steps services { s with benchmark := s.benchmark.map k.benchmark } name = steps services s name := by
  rw [steps, steps]
  cases lookup services.hooks name with
  | none => rfl
  | some hook =>
      cases hook with
      | shell command => rfl
      | query file =>
          dsimp only
          rw [querySteps, querySteps]
          cases s.benchmark <;> rfl

def Alike (k : Echo) (before before' : List (Moment × Event)) (done done' : Except Halt Unit × Course σ) :
    Prop :=
  done'.1 = done.1 ∧ Course.Echoes k before before' done.2 done'.2

theorem await_echoes (steady : services.Steady) (echoes : Course.Echoes k before before' c c')
    {call call' : Call} (same : call'.unnumbered = call.unnumbered) :
    (c'.await services call').1.unnumbered = (c.await services call).1.unnumbered ∧
      Course.Echoes k before before' (c.await services call).2 (c'.await services call').2 := by
  obtain ⟨promise, taken⟩ := echoes.take steady same
  have calm := steady.calm call c.world
  have waited := taken.wait (c.take services call).1.delay
  simp only [Course.await, promise]
  exact ⟨Course.settle_alike same _ _ _, waited.settle call call' calm⟩

theorem perform_echoes (steady : services.Steady) (steps : List Step) {lines lines' : Lines}
    (same : lines'.unnumbered = lines.unnumbered) (echoes : Course.Echoes k before before' c c') :
    Alike k before before' (perform services steps lines c) (perform services steps lines' c') := by
  induction steps generalizing lines lines' c c' with
  | nil => exact ⟨rfl, echoes⟩
  | cons step rest ih =>
      have called := call_unnumbered step lines
      have called' := call_unnumbered step lines'
      rw [same, called] at called'
      cases step with
      | refuse cause => exact ⟨rfl, echoes.close lines.own lines'.own⟩
      | hangUp =>
          have given : lines'.unnumbered.given = lines.unnumbered.given := congrArg Lines.given same
          refine ih ?_ (echoes.close lines.own lines'.own)
          exact congrArg (Lines.mk · none) given
      | _ =>
          simp only [perform]
          split
          · rename_i silent
            rw [silent] at called'
            rw [Option.map_eq_none_iff.mp called'.symm]
            exact ih same echoes
          · rename_i call calls
            rw [calls] at called'
            obtain ⟨call', calls', named⟩ := Option.map_eq_some_iff.mp called'.symm
            obtain ⟨outcome, awaited⟩ := await_echoes steady echoes named
            have received := receive_unnumbered lines (c.await services call).1
            have received' := receive_unnumbered lines' (c'.await services call').1
            rw [outcome, same, received] at received'
            rw [calls']
            dsimp only
            rcases map_alike received'.symm with ⟨cause, failed, failed'⟩ | ⟨later, later', ok, ok', stays⟩
            · rw [failed, failed']
              exact ⟨rfl, awaited.close lines.own lines'.own⟩
            · rw [ok, ok']
              exact ih stays awaited

theorem bracket_echoes (steady : services.Steady) (echoes : Course.Echoes k before before' c c')
    (occasion occasion' : Occasion) (b : Option Benchmark) (names : List String) :
    Alike k before before' (bracket services occasion b names c)
      (bracket services occasion' (b.map k.benchmark) names c') := by
  have noted : Course.Echoes k before before' (c.note (.hooks occasion names))
      (c'.note (.hooks occasion' names)) := echoes.note (by simp) (by simp)
  have same : steps services { Setting.around (b.map k.benchmark) with isConnected := false } =
      steps services { Setting.around b with isConnected := false } := by
    funext name
    cases b with
    | none => rfl
    | some b => exact steps_echo services k { Setting.around (some b) with isConnected := false } name
  rw [bracket, bracket, runAll, runAll]
  dsimp only [Option.isSome_none]
  rw [same]
  exact perform_echoes steady _ rfl noted

end Hook

end SqlBench
