import SqlBench.Proofs.Pool.Fate
import SqlBench.Proofs.Pool.Stages

set_option autoImplicit false

namespace SqlBench.Pool

variable {σ : Type}

def GoesOn (p : Pool σ) : Course σ → Course σ → Prop :=
  Relation.ReflTransGen fun a b => ∃ s later, Step p s later ∧ s.course = a ∧ later.course = b

theorem goes_on_step {p : Pool σ} {s later : State σ} (step : Step p s later) :
    p.GoesOn s.course later.course :=
  .single ⟨s, later, step, rfl, rfl⟩

theorem goes_on_onward {p : Pool σ} {a b : Course σ} (goesOn : p.GoesOn a b) : a.Onward b := by
  induction goesOn with
  | refl => exact .refl _
  | tail _ step ih =>
      obtain ⟨s, later, step, rfl, rfl⟩ := step
      exact ih.trans (step_grows step).course

theorem goes_on_notice (p : Pool σ) (held : Option Crash) (s : State σ) :
    p.GoesOn s.course (p.notice held s).course := by
  cases held with
  | none => exact .refl
  | some x =>
      have noticed : (p.attend { s with crash := some x }).course = (p.notice (some x) s).course := by
        rw [attend, notice_crashed, notice_crashed]
        split <;> rfl
      have step : Step p { s with crash := some x } (p.attend { s with crash := some x }) :=
        .attend x rfl
      have goesOn := goes_on_step step
      rw [noticed] at goesOn
      exact goesOn

def Begins (p : Pool σ) (executions : List Execution) (c : Course σ) (place : Nat) (e : Execution)
    (begun : Course σ) : Prop :=
  ∃ s rest, p.Reaches (.start executions c) s ∧ s.queue = (place, e) :: rest ∧
    p.isStopped s = false ∧ begun = p.post (.executionStarted e) s.course

-- How an execution is concluded that begins at a course: its work comes to an end, and then its
-- providers are asked.
inductive Concludes (p : Pool σ) (others : Course σ → Course σ → Prop) (e : Execution)
    (begun : Course σ) : Except String ExecutionResult → Prop where
  | answered {raw : ExecutionResult} {ended later : Course σ} {finding : Finding}
      (works : Proceeds p.services others (tasks p.services e) (.start e) begun (.finished raw) ended)
      (collects : Course.Collects others (.execution raw) p.services.collector (.ok []) ended finding
        later) : Concludes p others e begun (judge raw finding)
  | crashed {panic : String} {later : Course σ}
      (works : Proceeds p.services others (tasks p.services e) (.start e) begun (.crashed panic) later) :
      Concludes p others e begun (.error panic)

def Comes (p : Pool σ) (executions : List Execution) (c : Course σ) (place : Nat) (e : Execution)
    (outcome : Except String ExecutionResult) : Prop :=
  ∃ begun, p.Begins executions c place e begun ∧ p.Concludes p.GoesOn e begun outcome

inductive Fate.Told (e : Execution) (comes : Except String ExecutionResult → Prop) : Fate → Prop where
  | finished {r : ExecutionResult} (came : comes (.ok r)) : Told e comes (.finished r)
  | recorded {panic : String} (came : comes (.error panic)) (now : Moment) :
      Told e comes (.finished (crashedResult e panic now))
  | crashed {panic : String} (came : comes (.error panic)) : Told e comes (.crashed panic)

section Moves

variable {p : Pool σ} {others : Course σ → Course σ → Prop}
  {comes : Except String ExecutionResult → Prop}

-- An execution is over, and whatever its providers still come to is what it comes to.
def Asks (p : Pool σ) (others : Course σ → Course σ → Prop)
    (comes : Except String ExecutionResult → Prop) (r : ExecutionResult) (asked : Nat)
    (heard : Finding) (c : Course σ) : Prop :=
  ∀ finding later, Course.Collects others (.execution r) (p.services.collector.drop asked) heard c
    finding later → comes (judge r finding)

def Works (p : Pool σ) (others : Course σ → Course σ → Prop)
    (comes : Except String ExecutionResult → Prop) : Standing → Course σ → Prop
  | .finished r, c => p.Asks others comes r 0 (.ok []) c
  | .crashed panic, _ => comes (.error panic)
  | _, _ => True

def Wait.Leads (p : Pool σ) (others : Course σ → Course σ → Prop)
    (comes : Except String ExecutionResult → Prop) (taken : Course σ) (wakes : Moment) : Wait → Prop
  | .call nap => ∀ mid standing later, others taken mid →
      nap.Proceeds p.services others (mid.advanceTo wakes) standing later →
      p.Works others comes standing later
  | .answer r heard asked => ∀ mid, others taken mid →
      p.Asks others comes r asked heard (mid.advanceTo wakes)

-- What an execution makes of a state when it goes on: it waits, or what it has come to is told.
inductive Moves (p : Pool σ) (others : Course σ → Course σ → Prop)
    (comes : Except String ExecutionResult → Prop) (place : Nat) (e : Execution) (s : State σ) :
    State σ → Prop where
  | sleeps (taken : Course σ) (delay : Span) (wait : Wait) (fits : wait.Fits e)
      (leads : wait.Leads p others comes taken (taken.now + delay)) :
      Moves p others comes place e s (({ s with course := taken } : State σ).sleep place e delay wait)
  | records (taken : Course σ) {r : ExecutionResult} (came : comes (.ok r)) :
      Moves p others comes place e s (p.record place r { s with course := taken })
  | breaks (taken : Course σ) {panic : String} (came : comes (.error panic)) :
      Moves p others comes place e s { s with course := taken, crash := some ⟨place, e, panic⟩ }

theorem inquire_moves (refl : ∀ c, others c c) {e : Execution} {r : ExecutionResult}
    (own : r.execution = e) {asked : Nat} {heard : Finding} {s : State σ} {c : Course σ}
    (asks : p.Asks others comes r asked heard c) (place : Nat) :
    p.Moves others comes place e s (p.inquire place e r asked heard { s with course := c }) := by
  have leads := Collector.go_on_leads refl c (fun finding _ => comes (judge r finding)) asks
  rw [inquire]
  generalize p.services.collector.goOn (.execution r) asked heard c.world = gone at leads
  obtain ⟨round, world⟩ := gone
  cases round with
  | waiting delay found later =>
      exact .sleeps { c with world := world } delay (.answer r found later) own
        fun mid goneOn finding last collects => leads mid finding last goneOn collects
  | done finding =>
      cases finding with
      | ok found => exact .records { c with world := world } leads
      | error halt =>
          cases halt with
          | failed cause => exact .records { c with world := world } leads
          | crashed panic => exact .breaks { c with world := world } leads

theorem follow_moves (refl : ∀ c, others c c) {e : Execution} {standing : Standing}
    (fits : standing.Fits e) {s : State σ} {c : Course σ}
    (leads : standing.Leads p.services others (p.Works others comes) c) (place : Nat) :
    p.Moves others comes place e s (p.follow place e standing { s with course := c }) := by
  cases standing with
  | waiting nap => exact .sleeps c nap.promise.delay (.call nap) fits leads
  | finished r => exact inquire_moves refl fits leads place
  | dropped cause => exact False.elim fits
  | crashed panic => exact .breaks c leads

theorem resume_moves (refl : ∀ c, others c c) {x : Sleeper} (fits : x.wait.Fits x.execution)
    {s : State σ} {taken mid : Course σ} (goneOn : others taken mid)
    (leads : x.wait.Leads p others comes taken x.wakes) :
    p.Moves others comes x.place x.execution s
      (p.resume x { s with course := mid.advanceTo x.wakes }) := by
  cases wait : x.wait with
  | call nap =>
      rw [wait] at fits leads
      rw [resume_call p wait]
      exact follow_moves refl (resume_fits p.services fits _)
        (resume_leads refl fits _ fun standing later => leads mid standing later goneOn) x.place
  | answer r heard asked =>
      rw [wait] at fits leads
      rw [resume_answer p wait]
      exact inquire_moves refl fits (leads mid goneOn) x.place

theorem opening_moves (p : Pool σ) {others : Course σ → Course σ → Prop} (refl : ∀ c, others c c)
    (e : Execution) (s : State σ) (c : Course σ) (comes : Except String ExecutionResult → Prop)
    (concludes : ∀ outcome, p.Concludes others e (p.post (.executionStarted e) c) outcome →
      comes outcome) (place : Nat) :
    p.Moves others comes place e s (p.follow place e (p.opening e c).1
      { s with course := (p.opening e c).2 }) := by
  refine follow_moves refl (opening_fits p e c) (work_leads refl _ _ _ _ (start_fits p.services e) ?_) place
  intro standing later proceeds
  cases standing with
  | finished r => exact fun finding last collects => concludes _ (.answered proceeds collects)
  | crashed panic => exact concludes _ (.crashed proceeds)
  | _ => trivial

end Moves

-- Whoever sleeps does so since a course from which the pool has only gone on.
def Sleeper.Dreams (p : Pool σ) (executions : List Execution) (c now : Course σ) (x : Sleeper) : Prop :=
  ∃ taken, p.GoesOn taken now ∧
    x.wait.Leads p p.GoesOn (p.Comes executions c x.place x.execution) taken x.wakes

structure State.Attests (p : Pool σ) (executions : List Execution) (c : Course σ) (s : State σ) :
    Prop where
  broken : ∀ x, s.crash = some x → p.Comes executions c x.place x.execution (.error x.panic)
  told : ∀ f ∈ s.fates, f.2 = .skipped ∨ ∃ e, f.2.Told e (p.Comes executions c f.1 e)

section Attests

variable {p : Pool σ} {executions : List Execution} {c : Course σ} {s later : State σ} {place : Nat}
  {e : Execution}

theorem dreams_on {now after : Course σ} {x : Sleeper} (dreams : x.Dreams p executions c now)
    (goesOn : p.GoesOn now after) : x.Dreams p executions c after := by
  obtain ⟨taken, since, leads⟩ := dreams
  exact ⟨taken, since.trans goesOn, leads⟩

theorem conclude_attests (attests : s.Attests p executions c) {fate : Fate}
    (told : fate.Told e (p.Comes executions c place e)) :
    (s.conclude place fate).Attests p executions c := by
  refine ⟨attests.broken, fun f member => ?_⟩
  rcases List.mem_append.mp member with before | new
  · exact attests.told f before
  · rw [List.mem_singleton.mp new]
    exact .inr ⟨e, told⟩

theorem record_attests (attests : s.Attests p executions c) {r : ExecutionResult}
    (told : (Fate.finished r).Told e (p.Comes executions c place e)) :
    (p.record place r s).Attests p executions c :=
  ⟨(conclude_attests attests told).broken, (conclude_attests attests told).told⟩

theorem notice_attests (attests : s.Attests p executions c) {held : Option Crash}
    (broken : ∀ x, held = some x → p.Comes executions c x.place x.execution (.error x.panic)) :
    (p.notice held s).Attests p executions c := by
  cases held with
  | none => exact attests
  | some x =>
      have came := broken x rfl
      rw [notice_crashed]
      split
      · exact record_attests attests (.recorded came _)
      · exact conclude_attests attests (.crashed came)

theorem moves_attests (attests : s.Attests p executions c)
    (moves : p.Moves p.GoesOn (p.Comes executions c place e) place e s later) :
    later.Attests p executions c := by
  cases moves with
  | sleeps taken delay wait => exact ⟨attests.broken, attests.told⟩
  | records taken came =>
      exact record_attests (s := { s with course := taken }) ⟨attests.broken, attests.told⟩ (.finished came)
  | breaks taken came =>
      refine ⟨fun x same => ?_, attests.told⟩
      cases same
      exact came

theorem moves_dreams {now : Course σ} (dreams : ∀ x ∈ s.running, x.Dreams p executions c now)
    (moves : p.Moves p.GoesOn (p.Comes executions c place e) place e s later)
    (goesOn : p.GoesOn later.course now) : ∀ x ∈ later.running, x.Dreams p executions c now := by
  intro x member
  cases moves with
  | sleeps taken delay wait fits leads =>
      rcases List.mem_append.mp member with before | new
      · exact dreams x before
      · rw [List.mem_singleton.mp new]
        exact ⟨taken, goesOn, leads⟩
  | _ => exact dreams x member

-- A state that is reached, and what is known of those that sleep and of those that are done.
structure State.Lived (p : Pool σ) (executions : List Execution) (c : Course σ) (s : State σ) :
    Prop where
  reached : p.Reaches (.start executions c) s
  dreams : ∀ x ∈ s.running, x.Dreams p executions c s.course
  attests : s.Attests p executions c

theorem enter_lived {x : Nat × Execution} {rest : List (Nat × Execution)}
    (lived : s.Lived p executions c) (waiting : s.queue = x :: rest) (goesOn : p.isStopped s = false)
    (free : s.permitsInUse < p.permits) : (p.enter x rest s).Lived p executions c := by
  have step : Step p s (p.enter x rest s) := .enter waiting goesOn free
  have refl : ∀ c, p.GoesOn c c := fun _ => .refl
  have moves := opening_moves p refl x.2 { s with queue := rest, crash := none } s.course
    (p.Comes executions c x.1 x.2)
    (fun outcome concludes => ⟨_, ⟨s, rest, lived.reached, waiting, goesOn, rfl⟩, concludes⟩) x.1
  have noticed := goes_on_notice p s.crash (p.launch x.1 x.2 { s with queue := rest, crash := none })
  refine ⟨lived.reached.tail step, fun y member => ?_, ?_⟩
  · rw [enter, notice_running] at member
    refine moves_dreams (s := { s with queue := rest, crash := none }) (fun z slept => ?_) moves noticed y
      member
    exact dreams_on (lived.dreams z slept) (goes_on_step step)
  · have aside : State.Attests p executions c { s with queue := rest, crash := none } :=
      ⟨by simp, lived.attests.told⟩
    exact notice_attests (moves_attests aside moves) lived.attests.broken

theorem wake_lived {x : Sleeper} {others : List Sleeper} (lived : s.Lived p executions c)
    (parked : s.Parked p) (found : next? s.running = some (x, others)) :
    (p.wake x others x.wakes s).Lived p executions c := by
  obtain ⟨before, after, whole, rfl⟩ := next_splits found
  have step : Step p s (p.wake x (before ++ after) x.wakes s) :=
    .wake x x.wakes whole (Nat.le_refl _) parked.noticed
  have asleep : x ∈ s.running := by simp [whole]
  have fits := ((reached_orderly lived.reached).asleep x asleep).2
  obtain ⟨taken, since, leads⟩ := lived.dreams x asleep
  have moves := resume_moves (s := { s with running := before ++ after }) (fun _ => .refl) fits since leads
  refine ⟨lived.reached.tail step, ?_, ?_⟩
  · refine moves_dreams (s := { s with running := before ++ after }) (fun y member => ?_) moves .refl
    have slept : y ∈ s.running := by
      rw [whole]
      rcases List.mem_append.mp member with left | right
      · exact List.mem_append_left _ left
      · exact List.mem_append_right _ (List.mem_cons_of_mem _ right)
    exact dreams_on (lived.dreams y slept) (goes_on_step step)
  · have awake : State.Attests p executions c { s with running := before ++ after } :=
      ⟨lived.attests.broken, lived.attests.told⟩
    exact moves_attests awake moves

theorem aside_lived (lived : s.Lived p executions c) {aside : State σ}
    (step : Step p s (p.notice s.crash aside)) (same : aside.running = s.running)
    (attests : aside.Attests p executions c) : (p.notice s.crash aside).Lived p executions c := by
  refine ⟨lived.reached.tail step, fun x member => ?_, notice_attests attests lived.attests.broken⟩
  rw [notice_running, same] at member
  exact dreams_on (lived.dreams x member) (goes_on_step step)

theorem turn_away_attests (attests : s.Attests p executions c) :
    (skip { s with crash := none } s.queue).Attests p executions c := by
  refine ⟨by simp [skip], fun f member => ?_⟩
  rcases List.mem_append.mp member with before | new
  · exact attests.told f before
  · obtain ⟨x, -, rfl⟩ := List.mem_map.mp new
    exact .inl rfl

theorem turn_away_lived (lived : s.Lived p executions c) (waiting : s.queue ≠ [])
    (stopped : p.isStopped s = true) : (p.turnAway s).Lived p executions c :=
  aside_lived lived (.turnAway waiting stopped) rfl (turn_away_attests lived.attests)

theorem attend_lived (lived : s.Lived p executions c) {x : Crash} (broken : s.crash = some x) :
    (p.attend s).Lived p executions c :=
  aside_lived lived (.attend x broken) rfl ⟨by simp, lived.attests.told⟩

theorem start_lived (p : Pool σ) (executions : List Execution) (c : Course σ) :
    (State.start executions c).Lived p executions c :=
  ⟨.refl, by simp [State.start], by simp [State.start], by simp [State.start]⟩

theorem run_lived (p : Pool σ) (executions : List Execution) (c : Course σ) :
    (p.run executions c).Lived p executions c := by
  refine (run_keeps p ?_ ?_ ?_ ?_ executions c (start_lived p executions c)).1
  · exact fun s x rest lived waiting goesOn free => enter_lived lived waiting goesOn free
  · exact fun s lived waiting stopped => turn_away_lived lived waiting stopped
  · exact fun s x lived broken _ => attend_lived lived broken
  · exact fun s x others lived parked found => wake_lived lived parked found

end Attests

-- The result of an execution, from its first stage to the answer of the collector.
def Recorded (p : Pool σ) (others : Course σ → Course σ → Prop) (e : Execution) (begun : Course σ)
    (r : ExecutionResult) : Prop :=
  ∃ s ended collected later, Passes p.services others e begun s ended ∧ Gates s ∧
    Course.Collects others (.execution (s.bare e)) p.services.collector (.ok []) ended
      (collected.mapError .failed) later ∧ Records e begun.tick s collected r

inductive Panics (p : Pool σ) (others : Course σ → Course σ → Prop) (e : Execution) (begun : Course σ)
    (panic : String) : Prop where
  | calling {later : Course σ}
      (works : Proceeds p.services others (tasks p.services e) (.start e) begun (.crashed panic) later)
  | collecting {s : Stages} {ended later : Course σ} (passes : Passes p.services others e begun s ended)
      (collects : Course.Collects others (.execution (s.bare e)) p.services.collector (.ok []) ended
        (.error (.crashed panic)) later)

inductive Ends (p : Pool σ) (others : Course σ → Course σ → Prop) (e : Execution) (begun : Course σ) :
    Fate → Prop where
  | finished {r : ExecutionResult} (recorded : p.Recorded others e begun r) :
      Ends p others e begun (.finished r)
  | recorded {panic : String} (panics : p.Panics others e begun panic) (now : Moment) :
      Ends p others e begun (.finished (crashedResult e panic now))
  | crashed {panic : String} (panics : p.Panics others e begun panic) :
      Ends p others e begun (.crashed panic)

section Ends

variable {p : Pool σ} {others : Course σ → Course σ → Prop} {e : Execution} {fate : Fate}

theorem concludes_ends (goesOn : ∀ a b, others a b → a.Onward b) {begun : Course σ}
    {outcome : Except String ExecutionResult} (concludes : p.Concludes others e begun outcome) :
    match outcome with
    | .ok r => p.Recorded others e begun r
    | .error panic => p.Panics others e begun panic := by
  cases concludes with
  | crashed works => exact .calling works
  | @answered raw ended later finding works collects =>
      obtain ⟨s, passes, rfl⟩ := proceeds_stages works
      cases finding with
      | ok found =>
          exact ⟨s, ended, .ok found, later, passes, passes_gates passes, collects,
            passes_record goesOn passes (.ok found)⟩
      | error halt =>
          cases halt with
          | failed cause =>
              exact ⟨s, ended, .error cause, later, passes, passes_gates passes, collects,
                passes_record goesOn passes (.error cause)⟩
          | crashed panic => exact .collecting passes collects

theorem told_ends (goesOn : ∀ a b, others a b → a.Onward b)
    {comes : Except String ExecutionResult → Prop} {begins : Course σ → Prop}
    (came : ∀ outcome, comes outcome → ∃ begun, begins begun ∧ p.Concludes others e begun outcome)
    (told : fate.Told e comes) : ∃ begun, begins begun ∧ p.Ends others e begun fate := by
  cases told with
  | finished finished =>
      obtain ⟨begun, begins, concludes⟩ := came _ finished
      exact ⟨begun, begins, .finished (concludes_ends goesOn concludes)⟩
  | recorded crashed now =>
      obtain ⟨begun, begins, concludes⟩ := came _ crashed
      exact ⟨begun, begins, .recorded (concludes_ends goesOn concludes) now⟩
  | crashed crashed =>
      obtain ⟨begun, begins, concludes⟩ := came _ crashed
      exact ⟨begun, begins, .crashed (concludes_ends goesOn concludes)⟩

end Ends

inductive State.Lone (p : Pool σ) (e : Execution) (comes : Except String ExecutionResult → Prop)
    (s : State σ) : Prop where
  | asleep (x : Sleeper) (place : x.place = 0) (own : x.execution = e) (running : s.running = [x])
      (queue : s.queue = []) (noticed : s.crash = none) (fates : s.fates = [])
      (fits : x.wait.Fits e) (leads : x.wait.Leads p Eq comes s.course x.wakes)
  | done (fate : Fate) (fates : s.fates = [(0, fate)]) (told : fate.Told e comes)
      (running : s.running = [])

section Lone

variable {p : Pool σ} {e : Execution} {comes : Except String ExecutionResult → Prop} {s later : State σ}

theorem moves_lone (running : s.running = []) (noticed : s.crash = none) (fates : s.fates = [])
    (moves : p.Moves Eq comes 0 e s later) : (p.grant [] later).Lone p e comes := by
  cases moves with
  | sleeps taken delay wait fits leads =>
      rw [grant, State.sleep, noticed]
      exact .asleep ⟨0, e, taken.now + delay, wait⟩ rfl rfl (by simp [notice, running]) rfl rfl fates fits
        leads
  | records taken came =>
      rw [grant, record, State.conclude, noticed]
      exact .done _ (by simp [notice, fates]) (.finished came) running
  | breaks taken came =>
      rw [grant, notice_crashed]
      split
      · refine .done (.finished (crashedResult e _ taken.now)) ?_ (.recorded came taken.now) running
        simp [record, State.conclude, fates]
      · exact .done _ (by simp [State.conclude, fates]) (.crashed came) running

theorem turn_lone (lone : s.Lone p e comes) : (p.turn s).Lone p e comes := by
  cases lone with
  | done fate fates told running =>
      rw [turn_idle p (by rw [running]; rfl)]
      exact .done fate fates told running
  | asleep x place own running queue noticed fates fits leads =>
      have moves := resume_moves (s := { s with running := [] }) (fun _ => rfl) (own ▸ fits)
        (rfl : s.course = s.course) leads
      have next : next? s.running = some (x, []) := by
        rw [running]
        rfl
      rw [turn_wakes p next, wake_queue, queue]
      rw [place, own] at moves
      exact moves_lone (s := { s with running := [] }) rfl noticed fates moves

theorem alone_told (p : Pool σ) (e : Execution) (c : Course σ) (goesOn : p.isInterrupted c = false) :
    ∃ fate, (p.run [e] c).fates = [(0, fate)] ∧
      fate.Told e (p.Concludes Eq e (p.post (.executionStarted e) c)) := by
  have refl : ∀ c : Course σ, c = c := fun _ => rfl
  have moves := opening_moves p refl e ⟨[], [], [], none, false, c⟩ c
    (p.Concludes Eq e (p.post (.executionStarted e) c)) (fun _ concludes => concludes) 0
  have begins : p.grant (State.start [e] c).queue (State.start [e] c) =
      p.grant [] (p.follow 0 e (p.opening e c).1 ⟨[], [], [], none, false, (p.opening e c).2⟩) := by
    have free : (State.start [e] c).permitsInUse < p.permits := Nat.le_max_right _ _
    have goes : p.isStopped (State.start [e] c) = false := goesOn
    have started : (State.start [e] c).queue = [(0, e)] := rfl
    rw [started, grant.eq_2, if_neg (by rw [goes]; simp), if_pos free]
    rfl
  have lone (n : Nat) {s : State σ} (holds : s.Lone p e (p.Concludes Eq e (p.post (.executionStarted e) c))) :
      (p.turns n s).Lone p e (p.Concludes Eq e (p.post (.executionStarted e) c)) := by
    induction n generalizing s with
    | zero => exact holds
    | succ n ih => exact ih (turn_lone holds)
  have ended := lone (p.workload [e]) (begins ▸ moves_lone rfl rfl rfl moves)
  cases ended with
  | done fate fates told => exact ⟨fate, fates, told⟩
  | asleep x place own running =>
      have isDone := (run_done p [e] c).running
      rw [run, running] at isDone
      cases isDone

end Lone

theorem fate_unique {executions : List Execution} {s : State σ}
    (complete : (s.fates.map Prod.fst).Perm (List.range executions.length)) {place : Nat}
    {e : Execution} (placed : executions[place]? = some e) :
    ∃ fate, ∀ other, (place, other) ∈ s.fates ↔ other = fate := by
  have inside : place ∈ s.fates.map Prod.fst :=
    complete.mem_iff.mpr (List.mem_range.mpr (List.getElem?_eq_some_iff.mp placed).1)
  obtain ⟨⟨_, fate⟩, member, rfl⟩ := List.mem_map.mp inside
  refine ⟨fate, fun other => ⟨fun found => ?_, fun same => same ▸ member⟩⟩
  have once := List.inj_on_of_nodup_map (complete.nodup_iff.mpr List.nodup_range) found member rfl
  exact congrArg Prod.snd once

theorem begins_placed {p : Pool σ} {executions : List Execution} {c begun : Course σ} {place : Nat}
    {e : Execution} (begins : p.Begins executions c place e begun) :
    executions[place]? = some e ∧ begun.tick = c.tick := by
  obtain ⟨s, rest, reached, waiting, -, rfl⟩ := begins
  have onward := (reaches_grows reached).course.trans (onward_post p (.executionStarted e) s.course)
  exact ⟨(reached_orderly reached).queued (place, e) (by simp [waiting]), onward.tick⟩

theorem unbroken_proceeds {services : Services σ} {others : Course σ → Course σ → Prop}
    (unbroken : ∀ call world panic, (services.take call world).1.ending ≠ .crashed panic)
    {todo : List Task} {w : Worker} {c later : Course σ} {standing : Standing}
    (proceeds : Proceeds services others todo w c standing later) (panic : String) :
    standing ≠ .crashed panic := by
  induction proceeds with
  | ended => simp
  | passed silent passes behind ih => exact ih
  | received calls awaited receives behind ih => exact ih
  | @crashed task rest w c ended call text calls awaited =>
      obtain ⟨mid, -, same⟩ := awaited
      have promised : (c.take services call).1.ending ≠ .crashed text := unbroken call c.world text
      have crashes := congrArg Prod.fst same
      generalize (c.take services call).1 = promise at crashes promised
      cases call <;> cases ending : promise.ending <;> simp_all [Course.settle]

theorem unbroken_panics {p : Pool σ} {others : Course σ → Course σ → Prop} {e : Execution}
    {begun : Course σ}
    (answering : ∀ call world panic, (p.services.take call world).1.ending ≠ .crashed panic)
    (collecting : ∀ x ∈ p.services.collector, ∀ subject world panic,
      (x.2 subject world).1.finding ≠ .error (.crashed panic)) (panic : String) :
    ¬ p.Panics others e begun panic := by
  intro panics
  cases panics with
  | calling works => exact unbroken_proceeds answering works panic rfl
  | collecting passes collects =>
      exact Course.collects_sound (fun x member => collecting x member _) collects (by simp) panic rfl

/-- Each execution has one fate. If it was not skipped, it has gone through its stages, the first
failure of which is told, unless one of its calls panicked. Alone it does so undisturbed. -/
theorem executions_end_to_end (p : Pool σ) :
    (∀ executions c place e, executions[place]? = some e → ∃ fate,
      (∀ other, (place, other) ∈ (p.run executions c).fates ↔ other = fate) ∧
      (fate = .skipped ∨ ∃ begun, (p.Begins executions c place e begun ∧ begun.tick = c.tick) ∧
        p.Ends p.GoesOn e begun fate)) ∧
    (∀ e c, p.isInterrupted c = false → ∃ fate, (p.run [e] c).fates = [(0, fate)] ∧
      p.Ends Eq e (p.post (.executionStarted e) c) fate) ∧
    ((∀ call world panic, (p.services.take call world).1.ending ≠ .crashed panic) →
      (∀ x ∈ p.services.collector, ∀ subject world panic,
        (x.2 subject world).1.finding ≠ .error (.crashed panic)) →
      ∀ others e begun fate, p.Ends others e begun fate →
        ∃ r, fate = .finished r ∧ p.Recorded others e begun r) := by
  refine ⟨fun executions c place e placed => ?_, fun e c goesOn => ?_,
    fun answering collecting others e begun fate ends => ?_⟩
  · have lived := run_lived p executions c
    obtain ⟨fate, only⟩ := fate_unique (fates_complete lived.reached (run_done p executions c)) placed
    refine ⟨fate, only, ?_⟩
    rcases lived.attests.told _ ((only fate).mpr rfl) with skipped | ⟨own, told⟩
    · exact .inl skipped
    · obtain ⟨begun, begins, ends⟩ := told_ends (fun _ _ => goes_on_onward) (fun _ came => came) told
      obtain ⟨same, tick⟩ := begins_placed begins
      cases placed.symm.trans same
      exact .inr ⟨begun, ⟨begins, tick⟩, ends⟩
  · obtain ⟨fate, only, told⟩ := alone_told p e c goesOn
    have came : ∀ outcome, p.Concludes Eq e (p.post (.executionStarted e) c) outcome →
        ∃ begun, begun = p.post (.executionStarted e) c ∧ p.Concludes Eq e begun outcome :=
      fun outcome concludes => ⟨_, rfl, concludes⟩
    obtain ⟨begun, rfl, ends⟩ := told_ends (fun _ _ same => same ▸ .refl _) came told
    exact ⟨fate, only, ends⟩
  · cases ends with
    | finished recorded => exact ⟨_, rfl, recorded⟩
    | recorded panics => exact absurd panics (unbroken_panics answering collecting _)
    | crashed panics => exact absurd panics (unbroken_panics answering collecting _)

def untidy : Services Unit where
  take call _ :=
    match call with
    | .connect _ => (⟨2, 0, false, .done⟩, ())
    | .send _ statement =>
      (⟨5, 0, false, if statement = "FAIL" then .failed (.query "no such table") else .rows 3 none⟩, ())
    | .shell hook _ _ => (⟨7, 0, false, .failed (.hookExit hook 1)⟩, ())
  queries := ⟨.directory [("q.sql", .file "READ".toUTF8.toList)], ["."], Dict.empty⟩
  hooks := Dict.ofList [("tidy", some "tidy")]
  collector := [(.required, fun _ _ => (⟨4, .error (.failed (.io "no statistics"))⟩, ()))]

def untidyPool : Pool Unit :=
  ⟨untidy, 2, false, none, false, true⟩

def untidyRun : List Execution :=
  let b := Benchmark.named "untidy" "memory"
  let tidied := { b with afterExecution := ["tidy"] }
  [⟨tidied, "read", 0, Dict.empty, "READ"⟩, ⟨tidied, "fail", 1, Dict.empty, "FAIL"⟩,
    ⟨b, "read", 2, Dict.empty, "READ"⟩]

def told (s : State Unit) : List (Nat × Option (Nat × Option Failure × Span)) :=
  s.fates.map fun f => (f.1, f.2.result?.map fun r => (r.rows, r.failure, r.duration))

theorem untidy_run_told :
    (∃ begun r, (0, .finished r) ∈ (untidyPool.run untidyRun (.start .never ())).fates ∧
      untidyPool.Recorded untidyPool.GoesOn untidyRun[0] begun r ∧ begun.tick = 0) ∧
    told (untidyPool.run untidyRun (.start .never ())) =
      [(0, some (3, some (.hookExit "tidy" 1), 7)), (1, some (0, some (.query "no such table"), 7)),
        (2, some (3, some (.io "no statistics"), 7))] ∧
    ∃ r, (untidyPool.run [untidyRun[1]] (.start .never ())).fates = [(0, .finished r)] ∧
      untidyPool.Recorded Eq untidyRun[1]
        (untidyPool.post (.executionStarted untidyRun[1]) (.start .never ())) r := by
  have shows : told (untidyPool.run untidyRun (.start .never ())) =
      [(0, some (3, some (.hookExit "tidy" 1), 7)), (1, some (0, some (.query "no such table"), 7)),
        (2, some (3, some (.io "no statistics"), 7))] := by
    decide +kernel
  have answering : ∀ call world panic, (untidy.take call world).1.ending ≠ .crashed panic := by
    intro call world panic
    cases call with
    | send line statement => by_cases fails : statement = "FAIL" <;> simp [untidy, fails]
    | _ => simp [untidy]
  have collecting : ∀ x ∈ untidy.collector, ∀ subject world panic,
      (x.2 subject world).1.finding ≠ .error (.crashed panic) := by
    simp [untidy]
  obtain ⟨pools, alone, finishes⟩ := executions_end_to_end untidyPool
  refine ⟨?_, shows, ?_⟩
  · obtain ⟨fate, only, ends⟩ := pools untidyRun (.start .never ()) 0 untidyRun[0] rfl
    have member := (only fate).mpr rfl
    rcases ends with rfl | ⟨begun, ⟨-, tick⟩, ends⟩
    · have there := List.mem_map_of_mem (f := fun f : Nat × Fate =>
        (f.1, f.2.result?.map fun r => (r.rows, r.failure, r.duration))) member
      rw [told] at shows
      rw [shows] at there
      simp [Fate.result?] at there
    · obtain ⟨r, rfl, recorded⟩ := finishes answering collecting _ _ _ _ ends
      exact ⟨begun, r, member, recorded, tick⟩
  · obtain ⟨fate, only, ends⟩ := alone untidyRun[1] (.start .never ()) (by decide)
    obtain ⟨r, rfl, recorded⟩ := finishes answering collecting _ _ _ _ ends
    exact ⟨r, only, recorded⟩

end SqlBench.Pool
