import Mathlib.Data.List.MinMax
import SqlBench.Proofs.Pool.Fate
import SqlBench.Proofs.Pool.Script

set_option autoImplicit false

namespace SqlBench.Pool

-- `ends` says what becomes of an execution that begins at a moment, and when it is done.
def greedy (ends : Execution → Moment → Option ExecutionResult × Moment) :
    List Moment → List (Nat × Execution) → List (Nat × Option ExecutionResult)
  | _, [] => []
  | slots, x :: rest =>
    match slots.min? with
    | none => []
    | some t => (x.1, (ends x.2 t).1) :: greedy ends ((ends x.2 t).2 :: slots.erase t) rest

section Schedule

variable {ends : Execution → Moment → Option ExecutionResult × Moment}

theorem min_unordered {slots others : List Moment} (same : slots.Perm others) :
    slots.min? = others.min? := by
  cases least : slots.min? with
  | none =>
      rw [List.min?_eq_none_iff] at least
      rw [least] at same
      rw [List.nil_perm.mp same, List.min?_nil]
  | some t =>
      obtain ⟨member, bound⟩ := List.min?_eq_some_iff.mp least
      exact (List.min?_eq_some_iff.mpr
        ⟨same.mem_iff.mp member, fun u there => bound u (same.mem_iff.mpr there)⟩).symm

theorem greedy_unordered {slots others : List Moment} (same : slots.Perm others)
    (queue : List (Nat × Execution)) : greedy ends slots queue = greedy ends others queue := by
  induction queue generalizing slots others with
  | nil => rfl
  | cons x rest ih =>
      rw [greedy, greedy, min_unordered same]
      split
      · rfl
      · rename_i t least
        rw [ih ((same.erase t).cons _)]

theorem greedy_begins {slots others : List Moment} {t : Moment} (free : slots.Perm (t :: others))
    (sooner : ∀ u ∈ others, t ≤ u) (x : Nat × Execution) (rest : List (Nat × Execution)) :
    greedy ends slots (x :: rest) =
      (x.1, (ends x.2 t).1) :: greedy ends ((ends x.2 t).2 :: others) rest := by
  have least : (t :: others).min? = some t := by
    refine List.min?_eq_some_iff.mpr ⟨List.mem_cons_self, fun u member => ?_⟩
    rcases List.mem_cons.mp member with same | later
    · exact Nat.le_of_eq same.symm
    · exact sooner u later
  rw [greedy_unordered free, greedy, least]
  simp only [List.erase_cons_head]

theorem greedy_places {slots : List Moment} (filled : slots ≠ []) (queue : List (Nat × Execution)) :
    (greedy ends slots queue).map Prod.fst = queue.map Prod.fst := by
  induction queue generalizing slots with
  | nil => rfl
  | cons x rest ih =>
      rw [greedy]
      split
      · rename_i empty
        exact absurd (List.min?_eq_none_iff.mp empty) filled
      · rw [List.map_cons, List.map_cons, ih (by simp)]

end Schedule

variable {σ : Type}

def concluded (e : Execution) (r : ExecutionResult) (t : Moment) (answer : Answer) :
    ExecutionResult :=
  match answer.finding with
  | .ok found => judged r (.ok found)
  | .error (.failed cause) => judged r (.error cause)
  | .error (.crashed panic) => crashedResult e panic (t + answer.delay)

def Script.conclusion (script : Script) (e : Execution) (r : ExecutionResult) (asked : Nat)
    (heard : Finding) (t : Moment) : ExecutionResult :=
  concluded e r t (script.answer (.execution r) asked heard)

def Script.verdict (script : Script) (e : Execution) : Standing × Moment → Option ExecutionResult
  | (.finished r, t) => some (script.conclusion e r 0 (.ok []) t)
  | (.crashed panic, t) => some (crashedResult e panic t)
  | _ => none

def forecast (script : Script) (services : Services σ) (e : Execution) (t : Moment) :
    Option ExecutionResult × Moment :=
  (script.verdict e (outlook script (tasks services e) (.start e) t),
    (outlook script (tasks services e) (.start e) t).2)

def Sleeper.verdict (script : Script) (x : Sleeper) : Option ExecutionResult :=
  match x.wait with
  | .call nap => script.verdict x.execution (nap.outlook script x.wakes)
  | .answer r heard asked => some (script.conclusion x.execution r asked heard x.wakes)

def Sleeper.release (script : Script) (x : Sleeper) : Option Moment :=
  match x.wait with
  | .call nap => some (nap.outlook script x.wakes).2
  | .answer .. => none

def Crash.forecast (now : Moment) (x : Crash) : Nat × Option ExecutionResult :=
  (x.place, some (crashedResult x.execution x.panic now))

-- What will have become of those that have begun.
def State.forecasts (script : Script) (s : State σ) : List (Nat × Option ExecutionResult) :=
  (s.fates.filter fun f => !f.2.isSkipped).map (fun f => (f.1, f.2.result?)) ++
    s.crash.toList.map (Crash.forecast s.course.now) ++
    s.running.map fun x => (x.place, x.verdict script)

def State.releases (script : Script) (s : State σ) : List Moment :=
  s.running.filterMap (Sleeper.release script)

def State.slots (p : Pool σ) (script : Script) (s : State σ) : List Moment :=
  s.releases script ++ List.replicate (p.permits - s.permitsInUse) s.course.now

-- The slots of the others when one permit is put aside.
def State.spare (p : Pool σ) (script : Script) (s : State σ) : List Moment :=
  s.releases script ++ List.replicate (p.permits - s.permitsInUse - 1) s.course.now

def Wait.Heeds (script : Script) : Wait → Prop
  | .call nap => nap.promise.effort = 0 ∧ nap.promise.ending = script.ending nap.call.unnumbered
  | .answer .. => True

def Sleeper.Heeds (script : Script) (now : Moment) (x : Sleeper) : Prop :=
  now ≤ x.wakes ∧ x.wait.Heeds script

-- The pool has begun the first `k` of the schedule `all`, and the rest would be begun as scheduled.
-- A breakdown may be held aside until it is noticed.
structure State.Timely (p : Pool σ) (script : Script) (all : List (Nat × Option ExecutionResult))
    (k : Nat) (held : Option Crash) (s : State σ) : Prop where
  still : s.course.tick = 0
  asleep : ∀ x ∈ s.running, x.Heeds script s.course.now
  room : s.permitsInUse ≤ p.permits
  told : (held.toList.map (Crash.forecast s.course.now) ++ s.forecasts script).Perm (all.take k)
  ahead : s.queue ≠ [] → greedy (forecast script p.services) (s.slots p script) s.queue = all.drop k

theorem replicate_spare {k : Nat} (remains : 0 < k) (ends : List Moment) (now : Moment) :
    (ends ++ List.replicate k now).Perm (now :: (ends ++ List.replicate (k - 1) now)) := by
  have one : k = k - 1 + 1 := by
    omega
  rw [one, List.replicate_succ, Nat.add_sub_cancel]
  exact List.perm_middle

theorem slots_spare (p : Pool σ) (script : Script) (s : State σ)
    (free : s.permitsInUse < p.permits) :
    (s.slots p script).Perm (s.course.now :: s.spare p script) :=
  replicate_spare (Nat.sub_pos_of_lt free) _ _

theorem spare_later {script : Script} {p : Pool σ} {s : State σ}
    (asleep : ∀ x ∈ s.running, x.Heeds script s.course.now) :
    ∀ t ∈ s.spare p script, s.course.now ≤ t := by
  intro t member
  rcases List.mem_append.mp member with ending | free
  · obtain ⟨x, there, releases⟩ := List.mem_filterMap.mp ending
    have due := (asleep x there).1
    rw [Sleeper.release] at releases
    split at releases
    · rename_i nap calls
      cases releases
      exact Nat.le_trans due (nap_outlook_after script nap x.wakes)
    · cases releases
  · exact Nat.le_of_eq (List.eq_of_mem_replicate free).symm

theorem forecasts_conclude (script : Script) (s : State σ) (place : Nat) (fate : Fate)
    (ran : fate.isSkipped = false) :
    ((s.conclude place fate).forecasts script).Perm ((place, fate.result?) :: s.forecasts script) := by
  simp only [State.forecasts, State.conclude, List.filter_append, List.map_append, List.filter_cons,
    ran, List.filter_nil, List.append_assoc]
  exact List.perm_middle

theorem forecasts_record (p : Pool σ) (script : Script) (s : State σ) (place : Nat)
    (r : ExecutionResult) :
    ((p.record place r s).forecasts script).Perm ((place, some r) :: s.forecasts script) := by
  have concluded := forecasts_conclude script s place (.finished r) rfl
  have same : (p.record place r s).forecasts script =
      (s.conclude place (.finished r)).forecasts script := by
    simp only [State.forecasts, record, State.conclude, (abreast_post p _ s.course).1]
  exact same ▸ concluded

theorem forecasts_break (script : Script) {s : State σ} (noticed : s.crash = none) (x : Crash) :
    (({ s with crash := some x } : State σ).forecasts script).Perm
      (x.forecast s.course.now :: s.forecasts script) := by
  simp only [State.forecasts, noticed, Option.toList_some, Option.toList_none, List.map_cons,
    List.map_nil, List.append_assoc, List.nil_append, List.cons_append]
  exact List.perm_middle

theorem forecasts_sleep (script : Script) (s : State σ) (place : Nat) (e : Execution) (delay : Span)
    (wait : Wait) :
    ((s.sleep place e delay wait).forecasts script).Perm
      ((place, (Sleeper.mk place e (s.course.now + delay) wait).verdict script) ::
        s.forecasts script) := by
  simp only [State.forecasts, State.sleep, List.map_append, List.map_cons, List.map_nil]
  rw [← List.append_assoc]
  exact List.perm_append_singleton _ _

theorem forecasts_inquire {p : Pool σ} {script : Script} (governs : script.Governs p.services)
    {s : State σ} (noticed : s.crash = none) (place : Nat) (e : Execution) (r : ExecutionResult)
    (asked : Nat) (heard : Finding) :
    ((p.inquire place e r asked heard s).forecasts script).Perm
      ((place, some (script.conclusion e r asked heard s.course.now)) :: s.forecasts script) := by
  have foretold := go_on_foretold governs (.execution r) asked heard s.course.world
  rw [inquire, Script.conclusion]
  dsimp only
  generalize p.services.collector.goOn (.execution r) asked heard s.course.world = gone at foretold
  obtain ⟨round, world⟩ := gone
  cases round with
  | waiting delay found later =>
      have slept := forecasts_sleep script { s with course := { s.course with world := world } } place e
        delay (.answer r found later)
      rw [(foretold : script.answer _ _ _ = _)]
      refine slept.trans (.of_eq ?_)
      simp only [Sleeper.verdict, Script.conclusion, concluded, Nat.add_assoc]
      rfl
  | done finding =>
      rw [(foretold : script.answer _ _ _ = _)]
      cases finding with
      | ok found => exact forecasts_record p script _ place _
      | error halt =>
          cases halt with
          | failed cause => exact forecasts_record p script _ place _
          | crashed panic => exact forecasts_break script noticed ⟨place, e, panic⟩

theorem forecasts_follow {p : Pool σ} {script : Script} (governs : script.Governs p.services)
    {s : State σ} {standing : Standing} {expected : Standing × Moment}
    (foretold : standing.Foretold script s.course.now expected) (noticed : s.crash = none)
    (place : Nat) (e : Execution) :
    ((p.follow place e standing s).forecasts script).Perm
      ((place, script.verdict e expected) :: s.forecasts script) := by
  cases standing with
  | waiting nap =>
      obtain ⟨-, rfl⟩ := foretold
      exact forecasts_sleep script s place e nap.promise.delay (.call nap)
  | finished r =>
      rw [(foretold : expected = _)]
      exact forecasts_inquire governs noticed place e r 0 (.ok [])
  | dropped cause =>
      rw [(foretold : expected = _)]
      exact forecasts_conclude script s place (.dropped cause) rfl
  | crashed panic =>
      rw [(foretold : expected = _)]
      exact forecasts_break script noticed ⟨place, e, panic⟩

theorem forecasts_notice (p : Pool σ) (script : Script) (records : p.recordsCrashes = true)
    (held : Option Crash) (s : State σ) :
    ((p.notice held s).forecasts script).Perm
      (held.toList.map (Crash.forecast s.course.now) ++ s.forecasts script) := by
  cases held with
  | none => exact .refl _
  | some x =>
      rw [notice_crashed, if_pos records]
      exact forecasts_record p script s x.place _

theorem forecasts_aside (script : Script) (s : State σ) :
    (s.forecasts script).Perm
      (s.crash.toList.map (Crash.forecast s.course.now) ++
        ({ s with crash := none } : State σ).forecasts script) := by
  simp only [State.forecasts, Option.toList_none, List.map_nil, List.append_nil]
  rw [← List.append_assoc]
  exact List.perm_append_comm.append_right _

theorem releases_sleep (script : Script) (s : State σ) (place : Nat) (e : Execution) (delay : Span)
    (wait : Wait) :
    (s.sleep place e delay wait).releases script =
      s.releases script ++
        ((Sleeper.mk place e (s.course.now + delay) wait).release script).toList := by
  simp only [State.releases, State.sleep, List.filterMap_append, List.filterMap_cons,
    List.filterMap_nil]
  cases (Sleeper.mk place e (s.course.now + delay) wait).release script <;> rfl

theorem releases_notice (p : Pool σ) (script : Script) (held : Option Crash) (s : State σ) :
    (p.notice held s).releases script = s.releases script := by
  rw [State.releases, notice_running, State.releases]

theorem slots_inquire (p : Pool σ) (script : Script) (place : Nat) (e : Execution)
    (r : ExecutionResult) (asked : Nat) (heard : Finding) (s : State σ) :
    (p.inquire place e r asked heard s).slots p script = s.slots p script := by
  have permits := inquire_permits p place e r asked heard s
  have now := (abreast_inquire p place e r asked heard s).1
  have releases : (p.inquire place e r asked heard s).releases script = s.releases script := by
    obtain ⟨world, inquires⟩ := inquire_cases p place e r asked heard s
    generalize p.inquire place e r asked heard s = later at inquires
    cases inquires with
    | waits delay found later =>
        rw [releases_sleep]
        exact List.append_nil _
    | _ => rfl
  rw [State.slots, permits, now, releases, State.slots]

theorem slots_follow (p : Pool σ) {script : Script} {s : State σ} {standing : Standing}
    {expected : Standing × Moment} (foretold : standing.Foretold script s.course.now expected)
    (free : s.permitsInUse < p.permits) (place : Nat) (e : Execution) :
    ((p.follow place e standing s).slots p script).Perm (expected.2 :: s.spare p script) := by
  cases standing with
  | waiting nap =>
      obtain ⟨-, rfl⟩ := foretold
      have used := sleep_permits s place e nap.promise.delay (.call nap)
      have releases := releases_sleep script s place e nap.promise.delay (.call nap)
      simp only [Wait.holdsPermit, if_true] at used
      simp only [State.slots, State.spare, follow, used, releases, Sleeper.release,
        Option.toList_some, List.append_assoc, ← Nat.sub_sub]
      exact List.perm_middle
  | finished r =>
      rw [(foretold : expected = _), follow, slots_inquire]
      exact slots_spare p script s free
  | _ =>
      rw [(foretold : expected = _)]
      exact slots_spare p script s free

theorem asleep_inquire {p : Pool σ} {script : Script} {s : State σ}
    (asleep : ∀ x ∈ s.running, x.Heeds script s.course.now) (place : Nat) (e : Execution)
    (r : ExecutionResult) (asked : Nat) (heard : Finding) :
    ∀ x ∈ (p.inquire place e r asked heard s).running, x.Heeds script s.course.now := by
  intro x member
  rcases inquire_asleep member with before | ⟨delay, found, later, -, rfl⟩
  · exact asleep x before
  · exact ⟨Nat.le_add_right _ _, trivial⟩

theorem asleep_follow {p : Pool σ} {script : Script} {s : State σ} {standing : Standing}
    {expected : Standing × Moment} (foretold : standing.Foretold script s.course.now expected)
    (effort : ∀ nap, standing = .waiting nap → nap.promise.effort = 0)
    (asleep : ∀ x ∈ s.running, x.Heeds script s.course.now) (place : Nat) (e : Execution) :
    ∀ x ∈ (p.follow place e standing s).running, x.Heeds script s.course.now := by
  intro x member
  rcases follow_asleep member with before | ⟨nap, rfl, rfl⟩ | ⟨r, delay, found, later, -, -, rfl⟩
  · exact asleep x before
  · exact ⟨Nat.le_add_right _ _, effort nap rfl, foretold.1⟩
  · exact ⟨Nat.le_add_right _ _, trivial⟩

section Timely

variable {p : Pool σ} {script : Script} {all : List (Nat × Option ExecutionResult)} {k : Nat}
  {held : Option Crash} {s : State σ}

theorem aside_timely (timely : s.Timely p script all k none) :
    ({ s with crash := none } : State σ).Timely p script all k s.crash :=
  ⟨timely.still, timely.asleep, timely.room, (forecasts_aside script s).symm.trans timely.told,
    timely.ahead⟩

theorem notice_timely (records : p.recordsCrashes = true) (timely : s.Timely p script all k held) :
    (p.notice held s).Timely p script all k none := by
  obtain ⟨now, tick, -⟩ := abreast_notice p held s
  refine ⟨tick.trans timely.still, ?_, ?_, ?_, ?_⟩
  · rw [notice_running, now]
    exact timely.asleep
  · rw [notice_permits]
    exact timely.room
  · exact (forecasts_notice p script records held s).trans timely.told
  · rw [notice_queue, State.slots, notice_permits, releases_notice, now]
    exact timely.ahead

theorem inquire_timely (governs : script.Governs p.services) (noticed : s.crash = none)
    (still : s.course.tick = 0) (asleep : ∀ x ∈ s.running, x.Heeds script s.course.now)
    (room : s.permitsInUse ≤ p.permits) {place : Nat} {e : Execution} {r : ExecutionResult}
    {asked : Nat} {heard : Finding}
    (told : ((place, some (script.conclusion e r asked heard s.course.now)) ::
      (held.toList.map (Crash.forecast s.course.now) ++ s.forecasts script)).Perm (all.take k))
    (ahead : s.queue ≠ [] → greedy (forecast script p.services) (s.slots p script) s.queue =
      all.drop k) : (p.inquire place e r asked heard s).Timely p script all k held := by
  obtain ⟨now, tick, -⟩ := abreast_inquire p place e r asked heard s
  refine ⟨tick.trans still, ?_, ?_, ?_, ?_⟩
  · rw [now]
    exact asleep_inquire asleep place e r asked heard
  · rw [inquire_permits]
    exact room
  · rw [now]
    have inquired := forecasts_inquire governs noticed place e r asked heard
    exact ((inquired.append_left _).trans List.perm_middle).trans told
  · rw [inquire_queue, slots_inquire]
    exact ahead

theorem follow_timely (governs : script.Governs p.services) (noticed : s.crash = none)
    (still : s.course.tick = 0) (asleep : ∀ x ∈ s.running, x.Heeds script s.course.now)
    (free : s.permitsInUse < p.permits) {standing : Standing} {expected : Standing × Moment}
    (foretold : standing.Foretold script s.course.now expected)
    (effort : ∀ nap, standing = .waiting nap → nap.promise.effort = 0) {place : Nat} {e : Execution}
    (told : ((place, script.verdict e expected) ::
      (held.toList.map (Crash.forecast s.course.now) ++ s.forecasts script)).Perm (all.take k))
    (ahead : s.queue ≠ [] → greedy (forecast script p.services) (expected.2 :: s.spare p script)
      s.queue = all.drop k) : (p.follow place e standing s).Timely p script all k held := by
  obtain ⟨now, tick, -⟩ := abreast_follow p place e standing s
  refine ⟨tick.trans still, ?_, Nat.le_trans (follow_permits p place e standing s) free, ?_, ?_⟩
  · rw [now]
    exact asleep_follow foretold effort asleep place e
  · rw [now]
    have followed := forecasts_follow governs foretold noticed place e
    exact ((followed.append_left _).trans List.perm_middle).trans told
  · rw [follow_queue]
    intro waiting
    rw [greedy_unordered (slots_follow p foretold free place e)]
    exact ahead waiting

theorem schedule_splits {a : Nat × Option ExecutionResult} {rest : List (Nat × Option ExecutionResult)}
    (ahead : a :: rest = all.drop k) : all.take (k + 1) = all.take k ++ [a] ∧ rest = all.drop (k + 1) := by
  have there : all[k]? = some a := by
    rw [← List.head?_drop, ← ahead, List.head?_cons]
  refine ⟨by rw [List.take_add_one, there, Option.toList_some], ?_⟩
  rw [← List.tail_drop, ← ahead, List.tail_cons]

theorem opening_foretold (governs : script.Governs p.services) (e : Execution) {c : Course σ}
    (still : c.tick = 0) :
    (p.opening e c).1.Foretold script c.now (outlook script (tasks p.services e) (.start e) c.now) ∧
      (p.opening e c).2.now = c.now ∧ (p.opening e c).2.tick = 0 ∧
      ∀ nap, (p.opening e c).1 = .waiting nap → nap.promise.effort = 0 := by
  obtain ⟨posted, tick, -⟩ := abreast_post p (.executionStarted e) c
  have ready : (p.post (.executionStarted e) c).tick = 0 := tick.trans still
  have foretold := work_foretold governs (tasks p.services e) (.start e) _ ready
  obtain ⟨kept, effort⟩ := work_kept (still_kept governs.effort fun _ => id) (tasks p.services e)
    (.start e) (p.post (.executionStarted e) c)
  obtain ⟨now, still⟩ := kept ready
  rw [posted] at now foretold
  exact ⟨foretold, now, still, effort⟩

theorem enter_timely (governs : script.Governs p.services) (records : p.recordsCrashes = true)
    (timely : s.Timely p script all k none) {x : Nat × Execution} {rest : List (Nat × Execution)}
    (waiting : s.queue = x :: rest) (free : s.permitsInUse < p.permits) :
    (p.enter x rest s).Timely p script all (k + 1) none := by
  obtain ⟨foretold, now, still, effort⟩ := opening_foretold governs x.2 timely.still
  have ahead := timely.ahead (by simp [waiting])
  rw [waiting, greedy_begins (slots_spare p script s free) (spare_later timely.asleep)] at ahead
  obtain ⟨begun, later⟩ := schedule_splits ahead
  have aside := (aside_timely timely).told
  rw [enter, launch_opening]
  cases opened : p.opening x.2 s.course with
  | mk standing c =>
      rw [opened] at foretold effort now still
      have ending : standing.Foretold script c.now
          (outlook script (tasks p.services x.2) (.start x.2) s.course.now) := by
        rw [now]
        exact foretold
      refine notice_timely records (follow_timely (s := { s with queue := rest, crash := none, course := c })
        governs rfl still ?_ free ending effort ?_ ?_)
      · exact now.symm ▸ timely.asleep
      · rw [begun, now]
        exact ((aside.cons _).trans (List.perm_append_singleton _ _).symm)
      · intro _
        rw [State.spare, now]
        exact later

theorem forecasts_skip (script : Script) (s : State σ) (waiting : List (Nat × Execution)) :
    (skip s waiting).forecasts script = s.forecasts script := by
  have nobody : (waiting.map fun x => (x.1, Fate.skipped)).filter (fun f => !f.2.isSkipped) = [] := by
    refine List.filter_eq_nil_iff.mpr fun f member => ?_
    obtain ⟨x, -, rfl⟩ := List.mem_map.mp member
    simp [Fate.isSkipped]
  simp only [State.forecasts, skip, List.filter_append, nobody, List.append_nil]

theorem turn_away_timely (records : p.recordsCrashes = true)
    (timely : s.Timely p script all k none) : (p.turnAway s).Timely p script all k none := by
  have aside := aside_timely timely
  refine notice_timely records (s := skip { s with crash := none } s.queue)
    ⟨aside.still, aside.asleep, aside.room, ?_, fun waiting => absurd rfl waiting⟩
  rw [forecasts_skip]
  exact aside.told

theorem attend_timely (records : p.recordsCrashes = true)
    (timely : s.Timely p script all k none) : (p.attend s).Timely p script all k none :=
  notice_timely records (aside_timely timely)

theorem next_is_earliest {running others : List Sleeper} {x : Sleeper}
    (found : next? running = some (x, others)) : ∀ y ∈ others, x.wakes ≤ y.wakes := by
  induction running generalizing x others with
  | nil => cases found
  | cons a rest ih =>
      rw [next?] at found
      split at found
      · cases found
        simp
      · rename_i b later earliest
        obtain ⟨before, after, whole, remains⟩ := next_splits earliest
        have behind := ih earliest
        split at found
        · rename_i wakesSooner
          cases found
          have least : a.wakes ≤ b.wakes := of_decide_eq_true wakesSooner
          intro y member
          rw [whole] at member
          rw [remains] at behind
          rcases List.mem_append.mp member with inBefore | inRest
          · exact Nat.le_trans least (behind y (List.mem_append_left _ inBefore))
          · rcases List.mem_cons.mp inRest with same | inAfter
            · exact same ▸ least
            · exact Nat.le_trans least (behind y (List.mem_append_right _ inAfter))
        · rename_i wakesSooner
          cases found
          intro y member
          rcases List.mem_cons.mp member with same | later
          · rw [same]
            exact Nat.le_of_not_le fun less => wakesSooner (decide_eq_true less)
          · exact behind y later

theorem waiting_first {x : Sleeper} {others : List Sleeper} {now : Moment}
    (asleep : ∀ y ∈ s.running, y.Heeds script now) (found : next? s.running = some (x, others)) :
    ∀ y ∈ others, y.Heeds script x.wakes := by
  intro y member
  obtain ⟨-, heeds⟩ := asleep y ((next_perm found).mem_iff.mpr (List.mem_cons_of_mem x member))
  exact ⟨next_is_earliest found y member, heeds⟩

theorem wake_told (timely : s.Timely p script all k none) (noticed : s.crash = none) {x : Sleeper}
    {others : List Sleeper} (found : next? s.running = some (x, others)) (c : Course σ) :
    ((x.place, x.verdict script) ::
      ({ s with running := others, course := c } : State σ).forecasts script).Perm (all.take k) := by
  refine List.Perm.trans ?_ timely.told
  have asleep := (next_perm found).symm.map fun y : Sleeper => (y.place, y.verdict script)
  rw [List.map_cons] at asleep
  simp only [State.forecasts, Option.toList_none, List.map_nil, List.nil_append, noticed]
  exact List.perm_middle.symm.trans (asleep.append_left _)

-- While somebody waits no permit is free but that of `x`.
theorem wake_ahead (timely : s.Timely p script all k none) (parked : s.Parked p) {x : Sleeper}
    {others : List Sleeper} (found : next? s.running = some (x, others)) (waiting : s.queue ≠ []) :
    greedy (forecast script p.services)
      ((x.release script).toList ++ others.filterMap (Sleeper.release script)) s.queue =
      all.drop k := by
  have slots : (s.slots p script).Perm
      ((x.release script).toList ++ others.filterMap (Sleeper.release script)) := by
    have released := (next_perm found).filterMap (Sleeper.release script)
    rw [List.filterMap_cons] at released
    rw [State.slots, parked.exhausted waiting, List.replicate_zero, List.append_nil]
    refine released.trans (.of_eq ?_)
    cases x.release script <;> rfl
  rw [← greedy_unordered slots]
  exact timely.ahead waiting

theorem permits_woken {running others : List Sleeper} {x : Sleeper}
    (found : next? running = some (x, others)) :
    (running.countP fun y => y.wait.holdsPermit) =
      (others.countP fun y => y.wait.holdsPermit) + if x.wait.holdsPermit then 1 else 0 := by
  rw [(next_perm found).countP_eq, List.countP_cons]

theorem wake_timely (governs : script.Governs p.services) (timely : s.Timely p script all k none)
    (parked : s.Parked p) {x : Sleeper} {others : List Sleeper}
    (found : next? s.running = some (x, others)) :
    (p.wake x others x.wakes s).Timely p script all k none := by
  obtain ⟨due, heeds⟩ := timely.asleep x ((next_perm found).mem_iff.mpr List.mem_cons_self)
  have arrives : (s.course.advanceTo x.wakes).now = x.wakes := Nat.max_eq_right due
  have still : (s.course.advanceTo x.wakes).tick = 0 := timely.still
  have awake := waiting_first timely.asleep found
  have used := permits_woken found
  have room : s.permitsInUse ≤ p.permits := timely.room
  have ahead := wake_ahead timely parked found
  have told := wake_told timely parked.noticed found
  cases wait : x.wait with
  | answer r heard asked =>
      have inUse : State.permitsInUse { s with running := others, course := s.course.advanceTo x.wakes } =
          s.permitsInUse := by
        simpa [State.permitsInUse, wait, Wait.holdsPermit] using used.symm
      simp only [Sleeper.release, wait, Option.toList_none, List.nil_append] at ahead
      simp only [Sleeper.verdict, wait] at told
      rw [wake, resume_answer p wait]
      refine inquire_timely (s := { s with running := others, course := s.course.advanceTo x.wakes })
        governs parked.noticed still ?_ (inUse ▸ room) ?_ ?_
      · rw [arrives]
        exact awake
      · rw [arrives]
        exact told _
      · intro waiting
        rw [State.slots, inUse, parked.exhausted waiting, List.replicate_zero, List.append_nil]
        exact ahead waiting
  | call nap =>
      rw [wait] at heeds
      obtain ⟨effort, ending⟩ := heeds
      have foretold := resume_foretold governs effort ending _ still
      obtain ⟨kept, effort⟩ := resume_kept (still_kept governs.effort fun _ => id)
        (s.course.advanceTo x.wakes) effort
      obtain ⟨now, still⟩ := kept still
      rw [arrives] at now foretold
      have inUse : s.permitsInUse =
          (others.countP fun y => y.wait.holdsPermit) + 1 := by
        simpa [State.permitsInUse, wait, Wait.holdsPermit] using used
      simp only [Sleeper.release, wait, Option.toList_some, List.singleton_append] at ahead
      simp only [Sleeper.verdict, wait] at told
      rw [wake, resume_call p wait]
      cases resumed : nap.resume p.services (s.course.advanceTo x.wakes) with
      | mk standing c =>
          rw [resumed] at foretold effort now still
          have ending : standing.Foretold script c.now (nap.outlook script x.wakes) := by
            rw [now]
            exact foretold
          have free : State.permitsInUse { s with running := others, course := c } < p.permits := by
            rw [inUse] at room
            exact room
          refine follow_timely (s := { s with running := others, course := c })
            governs parked.noticed still ?_ free ending effort (told c) ?_
          · rw [now]
            exact awake
          · intro waiting
            have spare : p.permits - (others.countP fun y => y.wait.holdsPermit) - 1 = 0 := by
              rw [Nat.sub_sub, ← inUse]
              exact parked.exhausted waiting
            simp only [State.spare, State.permitsInUse, spare, List.replicate_zero, List.append_nil]
            exact ahead waiting

end Timely

def schedule (p : Pool σ) (script : Script) (executions : List Execution) (t : Moment) :
    List (Nat × Option ExecutionResult) :=
  greedy (forecast script p.services) (List.replicate p.permits t)
    (executions.zipIdx.map fun x => (x.2, x.1))

theorem start_timely (p : Pool σ) (script : Script) (executions : List Execution) (c : Course σ)
    (still : c.tick = 0) :
    (State.start executions c).Timely p script (schedule p script executions c.now) 0 none := by
  refine ⟨still, by simp [State.start], by simp [State.start, State.permitsInUse], ?_, fun _ => ?_⟩
  · simp [State.forecasts, State.start]
  · rfl

theorem run_keeps_to_schedule {p : Pool σ} {script : Script} (governs : script.Governs p.services)
    (records : p.recordsCrashes = true) (executions : List Execution) (c : Course σ)
    (still : c.tick = 0) :
    ∃ k, ((p.run executions c).forecasts script).Perm ((schedule p script executions c.now).take k) := by
  have kept := (run_keeps p (I := fun s => ∃ k, s.Timely p script (schedule p script executions c.now) k none)
    (fun s x rest ⟨k, timely⟩ waiting _ free => ⟨k + 1, enter_timely governs records timely waiting free⟩)
    (fun s ⟨k, timely⟩ _ _ => ⟨k, turn_away_timely records timely⟩)
    (fun s _ ⟨k, timely⟩ _ _ => ⟨k, attend_timely records timely⟩)
    (fun s x others ⟨k, timely⟩ parked found => ⟨k, wake_timely governs timely parked found⟩)
    executions c ⟨0, start_timely p script executions c still⟩).1
  obtain ⟨k, timely⟩ := kept
  exact ⟨k, timely.told⟩

theorem schedule_places (p : Pool σ) (script : Script) (executions : List Execution) (t : Moment) :
    (schedule p script executions t).map Prod.fst = List.range executions.length := by
  have filled : List.replicate p.permits t ≠ [] := by
    rw [Ne, List.replicate_eq_nil_iff]
    exact Nat.ne_of_gt (permits_positive p)
  exact (greedy_places filled _).trans (start_places executions (clockAt t))

end SqlBench.Pool
