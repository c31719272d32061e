import Mathlib.Data.List.Forall2
import SqlBench.Proofs.Pool.Greedy
import SqlBench.Proofs.Pool.Timesheet

set_option autoImplicit false

namespace SqlBench.Pool

variable {σ : Type}

def timetable : List Moment → List Timesheet → List (Moment × Moment)
  | _, [] => []
  | slots, spent :: rest =>
    match slots.min? with
    | none => []
    | some s =>
      (s + spent .before, s + spent .before + spent .timed) ::
        timetable ((s + spent .before + spent .timed + spent .after) :: slots.erase s) rest

def wakings (p : Pool σ) : Nat → State σ → List Sleeper
  | 0, _ => []
  | n + 1, s =>
    match next? s.running with
    | none => []
    | some (x, _) => x :: p.wakings n (p.turn s)

def woken (p : Pool σ) (executions : List Execution) (c : Course σ) : List Sleeper :=
  p.wakings (p.workload executions)
    (p.grant (State.start executions c).queue (State.start executions c))

section Timetable

theorem timetable_unordered {slots others : List Moment} (same : slots.Perm others)
    (sheets : List Timesheet) : timetable slots sheets = timetable others sheets := by
  induction sheets generalizing slots others with
  | nil => rfl
  | cons spent rest ih =>
      rw [timetable, timetable, min_unordered same]
      split
      · rfl
      · rename_i s least
        rw [ih ((same.erase s).cons _)]

theorem timetable_begins {slots others : List Moment} {s : Moment} (free : slots.Perm (s :: others))
    (sooner : ∀ u ∈ others, s ≤ u) (spent : Timesheet) (rest : List Timesheet) :
    timetable slots (spent :: rest) =
      (s + spent .before, s + spent .before + spent .timed) ::
        timetable ((s + spent.total) :: others) rest := by
  have least : (s :: others).min? = some s := by
    refine List.min?_eq_some_iff.mpr ⟨List.mem_cons_self, fun u member => ?_⟩
    rcases List.mem_cons.mp member with same | later
    · exact Nat.le_of_eq same.symm
    · exact sooner u later
  rw [timetable_unordered free, timetable, least]
  simp only [List.erase_cons_head, Timesheet.total, Nat.add_assoc]

end Timetable

def Sleeper.ends (woken : List Sleeper) (x : Sleeper) : Option Moment :=
  match x.wait with
  | .call nap => some (x.wakes + ((timesheet woken x.place).total - nap.promise.delay))
  | .answer .. => none

def State.vacant (p : Pool σ) (woken : List Sleeper) (s : State σ) : List Moment :=
  s.running.filterMap (Sleeper.ends woken) ++ List.replicate (p.permits - s.permitsInUse) s.course.now

-- When one permit is put aside.
def State.others (p : Pool σ) (woken : List Sleeper) (s : State σ) : List Moment :=
  s.running.filterMap (Sleeper.ends woken) ++
    List.replicate (p.permits - s.permitsInUse - 1) s.course.now

def Wait.Idle : Wait → Prop
  | .call nap => nap.promise.effort = 0
  | .answer .. => True

structure State.Steady (p : Pool σ) (s : State σ) : Prop where
  noticed : s.crash = none
  still : s.course.tick = 0
  room : s.permitsInUse ≤ p.permits
  asleep : ∀ x ∈ s.running, s.course.now ≤ x.wakes ∧ x.wait.Idle

def Settles (spent : Timesheet) (ended r : ExecutionResult) : Prop :=
  (∀ leg, spent leg = 0) ∧ r.start = ended.start ∧ r.finish = ended.finish

def Wait.Fulfils (wakes : Moment) (spent : Timesheet) (r : ExecutionResult) : Wait → Prop
  | .call nap => nap.Fulfils wakes spent r
  | .answer ended _ _ => Settles spent ended r

-- From here on the run tells these fates in all, and these wake.
structure State.LeadsTo (p : Pool σ) (fates : List (Nat × Fate)) (woken : List Sleeper)
    (s : State σ) : Prop where
  told : s.fates ⊆ fates
  places : ∀ y ∈ woken, y.place ∈ s.running.map Sleeper.place ∨ y.place ∈ s.queue.map Prod.fst
  asleep : ∀ x ∈ s.running, ∃ r, (x.place, Fate.finished r) ∈ fates ∧
    x.wait.Fulfils x.wakes (timesheet woken x.place) r
  queued : ∃ results, List.Forall₂ (fun x r => (x.1, Fate.finished r) ∈ fates) s.queue results ∧
    results.map (fun r => (r.start, r.finish)) =
      timetable (s.vacant p woken) (s.queue.map fun x => timesheet woken x.1)

section Ahead

variable {p : Pool σ} {executions : List Execution} {c : Course σ} {s : State σ}
  {fates : List (Nat × Fate)} {woken : List Sleeper}

theorem inquire_steady {place : Nat} {e : Execution} {r : ExecutionResult} {asked : Nat}
    {heard : Finding} (noticed : (p.inquire place e r asked heard s).crash = none)
    (still : s.course.tick = 0) (room : s.permitsInUse ≤ p.permits)
    (asleep : ∀ x ∈ s.running, s.course.now ≤ x.wakes ∧ x.wait.Idle) :
    (p.inquire place e r asked heard s).Steady p := by
  obtain ⟨now, tick, -⟩ := abreast_inquire p place e r asked heard s
  refine ⟨noticed, tick.trans still, ?_, fun x member => ?_⟩
  · rw [inquire_permits]
    exact room
  · rw [now]
    rcases inquire_asleep member with before | ⟨delay, found, later, -, rfl⟩
    · exact asleep x before
    · exact ⟨Nat.le_add_right _ _, trivial⟩

theorem follow_steady {place : Nat} {e : Execution} {standing : Standing}
    (noticed : (p.follow place e standing s).crash = none) (still : s.course.tick = 0)
    (free : s.permitsInUse < p.permits)
    (asleep : ∀ x ∈ s.running, s.course.now ≤ x.wakes ∧ x.wait.Idle)
    (effort : ∀ nap, standing = .waiting nap → nap.promise.effort = 0) :
    (p.follow place e standing s).Steady p := by
  obtain ⟨now, tick, -⟩ := abreast_follow p place e standing s
  refine ⟨noticed, tick.trans still, Nat.le_trans (follow_permits p place e standing s) free, ?_⟩
  intro x member
  rw [now]
  rcases follow_asleep member with before | ⟨nap, waits, rfl⟩ | ⟨r, delay, found, later, -, -, rfl⟩
  · exact asleep x before
  · exact ⟨Nat.le_add_right _ _, effort nap waits⟩
  · exact ⟨Nat.le_add_right _ _, trivial⟩

theorem inquire_places {place : Nat} {e : Execution} {r : ExecutionResult} {asked : Nat}
    {heard : Finding} {i : Nat}
    (member : i ∈ (p.inquire place e r asked heard s).running.map Sleeper.place) :
    i ∈ s.running.map Sleeper.place ∨ i = place := by
  obtain ⟨x, there, rfl⟩ := List.mem_map.mp member
  rcases inquire_asleep there with before | ⟨delay, found, later, -, rfl⟩
  · exact .inl (List.mem_map_of_mem before)
  · exact .inr rfl

theorem follow_places {place : Nat} {e : Execution} {standing : Standing} {i : Nat}
    (member : i ∈ (p.follow place e standing s).running.map Sleeper.place) :
    i ∈ s.running.map Sleeper.place ∨ i = place := by
  obtain ⟨x, there, rfl⟩ := List.mem_map.mp member
  rcases follow_asleep there with before | ⟨nap, -, rfl⟩ | ⟨r, delay, found, later, -, -, rfl⟩
  · exact .inl (List.mem_map_of_mem before)
  · exact .inr rfl
  · exact .inr rfl

theorem resume_places {x : Sleeper} {i : Nat} (member : i ∈ (p.resume x s).running.map Sleeper.place) :
    i ∈ s.running.map Sleeper.place ∨ i = x.place := by
  cases wait : x.wait with
  | call nap =>
      rw [resume_call p wait] at member
      exact follow_places (s := { s with course := (nap.resume p.services s.course).2 }) member
  | answer r heard asked =>
      rw [resume_answer p wait] at member
      exact inquire_places member

theorem resume_stays (p : Pool σ) (x : Sleeper) (s : State σ) : s.running ⊆ (p.resume x s).running := by
  cases wait : x.wait with
  | call nap =>
      rw [resume_call p wait]
      exact follow_stays p x.place x.execution (nap.resume p.services s.course).1
        { s with course := (nap.resume p.services s.course).2 }
  | answer r heard asked =>
      rw [resume_answer p wait]
      exact inquire_stays p x.place x.execution r asked heard s

theorem vacant_inquire (place : Nat) (e : Execution) (r : ExecutionResult) (asked : Nat)
    (heard : Finding) :
    (p.inquire place e r asked heard s).vacant p woken = s.vacant p woken := by
  have permits := inquire_permits p place e r asked heard s
  have now := (abreast_inquire p place e r asked heard s).1
  have ends : (p.inquire place e r asked heard s).running.filterMap (Sleeper.ends woken) =
      s.running.filterMap (Sleeper.ends woken) := by
    obtain ⟨world, inquires⟩ := inquire_cases p place e r asked heard s
    generalize p.inquire place e r asked heard s = later at inquires
    cases inquires with
    | waits delay found later => simp [State.sleep, Sleeper.ends]
    | _ => rfl
  rw [State.vacant, permits, now, ends, State.vacant]

theorem inquire_settles {place : Nat} {e : Execution} {ended : ExecutionResult} {asked : Nat}
    {heard : Finding} (noticed : (p.inquire place e ended asked heard s).crash = none)
    (awake : place ∉ s.running.map Sleeper.place) (begun : place ∉ s.queue.map Prod.fst)
    (leads : (p.inquire place e ended asked heard s).LeadsTo p fates woken) :
    ∃ r, (place, Fate.finished r) ∈ fates ∧ Settles (timesheet woken place) ended r := by
  obtain ⟨world, inquires⟩ := inquire_cases p place e ended asked heard s
  generalize p.inquire place e ended asked heard s = later at inquires noticed leads
  cases inquires with
  | waits delay found later =>
      obtain ⟨r, told, fulfils⟩ := leads.asleep ⟨place, e, _, .answer ended found later⟩
        (List.mem_append_right _ (List.mem_singleton.mpr rfl))
      exact ⟨r, told, fulfils⟩
  | records answer =>
      obtain ⟨start, finish, -⟩ := judged_times ended answer
      have nothing : ∀ leg, timesheet woken place leg = 0 := by
        refine timesheet_nothing fun y member same => ?_
        rcases leads.places y member with running | queued
        · exact awake (same ▸ running)
        · exact begun (same ▸ queued)
      exact ⟨judged ended answer, leads.told (List.mem_append_right _ (List.mem_singleton.mpr rfl)), nothing,
        start, finish⟩
  | breaks panic => cases noticed

theorem follow_leads {place : Nat} {e : Execution} {standing : Standing}
    (free : s.permitsInUse < p.permits) (fits : standing.Fits e)
    (noticed : (p.follow place e standing s).crash = none) (awake : place ∉ s.running.map Sleeper.place)
    (begun : place ∉ s.queue.map Prod.fst)
    (leads : (p.follow place e standing s).LeadsTo p fates woken) :
    (∃ r, (place, Fate.finished r) ∈ fates ∧
      standing.Fulfils s.course.now (timesheet woken place) r) ∧
    ((p.follow place e standing s).vacant p woken).Perm
      ((s.course.now + (timesheet woken place).total) :: s.others p woken) := by
  cases standing with
  | waiting nap =>
      have member : ⟨place, e, s.course.now + nap.promise.delay, .call nap⟩ ∈
          (p.follow place e (.waiting nap) s).running :=
        List.mem_append_right _ (List.mem_singleton.mpr rfl)
      obtain ⟨r, told, fulfils⟩ := leads.asleep _ member
      obtain ⟨rest, adds, -⟩ := id fulfils
      have total := total_add adds
      rw [charge_total] at total
      have ends : Sleeper.ends woken ⟨place, e, s.course.now + nap.promise.delay, .call nap⟩ =
          some (s.course.now + (timesheet woken place).total) := by
        simp only [Sleeper.ends]
        rw [total, Nat.add_sub_cancel_left, Nat.add_assoc]
      have used : (p.follow place e (.waiting nap) s).permitsInUse = s.permitsInUse + 1 :=
        sleep_permits s place e nap.promise.delay (.call nap)
      refine ⟨⟨r, told, fulfils⟩, ?_⟩
      rw [State.vacant, used, ← Nat.sub_sub]
      simp only [State.others, follow, State.sleep, List.filterMap_append, List.filterMap_cons,
        List.filterMap_nil, ends, List.append_assoc]
      exact List.perm_middle
  | finished ended =>
      obtain ⟨r, told, nothing, times⟩ := inquire_settles noticed awake begun leads
      have spent : (timesheet woken place).total = 0 := by
        simp only [Timesheet.total, nothing]
      refine ⟨⟨r, told, nothing, times⟩, ?_⟩
      rw [spent, follow, vacant_inquire]
      exact replicate_spare (Nat.sub_pos_of_lt free) _ _
  | dropped cause => exact False.elim fits
  | crashed panic => cases noticed

theorem others_alike {later : State σ} (running : later.running = s.running)
    (now : later.course.now = s.course.now) : later.others p woken = s.others p woken := by
  rw [State.others, State.permitsInUse, running, now, State.others, State.permitsInUse]

theorem ends_later (asleep : ∀ x ∈ s.running, s.course.now ≤ x.wakes ∧ x.wait.Idle) :
    ∀ t ∈ s.others p woken, s.course.now ≤ t := by
  intro t member
  rcases List.mem_append.mp member with ending | free
  · obtain ⟨x, there, ends⟩ := List.mem_filterMap.mp ending
    have due := (asleep x there).1
    rw [Sleeper.ends] at ends
    split at ends
    · cases ends
      exact Nat.le_trans due (Nat.le_add_right _ _)
    · cases ends
  · exact Nat.le_of_eq (List.eq_of_mem_replicate free).symm

theorem opening_idle (idle : ∀ call world, (p.services.take call world).1.effort = 0)
    (e : Execution) {c : Course σ} (still : c.tick = 0) :
    (p.opening e c).2.now = c.now ∧ (p.opening e c).2.tick = 0 ∧
      (∀ nap, (p.opening e c).1 = .waiting nap → nap.promise.effort = 0) ∧
      ∀ spent r, (p.opening e c).1.Fulfils c.now spent r →
        r.start = c.now + spent .before ∧ r.finish = c.now + spent .before + spent .timed := by
  obtain ⟨posted, tick, -⟩ := abreast_post p (.executionStarted e) c
  have ready : (p.post (.executionStarted e) c).tick = 0 := tick.trans still
  obtain ⟨kept, effort⟩ := work_kept (still_kept idle fun _ => id) (tasks p.services e) (.start e)
    (p.post (.executionStarted e) c)
  obtain ⟨now, ticks⟩ := kept ready
  refine ⟨now.trans posted, ticks, effort, fun spent r fulfils => ?_⟩
  rw [← posted] at fulfils ⊢
  exact work_fulfils idle e (tasks p.services e) (.start e) _ (start_fits p.services e) ready fulfils

theorem enter_opening (steady : s.Steady p) (x : Nat × Execution) (rest : List (Nat × Execution)) :
    p.enter x rest s = p.follow x.1 x.2 (p.opening x.2 s.course).1
      { s with queue := rest, crash := none, course := (p.opening x.2 s.course).2 } := by
  rw [enter, steady.noticed, launch_opening]
  rfl

theorem enter_steady (idle : ∀ call world, (p.services.take call world).1.effort = 0)
    (steady : s.Steady p) (free : s.permitsInUse < p.permits) {x : Nat × Execution}
    {rest : List (Nat × Execution)} (noticed : (p.enter x rest s).crash = none) :
    (p.enter x rest s).Steady p := by
  obtain ⟨now, tick, effort, -⟩ := opening_idle idle x.2 steady.still
  rw [enter_opening steady] at noticed ⊢
  exact follow_steady (s := { s with queue := rest, crash := none, course := _ }) noticed tick free
    (now.symm ▸ steady.asleep) effort

theorem enter_leads (idle : ∀ call world, (p.services.take call world).1.effort = 0)
    (steady : s.Steady p) {x : Nat × Execution} {rest : List (Nat × Execution)}
    (once : s.count x.1 ≤ 1) (waiting : s.queue = x :: rest) (free : s.permitsInUse < p.permits)
    (noticed : (p.enter x rest s).crash = none)
    (leads : (p.enter x rest s).LeadsTo p fates woken) : s.LeadsTo p fates woken := by
  obtain ⟨now, -, -, times⟩ := opening_idle idle x.2 steady.still
  obtain ⟨begun, awake, -⟩ := entering_alone once waiting
  have queue := enter_queue p x rest s
  rw [enter_opening steady] at leads queue noticed
  obtain ⟨⟨r, told, fulfils⟩, vacant⟩ :=
    follow_leads (s := { s with queue := rest, crash := none, course := _ }) free
      (opening_fits p x.2 s.course) noticed awake begun leads
  have order : State.others p woken ⟨rest, s.running, s.fates, none, s.hasStopped,
      (p.opening x.2 s.course).2⟩ = s.others p woken := others_alike rfl now
  dsimp only at fulfils vacant
  rw [order, now] at vacant
  rw [now] at fulfils
  obtain ⟨start, finish⟩ := times _ r fulfils
  obtain ⟨results, tells, scheduled⟩ := leads.queued
  rw [queue] at tells scheduled
  refine ⟨?_, ?_, fun y member => leads.asleep y (follow_stays _ _ _ _ _ member), r :: results, ?_, ?_⟩
  · exact fun f member => leads.told ((follow_grows p x.1 x.2 _ _).fates.subset member)
  · intro y member
    rw [waiting]
    rcases leads.places y member with running | queued
    · rcases follow_places running with before | same
      · exact .inl before
      · exact .inr (same ▸ List.mem_cons_self)
    · rw [queue] at queued
      exact .inr (List.mem_cons_of_mem _ queued)
  · rw [waiting]
    exact .cons told tells
  · have spare : (s.vacant p woken).Perm (s.course.now :: s.others p woken) :=
      replicate_spare (Nat.sub_pos_of_lt free) _ _
    rw [waiting, List.map_cons, List.map_cons,
      timetable_begins spare (ends_later steady.asleep), start, finish, scheduled,
      timetable_unordered vacant]

theorem resume_idle (idle : ∀ call world, (p.services.take call world).1.effort = 0)
    (still : s.course.tick = 0) {nap : Nap} {e : Execution} (fits : nap.Fits e)
    (effort : nap.promise.effort = 0) {t : Moment} (due : s.course.now ≤ t) :
    (nap.resume p.services (s.course.advanceTo t)).2.now = t ∧
      (nap.resume p.services (s.course.advanceTo t)).2.tick = 0 ∧
      (∀ next, (nap.resume p.services (s.course.advanceTo t)).1 = .waiting next →
        next.promise.effort = 0) ∧
      ∀ spent r, (nap.resume p.services (s.course.advanceTo t)).1.Fulfils t spent r →
        nap.worker.times.Fulfils t spent r := by
  have arrives : (s.course.advanceTo t).now = t := Nat.max_eq_right due
  obtain ⟨kept, efforts⟩ := resume_kept (still_kept idle fun _ => id) (s.course.advanceTo t) effort
  obtain ⟨now, tick⟩ := kept still
  refine ⟨now.trans arrives, tick, efforts, fun spent r fulfils => ?_⟩
  rw [← arrives]
  refine resume_fulfils idle fits effort (s.course.advanceTo t) still ?_
  rw [arrives]
  exact fulfils

theorem wake_steady (idle : ∀ call world, (p.services.take call world).1.effort = 0)
    (steady : s.Steady p) (fits : ∀ x ∈ s.running, x.wait.Fits x.execution) {x : Sleeper}
    {others : List Sleeper} (found : next? s.running = some (x, others))
    (noticed : (p.wake x others x.wakes s).crash = none) : (p.wake x others x.wakes s).Steady p := by
  have order := next_perm found
  have member : x ∈ s.running := order.mem_iff.mpr List.mem_cons_self
  obtain ⟨due, own⟩ := steady.asleep x member
  have arrives : (s.course.advanceTo x.wakes).now = x.wakes := Nat.max_eq_right due
  have fitting := fits x member
  have room := steady.room
  rw [State.permitsInUse, permits_woken found] at room
  have behind : ∀ y ∈ others, x.wakes ≤ y.wakes ∧ y.wait.Idle := fun y there =>
    ⟨next_is_earliest found y there, (steady.asleep y (order.mem_iff.mpr (List.mem_cons_of_mem x there))).2⟩
  rw [wake] at noticed ⊢
  cases wait : x.wait with
  | call nap =>
      rw [wait] at own fitting room
      obtain ⟨now, tick, efforts, -⟩ := resume_idle idle steady.still fitting own due
      rw [resume_call p wait] at noticed ⊢
      exact follow_steady (s := { s with running := others, course := _ }) noticed tick room
        (fun y there => now.symm ▸ behind y there) efforts
  | answer r heard asked =>
      rw [wait] at room
      rw [resume_answer p wait] at noticed ⊢
      exact inquire_steady (s := { s with running := others, course := s.course.advanceTo x.wakes }) noticed
        steady.still room (fun y there => arrives.symm ▸ behind y there)

theorem wake_spends (idle : ∀ call world, (p.services.take call world).1.effort = 0)
    (steady : s.Steady p) (fits : ∀ x ∈ s.running, x.wait.Fits x.execution) {x : Sleeper}
    {others : List Sleeper} (found : next? s.running = some (x, others))
    (noticed : (p.wake x others x.wakes s).crash = none) (awake : x.place ∉ others.map Sleeper.place)
    (begun : x.place ∉ s.queue.map Prod.fst)
    (leads : (p.wake x others x.wakes s).LeadsTo p fates woken) :
    (∃ r, (x.place, Fate.finished r) ∈ fates ∧
      x.wait.Fulfils x.wakes (timesheet (x :: woken) x.place) r) ∧
    ((p.wake x others x.wakes s).vacant p woken).Perm ((x.ends (x :: woken)).toList ++
      (others.filterMap (Sleeper.ends woken) ++ List.replicate (p.permits - s.permitsInUse) x.wakes)) := by
  have member : x ∈ s.running := (next_perm found).mem_iff.mpr List.mem_cons_self
  obtain ⟨due, own⟩ := steady.asleep x member
  have arrives : (s.course.advanceTo x.wakes).now = x.wakes := Nat.max_eq_right due
  have fitting := fits x member
  have room := steady.room
  have used := permits_woken found
  have spent := timesheet_own x woken
  rw [wake] at noticed leads ⊢
  cases wait : x.wait with
  | call nap =>
      rw [wait] at own fitting used spent
      have inUse : s.permitsInUse = (others.countP fun y => y.wait.holdsPermit) + 1 := used
      have free : (others.countP fun y => y.wait.holdsPermit) < p.permits := by
        rw [inUse] at room
        exact room
      obtain ⟨now, -, -, goesOn⟩ := resume_idle idle steady.still fitting own due
      rw [resume_call p wait] at noticed leads ⊢
      obtain ⟨⟨r, told, fulfils⟩, vacant⟩ :=
        follow_leads (s := { s with running := others, course := _ }) free
          (resume_fits p.services fitting _) noticed awake begun leads
      dsimp only at fulfils vacant
      rw [now] at fulfils vacant
      have total := total_add spent
      rw [Wait.charge, charge_total] at total
      have ends : x.ends (x :: woken) = some (x.wakes + (timesheet woken x.place).total) := by
        simp only [Sleeper.ends, wait]
        rw [total, Nat.add_sub_cancel_left]
      refine ⟨⟨r, told, timesheet woken x.place, spent, goesOn _ r fulfils⟩, vacant.trans (.of_eq ?_)⟩
      rw [ends, State.others, State.permitsInUse, inUse, now, Nat.sub_sub]
      rfl
  | answer ended heard asked =>
      rw [wait] at used spent
      have inUse : s.permitsInUse = others.countP fun y => y.wait.holdsPermit := used
      rw [resume_answer p wait] at noticed leads ⊢
      obtain ⟨r, told, nothing, times⟩ := inquire_settles
        (s := { s with running := others, course := s.course.advanceTo x.wakes }) noticed awake begun leads
      refine ⟨⟨r, told, fun leg => ?_, times⟩, .of_eq ?_⟩
      · rw [spent, nothing]
        rfl
      · rw [vacant_inquire, State.vacant, State.permitsInUse, arrives, inUse]
        simp [Sleeper.ends, wait]

theorem wake_leads (idle : ∀ call world, (p.services.take call world).1.effort = 0)
    (steady : s.Steady p) (parked : s.Parked p) (once : ∀ i, s.count i ≤ 1)
    (fits : ∀ x ∈ s.running, x.wait.Fits x.execution) {x : Sleeper} {others : List Sleeper}
    (found : next? s.running = some (x, others))
    (noticed : (p.wake x others x.wakes s).crash = none)
    (leads : (p.wake x others x.wakes s).LeadsTo p fates woken) : s.LeadsTo p fates (x :: woken) := by
  have order := next_perm found
  have member : x ∈ s.running := order.mem_iff.mpr List.mem_cons_self
  obtain ⟨before, after, whole, remains⟩ := next_splits found
  obtain ⟨begun, awake⟩ := waking_alone (once x.place) whole
  rw [← remains] at awake
  obtain ⟨⟨r, told, fulfils⟩, vacant⟩ := wake_spends idle steady fits found noticed awake begun leads
  have queue := wake_queue p x others x.wakes s
  have elsewhere : ∀ y ∈ others, x.place ≠ y.place :=
    fun y there same => awake (same ▸ List.mem_map_of_mem there)
  have unbegun : ∀ y ∈ s.queue, x.place ≠ y.1 :=
    fun y there same => begun (same ▸ List.mem_map_of_mem there)
  obtain ⟨results, tells, scheduled⟩ := leads.queued
  rw [queue] at tells scheduled
  have sheets : (s.queue.map fun y => timesheet (x :: woken) y.1) =
      s.queue.map fun y => timesheet woken y.1 :=
    List.map_congr_left fun y there => timesheet_other (unbegun y there) woken
  refine ⟨fun f there => leads.told ((resume_grows p x _).fates.subset there), ?_, ?_, results, tells, ?_⟩
  · intro y there
    rcases List.mem_cons.mp there with same | later
    · exact .inl (same ▸ List.mem_map_of_mem member)
    · rcases leads.places y later with running | queued
      · left
        rw [(order.map Sleeper.place).mem_iff, List.map_cons, List.mem_cons]
        exact (resume_places running).symm
      · exact .inr (queue ▸ queued)
  · intro y there
    rcases List.mem_cons.mp (order.mem_iff.mp there) with same | other
    · rw [same]
      exact ⟨r, told, fulfils⟩
    · rw [timesheet_other (elsewhere y other)]
      exact leads.asleep y (resume_stays p x _ other)
  · rw [scheduled, sheets]
    by_cases nobody : s.queue = []
    · rw [nobody, List.map_nil, timetable, timetable]
    · have alike : others.filterMap (Sleeper.ends (x :: woken)) = others.filterMap (Sleeper.ends woken) := by
        refine List.filterMap_congr fun z there => ?_
        rw [Sleeper.ends, timesheet_other (elsewhere z there), Sleeper.ends]
      refine timetable_unordered (vacant.trans ?_) _
      have running := order.filterMap (Sleeper.ends (x :: woken))
      rw [List.filterMap_cons, alike] at running
      simp only [State.vacant, parked.exhausted nobody, List.replicate_zero, List.append_nil]
      refine .trans (.of_eq ?_) running.symm
      cases x.ends (x :: woken) <;> rfl

structure Undisturbed (p : Pool σ) (executions : List Execution) (c : Course σ) (last : State σ) :
    Prop where
  goesOn : p.isStopped last = false
  unbroken : ∀ mid, p.Reaches (.start executions c) mid → p.Reaches mid last → mid.crash = none

theorem unstopped_before {last : State σ} (goesOn : p.isStopped last = false)
    (onward : p.Reaches s last) : p.isStopped s = false := by
  refine Bool.eq_false_iff.mpr fun stopped => ?_
  rw [(reaches_grows onward).keeps_stop stopped] at goesOn
  cases goesOn

theorem grant_cases {queue : List (Nat × Execution)} (waiting : s.queue = queue)
    (noticed : s.crash = none) (unstopped : p.isStopped s = false) :
    p.grant queue s = s ∨ ∃ x rest, queue = x :: rest ∧ s.permitsInUse < p.permits ∧
      p.grant queue s = p.grant rest (p.enter x rest s) := by
  cases queue with
  | nil =>
      have stays : p.grant [] s = p.attend s := by
        simp only [grant, attend, waiting]
      exact .inl (stays.trans (attend_nothing p s noticed))
  | cons x rest =>
      by_cases free : s.permitsInUse < p.permits
      · refine .inr ⟨x, rest, rfl, free, ?_⟩
        rw [grant, unstopped, if_neg Bool.false_ne_true, if_pos free]
        rfl
      · have stays : p.grant (x :: rest) s = p.attend s := by
          rw [grant, unstopped, if_neg Bool.false_ne_true, if_neg free]
          simp only [attend, waiting]
        exact .inl (stays.trans (attend_nothing p s noticed))

theorem grant_onward {queue : List (Nat × Execution)} (waiting : s.queue = queue) :
    p.Reaches s (p.grant queue s) := by
  rw [← waiting]
  exact grant_reached p .refl

theorem grant_leads (fates : List (Nat × Fate)) (woken : List Sleeper) {last : State σ}
    (undisturbed : Undisturbed p executions c last)
    (idle : ∀ call world, (p.services.take call world).1.effort = 0)
    (queue : List (Nat × Execution)) (s : State σ) (waiting : s.queue = queue) (steady : s.Steady p)
    (reached : p.Reaches (.start executions c) s) (onward : p.Reaches (p.grant queue s) last) :
    (p.grant queue s).Steady p ∧
      ((p.grant queue s).LeadsTo p fates woken → s.LeadsTo p fates woken) := by
  induction queue generalizing s with
  | nil =>
      have unstopped := unstopped_before undisturbed.goesOn ((grant_onward waiting).trans onward)
      rcases grant_cases waiting steady.noticed unstopped with stays | ⟨x, rest, nobody, -⟩
      · rw [stays]
        exact ⟨steady, id⟩
      · cases nobody
  | cons x rest ih =>
      have unstopped := unstopped_before undisturbed.goesOn ((grant_onward waiting).trans onward)
      rcases grant_cases waiting steady.noticed unstopped with stays | ⟨_, _, same, free, enters⟩
      · rw [stays]
        exact ⟨steady, id⟩
      · cases same
        rw [enters] at onward ⊢
        have queue := enter_queue p x rest s
        have there := reached.tail (.enter waiting unstopped free)
        have noticed := undisturbed.unbroken _ there ((grant_onward queue).trans onward)
        obtain ⟨later, leads⟩ := ih _ queue (enter_steady idle steady free noticed) there onward
        exact ⟨later, fun behind =>
          enter_leads idle steady (reached_once reached x.1) waiting free noticed (leads behind)⟩

theorem idle_leads (queue : s.queue = []) (running : s.running = []) :
    s.LeadsTo p s.fates [] := by
  refine ⟨fun f told => told, by simp, by simp [running], [], ?_, ?_⟩
  · rw [queue]
    exact .nil
  · rw [queue, List.map_nil, List.map_nil, timetable]

-- By induction on the turns that are left, from the last one back.
theorem turns_lead (idle : ∀ call world, (p.services.take call world).1.effort = 0) (n : Nat)
    (s : State σ) (undisturbed : Undisturbed p executions c (p.turns n s)) (steady : s.Steady p)
    (parked : s.Parked p) (reached : p.Reaches (.start executions c) s)
    (isDone : (p.turns n s).IsDone) : s.LeadsTo p (p.turns n s).fates (p.wakings n s) := by
  induction n generalizing s with
  | zero => exact idle_leads isDone.queue isDone.running
  | succ n ih =>
      cases found : next? s.running with
      | none =>
          have running := next_none found
          rw [turns_idle p (n + 1) running] at isDone ⊢
          rw [wakings, found]
          exact idle_leads isDone.queue running
      | some chosen =>
          obtain ⟨x, others⟩ := chosen
          have turns := turn_wakes p found
          have there := wake_reached reached parked found
          have parkedStill : (p.turn s).Parked p := by
            rw [turns]
            exact grant_parks p _ _
          have onward : p.Reaches (p.turn s) (p.turns (n + 1) s) :=
            (turns_reached p n .refl parkedStill).1
          have granted : p.Reaches (p.wake x others x.wakes s) (p.turn s) := by
            rw [turns]
            exact grant_reached p .refl
          have noticed := undisturbed.unbroken _ there (granted.trans onward)
          have fits : ∀ y ∈ s.running, y.wait.Fits y.execution :=
            fun y member => ((reached_orderly reached).asleep y member).2
          have woken := wake_steady idle steady fits found noticed
          obtain ⟨later, leads⟩ := grant_leads (p.turns (n + 1) s).fates (p.wakings n (p.turn s))
            undisturbed idle _ _ rfl woken there (turns ▸ onward)
          rw [← turns] at later leads
          have behind := ih (p.turn s) undisturbed later parkedStill (there.trans granted) isDone
          rw [wakings, found]
          exact wake_leads idle steady parked (reached_once reached) fits found noticed (leads behind)

theorem start_leads {executions : List Execution} {c : Course σ}
    (undisturbed : Undisturbed p executions c (p.run executions c))
    (idle : ∀ call world, (p.services.take call world).1.effort = 0) (still : c.tick = 0) :
    (State.start executions c).LeadsTo p (p.run executions c).fates (p.woken executions c) := by
  let first := State.start executions c
  have steady : first.Steady p := ⟨rfl, still, Nat.zero_le _, by simp [first, State.start]⟩
  have granted : p.Reaches first (p.grant first.queue first) := grant_reached p .refl
  have parked := grant_parks p first.queue first
  have onward : p.Reaches (p.grant first.queue first) (p.run executions c) :=
    (turns_reached p _ .refl parked).1
  obtain ⟨later, leads⟩ := grant_leads _ _ undisturbed idle _ first rfl steady .refl onward
  exact leads (turns_lead idle _ _ undisturbed later parked granted (run_done p executions c))

theorem told_in_order {queue : List (Nat × Execution)} {results : List ExecutionResult}
    (tells : List.Forall₂ (fun x r => (x.1, Fate.finished r) ∈ fates) queue results) :
    ∃ told : List (Nat × Fate), told ⊆ fates ∧ told.map Prod.fst = queue.map Prod.fst ∧
      told.filterMap (fun f => f.2.result?) = results := by
  induction tells with
  | nil => exact ⟨[], by simp, rfl, rfl⟩
  | @cons x r _ _ reported _ ih =>
      obtain ⟨told, among, places, same⟩ := ih
      refine ⟨(x.1, .finished r) :: told, List.cons_subset.mpr ⟨reported, among⟩, ?_, ?_⟩
      · rw [List.map_cons, List.map_cons, places]
      · rw [← same]
        rfl

end Ahead

/-- What is recorded of executions that nothing stops and that do not break down follows the
timetable of what they spend. -/
theorem run_keeps_timetable (p : Pool σ) (executions : List Execution) (c : Course σ)
    (undisturbed : Undisturbed p executions c (p.run executions c))
    (idle : ∀ call world, (p.services.take call world).1.effort = 0) (still : c.tick = 0) :
    ∃ results, (p.run executions c).results.Perm results ∧
      results.map ExecutionResult.execution = executions ∧
      results.map (fun r => (r.start, r.finish)) =
        timetable (List.replicate (max p.concurrency 1) c.now)
          ((List.range executions.length).map (timesheet (p.woken executions c))) ∧
      ((executions.Pairwise fun a b => a.number < b.number) →
        (p.run executions c).results = results) := by
  have reached := (run_reached p executions c).1
  have complete := fates_complete reached (run_done p executions c)
  have places := start_places executions c
  obtain ⟨results, tells, scheduled⟩ := (start_leads undisturbed idle still).queued
  obtain ⟨told, among, order, same⟩ := told_in_order tells
  have whole : (p.run executions c).fates.Perm told := by
    have once : told.Nodup := by
      refine List.Nodup.of_map Prod.fst ?_
      rw [order, places]
      exact List.nodup_range
    have length : (p.run executions c).fates.length ≤ told.length := by
      have count := complete.length_eq
      rw [← places, ← order, List.length_map, List.length_map] at count
      exact Nat.le_of_eq count
    exact ((List.Nodup.subperm once among).perm_of_length_le length).symm
  have gathered : ((p.run executions c).fates.filterMap fun f => f.2.result?).Perm results :=
    same ▸ whole.filterMap _
  have own : results.map ExecutionResult.execution = executions := by
    have placed := (List.forall₂_and_left _ _).mpr ⟨(start_orderly p executions c).queued, tells⟩
    have each : List.Forall₂ (fun x r => x.2 = r.execution) (State.start executions c).queue results := by
      refine placed.imp fun x r both => ?_
      have there := result_placed (reached_orderly reached) both.2 (r := r) rfl
      exact Option.some.inj (both.1.symm.trans there)
    have listed : (State.start executions c).queue.map Prod.snd = executions := by
      simp [State.start, Function.comp_def, List.zipIdx_map_fst]
    have all : List.Forall₂ Eq ((State.start executions c).queue.map Prod.snd)
        (results.map ExecutionResult.execution) :=
      List.forall₂_map_left_iff.mpr (List.forall₂_map_right_iff.mpr each)
    rw [listed, List.forall₂_eq_eq_eq] at all
    exact all.symm
  refine ⟨results, (results_perm _).trans gathered, own, ?_, fun ascending => ?_⟩
  · rw [scheduled, ← places, List.map_map]
    rfl
  · rw [results_by_number]
    rw [← own] at ascending
    have ordered := List.pairwise_map.mp ascending
    exact by_number_unique gathered ordered

def leisurely : Services Unit where
  take call _ :=
    match call with
    | .shell hook .. => (⟨if hook = "warm" then 2 else 1, 0, false, .done⟩, ())
    | .connect _ => (⟨1, 0, false, .done⟩, ())
    | .send _ statement => (⟨if statement = "LONG" then 9 else 3, 0, false, .rows 1 none⟩, ())
  queries := ⟨.directory [], [], Dict.empty⟩
  hooks := Dict.ofList [("warm", some "warm up"), ("tidy", some "tidy up")]
  collector := []

def leisurelyPool : Pool Unit :=
  ⟨leisurely, 2, false, none, false, true⟩

def leisurelyRun : List Execution :=
  let b : Benchmark := Benchmark.named "leisurely" "memory"
  [⟨b, "a", 0, Dict.empty, "LONG"⟩,
    ⟨{ b with beforeExecution := ["warm"], afterExecution := ["tidy"] }, "b", 1, Dict.empty, "SHORT"⟩,
    ⟨{ b with beforeExecution := ["warm"] }, "c", 2, Dict.empty, "SHORT"⟩]

theorem leisurely_run_timed :
    Undisturbed leisurelyPool leisurelyRun (.start .never ())
        (leisurelyPool.run leisurelyRun (.start .never ())) ∧
      (leisurelyPool.run leisurelyRun (.start .never ())).results.map (fun r => (r.start, r.finish)) =
        timetable [0, 0]
          ((List.range 3).map (timesheet (leisurelyPool.woken leisurelyRun (.start .never ())))) ∧
      (leisurelyPool.run leisurelyRun (.start .never ())).results.map (fun r => (r.start, r.finish)) =
        [(0, 10), (2, 6), (9, 13)] := by
  have undisturbed : Undisturbed leisurelyPool leisurelyRun (.start .never ())
      (leisurelyPool.run leisurelyRun (.start .never ())) := by
    refine ⟨by decide +kernel, fun mid _ onward => ?_⟩
    cases broken : mid.crash with
    | none => rfl
    | some x =>
        have isDone := run_done leisurelyPool leisurelyRun (.start .never ())
        obtain ⟨now, told⟩ := breakdown_reported rfl onward isDone broken
        have sound : ∀ r ∈ (leisurelyPool.run leisurelyRun (.start .never ())).results,
            r.isSuccessful = true := by
          decide +kernel
        cases sound _ told
  have idle : ∀ call world, (leisurely.take call world).1.effort = 0 := by
    intro call world
    cases call <;> rfl
  obtain ⟨results, -, -, times, same⟩ :=
    run_keeps_timetable leisurelyPool leisurelyRun (.start .never ()) undisturbed idle rfl
  refine ⟨undisturbed, ?_, by decide +kernel⟩
  rw [same (by decide)]
  exact times

end SqlBench.Pool
