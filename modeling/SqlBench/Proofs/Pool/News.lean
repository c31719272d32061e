import SqlBench.Proofs.Pool.Fate

set_option autoImplicit false

namespace SqlBench

def Event.number? : Event → Option Nat
  | .executionStarted e => some e.number
  | .executionFinished r => some r.execution.number
  | _ => none

namespace Course

variable {σ : Type}

def news (c : Course σ) : List Event :=
  c.events.map Prod.snd

theorem Silent.news {c later : Course σ} (silent : c.Silent later) : later.news = c.news := by
  rw [Course.news, silent.events, Course.news]

theorem news_post (c : Course σ) (event : Event) : (c.post event).news = c.news ++ [event] := by
  rw [news, events_post, List.map_append]
  rfl

end Course

def heard (number : Nat) (news : List Event) : List Event :=
  news.filter fun event => event.number? = some number

-- Events in any order, but each execution with a result has its own two, the start first.
structure Bracketed (results : List ExecutionResult) (news : List Event) : Prop where
  once : (results.map fun r => r.execution.number).Nodup
  own : ∀ event ∈ news, ∃ r ∈ results, event.number? = some r.execution.number
  paired : ∀ r ∈ results, heard r.execution.number news =
    [.executionStarted r.execution, .executionFinished r]

theorem bracketed_nothing : Bracketed [] [] :=
  ⟨.nil, by simp, by simp⟩

namespace Pool

variable {σ : Type}

theorem news_post (p : Pool σ) (event : Event) (c : Course σ) :
    (p.post event c).news = c.news ++ if p.isQuiet then [] else [event] := by
  rw [post]
  split
  · rw [List.append_nil]
  · exact c.news_post event

theorem news_opening (p : Pool σ) (e : Execution) (c : Course σ) :
    (p.opening e c).2.news = (p.post (.executionStarted e) c).news :=
  (silent_work p.services (tasks p.services e) (.start e) _).news

section Quiet

variable {p : Pool σ}

theorem post_quiet (quiet : p.isQuiet = true) (event : Event) (c : Course σ) : p.post event c = c := by
  rw [post, if_pos quiet]

theorem record_quiet (quiet : p.isQuiet = true) (place : Nat) (r : ExecutionResult) (s : State σ) :
    s.course.Silent (p.record place r s).course := by
  rw [record, post_quiet quiet]
  exact .refl s.course

theorem notice_quiet (quiet : p.isQuiet = true) (held : Option Crash) (s : State σ) :
    s.course.Silent (p.notice held s).course := by
  cases held with
  | none => exact .refl s.course
  | some x =>
      rw [notice_crashed]
      split
      · exact record_quiet quiet x.place _ s
      · exact .refl s.course

theorem inquire_quiet (quiet : p.isQuiet = true) (place : Nat) (e : Execution) (r : ExecutionResult)
    (asked : Nat) (heard : Finding) (s : State σ) :
    s.course.Silent (p.inquire place e r asked heard s).course := by
  obtain ⟨world, inquires⟩ := inquire_cases p place e r asked heard s
  generalize p.inquire place e r asked heard s = later at inquires
  have learnt := s.course.silent_world world
  cases inquires with
  | records answer =>
      exact learnt.trans (record_quiet quiet place (judged r answer)
        { s with course := { s.course with world := world } })
  | _ => exact learnt

theorem follow_quiet (quiet : p.isQuiet = true) (place : Nat) (e : Execution) (standing : Standing)
    (s : State σ) : s.course.Silent (p.follow place e standing s).course := by
  cases standing with
  | finished r => exact inquire_quiet quiet place e r 0 (.ok []) s
  | _ => exact .refl s.course

theorem wake_quiet (quiet : p.isQuiet = true) (x : Sleeper) (others : List Sleeper) (t : Moment)
    (s : State σ) : s.course.Silent (p.wake x others t s).course := by
  rw [wake]
  cases wait : x.wait with
  | call nap =>
      rw [resume_call p wait]
      exact (silent_resume_at p.services nap s.course t).trans (follow_quiet quiet x.place x.execution
        (nap.resume p.services (s.course.advanceTo t)).1
        { s with running := others, course := (nap.resume p.services (s.course.advanceTo t)).2 })
  | answer r heard asked =>
      rw [resume_answer p wait]
      exact (s.course.silent_advance t).trans (inquire_quiet quiet x.place x.execution r asked heard
        { s with running := others, course := s.course.advanceTo t })

theorem step_quiet (quiet : p.isQuiet = true) {s later : State σ} (step : Step p s later) :
    s.course.Silent later.course := by
  cases step with
  | @wake before after x t => exact wake_quiet quiet x (before ++ after) t s
  | @enter x rest =>
      have opened : s.course.Silent (p.opening x.2 s.course).2 := by
        rw [opening, post_quiet quiet]
        exact silent_work p.services (tasks p.services x.2) (.start x.2) s.course
      have followed := follow_quiet quiet x.1 x.2 (p.opening x.2 s.course).1
        { s with queue := rest, crash := none, course := (p.opening x.2 s.course).2 }
      exact (opened.trans followed).trans (notice_quiet quiet s.crash _)
  | turnAway => exact notice_quiet quiet s.crash (skip { s with crash := none } s.queue)
  | attend => exact notice_quiet quiet s.crash { s with crash := none }

theorem quiet_run (quiet : p.isQuiet = true) (executions : List Execution) (c : Course σ) :
    c.Silent (p.run executions c).course :=
  reached_keeps (I := fun s => c.Silent s.course)
    (fun _ _ silent step => silent.trans (step_quiet quiet step)) (.refl c)
    (run_reached p executions c).1

end Quiet

def State.waits (s : State σ) (i : Nat) : Bool :=
  s.queue.any (fun x => x.1 = i) || s.fates.any fun f => f.1 = i && f.2.isSkipped

def State.told (s : State σ) (i : Nat) : List ExecutionResult :=
  (s.fates.filter fun f => f.1 = i).filterMap fun f => f.2.result?

def State.story (s : State σ) (i : Nat) (e : Execution) : List Event :=
  (if s.waits i then [] else [.executionStarted e]) ++ (s.told i).map .executionFinished

structure State.Reported (executions : List Execution) (c : Course σ) (s : State σ) : Prop where
  news : ∃ more, s.course.news = c.news ++ more ∧
    ∀ event ∈ more, ∃ e ∈ executions, event.number? = some e.number
  stories : ∀ i e, executions[i]? = some e →
    heard e.number s.course.news = heard e.number c.news ++ s.story i e

section Reported

variable {p : Pool σ} {executions : List Execution} {c : Course σ} {s : State σ}

theorem story_of {later : State σ} {i : Nat} (waits : later.waits i = s.waits i)
    (told : later.told i = s.told i) (e : Execution) : later.story i e = s.story i e := by
  rw [State.story, waits, told, State.story]

theorem told_conclude (s : State σ) (place : Nat) (fate : Fate) (i : Nat) :
    (s.conclude place fate).told i = s.told i ++ if place = i then fate.result?.toList else [] := by
  simp only [State.told, State.conclude, List.filter_append, List.filterMap_append]
  by_cases same : place = i
  · cases result : fate.result? <;> simp [same, result]
  · simp [same]

theorem waits_conclude (s : State σ) (place : Nat) {fate : Fate} (ran : fate.isSkipped = false)
    (i : Nat) : (s.conclude place fate).waits i = s.waits i := by
  simp [State.waits, State.conclude, ran]

theorem reported_alike {later : State σ} (reported : s.Reported executions c)
    (queue : later.queue = s.queue) (fates : later.fates = s.fates)
    (news : later.course.news = s.course.news) : later.Reported executions c := by
  refine ⟨news ▸ reported.news, fun i e placed => ?_⟩
  rw [news, story_of (s := s) (by rw [State.waits, queue, fates, State.waits])
    (by rw [State.told, fates, State.told])]
  exact reported.stories i e placed

theorem conclude_reported (reported : s.Reported executions c) (place : Nat) {fate : Fate}
    (unfinished : fate.result? = none) (ran : fate.isSkipped = false) :
    (s.conclude place fate).Reported executions c := by
  refine ⟨reported.news, fun i e placed => ?_⟩
  have told : (s.conclude place fate).told i = s.told i := by
    simp [told_conclude, unfinished]
  rw [story_of (waits_conclude s place ran i) told]
  exact reported.stories i e placed

theorem record_reported (loud : p.isQuiet = false)
    (distinct : (executions.map Execution.number).Nodup) (reported : s.Reported executions c)
    {place : Nat} {r : ExecutionResult} (placed : executions[place]? = some r.execution) :
    (p.record place r s).Reported executions c := by
  have posted : (p.record place r s).course.news = s.course.news ++ [.executionFinished r] := by
    simp only [record, news_post, loud, if_false, Bool.false_eq_true]
  obtain ⟨⟨more, whole, about⟩, stories⟩ := reported
  refine ⟨⟨more ++ [.executionFinished r], ?_, ?_⟩, fun i e atI => ?_⟩
  · rw [posted, whole, List.append_assoc]
  · intro event member
    rcases List.mem_append.mp member with before | new
    · exact about event before
    · rw [List.mem_singleton.mp new]
      exact ⟨r.execution, List.mem_of_getElem? placed, rfl⟩
  · have same := places_by_number distinct placed atI
    have told : (p.record place r s).told i = s.told i ++ if place = i then [r] else [] :=
      told_conclude s place (.finished r) i
    have ran : (Fate.finished r).isSkipped = false := rfl
    have waits : (p.record place r s).waits i = s.waits i := waits_conclude s place ran i
    rw [posted, State.story, waits, told, heard, List.filter_append, ← heard, stories i e atI,
      State.story]
    by_cases here : place = i
    · simp [here, Event.number?, same.mpr here]
    · have other : r.execution.number ≠ e.number := fun number => here (same.mp number)
      simp [here, Event.number?, other]

theorem notice_reported (loud : p.isQuiet = false)
    (distinct : (executions.map Execution.number).Nodup) (reported : s.Reported executions c)
    {held : Option Crash}
    (placed : ∀ x, held = some x → executions[x.place]? = some x.execution) :
    (p.notice held s).Reported executions c := by
  cases held with
  | none => exact reported
  | some x =>
      rw [notice_crashed]
      split
      · exact record_reported loud distinct reported (placed x rfl)
      · exact conclude_reported reported x.place rfl rfl

theorem inquire_reported (loud : p.isQuiet = false)
    (distinct : (executions.map Execution.number).Nodup) (reported : s.Reported executions c)
    {place : Nat} {e : Execution} {r : ExecutionResult} (placed : executions[place]? = some e)
    (own : r.execution = e) (asked : Nat) (heard : Finding) :
    (p.inquire place e r asked heard s).Reported executions c := by
  obtain ⟨world, inquires⟩ := inquire_cases p place e r asked heard s
  generalize p.inquire place e r asked heard s = later at inquires
  have learnt : State.Reported executions c { s with course := { s.course with world := world } } :=
    reported_alike reported rfl rfl rfl
  cases inquires with
  | waits delay found later => exact reported_alike learnt rfl rfl rfl
  | records answer =>
      refine record_reported loud distinct learnt ?_
      rw [(judged_times r answer).2.2, own, placed]
  | breaks panic => exact reported_alike learnt rfl rfl rfl

theorem follow_reported (loud : p.isQuiet = false)
    (distinct : (executions.map Execution.number).Nodup) (reported : s.Reported executions c)
    {place : Nat} {e : Execution} {standing : Standing} (placed : executions[place]? = some e)
    (fits : standing.Fits e) : (p.follow place e standing s).Reported executions c := by
  cases standing with
  | waiting nap => exact reported_alike reported rfl rfl rfl
  | crashed panic => exact reported_alike reported rfl rfl rfl
  | dropped cause => exact conclude_reported reported place rfl rfl
  | finished r => exact inquire_reported loud distinct reported placed fits 0 (.ok [])

theorem resume_reported (loud : p.isQuiet = false)
    (distinct : (executions.map Execution.number).Nodup) (reported : s.Reported executions c) {x : Sleeper}
    (placed : executions[x.place]? = some x.execution) (fits : x.wait.Fits x.execution) :
    (p.resume x s).Reported executions c := by
  cases wait : x.wait with
  | call nap =>
      rw [wait] at fits
      rw [resume_call p wait]
      have resumed : State.Reported executions c
          { s with course := (nap.resume p.services s.course).2 } :=
        reported_alike reported rfl rfl (silent_resume p.services nap s.course).news
      exact follow_reported loud distinct resumed placed (resume_fits p.services fits _)
  | answer r heard asked =>
      rw [wait] at fits
      rw [resume_answer p wait]
      exact inquire_reported loud distinct reported placed fits asked heard

theorem begin_reported (distinct : (executions.map Execution.number).Nodup)
    (reported : s.Reported executions c) {x : Nat × Execution} {rest : List (Nat × Execution)}
    (once : s.count x.1 ≤ 1) (waiting : s.queue = x :: rest) (placed : executions[x.1]? = some x.2)
    {later : State σ} (queue : later.queue = rest) (fates : later.fates = s.fates)
    (news : later.course.news = s.course.news ++ [.executionStarted x.2]) :
    later.Reported executions c := by
  obtain ⟨queued, -, fated⟩ := entering_alone once waiting
  obtain ⟨⟨more, whole, about⟩, stories⟩ := reported
  refine ⟨⟨more ++ [.executionStarted x.2], ?_, ?_⟩, fun i e atI => ?_⟩
  · rw [news, whole, List.append_assoc]
  · intro event member
    rcases List.mem_append.mp member with before | new
    · exact about event before
    · rw [List.mem_singleton.mp new]
      exact ⟨x.2, List.mem_of_getElem? placed, rfl⟩
  · have same := places_by_number distinct placed atI
    have told : later.told i = s.told i := by
      rw [State.told, fates, State.told]
    rw [news, heard, List.filter_append, ← heard, stories i e atI, List.append_assoc]
    refine congrArg (heard e.number c.news ++ ·) ?_
    by_cases here : x.1 = i
    · subst here
      have own : x.2 = e := Option.some.inj (placed.symm.trans atI)
      have untold : s.told x.1 = [] := by
        have nothing : s.fates.filter (fun f => f.1 = x.1) = [] :=
          List.filter_eq_nil_iff.mpr fun f member there =>
            fated (List.mem_map.mpr ⟨f, member, of_decide_eq_true there⟩)
        rw [State.told, nothing, List.filterMap_nil]
      have waited : s.waits x.1 = true := by
        simp [State.waits, waiting]
      have begun : later.waits x.1 = false := by
        simp only [State.waits, queue, fates, Bool.or_eq_false_iff, List.any_eq_false,
          decide_eq_true_eq, Bool.and_eq_true, not_and]
        exact ⟨fun y member there => queued (List.mem_map.mpr ⟨y, member, there⟩),
          fun f member there => absurd (List.mem_map.mpr ⟨f, member, there⟩) fated⟩
      simp [State.story, told, untold, waited, begun, own, Event.number?]
    · have other : x.2.number ≠ e.number := fun number => here (same.mp number)
      have waits : later.waits i = s.waits i := by
        simp [State.waits, waiting, here, queue, fates]
      rw [story_of waits told]
      simp [Event.number?, other]

theorem step_reported (loud : p.isQuiet = false)
    (distinct : (executions.map Execution.number).Nodup) (orderly : s.Orderly p executions)
    (once : ∀ i, s.count i ≤ 1) (reported : s.Reported executions c) {later : State σ}
    (step : Step p s later) : later.Reported executions c := by
  cases step with
  | @wake before after x t asleep =>
      obtain ⟨placed, fits⟩ := orderly.asleep x (by rw [asleep]; simp)
      have awake : State.Reported executions c
          { s with running := before ++ after, course := s.course.advanceTo t } :=
        reported_alike reported rfl rfl (s.course.silent_advance t).news
      exact resume_reported loud distinct awake placed fits
  | @enter x rest waiting =>
      have placed := orderly.queued x (by rw [waiting]; simp)
      have told : (p.opening x.2 s.course).2.news = s.course.news ++ [.executionStarted x.2] := by
        rw [news_opening, news_post, loud]
        rfl
      have begun : ({ s with queue := rest, crash := none, course := (p.opening x.2 s.course).2 } :
          State σ).Reported executions c :=
        begin_reported distinct reported (once x.1) waiting placed rfl rfl told
      have followed := follow_reported loud distinct begun placed (opening_fits p x.2 s.course)
      exact notice_reported loud distinct followed orderly.broken
  | turnAway =>
      refine notice_reported (s := skip { s with crash := none } s.queue) loud distinct
        ⟨reported.news, fun i e placed => ?_⟩ orderly.broken
      have told : (skip { s with crash := none } s.queue).told i = s.told i := by
        simp [State.told, skip, List.filter_map, List.filterMap_map, Function.comp_def, Fate.result?]
      have waits : (skip { s with crash := none } s.queue).waits i = s.waits i := by
        simp [State.waits, skip, Fate.isSkipped, Bool.or_comm, Function.comp_def]
      rw [story_of waits told]
      exact reported.stories i e placed
  | attend =>
      exact notice_reported (s := { s with crash := none }) loud distinct
        (reported_alike reported rfl rfl rfl) orderly.broken

theorem start_reported (executions : List Execution) (c : Course σ) :
    (State.start executions c).Reported executions c := by
  refine ⟨⟨[], (List.append_nil _).symm, by simp⟩, fun i e placed => ?_⟩
  have waits : (State.start executions c).waits i = true := by
    simp only [State.waits, State.start, List.any_map, List.any_eq_true, Bool.or_eq_true,
      Function.comp_apply, decide_eq_true_eq]
    exact .inl ⟨(e, i), List.mk_mem_zipIdx_iff_getElem?.mpr placed, rfl⟩
  have untold : (State.start executions c).told i = [] := rfl
  rw [State.story, waits, untold]
  exact (List.append_nil _).symm

theorem reached_reported (loud : p.isQuiet = false)
    (distinct : (executions.map Execution.number).Nodup)
    (reached : p.Reaches (.start executions c) s) : s.Reported executions c := by
  induction reached with
  | refl => exact start_reported executions c
  | tail before step ih =>
      exact step_reported loud distinct (reached_orderly before) (reached_once before) ih step

theorem told_once (complete : (s.fates.map Prod.fst).Perm (List.range executions.length))
    {place : Nat} {fate : Fate} (member : (place, fate) ∈ s.fates) :
    s.fates.filter (fun f => f.1 = place) = [(place, fate)] := by
  have counted : (s.fates.filter fun f => f.1 = place).length ≤ 1 := by
    have once := List.nodup_iff_count_le_one.mp (complete.nodup_iff.mpr List.nodup_range) place
    rwa [List.count_eq_countP, List.countP_map, List.countP_eq_length_filter] at once
  have there : (place, fate) ∈ s.fates.filter fun f => f.1 = place :=
    List.mem_filter.mpr ⟨member, by simp⟩
  cases found : s.fates.filter fun f => f.1 = place with
  | nil =>
      rw [found] at there
      cases there
  | cons f rest =>
      rw [found] at counted there
      have nothing : rest = [] := List.length_eq_zero_iff.mp (by simpa using counted)
      rw [nothing] at there ⊢
      rw [List.mem_singleton.mp there]

theorem done_story (complete : (s.fates.map Prod.fst).Perm (List.range executions.length))
    (isDone : s.IsDone) {place : Nat} {fate : Fate} (member : (place, fate) ∈ s.fates) (e : Execution) :
    s.story place e = (if fate.isSkipped then [] else [.executionStarted e]) ++
      fate.result?.toList.map .executionFinished := by
  have own := told_once complete member
  have waits : s.waits place = fate.isSkipped := by
    rw [State.waits, isDone.queue, List.any_nil, Bool.false_or, ← List.any_filter, own, List.any_cons,
      List.any_nil, Bool.or_false]
  have told : s.told place = fate.result?.toList := by
    rw [State.told, own]
    cases result : fate.result? <;> simp [result]
  rw [State.story, waits, told]

theorem done_bracketed (loud : p.isQuiet = false) (records : p.recordsCrashes = true)
    (distinct : (executions.map Execution.number).Nodup)
    (reached : p.Reaches (.start executions c) s) (isDone : s.IsDone) :
    ∃ middle, s.course.news = c.news ++ middle ∧ Bracketed s.results middle := by
  have orderly := reached_orderly reached
  have complete := fates_complete reached isDone
  obtain ⟨⟨middle, whole, about⟩, stories⟩ := reached_reported loud distinct reached
  have heardOf : ∀ place fate e, (place, fate) ∈ s.fates → executions[place]? = some e →
      heard e.number middle = (if fate.isSkipped then [] else [.executionStarted e]) ++
        fate.result?.toList.map .executionFinished := by
    intro place fate e member placed
    have told := stories place e placed
    rw [whole, heard, List.filter_append, ← heard, ← heard] at told
    rw [List.append_cancel_left told, done_story complete isDone member]
  refine ⟨middle, whole, ?_, fun event member => ?_, fun r reported => ?_⟩
  · exact List.pairwise_map.mpr ((results_ascend orderly distinct complete).imp Nat.ne_of_lt)
  · obtain ⟨e, planned, number⟩ := about event member
    obtain ⟨place, placed⟩ := List.mem_iff_getElem?.mp planned
    have bound : place ∈ List.range executions.length :=
      List.mem_range.mpr (List.getElem?_eq_some_iff.mp placed).1
    obtain ⟨⟨place, fate⟩, fated, rfl⟩ := List.mem_map.mp (complete.mem_iff.mpr bound)
    have there : event ∈ heard e.number middle := List.mem_filter.mpr ⟨member, decide_eq_true number⟩
    rw [heardOf place fate e fated placed] at there
    rcases told_result orderly records fated with skipped | ⟨r, finished, own⟩
    · have remains : fate = .skipped := skipped
      rw [remains] at there
      cases there
    · have same : e = r.execution := Option.some.inj (placed.symm.trans own)
      have ended : fate = .finished r := finished
      exact ⟨r, mem_results.mpr ⟨place, ended ▸ fated⟩, same ▸ number⟩
  · obtain ⟨place, fated⟩ := mem_results.mp reported
    have placed := result_placed orderly fated (r := r) rfl
    exact heardOf place _ _ fated placed

end Reported

end Pool

end SqlBench
