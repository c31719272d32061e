import Mathlib.Data.List.Forall2
import SqlBench.Proofs.Audience.Desk
import SqlBench.Proofs.Audience.Step

set_option autoImplicit false

namespace SqlBench.Audience

variable {a : Audience} {listeners : List Listener} {posts : List (Moment × Event)} {s : State}

def alone (l : Listener) (posts : List (Moment × Event)) : List Delivery :=
  l.schedule 0 0 posts

structure Sound (a : Audience) (listeners : List Listener) (posts : List (Moment × Event))
    (s : State) : Prop where
  size : s.desks.length = listeners.length
  inOrder : s.toCome.Pairwise fun x y => x.1 ≤ y.1
  ahead : ∀ post ∈ s.toCome, s.now ≤ post.1
  released : s.isHeld = false → s.toCome = []
  opened : s.isClosing = false → s.now ≤ a.closing ∧ s.finished = none
  closing : s.isClosing = true → a.closing ≤ s.now
  inTime : s.finished = none → s.now ≤ a.deadline
  finished : ∀ t ∈ s.finished, a.closing ≤ t ∧ t ≤ a.deadline ∧ s.desks.length ≤ s.passed
  atWork : ∀ place d l, s.passed ≤ place → s.desks[place]? = some d → listeners[place]? = some l →
    ∃ pending, d.Follows l a.deadline s.now s.toCome (alone l posts) pending
  left : ∀ place d l, place < s.passed → s.desks[place]? = some d → listeners[place]? = some l →
    d.Left l a.deadline (alone l posts) ∧
      (d.isDismissed = true ∨ s.isHeld = false ∧ d.isIdle = true)

theorem in_turn_ordered (before : Moment) (posts : List (Moment × Event)) :
    (∀ post ∈ inTurn before posts, before ≤ post.1) ∧
      (inTurn before posts).Pairwise fun x y => x.1 ≤ y.1 := by
  induction posts generalizing before with
  | nil => exact ⟨nofun, .nil⟩
  | cons post rest ih =>
      obtain ⟨later, ordered⟩ := ih (max before post.1)
      refine ⟨List.forall_mem_cons.mpr ⟨Nat.le_max_left _ _, fun x member => ?_⟩,
        List.pairwise_cons.mpr ⟨later, ordered⟩⟩
      exact Nat.le_trans (Nat.le_max_left _ _) (later x member)

theorem start_sound (a : Audience) (listeners : List Listener) (posts : List (Moment × Event)) :
    Sound a listeners posts (.start listeners posts) where
  size := List.length_map ..
  inOrder := (in_turn_ordered 0 posts).2
  ahead := fun _ _ => Nat.zero_le _
  released := nofun
  opened := fun _ => ⟨Nat.zero_le _, rfl⟩
  closing := nofun
  inTime := fun _ => Nat.zero_le _
  finished := nofun
  atWork := by
    intro place d l _ there listed
    simp only [State.start, List.getElem?_map, listed, Option.map_some, Option.some.injEq] at there
    exact ⟨[], there ▸ Desk.start_follows l a.deadline⟩
  left := fun place _ _ before => absurd before (Nat.not_lt_zero place)

theorem end_comes (a : Audience) (waits : s.finished = none) (inTime : s.now ≤ a.deadline) :
    ∃ t h, Comes a s t h ∧ h.isAtDesk = false ∧ t ≤ a.deadline := by
  cases closing : s.isClosing with
  | false => exact ⟨_, _, .closed closing, rfl, Nat.le_add_right _ _⟩
  | true =>
      cases next : s.desks[s.passed]? with
      | none => exact ⟨_, _, .returned closing next waits, rfl, inTime⟩
      | some d =>
          cases held : s.isHeld with
          | true => exact ⟨_, _, .dismissed closing next (.inl held), rfl, Nat.le_refl _⟩
          | false =>
              cases idle : d.isIdle with
              | true => exact ⟨_, _, .passed closing next held idle, rfl, inTime⟩
              | false => exact ⟨_, _, .dismissed closing next (.inr idle), rfl, Nat.le_refl _⟩

theorem later_sound (sound : Sound a listeners posts s) {t : Moment} {h : Happening}
    (next : Next a s t h) : Sound a listeners posts { s with now := max s.now t } where
  size := sound.size
  inOrder := sound.inOrder
  ahead := by
    intro post member
    refine Nat.max_le.mpr ⟨sound.ahead post member, ?_⟩
    have ordered := sound.inOrder
    cases ahead : s.toCome with
    | nil =>
        rw [ahead] at member
        cases member
    | cons first rest =>
        have soon := next.first (.posted ahead)
        rw [ahead] at member ordered
        rcases List.mem_cons.mp member with same | behind
        · exact same ▸ soon
        · exact Nat.le_trans soon ((List.pairwise_cons.mp ordered).1 post behind)
  released := sound.released
  opened := by
    intro opened
    obtain ⟨early, waits⟩ := sound.opened opened
    exact ⟨Nat.max_le.mpr ⟨early, next.first (.closed opened)⟩, waits⟩
  closing := fun closing => Nat.le_trans (sound.closing closing) (Nat.le_max_left _ _)
  inTime := by
    intro waits
    obtain ⟨u, other, comes, -, inTime⟩ := end_comes (s := s) a waits (sound.inTime waits)
    exact Nat.max_le.mpr ⟨sound.inTime waits, Nat.le_trans (next.first comes) inTime⟩
  finished := sound.finished
  atWork := by
    intro place d l behind there listed
    obtain ⟨pending, follows⟩ := sound.atWork place d l behind there listed
    exact ⟨pending, Desk.follows_later follows fun u due => next.first (.worked there due)⟩
  left := sound.left

theorem posted_sound (sound : Sound a listeners posts s) {event : Event}
    {rest : List (Moment × Event)} (ahead : s.toCome = (s.now, event) :: rest) :
    Sound a listeners posts { s with toCome := rest, desks := s.desks.map (Desk.receive event) } := by
  obtain ⟨size, inOrder, later, released, opened, closing, inTime, finished, atWork, remains⟩ := sound
  rw [ahead] at inOrder later
  -- A desk that was waited for is dismissed: nobody posts to the others any more.
  have gone : ∀ d : Desk, d.isDismissed = true ∨ s.isHeld = false ∧ d.isIdle = true →
      d.isDismissed = true := by
    rintro d (dismissed | ⟨free, -⟩)
    · exact dismissed
    · rw [released free] at ahead
      cases ahead
  refine ⟨?_, (List.pairwise_cons.mp inOrder).2, ?_, ?_, opened, closing, inTime, ?_, ?_, ?_⟩
  · simpa using size
  · exact fun post member => later post (List.mem_cons_of_mem _ member)
  · intro free
    rw [released free] at ahead
    cases ahead
  · simpa using finished
  · intro place d l behind there listed
    obtain ⟨before, was, rfl⟩ := Option.map_eq_some_iff.mp ((List.getElem?_map ..).symm.trans there)
    obtain ⟨pending, follows⟩ := atWork place before l behind was listed
    rw [ahead] at follows
    exact ⟨_, Desk.follows_receive follows⟩
  · intro place d l passed there listed
    obtain ⟨before, was, rfl⟩ := Option.map_eq_some_iff.mp ((List.getElem?_map ..).symm.trans there)
    obtain ⟨whatLeft, quiet⟩ := remains place before l passed was listed
    have same : before.receive event = before := by simp [Desk.receive, gone before quiet]
    rw [same]
    exact ⟨whatLeft, quiet⟩

theorem released_sound (sound : Sound a listeners posts s) (told : s.toCome = []) :
    Sound a listeners posts { s with isHeld := false } where
  size := sound.size
  inOrder := sound.inOrder
  ahead := sound.ahead
  released := fun _ => told
  opened := sound.opened
  closing := sound.closing
  inTime := sound.inTime
  finished := sound.finished
  atWork := sound.atWork
  left := by
    intro place d l passed there listed
    obtain ⟨whatLeft, quiet⟩ := sound.left place d l passed there listed
    exact ⟨whatLeft, quiet.imp_right fun idle => ⟨rfl, idle.2⟩⟩

theorem closed_sound (sound : Sound a listeners posts s) (reached : a.closing ≤ s.now) :
    Sound a listeners posts { s with isClosing := true } where
  size := sound.size
  inOrder := sound.inOrder
  ahead := sound.ahead
  released := sound.released
  opened := nofun
  closing := fun _ => reached
  inTime := sound.inTime
  finished := sound.finished
  atWork := sound.atWork
  left := sound.left

theorem waiting_unless_finished (sound : Sound a listeners posts s) {d : Desk}
    (next : s.desks[s.passed]? = some d) : s.finished = none := by
  cases finished : s.finished with
  | none => rfl
  | some t =>
      obtain ⟨-, -, all⟩ := sound.finished t finished
      exact absurd (List.getElem?_eq_some_iff.mp next).1 (Nat.not_lt.mpr all)

theorem step_on_sound (sound : Sound a listeners posts s) {d : Desk} {desks : List Desk}
    (next : s.desks[s.passed]? = some d) (size : desks.length = s.desks.length)
    (others : ∀ place, place ≠ s.passed → desks[place]? = s.desks[place]?)
    (leaves : ∀ l e, listeners[s.passed]? = some l → desks[s.passed]? = some e →
      e.Left l a.deadline (alone l posts) ∧
        (e.isDismissed = true ∨ s.isHeld = false ∧ e.isIdle = true)) :
    Sound a listeners posts { s with desks := desks, passed := s.passed + 1 } where
  size := size.trans sound.size
  inOrder := sound.inOrder
  ahead := sound.ahead
  released := sound.released
  opened := sound.opened
  closing := sound.closing
  inTime := sound.inTime
  finished := by
    intro t finished
    rw [waiting_unless_finished sound next] at finished
    cases finished
  atWork := by
    intro place e l behind there listed
    have other : place ≠ s.passed := Nat.ne_of_gt behind
    exact sound.atWork place e l (Nat.le_of_lt behind) (others place other ▸ there) listed
  left := by
    intro place e l passed there listed
    by_cases same : place = s.passed
    · subst same
      exact leaves l e listed there
    · have before : place < s.passed := Nat.lt_of_le_of_ne (Nat.le_of_lt_succ passed) same
      exact sound.left place e l before (others place same ▸ there) listed

theorem passed_sound (sound : Sound a listeners posts s) {d : Desk}
    (next : s.desks[s.passed]? = some d) (free : s.isHeld = false) (idle : d.isIdle = true) :
    Sound a listeners posts { s with passed := s.passed + 1 } := by
  refine step_on_sound sound next rfl (fun _ _ => rfl) fun l e listed there => ?_
  cases next.symm.trans there
  obtain ⟨pending, follows⟩ := sound.atWork _ d l (Nat.le_refl _) next listed
  rw [sound.released free] at follows
  exact ⟨Desk.follows_ended follows idle, .inr ⟨free, idle⟩⟩

theorem dismissed_sound (sound : Sound a listeners posts s) {d : Desk}
    (next : s.desks[s.passed]? = some d) (reached : a.deadline ≤ s.now) :
    Sound a listeners posts
      { s with desks := s.desks.modify s.passed Desk.dismiss, passed := s.passed + 1 } := by
  refine step_on_sound sound next (List.length_modify ..) ?_ fun l e listed there => ?_
  · intro place other
    rw [List.getElem?_modify_ne _ _ other.symm]
  · rw [List.getElem?_modify_eq, next] at there
    cases there
    obtain ⟨pending, follows⟩ := sound.atWork _ d l (Nat.le_refl _) next listed
    exact ⟨Desk.follows_dismissed follows sound.ahead reached, .inl rfl⟩

theorem returned_sound (sound : Sound a listeners posts s) (closing : s.isClosing = true)
    (all : s.desks[s.passed]? = none) (waits : s.finished = none) :
    Sound a listeners posts { s with finished := some s.now } where
  size := sound.size
  inOrder := sound.inOrder
  ahead := sound.ahead
  released := sound.released
  opened := by
    intro opened
    rw [closing] at opened
    cases opened
  closing := sound.closing
  inTime := nofun
  finished := by
    intro t finished
    cases finished
    exact ⟨sound.closing closing, sound.inTime waits, List.getElem?_eq_none_iff.mp all⟩
  atWork := sound.atWork
  left := sound.left

theorem worked_sound (sound : Sound a listeners posts s) {place : Nat} {d : Desk}
    (there : s.desks[place]? = some d) (due : d.due? s.now = some s.now)
    (inTime : s.passed ≤ place → s.now < a.deadline) :
    Sound a listeners posts { s with desks := s.desks.modify place (Desk.work s.now) } where
  size := (List.length_modify ..).trans sound.size
  inOrder := sound.inOrder
  ahead := sound.ahead
  released := sound.released
  opened := sound.opened
  closing := sound.closing
  inTime := sound.inTime
  finished := by simpa using sound.finished
  atWork := by
    intro other e l behind found listed
    by_cases same : place = other
    · subst same
      rw [List.getElem?_modify_eq, there] at found
      cases found
      obtain ⟨pending, follows⟩ := sound.atWork place d l behind there listed
      exact Desk.follows_work follows due (inTime behind)
    · rw [List.getElem?_modify_ne _ _ same] at found
      exact sound.atWork other e l behind found listed
  left := by
    intro other e l before found listed
    by_cases same : place = other
    · subst same
      obtain ⟨-, quiet⟩ := sound.left place d l before there listed
      rw [Desk.quiet_rests (quiet.imp_right And.right)] at due
      cases due
    · rw [List.getElem?_modify_ne _ _ same] at found
      exact sound.left other e l before found listed

-- Desks get on only before the deadline, for at the deadline itself the end comes first.
theorem due_in_time (sound : Sound a listeners posts s) {t : Moment} {place : Nat} {d : Desk}
    (next : Next a s t (.worked place)) (there : s.desks[place]? = some d)
    (due : d.due? s.now = some t) : max s.now t = t ∧ d.due? t = some t ∧ t < a.deadline := by
  obtain ⟨inside, -⟩ := List.getElem?_eq_some_iff.mp there
  have listed := List.getElem?_eq_getElem (sound.size ▸ inside : place < listeners.length)
  rcases Nat.lt_or_ge place s.passed with before | behind
  · obtain ⟨-, quiet⟩ := sound.left place d _ before there listed
    rw [Desk.quiet_rests (quiet.imp_right And.right)] at due
    cases due
  · obtain ⟨pending, follows⟩ := sound.atWork place d _ behind there listed
    obtain ⟨onward, still⟩ := Desk.follows_due follows due
    have waits : s.finished = none := by
      cases finished : s.finished with
      | none => rfl
      | some u => exact absurd inside (Nat.not_lt.mpr (Nat.le_trans (sound.finished u finished).2.2 behind))
    obtain ⟨u, other, comes, main, inTime⟩ := end_comes a waits (sound.inTime waits)
    exact ⟨Nat.max_eq_right onward, still, Nat.lt_of_lt_of_le (next.behind rfl comes main) inTime⟩

theorem step_sound (sound : Sound a listeners posts s) {t : Moment} {h : Happening}
    (next : Next a s t h) : Sound a listeners posts (s.occur t h) := by
  have later := later_sound sound next
  have arrived : t ≤ max s.now t := Nat.le_max_right _ _
  cases next.comes with
  | @posted _ event rest ahead =>
      have now : max s.now t = t := Nat.max_eq_right (sound.ahead (t, event) (by simp [ahead]))
      have due : ({ s with now := max s.now t } : State).toCome = (max s.now t, event) :: rest := by
        rw [now]
        exact ahead
      have posted := posted_sound later due
      simpa only [State.occur, ahead] using posted
  | released told => exact released_sound later told
  | closed => exact closed_sound later arrived
  | passed closing there free idle => exact passed_sound later there free idle
  | dismissed closing there => exact dismissed_sound later there arrived
  | returned closing all waits => exact returned_sound later closing all waits
  | @worked _ place d there due =>
      obtain ⟨now, still, inTime⟩ := due_in_time sound next there due
      exact worked_sound later there (by rw [now]; exact still) fun _ => now.symm ▸ inTime

theorem reached_sound (reached : a.Reaches (.start listeners posts) s) :
    Sound a listeners posts s :=
  reached_keeps (fun _ _ _ sound next => step_sound sound next) (start_sound a listeners posts) reached

theorem stuck_is_finished (sound : Sound a listeners posts s) (stuck : ∀ later, ¬ a.Step s later) :
    ∃ t, s.finished = some t := by
  cases finished : s.finished with
  | some t => exact ⟨t, rfl⟩
  | none =>
      obtain ⟨t, h, comes, -⟩ := end_comes a finished (sound.inTime finished)
      rcases turn_cases a s with ⟨-, nothing⟩ | step
      · exact absurd comes (nothing t h)
      · exact absurd step (stuck _)

theorem left_at_end (reached : a.Reaches (.start listeners posts) s)
    (stuck : ∀ later, ¬ a.Step s later) :
    List.Forall₂ (fun l d => d.Left l a.deadline (alone l posts)) listeners s.desks := by
  have sound := reached_sound reached
  obtain ⟨t, finished⟩ := stuck_is_finished sound stuck
  obtain ⟨-, -, all⟩ := sound.finished t finished
  refine List.forall₂_iff_get.mpr ⟨sound.size.symm, fun place listed there => ?_⟩
  exact (sound.left place _ _ (Nat.lt_of_lt_of_le there all) (List.getElem?_eq_getElem there)
    (List.getElem?_eq_getElem listed)).1

theorem handed_in_order (reached : a.Reaches (.start listeners posts) s) :
    List.Forall₂ (fun l d => d.handed <+: alone l posts) listeners s.desks := by
  have sound := reached_sound reached
  refine List.forall₂_iff_get.mpr ⟨sound.size.symm, fun place listed there => ?_⟩
  have hasDesk := List.getElem?_eq_getElem there
  have hasListener := List.getElem?_eq_getElem listed
  rcases Nat.lt_or_ge place s.passed with before | behind
  · obtain ⟨remains, -⟩ := sound.left place _ _ before hasDesk hasListener
    exact remains.handed ▸ List.takeWhile_prefix _
  · obtain ⟨pending, follows⟩ := sound.atWork place _ _ behind hasDesk hasListener
    exact follows.goesOn ▸ List.prefix_append _ _

structure Served (a : Audience) (posts : List (Moment × Event)) (l : Listener) (d : Desk) : Prop where
  inOrder : d.handed.map Delivery.event <+: posts.map Prod.snd
  -- Errors and panics are noted for the events that they answer, and nothing else comes of them.
  noted : d.complaints = l.complaints d.heard
  -- It is handed what the only listener of an audience is handed, whatever either of them answers.
  unaffected : ∀ other : Listener, other.delay = l.delay →
    ∃ e, (a.run [other] posts).desks = [e] ∧ e.handed = d.handed ∧ e.heard = d.heard
  whole : (∀ x ∈ alone l posts, x.time < a.deadline) →
    d.handed = d.heard ∧ d.heard.map Delivery.event = posts.map Prod.snd

theorem left_is_served {l : Listener} {d : Desk} (remains : d.Left l a.deadline (alone l posts)) :
    Served a posts l d where
  inOrder := by
    rw [remains.handed, ← l.schedule_events 0 0 posts]
    exact (List.takeWhile_prefix _).map _
  noted := remains.noted
  unaffected := by
    intro other same
    have ended := left_at_end (run_reached a [other] posts) (run_ends a [other] posts)
    obtain ⟨e, rest, leaves, nobody, desks⟩ := List.forall₂_cons_left_iff.mp ended
    cases List.forall₂_nil_left_iff.mp nobody
    have asAlone : alone other posts = alone l posts := l.schedule_delays same 0 0 posts
    rw [asAlone] at leaves
    exact ⟨e, desks, leaves.handed.trans remains.handed.symm, leaves.heard.trans remains.heard.symm⟩
  whole := by
    intro inTime
    have slow := l.schedule_takes_time 0 0 posts
    have heard : d.heard = alone l posts := by
      rw [remains.heard, List.takeWhile_eq_self_iff]
      exact fun x member => decide_eq_true (inTime x member)
    have handed : d.handed = alone l posts := by
      rw [remains.handed, List.takeWhile_eq_self_iff]
      exact fun x member => decide_eq_true (Nat.lt_of_le_of_lt (slow x member) (inTime x member))
    exact ⟨handed.trans heard.symm, heard ▸ l.schedule_events 0 0 posts⟩

/-- Every run ends, by the deadline and with each listener served; at every moment the events that were
handed over are the first of its posts. -/
theorem listeners_served (a : Audience) (listeners : List Listener) (posts : List (Moment × Event)) :
    (WellFounded fun later s : State => a.Step s later) ∧
      (∀ s, a.Reaches (.start listeners posts) s →
        s.desks.length = listeners.length ∧
          ∀ d ∈ s.desks, d.handed.map Delivery.event <+: posts.map Prod.snd) ∧
      (∀ s, a.Reaches (.start listeners posts) s → (∀ later, ¬ a.Step s later) →
        (∃ t, s.finished = some t ∧ a.closing ≤ t ∧ t ≤ a.deadline) ∧
          List.Forall₂ (Served a posts) listeners s.desks) ∧
      a.Reaches (.start listeners posts) (a.run listeners posts) ∧
      ∀ later, ¬ a.Step (a.run listeners posts) later := by
  refine ⟨steps_end a, fun s reached => ⟨(reached_sound reached).size, fun d member => ?_⟩,
    fun s reached stuck => ⟨?_, ?_⟩, run_reached a listeners posts, run_ends a listeners posts⟩
  · obtain ⟨place, inside, rfl⟩ := List.getElem_of_mem member
    have handed := (List.forall₂_iff_get.mp (handed_in_order reached)).2 place
      ((reached_sound reached).size ▸ inside) inside
    rw [← Listener.schedule_events _ 0 0 posts]
    exact handed.map _
  · have sound := reached_sound reached
    obtain ⟨t, finished⟩ := stuck_is_finished sound stuck
    obtain ⟨opens, inTime, -⟩ := sound.finished t finished
    exact ⟨t, finished, opens, inTime⟩
  · exact (left_at_end reached stuck).imp fun _ _ => left_is_served

def mixedAudience : List Listener :=
  [⟨fun _ => 0, fun _ => .panicked "bug"⟩, ⟨fun _ => 3, fun _ => .failed (.io "down")⟩,
    ⟨fun _ => 10, fun _ => .accepted⟩]

def shortNews : List (Moment × Event) :=
  [(0, .benchmarkStarted (Benchmark.named "first" "memory")),
    (1, .benchmarkStarted (Benchmark.named "second" "memory")),
    (2, .benchmarkStarted (Benchmark.named "third" "memory"))]

def hurriedClosing : Audience :=
  ⟨5, 12, some 4⟩

def namesOf (deliveries : List Delivery) : List String :=
  deliveries.map fun x =>
    match x.event with
    | .benchmarkStarted b => b.name
    | _ => ""

theorem mixed_audience_served :
    List.Forall₂ (Served hurriedClosing shortNews) mixedAudience
        (hurriedClosing.run mixedAudience shortNews).desks ∧
      (hurriedClosing.run mixedAudience shortNews).desks.map
        (fun d => (namesOf d.handed, namesOf d.heard, d.complaints.length)) =
        [(["first", "second", "third"], ["first", "second", "third"], 3),
          (["first", "second", "third"], ["first", "second", "third"], 3),
          (["first", "second"], ["first"], 0)] := by
  obtain ⟨-, -, served, reached, stuck⟩ := listeners_served hurriedClosing mixedAudience shortNews
  exact ⟨(served _ reached stuck).2, by decide +kernel⟩

end SqlBench.Audience
