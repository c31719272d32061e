import Mathlib.Data.List.TakeWhile
import SqlBench.Audience

set_option autoImplicit false

namespace SqlBench

namespace Listener

-- What a listener is handed that works alone, with a number of events behind it and free from a
-- moment on: each event once it is posted and the one ahead of it is done.
def schedule (l : Listener) : Nat → Moment → List (Moment × Event) → List Delivery
  | _, _, [] => []
  | number, free, (posted, event) :: rest =>
    let begun := max free posted
    let time := begun + l.delay ⟨number, event⟩
    ⟨event, begun, time⟩ :: schedule l (number + 1) time rest

def complaints (l : Listener) (heard : List Delivery) : List Complaint :=
  heard.zipIdx.filterMap fun x => (l.reply ⟨x.2, x.1.event⟩).complaint?

theorem schedule_events (l : Listener) (number : Nat) (free : Moment)
    (posts : List (Moment × Event)) :
    (l.schedule number free posts).map Delivery.event = posts.map Prod.snd := by
  induction posts generalizing number free with
  | nil => rfl
  | cons post rest ih => exact congrArg _ (ih _ _)

theorem schedule_in_turn (l : Listener) (number : Nat) {before free : Moment} (past : before ≤ free)
    (posts : List (Moment × Event)) :
    l.schedule number free (Audience.inTurn before posts) = l.schedule number free posts := by
  induction posts generalizing number before free with
  | nil => rfl
  | cons post rest ih =>
      have same : max free (max before post.1) = max free post.1 := by
        rw [← Nat.max_assoc, Nat.max_eq_left past]
      have still : max before post.1 ≤ max free post.1 + l.delay ⟨number, post.2⟩ :=
        Nat.le_trans (same ▸ Nat.le_max_right free _) (Nat.le_add_right _ _)
      simp only [Audience.inTurn, schedule, same, ih _ still]

theorem schedule_takes_time (l : Listener) (number : Nat) (free : Moment)
    (posts : List (Moment × Event)) : ∀ x ∈ l.schedule number free posts, x.begun ≤ x.time := by
  induction posts generalizing number free with
  | nil => exact fun _ member => absurd member List.not_mem_nil
  | cons post rest ih => exact List.forall_mem_cons.mpr ⟨Nat.le_add_right _ _, ih _ _⟩

theorem schedule_begins_later (l : Listener) (number : Nat) {free limit : Moment}
    {posts : List (Moment × Event)} (late : ∀ post ∈ posts.head?, limit ≤ max free post.1) :
    ∀ x ∈ l.schedule number free posts, limit ≤ x.begun := by
  induction posts generalizing number free with
  | nil => exact fun _ member => absurd member List.not_mem_nil
  | cons post rest ih =>
      have foremost : limit ≤ max free post.1 := late post rfl
      refine List.forall_mem_cons.mpr ⟨foremost, ih _ fun next _ => ?_⟩
      exact Nat.le_trans foremost (Nat.le_trans (Nat.le_add_right _ _) (Nat.le_max_left _ _))

theorem schedule_delays {l other : Listener} (same : other.delay = l.delay) (number : Nat)
    (free : Moment) (posts : List (Moment × Event)) :
    other.schedule number free posts = l.schedule number free posts := by
  induction posts generalizing number free with
  | nil => rfl
  | cons post rest ih => simp only [schedule, same, ih]

theorem complaints_append (l : Listener) (heard : List Delivery) (x : Delivery) :
    l.complaints (heard ++ [x]) =
      l.complaints heard ++ (l.reply ⟨heard.length, x.event⟩).complaint?.toList := by
  rw [complaints, List.zipIdx_append, List.filterMap_append]
  cases complaint : (l.reply ⟨heard.length, x.event⟩).complaint? <;> simp [complaints, complaint]

end Listener

namespace Desk

def free (d : Desk) : Moment :=
  (d.handed.getLast?.map Delivery.time).getD 0

structure Follows (l : Listener) (limit now : Moment) (toCome : List (Moment × Event))
    (whole : List Delivery) (pending : List (Moment × Event)) (d : Desk) : Prop where
  own : d.listener = l
  stays : d.isDismissed = false
  noted : d.complaints = l.complaints d.heard
  queued : pending.map Prod.snd = d.inbox
  goesOn : whole = d.handed ++ l.schedule d.handed.length d.free (pending ++ toCome)
  arrived : ∀ post ∈ pending, post.1 ≤ now
  -- Nobody is late: with nothing in hand, the next event is handed over at once.
  rested : d.inHand = none → d.free ≤ now ∧ ∀ post ∈ pending.head?, max d.free post.1 = now
  onTime : ∀ x ∈ d.inHand, now ≤ x.time
  begun : ∀ x ∈ d.handed, x.begun < limit
  done : ∀ x ∈ d.heard, x.time < limit

structure Left (l : Listener) (limit : Moment) (whole : List Delivery) (d : Desk) : Prop where
  handed : d.handed = whole.takeWhile fun x => x.begun < limit
  heard : d.heard = whole.takeWhile fun x => x.time < limit
  noted : d.complaints = l.complaints d.heard

theorem quiet_rests {d : Desk} (quiet : d.isDismissed = true ∨ d.isIdle = true) (now : Moment) :
    d.due? now = none := by
  rw [due?]
  split
  · rfl
  · rename_i stays
    rcases quiet with dismissed | idle
    · exact absurd dismissed stays
    · obtain ⟨held, empty⟩ : d.inHand = none ∧ d.inbox = [] := by simpa [isIdle] using idle
      rw [held, empty]

section Follows

variable {l : Listener} {limit now : Moment} {toCome pending : List (Moment × Event)}
variable {whole : List Delivery} {d : Desk}

theorem start_follows (l : Listener) (limit : Moment) {posts : List (Moment × Event)} :
    (start l).Follows l limit 0 (Audience.inTurn 0 posts) (l.schedule 0 0 posts) [] where
  own := rfl
  stays := rfl
  noted := rfl
  queued := rfl
  goesOn := (l.schedule_in_turn 0 (Nat.le_refl 0) posts).symm
  arrived := fun _ member => absurd member List.not_mem_nil
  rested := fun _ => ⟨Nat.le_refl 0, nofun⟩
  onTime := nofun
  begun := fun _ member => absurd member List.not_mem_nil
  done := fun _ member => absurd member List.not_mem_nil

theorem follows_later (follows : d.Follows l limit now toCome whole pending) {t : Moment}
    (due : ∀ u ∈ d.due? now, t ≤ u) : d.Follows l limit (max now t) toCome whole pending where
  own := follows.own
  stays := follows.stays
  noted := follows.noted
  queued := follows.queued
  goesOn := follows.goesOn
  arrived := fun post member => Nat.le_trans (follows.arrived post member) (Nat.le_max_left _ _)
  rested := by
    intro rests
    obtain ⟨free, next⟩ := follows.rested rests
    refine ⟨Nat.le_trans free (Nat.le_max_left _ _), fun post leads => ?_⟩
    have queued := follows.queued
    cases pending with
    | nil => cases leads
    | cons head rest =>
        have atOnce : t ≤ now := due now (by simp [due?, follows.stays, rests, ← queued])
        rw [Nat.max_eq_left atOnce]
        exact next post leads
  onTime := by
    intro x held
    have soon : t ≤ x.time := due x.time (by simp [due?, follows.stays, Option.mem_def.mp held])
    exact Nat.max_le.mpr ⟨follows.onTime x held, soon⟩
  begun := follows.begun
  done := follows.done

theorem follows_due (follows : d.Follows l limit now toCome whole pending) {t : Moment}
    (due : d.due? now = some t) : now ≤ t ∧ d.due? t = some t := by
  cases held : d.inHand with
  | some x =>
      have ends : x.time = t := by simpa [due?, follows.stays, held] using due
      exact ⟨ends ▸ follows.onTime x held, by simp [due?, follows.stays, held, ends]⟩
  | none =>
      cases waiting : d.inbox with
      | nil => simp [due?, follows.stays, held, waiting] at due
      | cons event rest =>
          have atOnce : now = t := by simpa [due?, follows.stays, held, waiting] using due
          exact ⟨Nat.le_of_eq atOnce, atOnce ▸ due⟩

theorem follows_receive {event : Event} {rest : List (Moment × Event)}
    (follows : d.Follows l limit now ((now, event) :: rest) whole pending) :
    (d.receive event).Follows l limit now rest whole (pending ++ [(now, event)]) := by
  have received : d.receive event = { d with inbox := d.inbox ++ [event] } := by
    simp [receive, follows.stays]
  rw [received]
  refine ⟨follows.own, follows.stays, follows.noted, ?_, ?_, ?_, ?_, follows.onTime, follows.begun,
    follows.done⟩
  · simp [follows.queued]
  · rw [List.append_assoc]
    exact follows.goesOn
  · intro post member
    rcases List.mem_append.mp member with before | new
    · exact follows.arrived post before
    · exact Nat.le_of_eq (congrArg Prod.fst (List.mem_singleton.mp new))
  · intro rests
    obtain ⟨free, next⟩ := follows.rested rests
    refine ⟨free, fun post leads => ?_⟩
    cases pending with
    | nil =>
        cases leads
        exact Nat.max_eq_right free
    | cons head others => exact next post leads

theorem follows_work (follows : d.Follows l limit now toCome whole pending)
    (due : d.due? now = some now) (inTime : now < limit) :
    ∃ remains, (d.work now).Follows l limit now toCome whole remains := by
  obtain ⟨own, stays, noted, queued, goesOn, arrived, rested, onTime, begun, made⟩ := follows
  cases held : d.inHand with
  | some x =>
      have ends : x.time = now := by simpa [due?, stays, held] using due
      have worked : d.work now = { d with
          inHand := none
          heard := d.heard ++ [x]
          complaints := l.complaints (d.heard ++ [x]) } := by
        rw [work, held, own, noted, l.complaints_append]
      have same : (d.work now).handed = d.handed := by simp [worked, handed, held]
      have free : (d.work now).free = now := by simp [worked, Desk.free, handed, ends]
      refine ⟨pending, ?_⟩
      refine ⟨by simp [worked, own], by simp [worked, stays], by simp [worked], by simp [worked, queued],
        ?_, arrived, ?_, by simp [worked], by rw [same]; exact begun, ?_⟩
      · rw [same, goesOn, Desk.free, Desk.free, same]
      · intro _
        rw [free]
        refine ⟨Nat.le_refl now, fun post leads => Nat.max_eq_left (arrived post ?_)⟩
        exact List.mem_of_mem_head? leads
      · intro y member
        rw [worked] at member
        rcases List.mem_append.mp member with before | new
        · exact made y before
        · rw [List.mem_singleton.mp new, ends]
          exact inTime
  | none =>
      obtain ⟨-, atOnce⟩ := rested held
      cases pending with
      | nil => simp [due?, stays, held, ← queued] at due
      | cons post remains =>
          have next : max d.free post.1 = now := atOnce post rfl
          let x : Delivery := ⟨post.2, now, now + l.delay ⟨d.heard.length, post.2⟩⟩
          have whatHanded : d.handed = d.heard := by simp [handed, held]
          have worked : d.work now = { d with inbox := remains.map Prod.snd, inHand := some x } := by
            rw [work, held, ← queued, own]
            rfl
          have grown : (d.work now).handed = d.handed ++ [x] := by simp [worked, handed, held]
          have free : (d.work now).free = x.time := by simp [worked, Desk.free, handed]
          refine ⟨remains, ?_⟩
          refine ⟨by simp [worked, own], by simp [worked, stays], by simp [worked, noted],
            by simp [worked], ?_, fun p member => arrived p (List.mem_cons_of_mem _ member),
            by simp [worked], ?_, ?_, by rw [worked]; exact made⟩
          · rw [free, grown, goesOn, List.append_assoc, List.length_append, List.length_singleton]
            simp only [List.cons_append, Listener.schedule, next, whatHanded]
            rfl
          · intro y same
            rw [worked] at same
            cases same
            exact Nat.le_add_right _ _
          · rw [grown]
            intro y member
            rcases List.mem_append.mp member with before | new
            · exact begun y before
            · rw [List.mem_singleton.mp new]
              exact inTime

theorem follows_rest_late (follows : d.Follows l limit now toCome whole pending)
    (ahead : ∀ post ∈ toCome, now ≤ post.1) (reached : limit ≤ now) :
    ∀ x ∈ l.schedule d.handed.length d.free (pending ++ toCome), limit ≤ x.begun := by
  refine l.schedule_begins_later _ fun post leads => Nat.le_trans reached ?_
  cases held : d.inHand with
  | some x =>
      have free : d.free = x.time := by simp [Desk.free, handed, held]
      exact Nat.le_trans (free ▸ follows.onTime x held) (Nat.le_max_left _ _)
  | none =>
      cases pending with
      | nil => exact Nat.le_trans (ahead post (List.mem_of_mem_head? leads)) (Nat.le_max_right _ _)
      | cons head rest => exact Nat.le_of_eq ((follows.rested held).2 post leads).symm

theorem cut_off {α : Type} {p : α → Bool} {taken rest : List α} (early : ∀ x ∈ taken, p x = true)
    (late : ∀ x ∈ rest, p x = false) : (taken ++ rest).takeWhile p = taken := by
  rw [List.takeWhile_append_of_pos early]
  cases rest with
  | nil => simp
  | cons x others => simp [late x List.mem_cons_self]

theorem follows_dismissed (follows : d.Follows l limit now toCome whole pending)
    (ahead : ∀ post ∈ toCome, now ≤ post.1) (reached : limit ≤ now) :
    d.dismiss.Left l limit whole := by
  have late := follows_rest_late follows ahead reached
  have slow := l.schedule_takes_time d.handed.length d.free (pending ++ toCome)
  refine ⟨?_, ?_, follows.noted⟩
  · rw [follows.goesOn, cut_off]
    · rfl
    · exact fun x member => decide_eq_true (follows.begun x member)
    · exact fun x member => decide_eq_false (Nat.not_lt.mpr (late x member))
  · rw [follows.goesOn, handed, List.append_assoc, cut_off]
    · rfl
    · exact fun x member => decide_eq_true (follows.done x member)
    · intro x member
      refine decide_eq_false (Nat.not_lt.mpr ?_)
      rcases List.mem_append.mp member with held | behind
      · exact Nat.le_trans reached (follows.onTime x (Option.mem_toList.mp held))
      · exact Nat.le_trans (late x behind) (slow x behind)

theorem follows_ended (follows : d.Follows l limit now [] whole pending) (idle : d.isIdle = true) :
    d.Left l limit whole := by
  obtain ⟨held, empty⟩ : d.inHand = none ∧ d.inbox = [] := by
    simpa [isIdle] using idle
  have nothing : pending = [] := List.map_eq_nil_iff.mp (follows.queued.trans empty)
  have all : whole = d.heard := by
    rw [follows.goesOn, nothing, handed, held]
    simp [Listener.schedule]
  have whatHanded : d.handed = d.heard := by simp [handed, held]
  refine ⟨?_, ?_, follows.noted⟩
  · rw [whatHanded, all, List.takeWhile_eq_self_iff.mpr]
    exact fun x member => decide_eq_true (follows.begun x (whatHanded ▸ member))
  · rw [all, List.takeWhile_eq_self_iff.mpr]
    exact fun x member => decide_eq_true (follows.done x member)

end Follows

end Desk

end SqlBench
