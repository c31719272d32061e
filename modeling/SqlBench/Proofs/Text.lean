import Mathlib.Data.List.DropRight
import SqlBench.Text.Blank
import SqlBench.Text.Cut

set_option autoImplicit false

namespace SqlBench.Text

theorem pieces_split (sep : Char) (s : List Char) : pieces sep s = s.splitOn sep := by
  induction s with
  | nil => rfl
  | cons c rest ih =>
      rw [pieces, List.splitOn_cons_eq_if_modifyHead, ih]
      by_cases same : c = sep
      · simp [same]
      · obtain ⟨first, more, parts⟩ := List.exists_cons_of_ne_nil (List.splitOn_ne_nil sep rest)
        simp [same, parts]

theorem pieces_append (sep : Char) (a b : List Char) :
    pieces sep (a ++ sep :: b) = pieces sep a ++ pieces sep b := by
  simp only [pieces_split, List.splitOn_append_cons_self]

theorem pieces_single {sep : Char} {s : List Char} (free : sep ∉ s) : pieces sep s = [s] := by
  rw [pieces_split, List.splitOn_eq_singleton free]

theorem pieces_some (sep : Char) (s : List Char) : pieces sep s ≠ [] := by
  rw [pieces_split]
  exact List.splitOn_ne_nil sep s

theorem pieces_joined (sep : Char) (s : List Char) : [sep].intercalate (pieces sep s) = s := by
  rw [pieces_split, List.intercalate_splitOn]

theorem joined_pieces {sep : Char} {parts : List (List Char)} (free : ∀ p ∈ parts, sep ∉ p)
    (filled : parts ≠ []) : pieces sep ([sep].intercalate parts) = parts := by
  rw [pieces_split, List.splitOn_intercalate sep free filled]

theorem pieces_free (sep : Char) (s : List Char) : ∀ p ∈ pieces sep s, sep ∉ p := by
  induction s with
  | nil =>
      intro p member
      cases List.mem_singleton.mp member
      exact List.not_mem_nil
  | cons c rest ih =>
      rw [pieces]
      by_cases same : c = sep
      · rw [if_pos same]
        intro p member
        rcases List.mem_cons.mp member with rfl | member
        · exact List.not_mem_nil
        · exact ih p member
      · rw [if_neg same]
        obtain ⟨first, more, parts⟩ := List.exists_cons_of_ne_nil (pieces_some sep rest)
        rw [parts] at ih ⊢
        intro p member
        rcases List.mem_cons.mp member with rfl | member
        · simpa [Ne.symm same] using ih first List.mem_cons_self
        · exact ih p (List.mem_cons_of_mem first member)

theorem cut_free {sep : Char} {s : List Char} (free : sep ∉ s) : cutAt sep s = none := by
  induction s with
  | nil => rfl
  | cons c rest ih =>
      obtain ⟨other, behind⟩ := not_or.mp (mt List.mem_cons.mpr free)
      rw [cutAt, if_neg (Ne.symm other), ih behind]
      rfl

theorem cut_first {sep : Char} {front : List Char} (free : sep ∉ front) (back : List Char) :
    cutAt sep (front ++ sep :: back) = some (front, back) := by
  induction front with
  | nil => exact if_pos rfl
  | cons c rest ih =>
      obtain ⟨other, behind⟩ := not_or.mp (mt List.mem_cons.mpr free)
      rw [List.cons_append, cutAt, if_neg (Ne.symm other), ih behind]
      rfl

theorem cut_cases (sep : Char) (s : List Char) :
    (sep ∉ s ∧ cutAt sep s = none) ∨
      ∃ front back, s = front ++ sep :: back ∧ sep ∉ front ∧ cutAt sep s = some (front, back) := by
  by_cases member : sep ∈ s
  · obtain ⟨front, back, rfl, free⟩ := List.eq_append_cons_of_mem member
    exact .inr ⟨front, back, rfl, free, cut_first free back⟩
  · exact .inl ⟨member, cut_free member⟩

theorem while_ends {p : Char → Bool} {front rest : List Char} (all : ∀ c ∈ front, p c = true)
    (stop : ∀ c, rest.head? = some c → p c = false) :
    (front ++ rest).takeWhile p = front ∧ (front ++ rest).dropWhile p = rest := by
  rw [List.takeWhile_append_of_pos all, List.dropWhile_append_of_pos all]
  cases rest with
  | nil => exact ⟨List.append_nil front, rfl⟩
  | cons c more =>
      have stops := stop c rfl
      rw [List.takeWhile_cons_of_neg (by simp [stops]), List.dropWhile_cons_of_neg (by simp [stops])]
      exact ⟨List.append_nil front, rfl⟩

theorem after_start_iff {mark s rest : List Char} :
    afterStart mark s = some rest ↔ s = mark ++ rest := by
  induction mark generalizing s with
  | nil => simp only [afterStart, Option.some.injEq, List.nil_append]
  | cons p ps ih =>
      cases s with
      | nil => simp [afterStart]
      | cons c s =>
          rw [afterStart, List.cons_append, List.cons.injEq]
          by_cases same : p = c
          · rw [if_pos same, ih, and_iff_right same.symm]
          · simp [same, Ne.symm same]

theorem join_with_intercalate (sep : List Char) (parts : List (List Char)) :
    joinWith sep parts = sep.intercalate parts := by
  induction parts with
  | nil => rfl
  | cons part rest ih =>
      cases rest with
      | nil => exact List.intercalate_singleton.symm
      | cons next more =>
          rw [joinWith, ih, List.intercalate_cons_cons]
          exact List.cons_ne_nil next more

structure Bare (s : List Char) : Prop where
  first : ∀ c, s.head? = some c → isBlank c = false
  last : ∀ c, s.getLast? = some c → isBlank c = false

theorem start_unblank {s : List Char} (unblank : ∀ c, s.head? = some c → isBlank c = false) :
    trimStart s = s := by
  cases s with
  | nil => rfl
  | cons c rest => exact List.dropWhile_cons_of_neg (by simp [unblank c rfl])

theorem end_unblank {s : List Char} (last : ∀ c, s.getLast? = some c → isBlank c = false) :
    trimEnd s = s := by
  have reversed : trimStart s.reverse = s.reverse :=
    start_unblank fun c head => last c (by rw [← List.head?_reverse, head])
  change (trimStart s.reverse).reverse = s
  rw [reversed, List.reverse_reverse]

theorem trim_bare {s : List Char} (bare : Bare s) : trim s = s := by
  rw [trim, start_unblank bare.first, end_unblank bare.last]

theorem trim_start_blank {before s : List Char} (blank : ∀ c ∈ before, isBlank c = true) :
    trimStart (before ++ s) = trimStart s :=
  List.dropWhile_append_of_pos blank

theorem trim_end_blank {s behind : List Char} (blank : ∀ c ∈ behind, isBlank c = true) :
    trimEnd (s ++ behind) = trimEnd s := by
  have reversed : ∀ c ∈ behind.reverse, isBlank c = true := fun c member =>
    blank c (List.mem_reverse.mp member)
  rw [trimEnd, List.reverse_append, List.dropWhile_append_of_pos reversed]
  rfl

theorem trim_all_blank {s : List Char} (blank : ∀ c ∈ s, isBlank c = true) : trim s = [] := by
  rw [trim, trimStart, List.dropWhile_eq_nil_iff.mpr blank]
  rfl

theorem trim_between {before core behind : List Char} (front : ∀ c ∈ before, isBlank c = true)
    (back : ∀ c ∈ behind, isBlank c = true) (bare : Bare core) :
    trim (before ++ core ++ behind) = core := by
  cases core with
  | nil =>
      rw [List.append_nil]
      exact trim_all_blank fun c member => (List.mem_append.mp member).elim (front c) (back c)
  | cons c rest =>
      rw [trim, List.append_assoc, trim_start_blank front, start_unblank, trim_end_blank back,
        end_unblank bare.last]
      exact fun d head => bare.first d head

theorem trim_parts (s : List Char) :
    ∃ before behind, s = before ++ trim s ++ behind ∧ (∀ c ∈ before, isBlank c = true) ∧
      (∀ c ∈ behind, isBlank c = true) ∧ Bare (trim s) := by
  have remains : s = s.takeWhile isBlank ++ trimStart s := List.takeWhile_append_dropWhile.symm
  have follows : trimStart s = trim s ++ (trimStart s).rtakeWhile isBlank :=
    (List.rdropWhile_append_rtakeWhile (p := isBlank)).symm
  refine ⟨s.takeWhile isBlank, (trimStart s).rtakeWhile isBlank, ?_,
    fun c member => List.mem_takeWhile_imp member, fun c member => List.mem_rtakeWhile_imp member,
    ?_, ?_⟩
  · rw [List.append_assoc, ← follows, ← remains]
  · intro c head
    have whole : (trimStart s).head? = some c := by
      rw [follows, List.head?_append, head]
      rfl
    have unblank := List.head?_dropWhile_not isBlank s
    rw [← trimStart, whole] at unblank
    exact unblank
  · intro c last
    have reversed : ((trimStart s).reverse.dropWhile isBlank).head? = some c := by
      rw [← last, trim, trimEnd, List.getLast?_reverse]
    have unblank := List.head?_dropWhile_not isBlank (trimStart s).reverse
    rw [reversed] at unblank
    exact unblank

theorem trim_is_bare (s : List Char) : Bare (trim s) := by
  obtain ⟨before, behind, -, -, -, bare⟩ := trim_parts s
  exact bare

theorem bare_of_trim {s : List Char} (same : trim s = s) : Bare s :=
  same ▸ trim_is_bare s

theorem trim_blank_before {before : List Char} (blank : ∀ c ∈ before, isBlank c = true)
    (s : List Char) : trim (before ++ s) = trim s := by
  rw [trim, trim_start_blank blank, ← trim]

theorem trim_blank_behind {behind : List Char} (blank : ∀ c ∈ behind, isBlank c = true)
    (s : List Char) : trim (s ++ behind) = trim s := by
  obtain ⟨start, finish, parts, front, back, bare⟩ := trim_parts s
  have whole : s ++ behind = start ++ trim s ++ (finish ++ behind) := by
    rw [congrArg (· ++ behind) parts, List.append_assoc]
  rw [whole]
  exact trim_between front (List.forall_mem_append.mpr ⟨back, blank⟩) bare

theorem blanks_before {front rest : List Char}
    (last : ∀ c, (front ++ rest).getLast? = some c → isBlank c = false) :
    ∃ blanks, (∀ c ∈ blanks, isBlank c = true) ∧ rest = blanks ++ trim rest := by
  obtain ⟨before, behind, parts, blank, blank', -⟩ := trim_parts rest
  rcases List.eq_nil_or_concat behind with rfl | ⟨more, c, rfl⟩
  · exact ⟨before, blank, by rwa [List.append_nil] at parts⟩
  · have ends : (front ++ rest).getLast? = some c := by
      rw [parts]
      simp
    exact absurd (blank' c (by simp)) (by simp [last c ends])

theorem trim_subset {s : List Char} {c : Char} (member : c ∈ trim s) : c ∈ s := by
  obtain ⟨before, behind, parts, -, -, -⟩ := trim_parts s
  rw [parts]
  exact List.mem_append_left behind (List.mem_append_right before member)

theorem trim_empty_iff {s : List Char} : trim s = [] ↔ allBlank s = true := by
  rw [allBlank, List.all_eq_true]
  constructor
  · intro empty c member
    obtain ⟨before, behind, parts, front, back, -⟩ := trim_parts s
    rw [empty, List.append_nil] at parts
    rw [parts] at member
    exact (List.mem_append.mp member).elim (front c) (back c)
  · exact trim_all_blank

def filled? (p : String) : Option String :=
  if allBlank p.toList then none else some (trimmed p)

theorem part_blank {p : String} (blank : allBlank p.toList = true) : filled? p = none :=
  if_pos blank

theorem part_filled {p : String} (filled : ¬ allBlank p.toList = true) : filled? p = some (trimmed p) :=
  if_neg filled

theorem part_made {p s : String} (made : filled? p = some s) :
    ¬ allBlank p.toList = true ∧ s = trimmed p := by
  by_cases blank : allBlank p.toList = true
  · rw [part_blank blank] at made
    cases made
  · rw [part_filled blank] at made
    exact ⟨blank, (Option.some.inj made).symm⟩

theorem part_between {before core behind : List Char} (front : ∀ c ∈ before, isBlank c = true)
    (back : ∀ c ∈ behind, isBlank c = true) (bare : Bare core) (filled : core ≠ []) :
    filled? (String.ofList (before ++ core ++ behind)) = .some (String.ofList core) := by
  have same := trim_between front back bare
  have filled : ¬ allBlank (before ++ core ++ behind) = true := by
    rw [← trim_empty_iff, same]
    exact filled
  rw [part_filled (by rwa [String.toList_ofList]), trimmed, String.toList_ofList, same]

theorem filled_parts (sep : Char) (s : String) :
    (((pieces sep s.toList).map trim).filter fun p => !p.isEmpty).map String.ofList =
      (split sep s).filterMap filled? := by
  rw [split]
  induction pieces sep s.toList with
  | nil => rfl
  | cons p rest ih =>
      simp only [List.map_cons, List.filter_cons, List.filterMap_cons] at ih ⊢
      by_cases blank : allBlank p = true
      · have made : filled? (String.ofList p) = none := part_blank (by rwa [String.toList_ofList])
        rw [made, trim_empty_iff.mpr blank]
        exact ih
      · have made : filled? (String.ofList p) = some (String.ofList (trim p)) := by
          rw [part_filled (by rwa [String.toList_ofList]), trimmed, String.toList_ofList]
        have filled : (!(trim p).isEmpty) = true := by
          simpa using mt trim_empty_iff.mp blank
        rw [made, if_pos filled, List.map_cons, ih]

theorem split_free {sep : Char} {s p : String} (member : p ∈ split sep s) : sep ∉ p.toList := by
  obtain ⟨piece, there, rfl⟩ := List.mem_map.mp member
  rw [String.toList_ofList]
  exact pieces_free sep s.toList piece there

theorem split_parts_joined {sep : Char} {parts : List String} (free : ∀ p ∈ parts, sep ∉ p.toList)
    (filled : parts ≠ []) : split sep ((String.singleton sep).intercalate parts) = parts := by
  have pieced : ∀ p ∈ parts.map String.toList, sep ∉ p := by
    intro p member
    obtain ⟨s, there, rfl⟩ := List.mem_map.mp member
    exact free s there
  have cut := joined_pieces pieced (mt List.map_eq_nil_iff.mp filled)
  rw [split, String.toList_intercalate, String.toList_singleton, cut, List.map_map]
  exact (List.map_congr_left fun s _ => String.ofList_toList).trans (List.map_id _)

theorem part_left {sep : Char} {p s : String} (free : sep ∉ p.toList) (made : filled? p = some s) :
    s ≠ "" ∧ sep ∉ s.toList ∧ Bare s.toList := by
  obtain ⟨filled, rfl⟩ := part_made made
  rw [trimmed, String.toList_ofList]
  refine ⟨fun empty => filled (trim_empty_iff.mp (String.ofList_eq_empty_iff.mp empty)),
    fun member => free (trim_subset member), trim_is_bare _⟩

end SqlBench.Text
