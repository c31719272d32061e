import Mathlib.Data.List.Nodup
import Mathlib.Data.List.Perm.Basic
import SqlBench.FileTree
import SqlBench.Proofs.Text

set_option autoImplicit false

namespace SqlBench

namespace Path

structure IsName (name : String) : Prop where
  filled : name ≠ ""
  notHere : name ≠ "."
  notAbove : name ≠ ".."
  flat : '/' ∉ name.toList

instance (name : String) : Decidable (IsName name) :=
  decidable_of_iff (name ≠ "" ∧ name ≠ "." ∧ name ≠ ".." ∧ '/' ∉ name.toList)
    ⟨fun ⟨filled, notHere, notAbove, flat⟩ => ⟨filled, notHere, notAbove, flat⟩,
      fun ⟨filled, notHere, notAbove, flat⟩ => ⟨filled, notHere, notAbove, flat⟩⟩

theorem parts_name {name : String} (proper : IsName name) : parts name = [name] := by
  rw [parts, Text.split, Text.pieces_single proper.flat, List.map_singleton, String.ofList_toList]
  have kept : (!name.isEmpty && name != ".") = true := by
    simp [proper.filled, proper.notHere]
  rw [List.filter_cons, if_pos kept, List.filter_nil]

theorem parts_slash {a b path : String} (cut : path.toList = a.toList ++ '/' :: b.toList) :
    parts path = parts a ++ parts b := by
  simp only [parts, Text.split]
  rw [cut, Text.pieces_append, List.map_append, List.filter_append]

theorem join_name {base name : String} (filled : base ≠ "") (proper : IsName name) :
    join base name =
      if Text.endsWith ['/'] base.toList then base ++ name else base ++ "/" ++ name := by
  have relative : isAbsolute name = false := by
    rw [isAbsolute, beq_eq_false_iff_ne]
    exact fun slash => proper.flat (List.mem_of_head? slash)
  rw [join, relative, Bool.false_or, if_neg (by simpa using filled)]

theorem parts_join {base name : String} (filled : base ≠ "") (proper : IsName name) :
    parts (join base name) = parts base ++ [name] := by
  rw [join_name filled proper]
  cases slash : Text.afterStart ['/'] base.toList.reverse with
  | none =>
      have cut : (base ++ "/" ++ name).toList = base.toList ++ '/' :: name.toList := by
        rw [String.toList_append, String.toList_append, List.append_assoc]
        rfl
      rw [Text.endsWith, List.reverse_singleton, slash, Option.isSome_none, if_neg Bool.false_ne_true,
        parts_slash cut, parts_name proper]
  | some rest =>
      -- The base's own slash comes before the name.
      let front := String.ofList rest.reverse
      have whole : base.toList = front.toList ++ ['/'] := by
        rw [String.toList_ofList, ← List.reverse_reverse base.toList, Text.after_start_iff.mp slash,
          List.reverse_append]
        rfl
      have cut : (base ++ name).toList = front.toList ++ '/' :: name.toList := by
        rw [String.toList_append, whole, List.append_assoc]
        rfl
      have alone : parts base = parts front := by
        rw [parts_slash (b := "") whole]
        exact List.append_nil (parts front)
      rw [Text.endsWith, List.reverse_singleton, slash, Option.isSome_some, if_pos rfl,
        parts_slash cut, parts_name proper, alone]

theorem join_inj {base one other : String} (filled : base ≠ "") (proper : IsName one)
    (named : IsName other) (same : join base one = join base other) : one = other := by
  have parted : parts base ++ [one] = parts base ++ [other] := by
    rw [← parts_join filled proper, ← parts_join filled named, same]
  exact List.singleton_inj.mp (List.append_cancel_left parted)

theorem join_relative {base name : String} (filled : base ≠ "")
    (relative : isAbsolute base = false) (proper : IsName name) :
    join base name ≠ "" ∧ isAbsolute (join base name) = false := by
  have longer : ∃ back, (join base name).toList = base.toList ++ back := by
    rw [join_name filled proper]
    split
    · exact ⟨_, String.toList_append⟩
    · exact ⟨_, by rw [String.toList_append, String.toList_append, List.append_assoc]⟩
  obtain ⟨back, start⟩ := longer
  obtain ⟨c, rest, spelt⟩ := List.exists_cons_of_ne_nil (mt String.toList_eq_nil_iff.mp filled)
  rw [spelt] at start
  refine ⟨fun empty => ?_, ?_⟩
  · rw [empty] at start
    cases start
  · rw [isAbsolute, spelt] at relative
    rw [isAbsolute, start]
    exact relative

end Path

namespace FileTree

inductive Proper : FileTree → Prop where
  | file (octets : List UInt8) : Proper (.file octets)
  | directory {entries : List (String × FileTree)} (names : ∀ e ∈ entries, Path.IsName e.1)
      (distinct : (entries.map Prod.fst).Nodup) (inside : ∀ e ∈ entries, Proper e.2) :
      Proper (.directory entries)

-- The same tree, with other orders in which its directories list their entries.
inductive Relisted : FileTree → FileTree → Prop where
  | file (octets : List UInt8) : Relisted (.file octets) (.file octets)
  | directory {entries others : List (String × FileTree)}
      (names : (entries.map Prod.fst).Perm (others.map Prod.fst))
      (inside : ∀ name t u, (name, t) ∈ entries → (name, u) ∈ others → Relisted t u) :
      Relisted (.directory entries) (.directory others)

theorem lookup_member {entries : List (String × FileTree)} {name : String} {t : FileTree}
    (found : entries.lookup name = some t) : (name, t) ∈ entries := by
  obtain ⟨before, behind, rfl, -⟩ := List.lookup_eq_some_iff.mp found
  exact List.mem_append_right before List.mem_cons_self

theorem lookup_named {entries : List (String × FileTree)} {name : String}
    (member : name ∈ entries.map Prod.fst) : ∃ t, entries.lookup name = some t := by
  obtain ⟨e, there, rfl⟩ := List.mem_map.mp member
  exact Option.isSome_iff_exists.mp (List.lookup_isSome_iff.mpr ⟨e, there, beq_self_eq_true e.1⟩)

theorem same_entry {entries : List (String × FileTree)} (distinct : (entries.map Prod.fst).Nodup)
    {name : String} {t u : FileTree} (one : (name, t) ∈ entries) (other : (name, u) ∈ entries) :
    t = u :=
  (Prod.mk.inj (List.inj_on_of_nodup_map distinct one other rfl)).2

theorem lookup_entry {entries : List (String × FileTree)} (distinct : (entries.map Prod.fst).Nodup)
    {name : String} {t : FileTree} (member : (name, t) ∈ entries) :
    entries.lookup name = some t := by
  obtain ⟨u, found⟩ := lookup_named (List.mem_map_of_mem member)
  rw [found, same_entry distinct member (lookup_member found)]

def Lists (t : FileTree) (dir name : String) (octets : List UInt8) : Prop :=
  ∃ entries, t.list dir = some entries ∧ (name, .file octets) ∈ entries

def Matched (R : FileTree → FileTree → Prop) (one other : Except ReadFault FileTree) : Prop :=
  (∃ e, one = .error e ∧ other = .error e) ∨ ∃ t u, one = .ok t ∧ other = .ok u ∧ R t u

inductive Level (R : FileTree → FileTree → Prop) : FileTree → FileTree → Prop where
  | file (octets : List UInt8) : Level R (.file octets) (.file octets)
  | directory {entries others : List (String × FileTree)}
      (children : ∀ name, Matched R ((FileTree.directory entries).child name)
        ((FileTree.directory others).child name)) :
      Level R (.directory entries) (.directory others)

theorem child_matched {R : FileTree → FileTree → Prop} {entries others : List (String × FileTree)}
    (names : (entries.map Prod.fst).Perm (others.map Prod.fst))
    (inside : ∀ name t u, (name, t) ∈ entries → (name, u) ∈ others → R t u) (name : String) :
    Matched R ((FileTree.directory entries).child name) ((FileTree.directory others).child name) := by
  rw [child, child]
  cases here : entries.lookup name with
  | some t =>
      have there := names.subset (List.mem_map_of_mem (lookup_member here))
      obtain ⟨u, found⟩ := lookup_named there
      rw [found]
      exact .inr ⟨t, u, rfl, rfl, inside name t u (lookup_member here) (lookup_member found)⟩
  | none =>
      cases there : others.lookup name with
      | none => exact .inl ⟨.missing, rfl, rfl⟩
      | some u =>
          have member := names.symm.subset (List.mem_map_of_mem (lookup_member there))
          obtain ⟨t, found⟩ := lookup_named member
          rw [here] at found
          cases found

theorem walk_above (t : FileTree) (passed : List FileTree) (rest : List String) :
    t.walk passed (".." :: rest) =
      match t, passed with
      | .file _, _ => .error .notDirectory
      | .directory _, [] => .error .missing
      | .directory _, up :: above => up.walk above rest := by
  cases t <;> cases passed <;> rfl

theorem walk_below (t : FileTree) (passed : List FileTree) {name : String} (below : name ≠ "..")
    (rest : List String) :
    t.walk passed (name :: rest) = (t.child name).bind fun next => next.walk (t :: passed) rest := by
  rw [walk.eq_def]
  split
  · rename_i missing
    cases missing
  · rename_i parts
    exact absurd (List.cons.inj parts).1 below
  · rename_i parts
    obtain ⟨rfl, rfl⟩ := List.cons.inj parts
    cases t.child name <;> rfl

theorem walk_entry {t u : FileTree} {passed : List FileTree} {parts : List String} {name : String}
    (below : name ≠ "..") (reached : t.walk passed parts = .ok u) :
    t.walk passed (parts ++ [name]) = u.child name := by
  induction parts generalizing t passed with
  | nil =>
      cases reached
      rw [List.nil_append, walk_below u passed below]
      cases u.child name <;> rfl
  | cons first rest ih =>
      rw [List.cons_append]
      by_cases up : first = ".."
      · subst up
        rw [walk_above] at reached ⊢
        cases t with
        | file octets => cases reached
        | directory entries =>
            cases passed with
            | nil => cases reached
            | cons above more => exact ih reached
      · rw [walk_below t passed up] at reached ⊢
        cases found : t.child first with
        | error e =>
            rw [found] at reached
            cases reached
        | ok next =>
            rw [found] at reached
            exact ih reached

-- What a relation keeps at every directory it keeps on every path, also up again through the
-- directories that were passed.
theorem walk_matched {R : FileTree → FileTree → Prop} (levels : ∀ t u, R t u → Level R t u)
    {t u : FileTree} (related : R t u) {passed others : List FileTree}
    (above : List.Forall₂ R passed others) (parts : List String) :
    Matched R (t.walk passed parts) (u.walk others parts) := by
  induction parts generalizing t u passed others with
  | nil => exact .inr ⟨t, u, rfl, rfl, related⟩
  | cons name rest ih =>
      by_cases up : name = ".."
      · subst up
        rw [walk_above, walk_above]
        cases levels t u related with
        | file octets => exact .inl ⟨.notDirectory, rfl, rfl⟩
        | directory children =>
            cases above with
            | nil => exact .inl ⟨.missing, rfl, rfl⟩
            | cons first more => exact ih first more
      · rw [walk_below t passed up, walk_below u others up]
        cases levels t u related with
        | file octets => exact .inl ⟨.notDirectory, rfl, rfl⟩
        | directory children =>
            rcases children name with ⟨e, here, there⟩ | ⟨a, b, here, there, next⟩
            · rw [here, there]
              exact .inl ⟨e, rfl, rfl⟩
            · rw [here, there]
              exact ih next (.cons related above)

theorem find_matched {R : FileTree → FileTree → Prop} (levels : ∀ t u, R t u → Level R t u)
    {t u : FileTree} (related : R t u) (path : String) : Matched R (t.find path) (u.find path) := by
  rw [find, find]
  split
  · exact .inl ⟨.missing, rfl, rfl⟩
  · exact walk_matched levels related .nil (Path.parts path)

theorem list_matched {R : FileTree → FileTree → Prop} (levels : ∀ t u, R t u → Level R t u)
    {t u : FileTree} (related : R t u) (path : String) :
    t.list path = none ∧ u.list path = none ∨
      ∃ entries others, t.list path = some entries ∧ u.list path = some others ∧
        R (.directory entries) (.directory others) := by
  rw [list, list]
  rcases find_matched levels related path with ⟨e, here, there⟩ | ⟨a, b, here, there, same⟩
  · rw [here, there]
    exact .inl ⟨rfl, rfl⟩
  · rw [here, there]
    cases levels a b same with
    | file octets => exact .inl ⟨rfl, rfl⟩
    | @directory entries others _ => exact .inr ⟨entries, others, rfl, rfl, same⟩

theorem relisted_level (t u : FileTree) (relisted : Relisted t u) : Level Relisted t u := by
  cases relisted with
  | file octets => exact .file octets
  | directory names inside => exact .directory (child_matched names inside)

theorem relisted_file {entries others : List (String × FileTree)}
    (relisted : Relisted (.directory entries) (.directory others)) {name : String}
    {octets : List UInt8} : (name, .file octets) ∈ entries ↔ (name, .file octets) ∈ others := by
  cases relisted with
  | directory names inside =>
      constructor
      · intro member
        have there := names.subset (List.mem_map_of_mem member)
        obtain ⟨u, found⟩ := lookup_named there
        cases inside name (.file octets) u member (lookup_member found) with
        | file _ => exact lookup_member found
      · intro member
        have there := names.symm.subset (List.mem_map_of_mem member)
        obtain ⟨t, found⟩ := lookup_named there
        cases inside name t (.file octets) (lookup_member found) member with
        | file _ => exact lookup_member found

theorem relisted_refl {t : FileTree} (proper : Proper t) : Relisted t t := by
  induction proper with
  | file octets => exact .file octets
  | directory names distinct inside ih =>
      refine .directory (List.Perm.refl _) fun name t u one other => ?_
      cases same_entry distinct one other
      exact ih (name, t) one

theorem relisted_shuffled {entries others : List (String × FileTree)}
    (proper : Proper (.directory entries)) (shuffled : entries.Perm others) :
    Relisted (.directory entries) (.directory others) := by
  cases proper with
  | directory names distinct inside =>
      refine .directory (shuffled.map Prod.fst) fun name t u one other => ?_
      cases same_entry distinct one (shuffled.symm.subset other)
      exact relisted_refl (inside (name, t) one)

theorem relisted_lists {t u : FileTree} (relisted : Relisted t u) {dir name : String}
    {octets : List UInt8} : t.Lists dir name octets ↔ u.Lists dir name octets := by
  rw [Lists, Lists]
  rcases list_matched relisted_level relisted dir with ⟨here, there⟩ | ⟨_, _, here, there, inner⟩
  · simp only [here, there]
  · simp only [here, there, Option.some.injEq, exists_eq_left', relisted_file inner]

theorem proper_level (t u : FileTree) (same : t = u ∧ Proper t) :
    Level (fun t u => t = u ∧ Proper t) t u := by
  obtain ⟨rfl, proper⟩ := same
  cases proper with
  | file octets => exact .file octets
  | directory names distinct inside =>
      refine .directory (child_matched (List.Perm.refl _) fun name t u one other => ?_)
      exact ⟨same_entry distinct one other, inside (name, t) one⟩

theorem list_proper {t : FileTree} (proper : Proper t) {path : String}
    {entries : List (String × FileTree)} (listed : t.list path = some entries) :
    Proper (.directory entries) := by
  rcases list_matched proper_level ⟨rfl, proper⟩ path with ⟨missing, -⟩ | ⟨_, _, found, -, -, proper⟩
  · rw [missing] at listed
    cases listed
  · rw [found] at listed
    cases listed
    exact proper

theorem list_relative {t : FileTree} {dir : String} {entries : List (String × FileTree)}
    (listed : t.list dir = some entries) :
    t.walk [] (Path.parts dir) = .ok (.directory entries) ∧ dir ≠ "" ∧
      Path.isAbsolute dir = false := by
  rw [list] at listed
  split at listed
  · rename_i found
    cases listed
    rw [find] at found
    split at found
    · cases found
    · rename_i outside
      exact ⟨found, by simpa using outside⟩
  · cases listed

theorem list_names {t : FileTree} (proper : Proper t) {dir : String}
    {entries : List (String × FileTree)} (listed : t.list dir = some entries)
    {e : String × FileTree} (member : e ∈ entries) : Path.IsName e.1 := by
  cases list_proper proper listed with
  | directory names distinct inside => exact names e member

theorem find_listed {t u : FileTree} (proper : Proper t) {dir name : String}
    {entries : List (String × FileTree)} (listed : t.list dir = some entries)
    (member : (name, u) ∈ entries) : t.find (Path.join dir name) = .ok u := by
  cases list_proper proper listed with
  | directory names distinct inside =>
      have named := names (name, u) member
      obtain ⟨reached, filled, relative⟩ := list_relative listed
      obtain ⟨joined, inner⟩ := Path.join_relative filled relative named
      rw [find, if_neg (by simp [joined, inner]), Path.parts_join filled named,
        walk_entry named.notAbove reached, child, lookup_entry distinct member]

theorem read_listed {t : FileTree} (proper : Proper t) {dir name : String} {octets : List UInt8}
    (lists : t.Lists dir name octets) :
    t.read (Path.join dir name) =
      match Text.decode? octets with
      | some s => .ok s
      | none => .error .notText := by
  obtain ⟨entries, listed, member⟩ := lists
  have found := find_listed proper listed member
  cases decoded : Text.decode? octets <;> simp only [read, found, decoded]

theorem lists_unique {t : FileTree} (proper : Proper t) {dir name : String}
    {one other : List UInt8} (lists : t.Lists dir name one) (too : t.Lists dir name other) :
    one = other := by
  obtain ⟨entries, listed, member⟩ := lists
  obtain ⟨same, again, there⟩ := too
  cases listed.symm.trans again
  cases list_proper proper listed with
  | directory names distinct inside =>
      exact FileTree.file.inj (same_entry distinct member there)

def inFront (first : String) (entries : List (String × FileTree)) : List (String × FileTree) :=
  (entries.filter fun e => e.1 == first) ++ entries.filter fun e => !(e.1 == first)

mutual

def promoted (first : String) : FileTree → FileTree
  | .file octets => .file octets
  | .directory entries => .directory (inFront first (promotedOf first entries))

def promotedOf (first : String) : List (String × FileTree) → List (String × FileTree)
  | [] => []
  | (name, t) :: rest => (name, t.promoted first) :: promotedOf first rest

end

theorem promoted_of_map (first : String) (entries : List (String × FileTree)) :
    promotedOf first entries = entries.map fun e => (e.1, e.2.promoted first) := by
  induction entries with
  | nil => rfl
  | cons e rest ih => rw [promotedOf, ih, List.map_cons]

theorem promoted_same_names (first : String) (entries : List (String × FileTree)) :
    (promotedOf first entries).map Prod.fst = entries.map Prod.fst := by
  rw [promoted_of_map, List.map_map]
  rfl

theorem in_front_perm (first : String) (entries : List (String × FileTree)) :
    (inFront first entries).Perm entries :=
  List.filter_append_perm (fun e : String × FileTree => e.1 == first) entries

theorem in_front_first {entries : List (String × FileTree)}
    (distinct : (entries.map Prod.fst).Nodup) {first : String} {t : FileTree}
    (member : (first, t) ∈ entries) : ∃ behind, inFront first entries = (first, t) :: behind := by
  have kept : (first, t) ∈ entries.filter fun e => e.1 == first :=
    List.mem_filter.mpr ⟨member, beq_self_eq_true first⟩
  cases fronted : entries.filter fun e => e.1 == first with
  | nil =>
      rw [fronted] at kept
      cases kept
  | cons e more =>
      have head : e ∈ entries.filter fun e => e.1 == first := fronted ▸ List.mem_cons_self
      obtain ⟨there, named⟩ := List.mem_filter.mp head
      have same : e = (first, t) :=
        List.inj_on_of_nodup_map distinct there member (beq_iff_eq.mp named)
      exact ⟨more ++ _, by rw [inFront, fronted, same, List.cons_append]⟩

theorem promoted_names (first : String) (entries : List (String × FileTree)) :
    (entries.map Prod.fst).Perm ((inFront first (promotedOf first entries)).map Prod.fst) := by
  rw [← promoted_same_names first entries]
  exact ((in_front_perm first (promotedOf first entries)).map Prod.fst).symm

theorem promoted_entry {first name : String} {entries : List (String × FileTree)} {u : FileTree}
    (member : (name, u) ∈ inFront first (promotedOf first entries)) :
    ∃ t, (name, t) ∈ entries ∧ u = t.promoted first := by
  rw [(in_front_perm first _).mem_iff, promoted_of_map] at member
  obtain ⟨e, there, same⟩ := List.mem_map.mp member
  cases same
  exact ⟨e.2, there, rfl⟩

theorem promoted_relisted (first : String) {t : FileTree} (proper : Proper t) :
    Relisted t (t.promoted first) := by
  induction proper with
  | file octets =>
      rw [promoted]
      exact .file octets
  | directory names distinct inside ih =>
      rw [promoted]
      refine .directory (promoted_names first _) fun name t u one other => ?_
      obtain ⟨same, there, rfl⟩ := promoted_entry other
      cases same_entry distinct one there
      exact ih (name, t) one

theorem promoted_level (first : String) (t u : FileTree) (same : Proper t ∧ u = t.promoted first) :
    Level (fun t u => Proper t ∧ u = t.promoted first) t u := by
  obtain ⟨proper, rfl⟩ := same
  cases proper with
  | file octets =>
      rw [promoted]
      exact .file octets
  | directory names distinct inside =>
      rw [promoted]
      refine .directory (child_matched (promoted_names first _) fun name t u one other => ?_)
      obtain ⟨same, there, rfl⟩ := promoted_entry other
      cases same_entry distinct one there
      exact ⟨inside (name, t) one, rfl⟩

theorem promoted_list {t : FileTree} (proper : Proper t) {dir first : String}
    {octets : List UInt8} (lists : t.Lists dir first octets) :
    ∃ behind, (t.promoted first).list dir = some ((first, .file octets) :: behind) := by
  obtain ⟨entries, listed, member⟩ := lists
  rcases list_matched (promoted_level first) ⟨proper, rfl⟩ dir with
    ⟨missing, -⟩ | ⟨_, others, found, relisted, inside, same⟩
  · rw [missing] at listed
    cases listed
  · rw [found] at listed
    cases listed
    rw [promoted, FileTree.directory.injEq] at same
    cases inside with
    | directory names distinct inside =>
        have there : (first, FileTree.file octets) ∈ promotedOf first entries := by
          rw [promoted_of_map]
          exact List.mem_map.mpr ⟨_, member, by rw [promoted]⟩
        have apart : ((promotedOf first entries).map Prod.fst).Nodup := by
          rw [promoted_same_names]
          exact distinct
        obtain ⟨behind, fronted⟩ := in_front_first apart there
        exact ⟨behind, by rw [relisted, same, fronted]⟩

end FileTree

end SqlBench
