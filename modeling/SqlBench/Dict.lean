set_option autoImplicit false

namespace SqlBench

def Ascending {α : Type} (entries : List (String × α)) : Prop :=
  entries.Pairwise fun a b => a.1 < b.1

def insertEntry {α : Type} (key : String) (value : α) : List (String × α) → List (String × α)
  | [] => [(key, value)]
  | (k, v) :: rest =>
    if key < k then (key, value) :: (k, v) :: rest
    else if key = k then (key, value) :: rest
    else (k, v) :: insertEntry key value rest

theorem mem_insertEntry {α : Type} {key : String} {value : α} {entries : List (String × α)}
    {e : String × α} (member : e ∈ insertEntry key value entries) :
    e = (key, value) ∨ e ∈ entries := by
  induction entries with
  | nil => simpa [insertEntry] using member
  | cons head rest ih =>
    obtain ⟨k, v⟩ := head
    rw [insertEntry] at member
    split at member
    · simpa using member
    · split at member
      · rcases List.mem_cons.mp member with same | member
        · exact .inl same
        · exact .inr (List.mem_cons_of_mem _ member)
      · rcases List.mem_cons.mp member with same | member
        · exact .inr (same ▸ List.mem_cons_self)
        · exact (ih member).imp_right (List.mem_cons_of_mem _)

theorem ascending_insertEntry {α : Type} (key : String) (value : α) (entries : List (String × α))
    (ascending : Ascending entries) : Ascending (insertEntry key value entries) := by
  induction entries with
  | nil => exact List.pairwise_singleton _ _
  | cons head rest ih =>
    obtain ⟨k, v⟩ := head
    have parts := List.pairwise_cons.mp ascending
    rw [insertEntry]
    split
    · next less =>
      refine List.pairwise_cons.mpr ⟨fun e member => ?_, ascending⟩
      rcases List.mem_cons.mp member with same | member
      · exact same ▸ less
      · exact String.lt_trans less (parts.1 e member)
    · next less =>
      split
      · next same =>
        subst same
        exact List.pairwise_cons.mpr ⟨parts.1, parts.2⟩
      · next different =>
        refine List.pairwise_cons.mpr ⟨fun e member => ?_, ih parts.2⟩
        rcases mem_insertEntry member with same | member
        · subst same
          exact Std.lt_of_le_of_ne (String.not_lt.mp less) (Ne.symm different)
        · exact parts.1 e member

structure Dict (α : Type) where
  toList : List (String × α)
  ascending : Ascending toList

namespace Dict

variable {α β : Type}

theorem ext {a b : Dict α} (same : a.toList = b.toList) : a = b := by
  cases a; cases b; cases same; rfl

instance [DecidableEq α] : DecidableEq (Dict α) := fun a b =>
  if same : a.toList = b.toList then isTrue (ext same)
  else isFalse fun equal => same (by rw [equal])

def empty : Dict α := ⟨[], List.Pairwise.nil⟩

instance : Inhabited (Dict α) := ⟨empty⟩

def insert (d : Dict α) (key : String) (value : α) : Dict α :=
  ⟨insertEntry key value d.toList, ascending_insertEntry key value d.toList d.ascending⟩

def get? (d : Dict α) (key : String) : Option α :=
  (d.toList.find? fun e => e.1 == key).map fun e => e.2

def contains (d : Dict α) (key : String) : Bool :=
  (d.get? key).isSome

def insertMany (d : Dict α) (entries : List (String × α)) : Dict α :=
  entries.foldl (fun d e => d.insert e.1 e.2) d

def ofList (entries : List (String × α)) : Dict α :=
  empty.insertMany entries

def overrideWith (d other : Dict α) : Dict α :=
  d.insertMany other.toList

def keys (d : Dict α) : List String :=
  d.toList.map fun e => e.1

def values (d : Dict α) : List α :=
  d.toList.map fun e => e.2

def size (d : Dict α) : Nat :=
  d.toList.length

def isEmpty (d : Dict α) : Bool :=
  d.toList.isEmpty

def map (f : α → β) (d : Dict α) : Dict β where
  toList := d.toList.map fun e => (e.1, f e.2)
  ascending := by
    have ordered := d.ascending
    unfold Ascending at ordered ⊢
    rw [List.pairwise_map]
    exact ordered

end Dict

abbrev Attributes := Dict String

end SqlBench
