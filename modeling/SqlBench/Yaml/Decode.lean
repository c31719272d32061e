import SqlBench.Failure
import SqlBench.Width
import SqlBench.Yaml.Scalar

set_option autoImplicit false

namespace SqlBench.Yaml

inductive Fault where
  | malformed
  | misfit (path message : String)
  deriving DecidableEq, Repr

def Fault.text : Fault → String
  | .malformed => "<yaml syntax>"
  | .misfit path message => if path.isEmpty then message else path ++ ": " ++ message

abbrev Decoder (α : Type) := String → Node → Except Fault α

namespace Decode

def keyPath (path key : String) : String :=
  if path.isEmpty then key else path ++ "." ++ key

def itemPath (path : String) (index : Nat) : String :=
  (if path.isEmpty then "." else path) ++ "[" ++ toString index ++ "]"

def misfit {α : Type} (path expected : String) : Node → Except Fault α
  | .scalar tag text style =>
    match Scalar.resolve tag text style with
    | .ok s => .error (.misfit path ("invalid type: " ++ s.shown ++ ", expected " ++ expected))
    | .error kind =>
      .error (.misfit path
        ("invalid value: string " ++ Text.quoted text ++ ", expected " ++ kind))
  | .list .. => .error (.misfit path ("invalid type: sequence, expected " ++ expected))
  | .map .. => .error (.misfit path ("invalid type: map, expected " ++ expected))
  | _ => .error .malformed

def target : Node → Node
  | .shared _ n => n
  | n => n

def isBlank : Node → Bool
  | .scalar _ "" .plain => true
  | _ => false

def text (expected : String) : Decoder String := fun path n =>
  match target n with
  | .scalar _ s _ => .ok s
  | n => misfit path expected n

def count (expected : String) : Decoder Nat := fun path n =>
  match target n with
  | .scalar tag s style =>
    let isNumber : Bool := style = .plain || (style = .literal && tag = some "tag:yaml.org,2002:int")
    match integer? s.toList with
    | some k =>
      if isNumber && Width.fitsUnsigned 64 k && !s.startsWith "-" then .ok k.toNat
      else misfit path expected (.scalar tag s style)
    | none => misfit path expected (.scalar tag s style)
  | n => misfit path expected n

def optional {α : Type} (decode : Decoder α) : Decoder (Option α) := fun path n =>
  match target n with
  | .scalar tag s style =>
    let inner := (decode path (.scalar tag s style)).map some
    if style ≠ .plain then inner
    else
      match tag with
      | some "tag:yaml.org,2002:null" =>
        if isNull s then .ok none
        else
          .error (.misfit path
            ("invalid value: string " ++ Text.quoted s ++ ", expected null"))
      | some _ => inner
      | none => if s.isEmpty || isNull s then .ok none else inner
  | n => (decode path n).map some

def itemsFrom {α : Type} (decode : Decoder α) (path : String) :
    Nat → List Node → Except Fault (List α)
  | _, [] => .ok []
  | index, n :: rest => do
    let x ← decode (itemPath path index) n
    let xs ← itemsFrom decode path (index + 1) rest
    pure (x :: xs)

def list {α : Type} (decode : Decoder α) : Decoder (List α) := fun path n =>
  match target n with
  | .list _ items => itemsFrom decode path 0 items
  | n => if isBlank n then .ok [] else misfit path "a sequence" n

-- The path of a value under the key that is written; a key that is an alias is not shown.
def valuePath (path : String) : Node → String
  | .scalar _ s _ => keyPath path s
  | _ => keyPath path "?"

def dict {α : Type} (decode : Decoder α) : Decoder (Dict α) := fun path n =>
  let step (d : Dict α) (entry : Node × Node) : Except Fault (Dict α) := do
    let key ← text "a string" path entry.1
    let value ← decode (valuePath path entry.1) entry.2
    pure (d.insert key value)
  match target n with
  | .map _ entries => entries.foldlM step Dict.empty
  | n => if isBlank n then .ok Dict.empty else misfit path "a map" n

def oneOf (names : List String) : String :=
  let shown := names.map fun n => "`" ++ n ++ "`"
  match shown with
  | [] => "nothing"
  | [a] => a
  | [a, b] => a ++ " or " ++ b
  | names => "one of " ++ String.intercalate ", " names

def variant {α : Type} (variants : List (String × α)) : Decoder α := fun path n =>
  let named (name : String) : Except Fault α :=
    match variants.lookup name with
    | some x => .ok x
    | none =>
      .error (.misfit path
        ("unknown variant `" ++ name ++ "`, expected " ++ oneOf (variants.map fun v => v.1)))
  let byTag (tag : Option String) : Option String :=
    match tag with
    | some t => if t.startsWith "!" then some (t.drop 1).toString else none
    | none => none
  match target n with
  | .scalar tag s style =>
    match byTag tag with
    | none => named s
    | some name => do
      let x ← named name
      if s.isEmpty || (style = .plain && isNull s) then pure x
      else misfit path "unit" (.scalar none s style)
  | .list tag items =>
    match byTag tag with
    | none =>
      .error (.misfit path "invalid type: sequence, expected a YAML tag starting with '!'")
    | some name => do
      let _ ← named name
      misfit path "unit" (.list tag items)
  | .map tag entries =>
    match byTag tag with
    | none => .error (.misfit path "invalid type: map, expected a YAML tag starting with '!'")
    | some name => do
      let _ ← named name
      misfit path "unit" (.map tag entries)
  | _ => .error .malformed

structure Slot (σ : Type) where
  name : String
  put : String → Node → σ → Except Fault σ

def field {σ α : Type} (name : String) (decode : Decoder α) (put : σ → α → σ) : Slot σ :=
  ⟨name, fun path n s => (decode path n).map fun x => put s x⟩

mutual

def skim : Node → Except Fault Unit
  | .broken => .error .malformed
  | .list _ items => skimItems items
  | .map _ entries => skimEntries entries
  | _ => .ok ()

def skimItems : List Node → Except Fault Unit
  | [] => .ok ()
  | n :: rest => do
    skim n
    skimItems rest

def skimEntries : List (Node × Node) → Except Fault Unit
  | [] => .ok ()
  | (k, v) :: rest => do
    skim k
    skim v
    skimEntries rest

end

-- A record: every field at most once. Other keys are refused or, if `open_`, passed over.
def record {σ : Type} (name : String) (open_ : Bool) (fields : List (Slot σ)) (start : σ) :
    Decoder σ := fun path n =>
  let names := fields.map fun f => f.name
  let step (state : σ × List String) (entry : Node × Node) :
      Except Fault (σ × List String) := do
    let key ← text "field identifier" path entry.1
    match fields.find? fun f => f.name == key with
    | none =>
      if open_ then
        skim entry.2
        pure state
      else
        throw (.misfit path ("unknown field `" ++ key ++ "`, expected " ++ oneOf names))
    | some f =>
      if state.2.contains key then throw (.misfit path ("duplicate field `" ++ key ++ "`"))
      else
        let s ← f.put (valuePath path entry.1) entry.2 state.1
        pure (s, key :: state.2)
  match target n with
  | .map _ entries => (entries.foldlM step (start, [])).map fun state => state.1
  | n => if isBlank n then .ok start else misfit path ("struct " ++ name) n

-- Reads the only document of a text. Following more than a hundred aliases for each node is
-- refused.
def document {α : Type} (decode : Decoder α) (text : String) : Except Fault α := do
  let d := Document.read text
  if 100 * d.root.size < d.root.jumps then throw .malformed
  else
    let x ← decode "" d.root
    if d.isWhole then pure x else throw .malformed

end Decode

def Fault.failure (f : Fault) : Failure :=
  .yaml f.text

end SqlBench.Yaml
