import SqlBench.Decimal.Reading
import SqlBench.Template.Value
import SqlBench.Text.Blank
import SqlBench.Text.Cluster
import SqlBench.Text.Cut
import SqlBench.Text.Word
import SqlBench.Width

set_option autoImplicit false

namespace SqlBench.Template

open SqlBench.Text

abbrev Answer := Except String Value

-- How a number becomes whole: toward zero, and not beyond 64 bits.
def truncated (x : Float) : Int :=
  let bound (n : Int) : Int := max (Width.least 64) (min n (Width.greatest 64))
  match Decimal.Binary.ofFloat x with
  | .nan => 0
  | .infinite negative => if negative then Width.least 64 else Width.greatest 64
  | .finite negative mantissa exponent =>
    let f := Decimal.Fraction.ofBinary mantissa exponent
    let n := Int.ofNat (f.num / f.den)
    bound (if negative then -n else n)

structure Kind (α : Type) where
  name : String
  take? : Value → Option α

namespace Kind

def text : Kind String :=
  ⟨"String", fun | .text s => some s | _ => none⟩

def list : Kind (List Value) :=
  ⟨"Vec<Value>", fun | .list items => some items | _ => none⟩

def float : Kind Float :=
  ⟨"f64", Value.float?⟩

def bool : Kind Bool :=
  ⟨"bool", fun | .bool b => some b | _ => none⟩

def whole (name : String) (fits : Int → Bool) : Kind Int :=
  ⟨name, fun
    | .integer n => if fits n then some n else none
    | _ => none⟩

def index : Kind Int := whole "usize" (Width.fitsUnsigned 64)

def long : Kind Int := whole "i64" (Width.fitsSigned 64)

def short : Kind Int := whole "i32" (Width.fitsSigned 32)

def base : Kind Int := whole "u32" (Width.fitsUnsigned 32)

end Kind

def subject {α : Type} (filter : String) (kind : Kind α) (v : Value) : Except String α :=
  match kind.take? v with
  | some x => .ok x
  | none =>
    .error ("Filter `" ++ filter ++ "` was called on an incorrect value: got `" ++ v.json ++
      "` but expected a " ++ kind.name)

def argument? {α : Type} (filter name : String) (kind : Kind α) (args : Arguments) :
    Except String (Option α) :=
  match args.find? name with
  | none => .ok none
  | some v =>
    match kind.take? v with
    | some x => .ok (some x)
    | none =>
      .error ("Filter `" ++ filter ++ "` received an incorrect type for arg `" ++ name ++
        "`: got `" ++ v.json ++ "` but expected a " ++ kind.name)

def argument {α : Type} (filter name : String) (kind : Kind α) (missing : α)
    (args : Arguments) : Except String α :=
  (argument? filter name kind args).map fun a => a.getD missing

def required {α : Type} (filter name : String) (kind : Kind α) (args : Arguments) :
    Except String α := do
  match ← argument? filter name kind args with
  | some x => pure x
  | none => throw ("Filter `" ++ filter ++ "` expected an arg called `" ++ name ++ "`")

def replaceFrom (old new : List Char) : Nat → List Char → List Char
  | 0, s => s
  | fuel + 1, s =>
    match afterStart old s with
    | some rest => new ++ replaceFrom old new fuel rest
    | none =>
      match s with
      | [] => []
      | c :: rest => c :: replaceFrom old new fuel rest

-- Puts one text for another. The empty text stands before every character and at the end.
def replaceAll (old new s : List Char) : List Char :=
  if old.isEmpty then new ++ s.flatMap fun c => c :: new
  else replaceFrom old new (s.length + 1) s

-- `part` is the one so far, backwards.
def splitFrom (sep : List Char) : Nat → List Char → List Char → List (List Char)
  | 0, part, _ => [part.reverse]
  | fuel + 1, part, s =>
    match afterStart sep s with
    | some rest => part.reverse :: splitFrom sep fuel [] rest
    | none =>
      match s with
      | [] => [part.reverse]
      | c :: rest => splitFrom sep fuel (c :: part) rest

def splitAt (sep s : List Char) : List (List Char) :=
  if sep.isEmpty then [] :: s.map (fun c => [c]) ++ [[]]
  else splitFrom sep (s.length + 1) [] s

def dropStarts (start : List Char) : Nat → List Char → List Char
  | 0, s => s
  | fuel + 1, s =>
    match afterStart start s with
    | some rest => dropStarts start fuel rest
    | none => s

def trimStartMatches (start s : List Char) : List Char :=
  if start.isEmpty then s else dropStarts start s.length s

def unescaped (s : String) : List Char :=
  replaceAll ['\\', 't'] ['\t'] (replaceAll ['\\', 'n'] ['\n'] s.toList)

def onText (name : String) (f : List Char → List Char) (v : Value) : Answer :=
  (subject name .text v).map fun s => .text (String.ofList (f s.toList))

def wordCount (s : List Char) : Nat :=
  let step (state : Bool × Nat) (c : Char) : Bool × Nat :=
    if isBlank c then (false, state.2) else (true, if state.1 then state.2 else state.2 + 1)
  (s.foldl step (false, 0)).2

def digitValue? (c : Char) : Option Nat :=
  if c.isDigit then some (c.toNat - 48)
  else if 'a' ≤ c ∧ c ≤ 'z' then some (c.toNat - 87)
  else if 'A' ≤ c ∧ c ≤ 'Z' then some (c.toNat - 55)
  else none

def readInBase (base : Nat) (s : List Char) : Option Int :=
  let (negative, digits) :=
    match s with
    | '-' :: rest => (true, rest)
    | '+' :: rest => (false, rest)
    | rest => (false, rest)
  if digits.isEmpty then none
  else
    let step (n : Nat) (c : Char) : Option Nat :=
      match digitValue? c with
      | some d => if d < base then some (n * base + d) else none
      | none => none
    match digits.foldlM step 0 with
    | none => none
    | some n =>
      let value := if negative then -Int.ofNat n else Int.ofNat n
      if Width.fitsSigned 64 value then some value else none

def baseMark (base : Nat) : List Char :=
  if base = 2 then ['0', 'b'] else if base = 8 then ['0', 'o'] else if base = 16 then ['0', 'x']
  else []

def toWhole (v : Value) (args : Arguments) : Answer := do
  let missing ← argument "int" "default" .long 0 args
  let base ← argument "int" "base" .base 10 args
  match v with
  | .text s =>
    let s := trimStartMatches (baseMark base.toNat) (trim s.toList)
    match readInBase base.toNat s with
    | some n => pure (.integer n)
    | none =>
      if s.contains '.' then
        match Decimal.read s with
        | some x => pure (.integer (truncated x))
        | none => pure (.integer missing)
      else pure (.integer missing)
  | .integer n => pure (.integer (truncated (Float.ofInt n)))
  | .real x => pure (.integer (truncated x))
  | _ => throw "Filter `int` received an unexpected type"

def toDouble (v : Value) (args : Arguments) : Answer := do
  let missing ← argument "float" "default" .float 0.0 args
  match v with
  | .text s => pure (.ofFloat ((Decimal.read (trim s.toList)).getD missing))
  | .integer n => pure (.ofFloat (Float.ofInt n))
  | .real x => pure (.ofFloat x)
  | _ => throw "Filter `float` received an unexpected type"

def powerOfTen (exponent : Int) : Float :=
  let rec go : Nat → Nat → Float → Float → Float
    | 0, _, _, result => result
    | fuel + 1, n, square, result =>
      let result := if n % 2 = 1 then result * square else result
      if n / 2 = 0 then result else go fuel (n / 2) (square * square) result
  let power := go 32 exponent.natAbs 10.0 1.0
  if exponent < 0 then 1.0 / power else power

def rounded (v : Value) (args : Arguments) : Answer := do
  let x ← subject "round" .float v
  let method ← argument "round" "method" .text "common" args
  let precision ← argument "round" "precision" .short 0 args
  let unit := if precision = 0 then 1.0 else powerOfTen precision
  if method == "common" then pure (.ofFloat ((unit * x).round / unit))
  else if method == "ceil" then pure (.ofFloat ((unit * x).ceil / unit))
  else if method == "floor" then pure (.ofFloat ((unit * x).floor / unit))
  else
    throw ("Filter `round` received an incorrect value for arg `method`: got `" ++
      Text.quoted method ++ "`, only common, ceil and floor are allowed")

def absolute (v : Value) : Answer :=
  match v with
  | .integer n => .ok (.integer n.natAbs)
  | .real x => .ok (.ofFloat x.abs)
  | _ => .error "Filter `abs` was used on a value that isn't a number."

def shortened (v : Value) (args : Arguments) : Answer := do
  let s ← subject "truncate" .text v
  let length ← argument "truncate" "length" .index 255 args
  let mark ← argument "truncate" "end" .text "…" args
  let parts := clusters s.toList
  if parts.length ≤ length.toNat then pure (.text s)
  else pure (.text (String.ofList (parts.take length.toNat).flatten ++ mark))

def nth (v : Value) (args : Arguments) : Answer := do
  let items ← subject "nth" .list v
  if items.isEmpty then pure (.text "")
  else
    match ← argument? "nth" "n" .index args with
    | some n => pure (items.getD n.toNat (.text ""))
    | none => throw "The `nth` filter has to have an `n` argument"

def joined (v : Value) (args : Arguments) : Answer := do
  let items ← subject "join" .list v
  let sep ← argument "truncate" "sep" .text "" args
  pure (.text (String.intercalate (String.ofList (unescaped sep)) (Value.writeItems items)))

def sortedBy {α : Type} (kind : String) (key? : Value → Option α) (le : α → α → Bool)
    (items : List Value) : Answer := do
  let pair (v : Value) : Except String (α × Value) :=
    match key? v with
    | some k => .ok (k, v)
    | none => .error ("expected " ++ kind ++ " got " ++ v.json)
  let pairs ← items.mapM pair
  pure (.list ((pairs.mergeSort fun a b => le a.1 b.1).map fun p => p.2))

def sorted (v : Value) (args : Arguments) : Answer := do
  let items ← subject "sort" .list v
  match items with
  | [] => pure (.list [])
  | first :: _ =>
    let field ← argument "sort" "attribute" .text "" args
    if !field.isEmpty then
      throw ("attribute '" ++ field ++ "' does not reference a field")
    else
      match first with
      | .null => throw "Null is not a sortable value"
      | .bool _ => sortedBy "bool" Kind.bool.take? (fun a b => !a || b) items
      | .integer _ => sortedBy "number" Value.float? (fun a b => a <= b) items
      | .real _ => sortedBy "number" Value.float? (fun a b => a <= b) items
      | .text _ => sortedBy "string" Kind.text.take? (fun a b => a <= b) items
      | .list _ =>
        sortedBy "array" (fun v => (Kind.list.take? v).map List.length) (fun a b => a <= b) items

def firstOfEach {α : Type} [BEq α] (kind : String) (key? : Value → Option α)
    (items : List Value) : Answer := do
  let step (state : List α × List Value) (v : Value) : Except String (List α × List Value) :=
    match key? v with
    | none => .error ("expected " ++ kind ++ " got " ++ v.json)
    | some k =>
      if state.1.contains k then .ok state else .ok (k :: state.1, v :: state.2)
  let kept ← items.foldlM step ([], [])
  pure (.list kept.2.reverse)

def unique (v : Value) (args : Arguments) : Answer := do
  let items ← subject "unique" .list v
  match items with
  | [] => pure (.list [])
  | first :: _ =>
    let caseSensitive ← argument "unique" "case_sensitive" .bool false args
    let field ← argument "unique" "attribute" .text "" args
    if !field.isEmpty then
      throw ("attribute '" ++ field ++ "' does not reference a field")
    else
      match first with
      | .null => throw "Null is not a unique value"
      | .bool _ => firstOfEach "bool" Kind.bool.take? items
      | .integer _ => firstOfEach "number" Kind.long.take? items
      | .real _ => throw "Unique floats are not implemented"
      | .text _ =>
        let key (v : Value) : Option String :=
          (Kind.text.take? v).map fun s =>
            if caseSensitive then s else String.ofList (lower s.toList)
        firstOfEach "string" key items
      | .list _ => throw "Unique arrays are not implemented"

def slice (v : Value) (args : Arguments) : Answer := do
  let items ← subject "slice" .list v
  if items.isEmpty then pure (.list [])
  else
    let size := items.length
    let place (x : Float) : Nat :=
      (truncated (if 0.0 <= x then x else Float.ofNat size + x)).toNat
    let start ← argument? "slice" "start" .float args
    let stop ← argument? "slice" "end" .float args
    let start := (start.map place).getD 0
    let stop := min ((stop.map place).getD size) size
    pure (.list ((items.take stop).drop start))

def cut (v : Value) (args : Arguments) : Answer := do
  let s ← subject "split" .text v
  let sep ← required "split" "pat" .text args
  let parts := splitAt (unescaped sep) s.toList
  pure (.list (parts.map fun p => .text (String.ofList p)))

def replaced (v : Value) (args : Arguments) : Answer := do
  let s ← subject "replace" .text v
  let old ← required "replace" "from" .text args
  let new ← required "replace" "to" .text args
  pure (.text (String.ofList (replaceAll old.toList new.toList s.toList)))

def trimMatches (name : String) (atEnd : Bool) (v : Value) (args : Arguments) : Answer := do
  let s ← subject name .text v
  let pattern ← required name "pat" .text args
  let pattern := unescaped pattern
  let trimmed :=
    if atEnd then (trimStartMatches pattern.reverse s.toList.reverse).reverse
    else trimStartMatches pattern s.toList
  pure (.text (String.ofList trimmed))

def capitalize : List Char → List Char
  | [] => []
  | c :: rest => upperChar c ++ lower rest

def addSlashes (s : List Char) : List Char :=
  s.flatMap fun c => if c == '\\' || c == '"' || c == '\'' then ['\\', c] else [c]

def size (v : Value) : Answer :=
  match v with
  | .list items => .ok (.integer items.length)
  | .text s => .ok (.integer s.length)
  | _ =>
    .error "Filter `length` was used on a value that isn't an array, an object, or a string."

def reversed (v : Value) : Answer :=
  match v with
  | .list items => .ok (.list items.reverse)
  | .text s => .ok (.text (String.ofList s.toList.reverse))
  | v =>
    .error ("Filter `reverse` received an incorrect type for arg `value`: got `" ++ v.json ++
      "` but expected Array|String")

def filter? (name : String) : Option (Value → Arguments → Answer) :=
  match name with
  | "upper" => some fun v _ => onText "upper" upper v
  | "lower" => some fun v _ => onText "lower" lower v
  | "trim" => some fun v _ => onText "trim" trim v
  | "trim_start" => some fun v _ => onText "trim_start" trimStart v
  | "trim_end" => some fun v _ => onText "trim_end" trimEnd v
  | "trim_start_matches" => some (trimMatches "trim_start_matches" false)
  | "trim_end_matches" => some (trimMatches "trim_end_matches" true)
  | "capitalize" => some fun v _ => onText "capitalize" capitalize v
  | "title" => some fun v _ => onText "title" title v
  | "addslashes" => some fun v _ => onText "addslashes" addSlashes v
  | "wordcount" =>
    some fun v _ => (subject "wordcount" .text v).map fun s => .integer (wordCount s.toList)
  | "truncate" => some shortened
  | "replace" => some replaced
  | "split" => some cut
  | "int" => some toWhole
  | "float" => some toDouble
  | "round" => some rounded
  | "abs" => some fun v _ => absolute v
  | "length" => some fun v _ => size v
  | "reverse" => some fun v _ => reversed v
  | "first" => some fun v _ => (subject "first" .list v).map fun items => items.headD (.text "")
  | "last" =>
    some fun v _ => (subject "last" .list v).map fun items => items.getLastD (.text "")
  | "nth" => some nth
  | "join" => some joined
  | "sort" => some sorted
  | "unique" => some unique
  | "slice" => some slice
  | _ => none

end SqlBench.Template
