import SqlBench.Dict
import SqlBench.Template.Filter

set_option autoImplicit false

namespace SqlBench.Template

open SqlBench.Text

structure Loop where
  name : String
  items : List Value
  index : Nat
  assigned : List (String × Value)

-- All names: loops from the innermost out, assignments outside loops, attributes.
structure Scope where
  loops : List Loop
  assigned : List (String × Value)
  attributes : Attributes

namespace Scope

def start (attributes : Attributes) : Scope :=
  ⟨[], [], attributes⟩

def assign (s : Scope) (name : String) (everywhere : Bool) (v : Value) : Scope :=
  match s.loops with
  | [] => { s with assigned := (name, v) :: s.assigned }
  | l :: rest =>
    if everywhere then { s with assigned := (name, v) :: s.assigned }
    else { s with loops := { l with assigned := (name, v) :: l.assigned } :: rest }

end Scope

def indexOf? (step : List Char) : Option Nat :=
  match step with
  | [] => none
  | ['0'] => some 0
  | '0' :: _ => none
  | digits => if digits.all Char.isDigit then some (Decimal.natOf digits) else none

def steps : Nat → List Char → List (List Char)
  | 0, _ => []
  | _ + 1, [] => []
  | fuel + 1, '"' :: rest =>
    let step := rest.takeWhile fun c => c != '"'
    step :: steps fuel ((rest.drop (step.length + 1)).drop 1)
  | fuel + 1, s =>
    let step := s.takeWhile fun c => c != '.'
    step :: steps fuel (s.drop (step.length + 1))

def follow (v : Value) (step : List Char) : Option Value :=
  match v with
  | .list items =>
    match indexOf? step with
    | some i => items[i]?
    | none => none
  | _ => none

def followAll (v : Value) (path : List Char) : Option Value :=
  (steps (path.length + 1) path).foldlM follow v

def splitPath (path : List Char) : String × List Char :=
  match cutAt '.' path with
  | some (name, rest) => (String.ofList name, rest)
  | none => (String.ofList path, [])

def findAssigned (assigned : List (String × Value)) (path : List Char) : Option Value :=
  let (name, rest) := splitPath path
  (assigned.lookup name).bind fun v => followAll v rest

def Loop.find? (l : Loop) (path : List Char) : Option Value :=
  match String.ofList path with
  | "loop.index" => some (.integer (Int.ofNat (l.index + 1)))
  | "loop.index0" => some (.integer (Int.ofNat l.index))
  | "loop.first" => some (.bool (l.index == 0))
  | "loop.last" => some (.bool (l.index + 1 == l.items.length))
  | _ =>
    let (name, rest) := splitPath path
    if name == l.name then (l.items[l.index]?).bind fun v => followAll v rest else none

def Scope.find? (s : Scope) (path : List Char) : Option Value :=
  let inLoops := s.loops.findSome? fun l =>
    match findAssigned l.assigned path with
    | some v => some v
    | none => l.find? path
  match inLoops with
  | some v => some v
  | none =>
    match findAssigned s.assigned path with
    | some v => some v
    | none =>
      let (name, rest) := splitPath path
      (s.attributes.get? name).bind fun v => followAll (.text v) rest

def bracketed? : Nat → List Char → List Char → List Char × List Char
  | _, done, [] => (done.reverse, [])
  | depth, done, ']' :: rest =>
    if depth ≤ 1 then (done.reverse, rest) else bracketed? (depth - 1) (']' :: done) rest
  | depth, done, '[' :: rest => bracketed? (depth + 1) ('[' :: done) rest
  | depth, done, c :: rest => bracketed? depth (c :: done) rest

-- The paths in the outermost brackets of a path: neither quoted nor numbers.
def innerPaths : Nat → List Char → List (List Char)
  | 0, _ => []
  | _ + 1, [] => []
  | fuel + 1, '[' :: c :: rest =>
    if c == '"' || c == '\'' then innerPaths fuel rest
    else
      let (inside, rest) := bracketed? 1 [] (c :: rest)
      if inside.all Char.isDigit then innerPaths fuel rest else inside :: innerPaths fuel rest
  | fuel + 1, _ :: rest => innerPaths fuel rest

def replaceFirst (old new : List Char) : List Char → List Char
  | [] => []
  | c :: rest =>
    match afterStart old (c :: rest) with
    | some after => new ++ after
    | none => c :: replaceFirst old new rest

def withoutBrackets (path : List Char) : List Char :=
  let rules : List (String × String) :=
    [("/", "~1"), ("['", ".\""), ("[\"", ".\""), ("[", "."), ("']", "\""), ("\"]", "\""),
      ("]", "")]
  rules.foldl (fun s r => replaceAll r.1.toList r.2.toList s) path

mutual

def Scope.lookupPath (s : Scope) : Nat → List Char → Except String Value
  | 0, path => .error ("Variable `" ++ String.ofList path ++ "` nests too deep")
  | fuel + 1, path =>
    let shown := String.ofList path
    let failed := "Variable `" ++ shown ++
      "` not found in context while rendering '__tera_one_off'"
    if path.contains '[' then
      match s.evaluated fuel path (innerPaths (path.length + 1) path) path with
      | .error e => .error e
      | .ok full =>
        match s.find? full with
        | some v => .ok v
        | none =>
          .error (failed ++ ": the evaluated version was `" ++ String.ofList full ++
            "`. Maybe the index is out of bounds?")
    else
      match s.find? path with
      | some v => .ok v
      | none => .error failed

-- Puts the values of inner paths in their places, then turns the brackets into steps.
def Scope.evaluated (s : Scope) : Nat → List Char → List (List Char) → List Char →
    Except String (List Char)
  | 0, _, _, path => .ok path
  | _ + 1, _, [], path => .ok (withoutBrackets path)
  | fuel + 1, whole, inner :: rest, path => do
    let put (text : List Char) : List Char :=
      replaceFirst ('[' :: inner ++ [']']) ('.' :: text) path
    match s.lookupPath fuel inner with
    | .error e =>
      .error ("Variable " ++ String.ofList whole ++ " can not be evaluated because: " ++ e)
    | .ok (.text t) => s.evaluated fuel whole rest (put ('"' :: t.toList ++ ['"']))
    | .ok v =>
      match v.float?, v.joined? with
      | some _, some t => s.evaluated fuel whole rest (put t.toList)
      | _, _ =>
        .error ("Only variables evaluating to String or Number can be used as index (`" ++
          String.ofList inner ++ "` of `" ++ String.ofList whole ++ "`)")

end

def Scope.lookup (s : Scope) (path : String) : Except String Value :=
  let chars := path.toList
  s.lookupPath (2 * chars.length + 2) chars

end SqlBench.Template
