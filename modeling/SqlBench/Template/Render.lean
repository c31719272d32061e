import SqlBench.Template.Meaning
import SqlBench.Template.Reader

set_option autoImplicit false

namespace SqlBench.Template

inductive Flow where
  | onward | leave | next
  deriving DecidableEq, Repr

structure Progress where
  scope : Scope
  written : String
  flow : Flow

def Progress.add (p : Progress) (text : String) : Progress :=
  { p with written := p.written ++ text }

def evaluate (around : Surroundings) (scope : Scope) (e : Expr) : Result Value :=
  (e.meaning around scope).value ()

def filterPart (around : Surroundings) (scope : Scope) (call : Call) (text : String) :
    Result String :=
  if call.name == "safe" then .ok text
  else (callFilter (call.meaning around scope) (.text text)).map Value.write

def containerName (e : Expr) : Result String :=
  match e.term with
  | .path p => .ok p
  | .call c => .ok c.name
  | .array _ => .ok "an array literal"
  | t =>
    fail ("Forloop containers have to be an ident or a function call (tried to iterate on '" ++
      t.shown ++ "')")

def loopItems (around : Surroundings) (scope : Scope) (key : Option String) (container : Expr) :
    Result (List Value) := do
  let name ← containerName container
  let noMap : Result (List Value) :=
    fail ("Tried to iterate using key value on variable `" ++ name ++
      "`, but it isn't an object/map")
  match ← evaluate around scope container with
  | .list items => if key.isSome then noMap else pure items
  | .text s => if key.isSome then noMap else pure (s.toList.map fun c => .text c.toString)
  | _ => fail ("Tried to iterate on a container (`" ++ name ++ "`) that has a unsupported type")

def nextRound (s : Scope) : Scope :=
  match s.loops with
  | [] => s
  | l :: rest => { s with loops := { l with index := l.index + 1, assigned := [] } :: rest }

def rounds (body : Progress → Result Progress) : Nat → Progress → Result Progress
  | 0, p => .ok p
  | count + 1, p => do
    let p ← body { p with flow := .onward }
    if p.flow = .leave then pure p
    else rounds body count { p with scope := nextRound p.scope }

def runLoop (body : Progress → Result Progress) (name : String) (items : List Value)
    (p : Progress) : Result Progress := do
  let inside : Scope := { p.scope with loops := ⟨name, items, 0, []⟩ :: p.scope.loops }
  let p ← rounds body items.length { p with scope := inside }
  pure { p with scope := { p.scope with loops := p.scope.loops.tail }, flow := .onward }

def interrupt (p : Progress) (flow : Flow) (word : String) : Result Progress :=
  if p.scope.loops.isEmpty then
    fail ("Attempted `" ++ word ++ "` while not in `for loop`")
  else .ok { p with flow := flow }

mutual

def Node.run (around : Surroundings) : Node → Progress → Result Progress
  | .text s, p => .ok (p.add (String.ofList s))
  | .value e, p => (evaluate around p.scope e).map fun v => p.add v.write
  | .assign name everywhere e, p =>
    (evaluate around p.scope e).map fun v =>
      { p with scope := p.scope.assign name everywhere v }
  | .filtered call body, p => do
    let inner ← runAll around body { p with written := "" }
    let text ← filterPart around inner.scope call inner.written
    pure { inner with written := p.written ++ text }
  | .choice cases otherwise, p => do
    match ← runCases around cases p with
    | some p => pure p
    | none => runAll around otherwise p
  | .loop key name container body whenEmpty, p => do
    let items ← loopItems around p.scope key container
    if items.isEmpty then runEmpty around whenEmpty p
    else runLoop (runAll around body) name items p
  | .leave, p => interrupt p .leave "break"
  | .next, p => interrupt p .next "continue"

def runAll (around : Surroundings) : List Node → Progress → Result Progress
  | [], p => .ok p
  | n :: rest, p => do
    let p ← n.run around p
    if p.flow = .onward then runAll around rest p else pure p

def runCases (around : Surroundings) :
    List (Expr × List Node) → Progress → Result (Option Progress)
  | [], _ => .ok none
  | (e, body) :: rest, p => do
    if ← (e.meaning around p.scope).truth () then (runAll around body p).map some
    else runCases around rest p

def runEmpty (around : Surroundings) : Option (List Node) → Progress → Result Progress
  | none, p => .ok p
  | some body, p => runAll around body p

end

def readFault : String := "Failed to parse '__tera_one_off'"

def writeFault : String := "Failed to render '__tera_one_off'"

def render (around : Surroundings) (template : String) (attributes : Attributes) :
    Result String :=
  match parse? template.toList with
  | none => fail readFault
  | some nodes =>
    because writeFault
      ((runAll around nodes ⟨.start attributes, "", .onward⟩).map fun p => p.written)

end SqlBench.Template
