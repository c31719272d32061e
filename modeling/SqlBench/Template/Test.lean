import SqlBench.Template.Filter

set_option autoImplicit false

namespace SqlBench.Template

def allowArgs (test : String) (most : Nat) (args : List Value) : Except String Unit :=
  if args.length ≤ most then .ok ()
  else if most = 0 then
    .error ("Tester `" ++ test ++
      "` was called with some args but this test doesn't take args")
  else
    .error ("Tester `" ++ test ++ "` was called with " ++ toString args.length ++
      " args, the max number is " ++ toString most)

def defined (test : String) (v : Option Value) : Except String Value :=
  match v with
  | some v => .ok v
  | none => .error ("Tester `" ++ test ++ "` was called on an undefined variable")

def textOf (test place : String) (v : Option Value) : Except String (List Char) :=
  match v with
  | some (.text s) => .ok s.toList
  | _ => .error ("Tester `" ++ test ++ "` was called " ++ place ++ " that isn't a string")

def occursIn (part : List Char) : List Char → Bool
  | [] => part.isEmpty
  | c :: rest => (Text.afterStart part (c :: rest)).isSome || occursIn part rest

def onValue (test : String) (holds : Value → Except String Bool) (v : Option Value)
    (args : List Value) : Except String Bool := do
  allowArgs test 0 args
  holds (← defined test v)

def onTexts (test : String) (holds : List Char → List Char → Bool) (v : Option Value)
    (args : List Value) : Except String Bool := do
  allowArgs test 1 args
  let v ← defined test v
  let s ← textOf test "on a variable" (some v)
  let part ← textOf test "with a parameter" args.head?
  pure (holds s part)

def isOdd (v : Value) : Except String Bool :=
  match v with
  | .integer n => .ok (n % 2 != 0)
  | .real x => .ok (!(Float.floor (x / 2.0) * 2.0 == x))
  | _ => .error "Tester `odd` was called on a variable that isn't a number"

def contains (v : Option Value) (args : List Value) : Except String Bool := do
  allowArgs "containing" 1 args
  match ← defined "containing" v with
  | .text s =>
    let part ← textOf "containing" "with a parameter" args.head?
    pure (occursIn part s.toList)
  | .list items =>
    match args with
    | item :: _ => pure (items.any fun i => i.same item)
    | [] => pure false
  | _ => throw "Tester `containing` can only be used on string, array or map"

def test? (name : String) : Option (Option Value → List Value → Except String Bool) :=
  match name with
  | "defined" =>
    some fun v args => (allowArgs "defined" 0 args).map fun _ => v.isSome
  | "undefined" =>
    some fun v args => (allowArgs "undefined" 0 args).map fun _ => v.isNone
  | "string" =>
    some (onValue "string" fun | .text _ => .ok true | _ => .ok false)
  | "number" =>
    some (onValue "number" fun v => .ok v.float?.isSome)
  | "odd" => some (onValue "odd" isOdd)
  | "even" => some (onValue "even" fun v => (isOdd v).map not)
  | "starting_with" => some (onTexts "starting_with" fun s p => (Text.afterStart p s).isSome)
  | "ending_with" => some (onTexts "ending_with" fun s p => Text.endsWith p s)
  | "containing" => some contains
  | _ => none

end SqlBench.Template
