import SqlBench.Template.Function
import SqlBench.Template.Scope
import SqlBench.Template.Syntax
import SqlBench.Template.Test
import SqlBench.Width

set_option autoImplicit false

namespace SqlBench.Template

abbrev Result (α : Type) := Except (List String) α

-- The three views of an expression, computed when asked for.
structure Meaning where
  value : Unit → Result Value
  truth : Unit → Result Bool
  number : Unit → Result (Option Value)

-- The views of a term alone. Without a `truth` of its own it is that of the whole expression's
-- value.
structure TermMeaning where
  value : Unit → Result Value
  truth : Option (Unit → Result Bool)
  number : Unit → Result (Option Value)
  isPath : Bool

structure CallMeaning where
  name : String
  args : List (String × Meaning)

def fail {α : Type} (text : String) : Result α :=
  .error [text]

def because {α : Type} (text : String) : Result α → Result α
  | .ok x => .ok x
  | .error causes => .error (text :: causes)

def single {α : Type} : Except String α → Result α
  | .ok x => .ok x
  | .error text => .error [text]

def inBounds (left right : Int) (sign : String) (n : Int) : Result (Option Value) :=
  if Width.fitsSigned 64 n then .ok (some (.integer n))
  else
    fail (toString left ++ " " ++ sign ++ " " ++ toString right ++
      " results in an out of bounds i64")

def finite (x : Float) : Result (Option Value) :=
  .ok (if x.isFinite then some (.real x) else none)

def remainder (x y : Float) : Float :=
  match Decimal.Binary.ofFloat x, Decimal.Binary.ofFloat y with
  | .finite negative m e, .finite _ n f =>
    if n = 0 then 0.0 / 0.0
    else
      let low := min e f
      let a := m * Nat.pow 2 (e - low).toNat
      let b := n * Nat.pow 2 (f - low).toNat
      let r := (Float.ofNat (a % b)).scaleB low
      if negative then -r else r
  | .finite .., .infinite _ => x
  | _, _ => 0.0 / 0.0

def quotient (x y : Float) : Option Value :=
  let q := x / y
  if q.isNaN then none
  else if q.isFinite && q.round == q then some (.integer (truncated q))
  else if q.isFinite then some (.real q)
  else none

-- Applies an operator to two numbers. Whole numbers stay whole except in a division; `shown` holds
-- the operands written down.
def applyMath (op : MathOp) (shown : String × String) (left right : Value) :
    Result (Option Value) :=
  match op, left, right with
  | .add, .integer a, .integer b => inBounds a b "+" (a + b)
  | .sub, .integer a, .integer b => inBounds a b "-" (a - b)
  | .mul, .integer a, .integer b => inBounds a b "x" (a * b)
  | .modulo, .integer a, .integer b =>
    if b = 0 then fail ("Tried to do a modulo by zero: " ++ shown.1 ++ "/" ++ shown.2)
    else .ok (some (.integer (a.tmod b)))
  | op, a, b =>
    match a.float?, b.float? with
    | some x, some y =>
      match op with
      | .add => finite (x + y)
      | .sub => finite (x - y)
      | .mul => finite (x * y)
      | .div => .ok (quotient x y)
      | .modulo => finite (remainder x y)
    | _, _ => .ok none

def both (left right : Meaning) : Result (Option (Value × Value)) := do
  let l ← left.number ()
  let r ← right.number ()
  match l, r with
  | some l, some r => pure (some (l, r))
  | _, _ => pure none

def compareNumbers (op : Float → Float → Bool) (left right : Meaning) : Result Bool := do
  match ← both left right with
  | none => fail "Comparison to NaN"
  | some (l, r) => pure (op (l.float?.getD 0.0) (r.float?.getD 0.0))

-- Whether two values are equal, numbers as doubles. A number and anything else are neither equal
-- nor different.
def compareValues (equal : Bool) (left right : Meaning) : Result Bool := do
  let l ← left.value ()
  let r ← right.value ()
  match l.float?, r.float? with
  | some x, some y => pure ((x == y) == equal)
  | some _, none => pure false
  | none, some _ => pure false
  | none, none => pure (l.same r == equal)

def applyLogic (op : LogicOp) (left right : Meaning) : Result Bool :=
  match op with
  | .or => do if ← left.truth () then pure true else right.truth ()
  | .and => do if ← left.truth () then right.truth () else pure false
  | .less => compareNumbers (fun a b => a < b) left right
  | .lessEq => compareNumbers (fun a b => a <= b) left right
  | .greater => compareNumbers (fun a b => a > b) left right
  | .greaterEq => compareNumbers (fun a b => a >= b) left right
  | .eq => compareValues true left right
  | .notEq => compareValues false left right

def isMember (item container : Value) : Result Bool :=
  match container, item with
  | .list items, v => .ok (items.any fun i => i.same v)
  | .text s, .text part => .ok (occursIn part.toList s.toList)
  | .text _, v =>
    fail ("Tried to check if " ++ v.shown ++ " is in a string, but it isn't a string")
  | _, _ => fail "The `in` operator only supports strings, arrays and objects."

def argumentsOf (args : List (String × Meaning)) : Result Arguments :=
  args.mapM fun a => (a.2.value ()).map fun v => (a.1, v)

def callFunction (around : Surroundings) (c : CallMeaning) : Result Value :=
  match function? around c.name with
  | none => fail ("Function '" ++ c.name ++ "' not found")
  | some f =>
    because ("Function call '" ++ c.name ++ "' failed") do
      let args ← argumentsOf c.args
      single (f args)

def callFilter (c : CallMeaning) (v : Value) : Result Value :=
  match filter? c.name with
  | none => fail ("Filter '" ++ c.name ++ "' not found")
  | some f =>
    because ("Filter call '" ++ c.name ++ "' failed") do
      let args ← argumentsOf c.args
      single (f v args)

def askTest (scope : Scope) (path name : String) (args : List Meaning) : Result Bool :=
  match test? name with
  | none => fail ("Test '" ++ name ++ "' not found")
  | some t =>
    because ("Test call '" ++ name ++ "' failed") do
      let args ← args.mapM fun a => a.value ()
      let v :=
        match scope.lookup path with
        | .ok v => some v
        | .error _ => none
      single (t v args)

-- Whether a filter has no effect where it stands: it is honoured elsewhere.
def isTransparent (c : CallMeaning) : Bool :=
  c.name == "safe" || c.name == "default"

def throughFilters (filters : List CallMeaning) (v : Value) : Result Value :=
  filters.foldlM (fun v c => if isTransparent c then pure v else callFilter c v) v

-- The value that stands for an undefined path: the default if that is the first filter.
def defaultValue? (filters : List CallMeaning) : Option (Result Value) :=
  match filters with
  | c :: _ =>
    if c.name == "default" then
      match c.args.reverse.lookup "value" with
      | some m => some (m.value ())
      | none => some (fail "The `default` filter requires a `value` argument.")
    else none
  | [] => none

-- The value of an expression. A negated path that is undefined counts as true.
def expressionValue (t : TermMeaning) (negated : Bool) (filters : List CallMeaning) :
    Result Value :=
  let finish (v : Value) : Result Value := do
    let v ← throughFilters filters v
    pure (if negated then .bool (!v.isTruthy) else v)
  if t.isPath then
    match t.value () with
    | .ok v => finish v
    | .error causes =>
      match defaultValue? filters with
      | some (.ok v) => finish v
      | some (.error causes) => .error causes
      | none => if negated then .ok (.bool true) else .error causes
  else do
    let v ← t.value ()
    finish v

def expressionMeaning (t : TermMeaning) (negated : Bool) (filters : List CallMeaning) :
    Meaning where
  value := fun _ => expressionValue t negated filters
  truth := fun _ =>
    match t.truth with
    | some truth => (truth ()).map fun b => b != negated
    | none =>
      match expressionValue t negated filters with
      | .ok v => .ok v.isTruthy
      | .error causes => if t.isPath then .ok false else .error causes
  number := fun _ =>
    if filters.isEmpty then t.number ()
    else do
      let v ← expressionValue t negated filters
      match v.float? with
      | some _ => pure (some v)
      | none => fail "Tried to do math with an expression not resulting in a number"

def outermost {α : Type} : Result α → Result α
  | .ok x => .ok x
  | .error causes => .error (causes.take 1)

def numberMeaning (number : Unit → Result (Option Value)) (value : Unit → Result Value) :
    TermMeaning where
  value := value
  truth := some fun _ => do
    match ← number () with
    | some n => pure (n.float?.getD 0.0 != 0.0)
    | none => pure false
  number := number
  isPath := false

def conditionMeaning (truth : Unit → Result Bool) (noNumber : String) : TermMeaning where
  value := fun _ => (truth ()).map Value.bool
  truth := some truth
  number := fun _ => fail noNumber
  isPath := false

mutual

def Expr.meaning (around : Surroundings) (scope : Scope) : Expr → Meaning
  | .mk (.logic op l r) negated filters =>
    let truth := fun _ => applyLogic op (l.meaning around scope) (r.meaning around scope)
    let t := conditionMeaning (fun _ => (truth ()).map fun b => b != negated) ""
    { expressionMeaning t negated (callMeanings around scope filters) with
      truth := fun _ => (truth ()).map fun b => b != negated }
  | .mk t negated filters =>
    expressionMeaning (t.meaning around scope) negated (callMeanings around scope filters)

def Term.meaning (around : Surroundings) (scope : Scope) : Term → TermMeaning
  | .text s =>
    ⟨fun _ => .ok (.text s), some fun _ => .ok (!s.isEmpty),
      fun _ => fail ("Tried to do math with a string: `" ++ s ++ "`"), false⟩
  | .integer n =>
    numberMeaning (fun _ => .ok (some (.integer n))) fun _ => .ok (.integer n)
  | .real x =>
    numberMeaning (fun _ => .ok (some (.real x))) fun _ => .ok (.ofFloat x)
  | .bool b =>
    conditionMeaning (fun _ => .ok b)
      ("Tried to do math with a boolean: `" ++ boolWord b ++ "`")
  | .path p =>
    { value := fun _ => single (scope.lookup p)
      truth := none
      number := fun _ => do
        let v ← single (scope.lookup p)
        match v.float? with
        | some _ => pure (some v)
        | none =>
          fail ("Variable `" ++ p ++ "` was used in a math operation but is not a number")
      isPath := true }
  | .math op l r =>
    let number := fun _ => do
      match ← both (l.meaning around scope) (r.meaning around scope) with
      | none => pure none
      | some (a, b) => applyMath op (l.shown, r.shown) a b
    numberMeaning number fun _ => (outermost (number ())).map fun n => n.getD (.text "NaN")
  | .logic op l r =>
    conditionMeaning
      (fun _ => applyLogic op (l.meaning around scope) (r.meaning around scope)) ""
  | .test path name negated args =>
    conditionMeaning
      (fun _ =>
        (askTest scope path name (exprMeanings around scope args)).map fun b => b != negated)
      ("Tried to do math with a test: " ++ name)
  | .call c =>
    let value := fun _ => callFunction around (c.meaning around scope)
    { value := value
      truth := some fun _ => do
        match ← value () with
        | .bool b => pure b
        | _ =>
          fail ("Function `" ++ c.name ++
            "` was used in a logic operation but is not returning a bool")
      number := fun _ => do
        let v ← value ()
        match v.float? with
        | some _ => pure (some v)
        | none =>
          fail ("Function `" ++ c.name ++
            "` was used in a math operation but is not returning a number")
      isPath := false }
  | .array items =>
    { value := fun _ =>
        ((exprMeanings around scope items).mapM fun (m : Meaning) => m.value ()).map Value.list
      truth := none
      number := fun _ => fail "Tried to do math with an array"
      isPath := false }
  | .concat parts =>
    { value := fun _ =>
        ((concatTexts around scope parts).mapM fun t => t).map fun ts =>
          .text (String.join ts)
      truth := none
      number := fun _ => fail "Tried to do math with a string concatenation"
      isPath := false }
  | .member item container negated =>
    conditionMeaning
      (fun _ => do
        let v ← (item.meaning around scope).value ()
        let c ← (container.meaning around scope).value ()
        (isMember v c).map fun b => b != negated)
      ""

def Call.meaning (around : Surroundings) (scope : Scope) : Call → CallMeaning
  | .mk name args => ⟨name, argMeanings around scope args⟩

def exprMeanings (around : Surroundings) (scope : Scope) : List Expr → List Meaning
  | [] => []
  | e :: rest => e.meaning around scope :: exprMeanings around scope rest

def callMeanings (around : Surroundings) (scope : Scope) : List Call → List CallMeaning
  | [] => []
  | c :: rest => c.meaning around scope :: callMeanings around scope rest

def argMeanings (around : Surroundings) (scope : Scope) :
    List (String × Expr) → List (String × Meaning)
  | [] => []
  | (name, e) :: rest => (name, e.meaning around scope) :: argMeanings around scope rest

def concatTexts (around : Surroundings) (scope : Scope) : List Term → List (Result String)
  | [] => []
  | t :: rest =>
    let text : Result String :=
      match t with
      | .text s => .ok s
      | .integer n => .ok (toString n)
      | .real x => .ok (Decimal.plain.write x)
      | .path p => do
        let v ← single (scope.lookup p)
        match v.joined? with
        | some s => pure s
        | none =>
          fail ("Tried to concat a value that is not a string or a number from ident " ++ p)
      | .call c => do
        let v ← callFunction around (c.meaning around scope)
        match v.joined? with
        | some s => pure s
        | none =>
          fail ("Tried to concat a value that is not a string or a number from function call " ++
            c.name)
      | _ => .ok ""
    text :: concatTexts around scope rest

end

end SqlBench.Template
