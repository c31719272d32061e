import SqlBench.Text.Quoted
import SqlBench.Decimal.Written

set_option autoImplicit false

namespace SqlBench.Template

inductive MathOp where
  | add | sub | mul | div | modulo
  deriving DecidableEq, Repr

inductive LogicOp where
  | or | and | less | lessEq | greater | greaterEq | eq | notEq
  deriving DecidableEq, Repr

mutual

inductive Expr where
  | mk (term : Term) (negated : Bool) (filters : List Call)

inductive Term where
  | text (s : String)
  | integer (n : Int)
  | real (x : Float)
  | bool (b : Bool)
  | path (p : String)
  | math (op : MathOp) (left right : Expr)
  | logic (op : LogicOp) (left right : Expr)
  | test (path name : String) (negated : Bool) (args : List Expr)
  | call (c : Call)
  | array (items : List Expr)
  | concat (parts : List Term)
  | member (item container : Expr) (negated : Bool)

inductive Call where
  | mk (name : String) (args : List (String × Expr))

end

namespace Expr

def ofTerm (t : Term) : Expr := .mk t false []

def term : Expr → Term
  | .mk t _ _ => t

def negated : Expr → Bool
  | .mk _ n _ => n

def filters : Expr → List Call
  | .mk _ _ fs => fs

def withNegated : Expr → Bool → Expr
  | .mk t _ fs, n => .mk t n fs

end Expr

namespace Call

def name : Call → String
  | .mk n _ => n

def args : Call → List (String × Expr)
  | .mk _ as => as

end Call

inductive Node where
  | text (s : List Char)
  | value (e : Expr)
  | assign (name : String) (everywhere : Bool) (e : Expr)
  | filtered (call : Call) (body : List Node)
  | choice (cases : List (Expr × List Node)) (otherwise : List Node)
  | loop (key : Option String) (name : String) (container : Expr) (body : List Node)
      (whenEmpty : Option (List Node))
  | leave
  | next

def MathOp.shown : MathOp → String
  | .add => "Add"
  | .sub => "Sub"
  | .mul => "Mul"
  | .div => "Div"
  | .modulo => "Modulo"

def LogicOp.shown : LogicOp → String
  | .or => "Or"
  | .and => "And"
  | .less => "Lt"
  | .lessEq => "Lte"
  | .greater => "Gt"
  | .greaterEq => "Gte"
  | .eq => "Eq"
  | .notEq => "NotEq"

def record (name : String) (fields : List (String × String)) : String :=
  let parts := fields.map fun f => f.1 ++ ": " ++ f.2
  name ++ " \x7b " ++ String.intercalate ", " parts ++ " \x7d"

def tagged (name inner : String) : String :=
  name ++ "(" ++ inner ++ ")"

def bracketed (items : List String) : String :=
  "[" ++ String.intercalate ", " items ++ "]"

def boolWord (b : Bool) : String :=
  if b then "true" else "false"

mutual

def Expr.shown : Expr → String
  | .mk t negated filters =>
    record "Expr"
      [("val", t.shown), ("negated", boolWord negated), ("filters", bracketed (shownCalls filters))]

def Term.shown : Term → String
  | .text s => tagged "String" (Text.quoted s)
  | .integer n => tagged "Int" (toString n)
  | .real x => tagged "Float" (Decimal.scaledForm.write x)
  | .bool b => tagged "Bool" (boolWord b)
  | .path p => tagged "Ident" (Text.quoted p)
  | .math op l r =>
    tagged "Math" (record "MathExpr" [("lhs", l.shown), ("rhs", r.shown), ("operator", op.shown)])
  | .logic op l r =>
    tagged "Logic" (record "LogicExpr" [("lhs", l.shown), ("rhs", r.shown), ("operator", op.shown)])
  | .test path name negated args =>
    tagged "Test"
      (record "Test"
        [("ident", Text.quoted path), ("negated", boolWord negated), ("name", Text.quoted name),
          ("args", bracketed (shownExprs args))])
  | .call c => tagged "FunctionCall" c.shown
  | .array items => tagged "Array" (bracketed (shownExprs items))
  | .concat parts =>
    tagged "StringConcat" (record "StringConcat" [("values", bracketed (shownTerms parts))])
  | .member item container negated =>
    tagged "In"
      (record "In"
        [("lhs", item.shown), ("rhs", container.shown), ("negated", boolWord negated)])

def Call.shown : Call → String
  | .mk name args =>
    let inner := "\x7b" ++ String.intercalate ", " (shownArgs args) ++ "\x7d"
    record "FunctionCall" [("name", Text.quoted name), ("args", inner)]

def shownExprs : List Expr → List String
  | [] => []
  | e :: rest => e.shown :: shownExprs rest

def shownTerms : List Term → List String
  | [] => []
  | t :: rest => t.shown :: shownTerms rest

def shownCalls : List Call → List String
  | [] => []
  | c :: rest => c.shown :: shownCalls rest

def shownArgs : List (String × Expr) → List String
  | [] => []
  | (name, e) :: rest => (Text.quoted name ++ ": " ++ e.shown) :: shownArgs rest

end

end SqlBench.Template
