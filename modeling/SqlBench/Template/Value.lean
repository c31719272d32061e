import SqlBench.Decimal.Written
import SqlBench.Json.Printer

set_option autoImplicit false

namespace SqlBench.Template

inductive Value where
  | null
  | bool (b : Bool)
  | integer (n : Int)
  | real (x : Float)
  | text (s : String)
  | list (items : List Value)
  deriving Inhabited

namespace Value

def ofFloat (x : Float) : Value :=
  if x.isFinite then .real x else .null

mutual

def write : Value → String
  | .null => ""
  | .bool b => if b then "true" else "false"
  | .integer n => toString n
  | .real x => Decimal.plain.write x
  | .text s => s
  | .list items => "[" ++ String.intercalate ", " (writeItems items) ++ "]"

def writeItems : List Value → List String
  | [] => []
  | v :: rest => v.write :: writeItems rest

end

mutual

def toJson : Value → Json
  | .null => .null
  | .bool b => .bool b
  | .integer n => .integer n
  | .real x => .real x
  | .text s => .string s
  | .list items => .array (toJsonItems items)

def toJsonItems : List Value → List Json
  | [] => []
  | v :: rest => v.toJson :: toJsonItems rest

end

def json (v : Value) : String :=
  v.toJson.compact

mutual

def shown : Value → String
  | .null => "Null"
  | .bool b => "Bool(" ++ (if b then "true" else "false") ++ ")"
  | .integer n => "Number(" ++ toString n ++ ")"
  | .real x => "Number(" ++ Json.number x ++ ")"
  | .text s => "String(" ++ Text.quoted s ++ ")"
  | .list items => "Array [" ++ String.intercalate ", " (shownItems items) ++ "]"

def shownItems : List Value → List String
  | [] => []
  | v :: rest => v.shown :: shownItems rest

end

mutual

def same : Value → Value → Bool
  | .null, .null => true
  | .bool a, .bool b => a == b
  | .integer a, .integer b => a == b
  | .real a, .real b => a == b
  | .text a, .text b => a == b
  | .list a, .list b => sameItems a b
  | _, _ => false

def sameItems : List Value → List Value → Bool
  | [], [] => true
  | a :: as, b :: bs => a.same b && sameItems as bs
  | _, _ => false

end

def isTruthy : Value → Bool
  | .null => false
  | .bool b => b
  | .integer n => n != 0
  | .real x => x != 0.0 && !x.isNaN
  | .text s => !s.isEmpty
  | .list items => !items.isEmpty

def float? : Value → Option Float
  | .integer n => some (Float.ofInt n)
  | .real x => some x
  | _ => none

def joined? : Value → Option String
  | .text s => some s
  | .integer n => some (toString n)
  | .real x => some (Json.number x)
  | _ => none

end Value

abbrev Arguments := List (String × Value)

def Arguments.find? (args : Arguments) (name : String) : Option Value :=
  (args.reverse.lookup name)

end SqlBench.Template
