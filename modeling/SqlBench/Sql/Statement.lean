import SqlBench.Decimal.Reading
import SqlBench.Sql.Token

set_option autoImplicit false

namespace SqlBench.Sql

inductive Cell where
  | null
  | whole (n : Int)
  | real (x : Float)
  | truth (b : Bool)
  | text (s : String)

inductive Kind where
  | whole
  | real
  | truth
  | text
  deriving DecidableEq, Repr

inductive Comparison where
  | equal
  | different
  | less
  | lessOrEqual
  | greater
  | greaterOrEqual
  deriving DecidableEq, Repr

structure Condition where
  column : String
  comparison : Comparison
  bound : Int
  deriving DecidableEq, Repr

abbrev Row := List Cell

abbrev Columns := List (String × Kind)

inductive Statement where
  | number
  | values (rows : List Row)
  | createTable (name : String) (columns : Option Columns) (rows : List Row)
  | rows (table : String) (condition : Option Condition)
  | count (table : String)

namespace Statement

def kinds : List (String × Kind) :=
  [("int", .whole), ("integer", .whole), ("bigint", .whole), ("smallint", .whole),
    ("tinyint", .whole), ("double", .real), ("float", .real), ("real", .real),
    ("boolean", .truth), ("bool", .truth), ("varchar", .text), ("char", .text),
    ("text", .text), ("string", .text)]

def comparisons : List (String × Comparison) :=
  [("=", .equal), ("==", .equal), ("<>", .different), ("!=", .different), ("<", .less),
    ("<=", .lessOrEqual), (">", .greater), (">=", .greaterOrEqual)]

def reserved : List String :=
  ["select", "from", "where", "values", "create", "table", "as", "and", "or", "not", "group",
    "order", "by", "having", "limit", "union", "join", "on", "with"]

def name? : Token → Option String
  | .word text => if reserved.contains text then none else some text
  | .name text => some text
  | _ => none

def whole? (text : String) : Option Int :=
  if text.toList.all Char.isDigit then text.toNat?.map Int.ofNat else none

def number? (isNegative : Bool) (text : String) : Option Cell :=
  match whole? text with
  | some n => some (.whole (if isNegative then -n else n))
  | none => (Decimal.read text.toList).map fun x => .real (if isNegative then -x else x)

def cell? : Token → Option Cell
  | .number text => number? false text
  | .text s => some (.text s)
  | .word "null" => some .null
  | .word "true" => some (.truth true)
  | .word "false" => some (.truth false)
  | _ => none

inductive Place where
  | beforeRow
  | beforeCell (row : Row)
  | behindCell (row : Row)
  | behindRow

-- Reads rows in parentheses with commas between them; the cells of a begun row are given backwards.
def readRows : Place → List Token → Option (List Row)
  | .behindRow, [] => some []
  | .beforeRow, .symbol "(" :: rest => readRows (.beforeCell []) rest
  | .beforeCell row, .symbol "-" :: .number text :: rest => do
    let cell ← number? true text
    readRows (.behindCell (cell :: row)) rest
  | .beforeCell row, token :: rest => do
    let cell ← cell? token
    readRows (.behindCell (cell :: row)) rest
  | .behindCell row, .symbol "," :: rest => readRows (.beforeCell row) rest
  | .behindCell row, .symbol ")" :: rest => (readRows .behindRow rest).map (row.reverse :: ·)
  | .behindRow, .symbol "," :: rest => readRows .beforeRow rest
  | _, _ => none

def readColumns : Columns → List Token → Option (Columns × List Row)
  | done, name :: .word type :: .symbol "(" :: .number _ :: .symbol ")" :: .symbol end_ :: rest =>
    readColumn done name type end_ rest
  | done, name :: .word type :: .symbol end_ :: rest => readColumn done name type end_ rest
  | _, _ => none
where
  readColumn (done : Columns) (name : Token) (type end_ : String) (rest : List Token) :
      Option (Columns × List Row) := do
    let column ← name? name
    let kind ← kinds.lookup type
    let columns := done ++ [(column, kind)]
    if end_ = "," then readColumns columns rest
    else if end_ = ")" then
      match rest with
      | .word "as" :: .word "values" :: behind =>
        (readRows .beforeRow behind).map fun given => (columns, given)
      | _ => none
    else none

def readCondition : List Token → Option Condition
  | [column, .symbol symbol, .number text] => do
    pure ⟨← name? column, ← comparisons.lookup symbol, ← whole? text⟩
  | [column, .symbol symbol, .symbol "-", .number text] => do
    pure ⟨← name? column, ← comparisons.lookup symbol, -(← whole? text)⟩
  | _ => none

def withoutSemicolons (tokens : List Token) : List Token :=
  tokens.dropWhile fun t => t == .symbol ";"

def ofTokens? : List Token → Option Statement
  | [.word "select", .number text] => (whole? text).map fun _ => .number
  | [.word "select", .symbol "-", .number text] => (whole? text).map fun _ => .number
  | .word "values" :: rest => (readRows .beforeRow rest).map .values
  | .word "create" :: .word "table" :: table :: .word "as" :: .word "values" :: rest => do
    pure (.createTable (← name? table) none (← readRows .beforeRow rest))
  | .word "create" :: .word "table" :: table :: .symbol "(" :: rest => do
    let (columns, given) ← readColumns [] rest
    pure (.createTable (← name? table) (some columns) given)
  | [.word "select", .symbol "*", .word "from", table] =>
    (name? table).map fun name => .rows name none
  | .word "select" :: .symbol "*" :: .word "from" :: table :: .word "where" :: rest => do
    pure (.rows (← name? table) (some (← readCondition rest)))
  | [.word "select", .word "count", .symbol "(", .symbol "*", .symbol ")", .word "from", table] =>
    (name? table).map .count
  | _ => none

def parse? (sql : String) : Option Statement := do
  let tokens ← Token.scan sql
  ofTokens? (withoutSemicolons (withoutSemicolons tokens).reverse).reverse

end Statement

end SqlBench.Sql
