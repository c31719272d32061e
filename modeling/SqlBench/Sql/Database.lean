import SqlBench.Decimal.Written
import SqlBench.Dict
import SqlBench.Sql.Statement

set_option autoImplicit false

namespace SqlBench.Sql

inductive Fault where
  | unreadable
  | unknownTable (name : String)
  | tableExists (name : String)
  | unknownColumn (name : String)
  | unevenRows
  | otherColumns (expected found : Nat)
  | unfitValue (column : String)
  | unfitComparison (column : String)
  deriving DecidableEq, Repr

def Fault.text : Fault → String
  | .unreadable => "the statement is not understood"
  | .unknownTable name => s!"table {name} not found"
  | .tableExists name => s!"table {name} already exists"
  | .unknownColumn name => s!"no column named {name}"
  | .unevenRows => "rows differ in length"
  | .otherColumns expected found => s!"{expected} columns expected but {found} found"
  | .unfitValue column => s!"a value does not fit column {column}"
  | .unfitComparison column => s!"column {column} cannot be compared with a number"

structure Table where
  columns : Columns
  rows : List Row

abbrev Database := Dict Table

namespace Cell

def kind? : Cell → Option Kind
  | .null => none
  | .whole _ => some .whole
  | .real _ => some .real
  | .truth _ => some .truth
  | .text _ => some .text

def shown : Cell → String
  | .null => ""
  | .whole n => toString n
  | .real x => Decimal.pointed.write x
  | .truth b => if b then "true" else "false"
  | .text s => s

def wholeOf? (s : String) : Option Int :=
  match s.toList with
  | '-' :: digits => (Statement.whole? (String.ofList digits)).map fun n => -n
  | _ => Statement.whole? s

def cast? (k : Kind) (c : Cell) : Option Cell :=
  match k, c with
  | _, .null => some .null
  | .whole, .whole n => some (.whole n)
  | .whole, .text s => (wholeOf? s).map .whole
  | .whole, .truth b => some (.whole (if b then 1 else 0))
  | .whole, .real x => if x.isFinite then some (.whole x.toInt64.toInt) else none
  | .real, .real x => some (.real x)
  | .real, .whole n => some (.real (Float.ofInt n))
  | .real, .text s => (Decimal.read s.toList).map .real
  | .real, .truth b => some (.real (if b then 1 else 0))
  | .truth, .truth b => some (.truth b)
  | .truth, .whole n => some (.truth (n ≠ 0))
  | .truth, .real x => some (.truth (x != 0))
  | .truth, .text _ => none
  | .text, c => some (.text c.shown)

-- How a value stands to a number; a text is compared with the number's digits.
def order? (bound : Int) : Cell → Option Ordering
  | .null => none
  | .whole n => some (compare n bound)
  | .real x =>
    let b := Float.ofInt bound
    some (if x < b then .lt else if x == b then .eq else .gt)
  | .truth _ => none
  | .text s => some (compare s (toString bound))

end Cell

def Comparison.holds : Comparison → Ordering → Bool
  | .equal, o => o == .eq
  | .different, o => o != .eq
  | .less, o => o == .lt
  | .lessOrEqual, o => o != .gt
  | .greater, o => o == .gt
  | .greaterOrEqual, o => o != .lt

def Kind.join (a b : Kind) : Kind :=
  if a = b then a
  else if (a = .whole ∧ b = .real) ∨ (a = .real ∧ b = .whole) then .real
  else .text

namespace Table

def kindOf (cells : List Cell) : Kind :=
  match cells.filterMap Cell.kind? with
  | [] => .text
  | k :: rest => rest.foldl Kind.join k

def numbered (width : Nat) (rows : List Row) : Columns :=
  (List.range width).map fun i =>
    (s!"column{i + 1}", kindOf (rows.filterMap fun row => row[i]?))

def castRow : Columns → Row → Except Fault Row
  | [], _ => .ok []
  | _, [] => .ok []
  | (column, kind) :: columns, cell :: row =>
    match cell.cast? kind with
    | none => .error (.unfitValue column)
    | some cell => (castRow columns row).map (cell :: ·)

def ofRows (columns : Option Columns) (rows : List Row) : Except Fault Table := do
  let width := (rows.headD []).length
  if rows.any fun row => row.length ≠ width then throw .unevenRows
  let columns := columns.getD (numbered width rows)
  if columns.length ≠ width then throw (.otherColumns columns.length width)
  let rows ← rows.mapM (castRow columns)
  pure ⟨columns, rows⟩

def select (t : Table) (c : Condition) : Except Fault (List Row) :=
  match t.columns.findIdx? fun column => column.1 == c.column with
  | none => .error (.unknownColumn c.column)
  | some i =>
    if t.columns[i]?.any fun column => column.2 = .truth then .error (.unfitComparison c.column)
    else
      .ok (t.rows.filter fun row =>
        match row[i]?.bind (Cell.order? c.bound) with
        | some order => c.comparison.holds order
        | none => false)

end Table

namespace Database

def table (d : Database) (name : String) : Except Fault Table :=
  match d.get? name with
  | some t => .ok t
  | none => .error (.unknownTable name)

def run (d : Database) : Statement → Except Fault (Nat × Database)
  | .number => .ok (1, d)
  | .values rows => (Table.ofRows none rows).map fun t => (t.rows.length, d)
  | .createTable name columns rows => do
    let t ← Table.ofRows columns rows
    if d.contains name then throw (.tableExists name)
    pure (0, d.insert name t)
  | .rows name none => (d.table name).map fun t => (t.rows.length, d)
  | .rows name (some condition) => do
    let t ← d.table name
    let rows ← t.select condition
    pure (rows.length, d)
  | .count name => (d.table name).map fun _ => (1, d)

def runText (d : Database) (sql : String) : Except Fault (Nat × Database) :=
  match Statement.parse? sql with
  | some s => d.run s
  | none => .error .unreadable

end Database

end SqlBench.Sql
