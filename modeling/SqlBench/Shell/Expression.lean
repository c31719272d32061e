import SqlBench.Shell.State
import SqlBench.Text.Cut

set_option autoImplicit false

namespace SqlBench.Shell

def number? (s : List Char) : Option Int :=
  let body := ((s.dropWhile fun c => c == ' ').reverse.dropWhile fun c => c == ' ').reverse
  let natural (digits : List Char) : Option Int :=
    if digits.isEmpty || !digits.all Char.isDigit then none
    else some (Int.ofNat (digits.foldl (fun n c => 10 * n + (c.toNat - 48)) 0))
  match body with
  | '-' :: rest => (natural rest).map fun n => -n
  | '+' :: rest => natural rest
  | rest => natural rest

namespace Condition

def compare? (op : String) (a b : Int) : Option Bool :=
  match op with
  | "-eq" => some (a = b)
  | "-ne" => some (a ≠ b)
  | "-lt" => some (a < b)
  | "-le" => some (a ≤ b)
  | "-gt" => some (a > b)
  | "-ge" => some (a ≥ b)
  | _ => none

def unary? (files : Files) (op : String) (operand : List Char) : Option Bool :=
  let path := String.ofList operand
  match op with
  | "-n" => some !operand.isEmpty
  | "-z" => some operand.isEmpty
  | "-e" => some (files.contains path)
  | "-f" => some (files.contains path)
  | "-r" => some (files.contains path)
  | "-w" => some (files.contains path)
  | "-s" => some (((files.get? path).map fun t => !t.isEmpty).getD false)
  | "-d" => some false
  | _ => none

def binary? (a : List Char) (op : String) (b : List Char) : Option Bool :=
  match op with
  | "=" => some (a = b)
  | "==" => some (a = b)
  | "!=" => some (a ≠ b)
  | "<" => some (String.ofList a < String.ofList b)
  | ">" => some (String.ofList b < String.ofList a)
  | op =>
    match number? a, number? b with
    | some x, some y => compare? op x y
    | _, _ => none

def plain? (files : Files) : List (List Char) → Option Bool
  | [] => some false
  | [a] => some !a.isEmpty
  | [op, a] => unary? files (String.ofList op) a
  | [a, op, b] =>
    match binary? a (String.ofList op) b with
    | some r => some r
    | none => if a = ['('] ∧ b = [')'] then some !op.isEmpty else none
  | _ => none

def atom? (files : Files) (operands : List (List Char)) : Option Bool :=
  match operands with
  | [] => some false
  | [a] => plain? files [a]
  | first :: rest =>
    if first = ['!'] then
      match rest, plain? files operands with
      | [_, _], some r => some r
      | _, _ => (plain? files rest).map not
    else plain? files operands

def splitAt (connective : List Char) (operands : List (List Char)) : List (List (List Char)) :=
  let parts := operands.foldr
    (fun x acc =>
      if x = connective then [] :: acc
      else
        match acc with
        | [] => [[x]]
        | first :: more => (x :: first) :: more)
    [[]]
  parts

def evaluate? (files : Files) (operands : List (List Char)) : Option Bool :=
  if operands.length ≤ 3 then atom? files operands
  else do
    let parts ← (splitAt ['-', 'o'] operands).mapM fun part => do
      let values ← (splitAt ['-', 'a'] part).mapM (atom? files)
      pure (values.all id)
    pure (parts.any id)

end Condition

namespace Pattern

inductive Item where
  | char (c : Char)
  | any
  | star (item : Option Char)

def items : List Char → List Item
  | [] => []
  | '\\' :: c :: rest => .char c :: items rest
  | '.' :: '*' :: rest => .star none :: items rest
  | '.' :: rest => .any :: items rest
  | c :: '*' :: rest => .star (some c) :: items rest
  | c :: rest => .char c :: items rest

def takes (item : Option Char) (c : Char) : Bool :=
  match item with
  | some d => d == c
  | none => true

-- Whether items match at the start of a text, and all of it if they are anchored at the end.
def matchesHere (isWhole : Bool) : List Item → List Char → Bool
  | [], s => !isWhole || s.isEmpty
  | .char c :: rest, d :: s => c == d && matchesHere isWhole rest s
  | .any :: rest, _ :: s => matchesHere isWhole rest s
  | .star item :: rest, s =>
    ((List.range (s.takeWhile (takes item)).length.succ).any fun n =>
      matchesHere isWhole rest (s.drop n))
  | _, [] => false

def tails : List Char → List (List Char)
  | [] => [[]]
  | c :: rest => (c :: rest) :: tails rest

def isMatch (pattern line : List Char) : Bool :=
  let isStart := pattern.head? == some '^'
  let body := if isStart then pattern.tail else pattern
  let isWhole := body.getLast? == some '$'
  let found := items (if isWhole then body.dropLast else body)
  if isStart then matchesHere isWhole found line
  else (tails line).any (matchesHere isWhole found)

end Pattern

end SqlBench.Shell
