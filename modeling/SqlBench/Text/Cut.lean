set_option autoImplicit false

namespace SqlBench.Text

def pieces (sep : Char) : List Char → List (List Char)
  | [] => [[]]
  | c :: rest =>
    if c = sep then [] :: pieces sep rest
    else
      match pieces sep rest with
      | [] => [[c]]
      | first :: more => (c :: first) :: more

def cutAt (sep : Char) : List Char → Option (List Char × List Char)
  | [] => none
  | c :: rest =>
    if c = sep then some ([], rest) else (cutAt sep rest).map fun p => (c :: p.1, p.2)

def joinWith (sep : List Char) : List (List Char) → List Char
  | [] => []
  | [part] => part
  | part :: more => part ++ sep ++ joinWith sep more

def afterStart : List Char → List Char → Option (List Char)
  | [], s => some s
  | _ :: _, [] => none
  | p :: ps, c :: s => if p = c then afterStart ps s else none

def endsWith (ending s : List Char) : Bool :=
  (afterStart ending.reverse s.reverse).isSome

def withoutReturn (line : List Char) : List Char :=
  match line.reverse with
  | '\r' :: front => front.reverse
  | _ => line

-- Lines from the parts between line breaks: the last part is a line only if it holds something, and
-- it has no line break whose carriage return could go.
def linesOf : List (List Char) → List (List Char)
  | [] => []
  | [last] => if last.isEmpty then [] else [last]
  | line :: more => withoutReturn line :: linesOf more

def lines (s : List Char) : List (List Char) :=
  linesOf (pieces '\n' s)

def split (sep : Char) (s : String) : List String :=
  (pieces sep s.toList).map String.ofList

end SqlBench.Text
