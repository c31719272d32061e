import SqlBench.Text.Cut

set_option autoImplicit false

namespace SqlBench.Path

def isAbsolute (path : String) : Bool :=
  path.toList.head? == some '/'

def join (base path : String) : String :=
  if isAbsolute path || base.isEmpty then path
  else if Text.endsWith ['/'] base.toList then base ++ path
  else base ++ "/" ++ path

def dropIdle : List Char → List Char
  | '/' :: rest => if rest.isEmpty then ['/'] else dropIdle rest
  | '.' :: '/' :: rest => dropIdle ('/' :: rest)
  | rest => rest

def parent? (path : String) : Option String :=
  let back := dropIdle path.toList.reverse
  if back.isEmpty || back == ['/'] then none
  else some (String.ofList (dropIdle (back.dropWhile fun c => c != '/')).reverse)

-- A file name's stem and the extension behind its last dot. A dot at the very start belongs to the
-- stem.
def stemAndExtension (name : String) : String × Option String :=
  match Text.cutAt '.' name.toList.reverse with
  | none => (name, none)
  | some (extension, stem) =>
    if stem.isEmpty || name == ".." then (name, none)
    else (String.ofList stem.reverse, some (String.ofList extension.reverse))

def parts (path : String) : List String :=
  (Text.split '/' path).filter fun p => !p.isEmpty && p != "."

end SqlBench.Path
