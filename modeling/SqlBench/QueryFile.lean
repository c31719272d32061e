import SqlBench.Failure
import SqlBench.FileTree
import SqlBench.Template.Render
import SqlBench.Text.Blank

set_option autoImplicit false

namespace SqlBench

-- The statements of a text, which a semicolon separates: without blanks around them, and none
-- without anything else.
def splitStatements (sql : String) : List String :=
  let parts := (Text.pieces ';' sql.toList).map Text.trim
  (parts.filter fun p => !p.isEmpty).map String.ofList

structure QueryFile where
  path : String
  properties : Dict String
  body : String

namespace QueryFile

inductive Line where
  | header (entries : List Char)
  | comment
  | body (text : List Char)

def classify (line : List Char) : Line :=
  let text := Text.trimStart line
  match Text.afterStart ['-', '-', '!'] text with
  | some entries => .header entries
  | none =>
    match Text.afterStart ['-', '-'] text with
    | some _ => .comment
    | none => .body line

-- The properties of a header line. An entry without colon says nothing.
def entries (header : List Char) : List (String × String) :=
  let parts := (Text.pieces ';' header).map Text.trim
  (parts.filter fun p => !p.isEmpty).filterMap fun p =>
    (Text.cutAt ':' p).map fun e =>
      (String.ofList (Text.trim e.1), String.ofList (Text.trim e.2))

def addProperty (path : String) (known : Dict String) (entry : String × String) :
    Except Failure (Dict String) :=
  match known.get? entry.1 with
  | none => .ok (known.insert entry.1 entry.2)
  | some value =>
    if value = entry.2 then .ok known
    else .error (.template path Dict.empty (.conflict entry.1 value entry.2))

def lines (content : String) : List Line :=
  (Text.lines content.toList).map classify

def headerEntries (content : String) : List (String × String) :=
  (lines content).flatMap fun
    | .header h => entries h
    | _ => []

def bodyLines (content : String) : List (List Char) :=
  (lines content).filterMap fun
    | .body text => some text
    | _ => none

def parse (path content : String) : Except Failure QueryFile := do
  let properties ← (headerEntries content).foldlM (addProperty path) Dict.empty
  let body := Text.joinWith ['\n'] (bodyLines content)
  pure ⟨path, properties, String.ofList body⟩

def property (f : QueryFile) (key : String) : Option String :=
  f.properties.get? key

def statements (f : QueryFile) (environment : Template.Environment) (attributes : Attributes) :
    Except Failure (List String) :=
  match Template.render ⟨environment, false⟩ f.body attributes with
  | .ok text => .ok (splitStatements text)
  | .error causes => .error (.template f.path attributes (.rendering causes))

end QueryFile

structure QueryFolder where
  files : FileTree
  dirs : List String
  environment : Template.Environment

namespace QueryFolder

def fileName (name : String) : String :=
  if Text.endsWith ".sql".toList name.toList then name else name ++ ".sql"

def locate? (q : QueryFolder) (name : String) : Option String :=
  (q.dirs.map fun dir => Path.join dir (fileName name)).find? q.files.isFile

def load (q : QueryFolder) (name : String) : Except Failure QueryFile :=
  match q.locate? name with
  | none => .error (.template name Dict.empty (.noSuchFile q.dirs))
  | some path =>
    match q.files.read path with
    | .error e => .error (.io e.text)
    | .ok content => QueryFile.parse path content

def render (q : QueryFolder) (name : String) (attributes : Attributes) :
    Except Failure (List String) := do
  let f ← q.load name
  f.statements q.environment attributes

end QueryFolder

end SqlBench
