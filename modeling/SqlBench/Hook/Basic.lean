import SqlBench.Services

set_option autoImplicit false

namespace SqlBench

inductive Hook where
  | shell (command : Option String)
  | query (name : String)
  deriving DecidableEq, Repr

namespace Hook

def isQueryName (name : String) : Bool :=
  Text.endsWith ".sql".toList name.toList

def forName (name : String) (command : Option String) : Hook :=
  if isQueryName name then .query name else .shell command

def lookup (commands : Dict (Option String)) (name : String) : Option Hook :=
  if isQueryName name then some (.query name)
  else (commands.get? name).map Hook.shell

def usable? : Option String → Option String
  | some command => if Text.allBlank command.toList then none else some command
  | none => none

def benchmarkAttributes (b : Benchmark) : Attributes :=
  b.identity.insertMany
    (b.parameters.toList.filterMap fun e => e.2.head?.map fun value => (e.1, value))

def sourceProperty : String := "datasource"

end Hook

end SqlBench
