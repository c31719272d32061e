import SqlBench.Failure
import SqlBench.Sql.Database

set_option autoImplicit false

namespace SqlBench

structure StatementName where
  session : String
  number : Nat
  deriving DecidableEq, Repr

def StatementName.text (n : StatementName) : String :=
  n.session ++ "_" ++ toString n.number

structure DataSources where
  databases : Dict Sql.Database
  sent : Nat

namespace DataSources

def prepareOne (statements : List String) : Except Failure Sql.Database :=
  statements.foldlM
    (fun d sql =>
      match Sql.Database.runText d sql with
      | .ok (_, d) => .ok d
      | .error fault => .error (.query fault.text))
    Dict.empty

def prepare (definitions : Dict (List String)) : Except Failure DataSources := do
  let databases ← definitions.toList.foldlM
    (fun found (entry : String × List String) =>
      (prepareOne entry.2).map fun d => found.insert entry.1 d)
    Dict.empty
  pure ⟨databases, 0⟩

def names (s : DataSources) : List String :=
  s.databases.keys

def connect (s : DataSources) (source : String) : Except Failure Unit :=
  if s.databases.contains source then .ok () else .error (.unknownSource source)

def send (s : DataSources) (source sql : String) :
    Except Failure (Nat × StatementName) × DataSources :=
  let numbered := { s with sent := s.sent + 1 }
  match Sql.Database.runText ((s.databases.get? source).getD Dict.empty) sql with
  | .error fault => (.error (.query fault.text), numbered)
  | .ok (rows, d) =>
    (.ok (rows, ⟨source, s.sent⟩), { numbered with databases := s.databases.insert source d })

end DataSources

end SqlBench
