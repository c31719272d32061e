import SqlBench.Expansion
import SqlBench.FileTree
import SqlBench.Retry
import SqlBench.Yaml.Decode

set_option autoImplicit false

namespace SqlBench

inductive FailurePolicy where
  | carryOn
  | abort
  deriving DecidableEq, Repr, Inhabited

inductive CleanupPolicy where
  | always
  | skipOnTotalFailure
  deriving DecidableEq, Repr, Inhabited

def FailurePolicy.names : List (String × FailurePolicy) :=
  [("continue-on-failure", .carryOn), ("abort-on-first-failure", .abort)]

def FailurePolicy.name : FailurePolicy → String
  | .carryOn => "continue-on-failure"
  | .abort => "abort-on-first-failure"

def CleanupPolicy.names : List (String × CleanupPolicy) :=
  [("always", .always), ("skip-on-total-failure", .skipOnTotalFailure)]

def CleanupPolicy.name : CleanupPolicy → String
  | .always => "always"
  | .skipOnTotalFailure => "skip-on-total-failure"

structure Settings where
  sqlDirs : List String
  benchmarkDirs : List String
  dataSources : Dict (List String)
  -- The commands of shell hooks; a hook without one fails when it runs.
  hooks : Dict (Option String)
  beforeAll : List String
  afterAll : List String
  healthCheck : List String
  failurePolicy : FailurePolicy
  cleanupPolicy : CleanupPolicy
  retry : RetryPolicy
  serviceUrl : Option String
  queryInfoUrl : Option String
  environment : String
  drainTimeoutSecs : Nat
  timeLimitSecs : Option Nat

namespace Settings

def standard : Settings where
  sqlDirs := ["sql"]
  benchmarkDirs := ["benchmarks"]
  dataSources := Dict.empty
  hooks := Dict.empty
  beforeAll := []
  afterAll := []
  healthCheck := []
  failurePolicy := .carryOn
  cleanupPolicy := .always
  retry := .standard
  serviceUrl := none
  queryInfoUrl := none
  environment := "default"
  drainTimeoutSecs := 30
  timeLimitSecs := none

open Yaml Yaml.Decode in
def retryDecoder : Decoder RetryPolicy :=
  record "RetryPolicy" true
    [field "max_attempts" (count "usize") fun p n => { p with maxAttempts := n },
      field "backoff_ms" (count "u64") fun p n => { p with backoffMs := n }]
    .standard

open Yaml Yaml.Decode in
def fields : List (Slot Settings) :=
  let string := text "a string"
  let strings := Decode.list string
  let paths := Decode.list (text "path string")
  [field "sql_dirs" paths fun s v => { s with sqlDirs := v },
    field "benchmark_dirs" paths fun s v => { s with benchmarkDirs := v },
    field "data_sources" (dict strings) fun s v => { s with dataSources := v },
    field "macros" (dict (optional string)) fun s v => { s with hooks := v },
    field "before_all_macros" strings fun s v => { s with beforeAll := v },
    field "after_all_macros" strings fun s v => { s with afterAll := v },
    field "health_check_macros" strings fun s v => { s with healthCheck := v },
    field "failure_policy" (variant FailurePolicy.names) fun s v =>
      { s with failurePolicy := v },
    field "post_macro_policy" (variant CleanupPolicy.names) fun s v =>
      { s with cleanupPolicy := v },
    field "retry" retryDecoder fun s v => { s with retry := v },
    field "service_url" (optional string) fun s v => { s with serviceUrl := v },
    field "query_info_url" (optional string) fun s v => { s with queryInfoUrl := v },
    field "environment" string fun s v => { s with environment := v },
    field "listener_drain_timeout_secs" (count "u64") fun s v =>
      { s with drainTimeoutSecs := v },
    field "time_limit_secs" (optional (count "u64")) fun s v => { s with timeLimitSecs := v }]

def validate (s : Settings) : Except Failure Unit :=
  if s.retry.maxAttempts < 1 then .error (.config .noAttempts)
  else if s.timeLimitSecs = some 0 then .error (.config .noTimeLimit)
  else if Text.allBlank s.environment.toList then .error (.config .emptyEnvironment)
  else .ok ()

def parse (x : Expansion) (text : String) : Except Failure Settings := do
  let expanded ← x.expand text
  let s ←
    match Yaml.Decode.document (Yaml.Decode.record "DriverConfig" false fields standard)
      expanded with
    | .ok s => pure s
    | .error e => throw e.failure
  s.validate
  pure s

def resolve (base dir : String) : String :=
  Path.join base dir

def resolvePaths (s : Settings) (base : String) : Settings :=
  { s with
    sqlDirs := s.sqlDirs.map (resolve base)
    benchmarkDirs := s.benchmarkDirs.map (resolve base) }

-- Reads settings from a file; its directories are seen from where it stands.
def load (files : FileTree) (path : String) (x : Expansion) : Except Failure Settings :=
  match files.read path with
  | .error e => .error (.config (.unreadable path e.text))
  | .ok text =>
    (parse x text).map fun s =>
      match Path.parent? path with
      | some base => s.resolvePaths base
      | none => s

def timeLimit (s : Settings) : Option Span :=
  s.timeLimitSecs.map fun n => millis (1000 * n)

def drainTimeout (s : Settings) : Span :=
  millis (1000 * s.drainTimeoutSecs)

end Settings

end SqlBench
