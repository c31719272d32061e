import SqlBench.Measurement.Basic
import SqlBench.Text.Quoted

set_option autoImplicit false

namespace SqlBench

inductive InvalidReason where
  | emptyName
  | noConcurrency (benchmark : String) (concurrency : Nat)
  | noRuns (benchmark : String) (runs : Nat)
  | noQueries (benchmark : String)
  | emptyVariable (benchmark key : String)
  | variableWithoutValues (key : String)
  | noSamples
  | mixedUnits (name : String) (first second : MeasureUnit)
  | zeroTime (benchmark : String) (executions : Nat)
  | noSequenceIds
  | nestedVariable (key : String)
  | hookWithoutBenchmark (hook : String)
  | other (text : String)
  deriving DecidableEq, Repr

def InvalidReason.text : InvalidReason → String
  | .emptyName => "benchmark name must not be empty"
  | .noConcurrency benchmark concurrency =>
    s!"benchmark {benchmark} has concurrency {concurrency}, expected at least 1"
  | .noRuns benchmark runs => s!"benchmark {benchmark} has runs {runs}, expected at least 1"
  | .noQueries benchmark => s!"benchmark {benchmark} has no queries"
  | .emptyVariable benchmark key => s!"benchmark {benchmark} variable {key} has no values"
  | .variableWithoutValues key => s!"variable {key} has no values"
  | .noSamples => "cannot aggregate an empty sample set"
  | .mixedUnits name first second =>
    s!"measurement {name} reported in both {first.name} and {second.name}"
  | .zeroTime benchmark executions =>
    s!"benchmark {benchmark} finished {executions} executions in zero time, throughput is undefined"
  | .noSequenceIds => "at least one execution sequence id is required"
  | .nestedVariable key => s!"variable {key} must hold scalar values"
  | .hookWithoutBenchmark hook => s!"Benchmark is required to run query based macro {hook}"
  | .other text => text

inductive ExternalReason where
  | unsent (url : String)
  | badAddress
  | badScheme (url : String)
  | refusedStatus (status : Nat) (phrase url body : String)
  | noQueryStats
  | unexpectedStatistic (name value : String)
  | unreadableQuantity (text : String)
  | foreignSuffix (suffix text : String) (unit : MeasureUnit)
  | other (text : String)
  deriving DecidableEq, Repr

def ExternalReason.text : ExternalReason → String
  | .unsent url => s!"error sending request for url ({url})"
  | .badAddress => "builder error"
  | .badScheme url => s!"builder error for url ({url})"
  | .refusedStatus status phrase url body => s!"HTTP {status} {phrase} from {url}: {body}"
  | .noQueryStats => "query info has no queryStats"
  | .unexpectedStatistic name value => s!"statistic {name} has unexpected value {value}"
  | .unreadableQuantity text => s!"cannot parse quantity {text}"
  | .foreignSuffix suffix text unit =>
    s!"unit {suffix} in {text} cannot be converted to {unit.name}"
  | .other text => text

inductive IllegalReason where
  | timerRunning (label : String)
  | timerNotStarted (label : String)
  | queryNotLoaded (query : String)
  | crashed (label panic : String)
  | other (text : String)
  deriving DecidableEq, Repr

def IllegalReason.text : IllegalReason → String
  | .timerRunning label => s!"timer for {label} already started"
  | .timerNotStarted label => s!"timer for {label} stopped before it was started"
  | .queryNotLoaded query => s!"query {query} was not loaded"
  | .crashed label panic =>
    let reason := Text.quoted panic
    s!"execution task for {label} did not complete: task # panicked with message {reason}"
  | .other text => text

inductive ConfigReason where
  | noAttempts
  | noTimeLimit
  | emptyEnvironment
  | unreadable (path reason : String)
  | unknownBenchmark (name : String) (dirs : List String)
  | benchmarkFile (path message : String)
  | expansion (causes : List String) (parameters : List String)
  | other (text : String)
  deriving DecidableEq, Repr

def ConfigReason.text : ConfigReason → String
  | .noAttempts => "retry.max_attempts must be at least 1"
  | .noTimeLimit => "time_limit_secs must be positive"
  | .emptyEnvironment => "environment must not be empty"
  | .unreadable path reason => s!"cannot read {path}: {reason}"
  | .unknownBenchmark name dirs =>
    let places := Text.quotedList dirs
    s!"benchmark {name} not found in {places}"
  | .benchmarkFile path message => s!"benchmark file {path}: {message}"
  | .expansion causes parameters =>
    let hint :=
      if parameters.isEmpty then "no template variables provided (use -v key=value)"
      else "available variables: " ++ Text.quotedList parameters
    String.intercalate "\n  " (causes ++ [hint])
  | .other text => text

inductive TemplateReason where
  | conflict (key first second : String)
  | noSuchFile (dirs : List String)
  | noStatement
  | severalStatements
  | rendering (causes : List String)
  | other (text : String)
  deriving DecidableEq, Repr

def TemplateReason.text : TemplateReason → String
  | .conflict key first second =>
    s!"property {key} defined twice with values {first} and {second}"
  | .noSuchFile dirs => "no such query file in " ++ Text.quotedList dirs
  | .noStatement => "query file contains no statement"
  | .severalStatements => "Multiple statements in one query file are not supported"
  | .rendering causes => String.intercalate ": " causes
  | .other text => text

inductive Failure where
  | undefinedHook (name : String)
  | hookWithoutCommand (name : String)
  | hookExit (name : String) (code : Int)
  | hookSpawn (name reason : String)
  | template (path : String) (attributes : Attributes) (reason : TemplateReason)
  | transient (reason : ExternalReason)
  | permanent (reason : ExternalReason)
  | invalid (reason : InvalidReason)
  | query (text : String)
  | queryOf (inner : Failure)
  | illegal (reason : IllegalReason)
  | interrupted (benchmark : String)
  | timeLimit (benchmark : String)
  | unknownSource (name : String)
  | config (reason : ConfigReason)
  | io (text : String)
  | yaml (text : String)
  | json (text : String)
  deriving DecidableEq

instance : Inhabited Failure := ⟨.io ""⟩

namespace Failure

def message : Failure → String
  | .undefinedHook name => s!"Macro {name} is not defined"
  | .hookWithoutCommand name => s!"Macro {name} has no command defined"
  | .hookExit name code => s!"Macro {name} exited with code {code}"
  | .hookSpawn name reason => s!"Could not execute macro {name}: {reason}"
  | .template path attributes reason =>
    let seen := Text.quotedDict attributes
    s!"Template {path} could not be rendered with attributes {seen}: {reason.text}"
  | .transient reason => s!"Transient external error: {reason.text}"
  | .permanent reason => s!"External call failed: {reason.text}"
  | .invalid reason => s!"Invalid argument: {reason.text}"
  | .query text => s!"Query execution failed: {text}"
  | .queryOf inner => "Query execution failed: " ++ inner.message
  | .illegal reason => s!"Illegal state: {reason.text}"
  | .interrupted benchmark => s!"Benchmark {benchmark} was stopped before all executions ran"
  | .timeLimit benchmark =>
    s!"Time limit ran out before all executions of benchmark {benchmark} ran"
  | .unknownSource name => s!"Data source {name} is not defined"
  | .config reason => s!"Configuration error: {reason.text}"
  | .io text => s!"IO error: {text}"
  | .yaml text => s!"YAML error: {text}"
  | .json text => s!"JSON error: {text}"

def sources : Failure → List String
  | .hookSpawn _ reason => [reason]
  | .query text => [text]
  | .queryOf inner => inner.message :: inner.sources
  | .io text => [text]
  | .yaml text => [text]
  | .json text => [text]
  | _ => []

def isTransient : Failure → Bool
  | .transient _ => true
  | _ => false

end Failure

-- What ends a piece of work early. Failures are handed on as values; a panic unwinds whatever has
-- no task of its own.
inductive Halt where
  | failed (cause : Failure)
  | crashed (panic : String)
  deriving DecidableEq

end SqlBench
