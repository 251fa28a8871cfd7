import BatchFetch.Cli.Command
import BatchFetch.Cli.Help
import BatchFetch.Config.Load
import BatchFetch.Dispatch.Dispatcher
import BatchFetch.Dispatch.Live
import BatchFetch.Fetch.Http
import BatchFetch.Report.Document
import BatchFetch.Text.Quoted

/-! # Running a command

A command loads its configuration, checks it, runs one batch in real time and prints what came of it. What is outside
stands in a `World`: files, the network, chance and how much time goes by. -/

namespace BatchFetch.Cli

/-- What is outside the program. -/
structure World where
  file : String → Option (List UInt8)
  /-- The network as it is seen by a client with some settings. -/
  network : Config.Transport → Network
  draw : Nat → UInt32 → Nat := fun _ _ => 0
  /-- How many nanoseconds, after the first one, a step takes that is taken at some time. -/
  lapse : Nat → Nat := fun _ => 0

/-- What a run leaves. -/
structure Result where
  exitCode : UInt32
  /-- The texts that are printed one after another. -/
  output : List String := []
  failure : Option String := none
deriving DecidableEq, Repr

namespace Result

def success : UInt32 := 0

/-- The end of a run with a failure, be it of a target or of the run itself. -/
def failed : UInt32 := 1

/-- The end of a run whose arguments do not fit. -/
def misused : UInt32 := 2

def brokenOff : UInt32 := 101

/-- All that is printed. A line ends after each text. -/
def stdout (r : Result) : String := String.ofList (r.output.flatMap fun s => s.toList ++ ['\n'])

end Result

/-! ### Failures -/

def violationText (v : Violation) : String :=
  "ValidationError \x7b field: " ++ Quoted.text v.field ++ ", message: " ++ Quoted.text v.message ++ " \x7d"

/-- The line about a configuration that cannot be used. -/
def faultLine : Config.Fault → String
  | .invalid vs => "Error: Validation([" ++ String.intercalate ", " (vs.map violationText) ++ "])"
  | .notDocument | .misfit => "Error: Parse"
  | .missing | .notText => "Error: Io"

def Result.ofFailure (line : String) : Result := { exitCode := Result.failed, failure := some line }

/-! ### Batches -/

/-- The configuration of a command. That of a file is checked before the command changes it, and what
    comes of it is checked again. -/
def configOf (w : World) (c : Command) : Except Config.Fault Config :=
  match c.file with
  | none => (c.apply {}).checked
  | some name =>
    match Config.ofFile (w.file name) with
    | .ok config => (c.apply config).checked
    | .error e => .error e

def outputOf (format : Format) (r : BatchReport) : List String :=
  match format with
  | .text => r.results.map (·.line) ++ [r.summary.line]
  | .json => [Report.document r.results r.summary]

/-- What is left by a run whose batch came to its end. -/
def Result.ofReport (format : Format) (r : BatchReport) : Result :=
  { exitCode := if r.summary.allSucceeded then Result.success else Result.failed
    output := outputOf format r }

/-- The batch of a command; none if there cannot be so many permits. -/
def batchOf? (w : World) (c : Command) (config : Config) : Option Batch :=
  Batch.ofConfig? config c.targets 0 none (Http.transport config.transport (w.network config.transport)) [] w.draw

/-- Runs the batch of a command until it is over. -/
def runBatch (w : World) (c : Command) (config : Config) : Result :=
  if !Http.canBuild config.transport then .ofFailure "Error"
  else
    match batchOf? w c config with
    | none => { exitCode := Result.brokenOff }
    | some b => .ofReport (c.format.getD .text) (.ofState b (b.live w.lapse))

def run (w : World) (args : List String) : Result :=
  match Command.ofArguments args with
  | .error .usage => { exitCode := Result.misused }
  | .error (.help long) => { exitCode := Result.success, output := if long then Help.long else Help.short }
  | .ok c =>
    match configOf w c with
    | .error e => .ofFailure (faultLine e)
    | .ok config => runBatch w c config

def fileOf? (args : List String) : Option String :=
  match Command.ofArguments args with
  | .ok c => c.file
  | .error _ => none

end BatchFetch.Cli
