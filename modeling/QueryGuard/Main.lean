import QueryGuard.CommandLine.Basic
import QueryGuard.Query.Tree

/-!
# `QueryGuard.Main`: the program

The outer layer of the command line. It reads the environment, the
clock and files, and writes what a run leaves behind: the verdict to the
standard output, records and faults to the standard error output.

The grammar of queries is not part of this library, so the answer of a
parser to the query of the command line is read from the standard input.
There is no network here either: a backend is never reached, and a
query is validated against the snapshot of a file.
-/

set_option autoImplicit false

namespace QueryGuard.CommandLine

/-- The variables of the environment that hold settings, in either
case. -/
def environment : IO (Fields String) := do
  let names := Settings.standard.fields.map (·.1)
  let found ← (names ++ names.map Text.lower).mapM fun name => do
    return (← IO.getEnv name).map (name, ·)
  return found.filterMap id

/-- The first instant of Unix time. -/
def firstInstant : DateTime := ⟨DateTime.unixEpoch, some 0, by decide⟩

/-- The present: the time at which a new file was made. -/
def present : IO DateTime := do
  let (_, path) ← IO.FS.createTempFile
  let modified := (← path.metadata).modified
  IO.FS.removeFile path
  let micros := modified.sec * 1000000 + modified.nsec.toNat / 1000
  return (DateTime.ofUnixMicros? micros).getD firstInstant

/-- Why the system does not let a file be read. -/
def FileProblem.ofError : IO.Error → FileProblem
  | .permissionDenied .. => .notPermitted
  | .inappropriateType _ code _ => if code = 21 then .isADirectory else .notADirectory
  | _ => .missing

/-- What a file holds now. -/
def contentOf (path : String) : IO (Except FileProblem String) := do
  try
    return .ok (← IO.FS.readFile path)
  catch e =>
    return .error (.ofError e)

/-- A transport that reaches nobody. -/
def unconnected : Backend.Transport Unit := fun _ s => (.broken "no network", s)

/-- The answer of a parser that the standard input holds. -/
def parserAnswer : IO QueryParser := do
  let input ← (← IO.getStdin).readToEnd
  return fun _ =>
    match Json.decodeBody input with
    | .ok answer => readAnswer answer
    | .error e => .error e.message

/-- Write what a run leaves behind, and answer with its exit code. -/
def leave (now : DateTime) : Ending → IO UInt32
  | .breakdown cause => do
    IO.eprintln cause.describe.shown
    return 1
  | .result r => do
    if r.isUsageError then usageLines.forM fun line => IO.eprintln line
    r.records.forM fun record => IO.eprintln (record.line now.zuluText)
    IO.eprint r.errors
    IO.print r.output
    return r.code.toUInt32

/-- Run with arguments that have been read. -/
def perform (a : Arguments) (now : DateTime) : IO Ending := do
  let content ← match a.snapshot with
    | some path => contentOf (tidyPath path)
    | none => pure (.error .missing)
  let parser ← if a.query.isBlank then pure fun _ => .error emptyQuery else parserAnswer
  return (runWith a now parser (fun _ => content) unconnected ()).1

end QueryGuard.CommandLine

open QueryGuard QueryGuard.CommandLine in
/-- Validate the query of a command line. -/
def main (words : List String) : IO UInt32 := do
  let now ← present
  match Settings.read ⟨[], ← environment⟩ with
  | .error problems =>
    problems.forM fun e => IO.eprintln (e.name ++ ": " ++ e.problem.code)
    return 1
  | .ok settings =>
    match Arguments.read settings words with
    | .error stop => leave now (stopped stop)
    | .ok a => leave now (← perform a now)
