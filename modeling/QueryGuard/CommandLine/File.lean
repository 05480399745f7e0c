import QueryGuard.Json.Decoder
import QueryGuard.Metadata.Snapshot
import QueryGuard.Text.Split

/-!
# `QueryGuard.CommandLine.File`: snapshots in files

A snapshot file is a document in UTF-8. Its line ends may be those of
any system. The name of a file is tidied before it is used: slashes
that repeat and steps that stay where they are fall away.
-/

set_option autoImplicit false

namespace QueryGuard.CommandLine

/-- Why a file cannot be read. -/
inductive FileProblem where
  | missing
  | notADirectory
  | isADirectory
  | notPermitted
  deriving DecidableEq, Repr

/-- The number and the wording of a problem with a file. -/
def FileProblem.message (p : FileProblem) (path : String) : String :=
  let (number, wording) := match p with
    | .missing => ("2", "No such file or directory")
    | .notADirectory => ("20", "Not a directory")
    | .isADirectory => ("21", "Is a directory")
    | .notPermitted => ("13", "Permission denied")
  "[Errno " ++ number ++ "] " ++ wording ++ ": " ++ Text.quoted path

/-- The slashes that a path keeps at its start: one, or exactly two. -/
def rootOf (cs : List Char) : String :=
  match (cs.takeWhile (· = '/')).length with
  | 0 => ""
  | 2 => "//"
  | _ => "/"

/-- The name of a file in its shortest form. -/
def tidyPath (path : String) : String :=
  let cs := path.toList
  let steps := ((Text.splitAt '/' cs).map String.ofList).filter fun s => s != "" && s != "."
  let tidy := rootOf cs ++ "/".intercalate steps
  if tidy = "" then "." else tidy

/-- Every line end written as a single character. -/
def unifyLines : List Char → List Char
  | '\r' :: '\n' :: rest => '\n' :: unifyLines rest
  | '\r' :: rest => '\n' :: unifyLines rest
  | c :: rest => c :: unifyLines rest
  | [] => []

/-- A way to read files by their names. -/
abbrev Files := String → Except FileProblem String

/-- Why a file gives no snapshot. -/
inductive SnapshotFileError where
  | file (p : FileProblem) (path : String)
  | document (e : Json.DecodeError)
  | snapshot (e : SnapshotError)

/-- The wording for a file that gives no snapshot. -/
def SnapshotFileError.message : SnapshotFileError → String
  | .file p path => p.message path
  | .document e => e.message
  | .snapshot e => e.message

/-- The snapshot of a file. -/
def readSnapshot (files : Files) (path : String) : Except SnapshotFileError Snapshot := do
  let path := tidyPath path
  let text ← (files path).mapError (.file · path)
  let document ← (Json.decode (String.ofList (unifyLines text.toList))).mapError .document
  (Snapshot.ofJson document).mapError .snapshot

end QueryGuard.CommandLine
