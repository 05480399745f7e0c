import QueryGuard.Text.DecimalDigit
import QueryGuard.Text.Quoted
import QueryGuard.Text.Split

/-!
# `QueryGuard.CommandLine.Word`: what each word of a command line is

A word is the name of a parameter, perhaps with a value after an
equals sign; a name that no parameter has; or plain. The names of
parameters may be cut short as long as one alone starts so. Two dashes
on their own make all words after them plain, and so does a look of a
negative number or a blank inside.
-/

set_option autoImplicit false

namespace QueryGuard.CommandLine

/-- The parameters that are given by name. -/
inductive Parameter where
  | help
  | backendUrl
  | token
  | insecure
  | statsLimit
  | rules
  | maxMetricCardinality
  | maxLabelCardinality
  | start
  | finish
  | snapshot
  | timeout
  | logLevel
  deriving DecidableEq, Repr

namespace Parameter

/-- All parameters. -/
def all : List Parameter :=
  [.help, .backendUrl, .token, .insecure, .statsLimit, .rules, .maxMetricCardinality,
    .maxLabelCardinality, .start, .finish, .snapshot, .timeout, .logLevel]

/-- The names of a parameter. -/
def names : Parameter → List String
  | .help => ["-h", "--help"]
  | .backendUrl => ["--prometheus-url"]
  | .token => ["--token"]
  | .insecure => ["--insecure"]
  | .statsLimit => ["--tsdb-stats-limit"]
  | .rules => ["--guardrails"]
  | .maxMetricCardinality => ["--guardrails.max-metric-cardinality"]
  | .maxLabelCardinality => ["--guardrails.max-label-cardinality"]
  | .start => ["--start"]
  | .finish => ["--end"]
  | .snapshot => ["--snapshot"]
  | .timeout => ["--timeout"]
  | .logLevel => ["--log-level"]

/-- A parameter in a message. -/
def title (p : Parameter) : String := "/".intercalate p.names

/-- A parameter is followed by a value. -/
def takesValue : Parameter → Bool
  | .help | .insecure => false
  | _ => true

end Parameter

/-- All names with their parameters. -/
def namedParameters : List (String × Parameter) :=
  Parameter.all.flatMap fun p => p.names.map (·, p)

/-- What a word is. -/
inductive Word where
  | plain (text : String)
  /-- Two dashes on their own. -/
  | separator
  /-- The name of a parameter and the value that came with it: behind
  an equals sign, or joined to a short name. -/
  | named (p : Parameter) (joined : Bool) (value : Option String)
  /-- A name that no parameter has. -/
  | unknown (text : String)
  deriving DecidableEq, Repr

/-- A name cut so short that it has several meanings. -/
structure AmbiguousName where
  word : String
  meanings : List String
  deriving DecidableEq, Repr

/-- The name in front of the first equals sign, and the value after
it. -/
def splitValue (word : String) : String × Option String :=
  match Text.cutAt? '=' word.toList with
  | some (name, value) => (String.ofList name, some (String.ofList value))
  | none => (word, none)

/-- A minus and a number, whole or with a point and digits after it;
one line end may follow. -/
def looksNegative (word : String) : Bool :=
  match word.toList with
  | '-' :: cs =>
    let cs := if cs.getLast? = some '\n' then cs.dropLast else cs
    let whole := cs.takeWhile Text.isDecimalDigit
    match cs.dropWhile Text.isDecimalDigit with
    | [] => !whole.isEmpty
    | '.' :: fraction => !fraction.isEmpty && fraction.all Text.isDecimalDigit
    | _ => false
  | _ => false

/-- The parameters whose names start like a word. A word of one dash
and a letter may be a short name with more behind it. -/
def meanings (word : String) : List (String × Word) :=
  if word.startsWith "--" then
    let (name, value) := splitValue word
    (namedParameters.filter fun n => n.1.startsWith name).map fun n =>
      (n.1, .named n.2 false value)
  else
    (namedParameters.filter fun n => n.1.toList = word.toList.take 2).map fun n =>
      (n.1, .named n.2 true (some (String.ofList (word.toList.drop 2))))

/-- What a word is that starts with a dash. -/
def readDashed (word : String) : Except AmbiguousName Word :=
  let (name, value) := splitValue word
  match namedParameters.lookup word, namedParameters.lookup name with
  | some p, _ => .ok (.named p false none)
  | none, some p => .ok (.named p false value)
  | none, none =>
    match meanings word with
    | [(_, w)] => .ok w
    | [] =>
      .ok (if looksNegative word || word.toList.contains ' ' then .plain word else .unknown word)
    | several => .error ⟨word, several.map (·.1)⟩

/-- What a word is. -/
def readWord (word : String) : Except AmbiguousName Word :=
  if word.startsWith "-" && word != "-" then readDashed word else .ok (.plain word)

/-- What the words of a command line are. -/
def readWords : List String → Except AmbiguousName (List Word)
  | [] => .ok []
  | word :: rest =>
    -- Only the first separator separates; a later one is a word like any other.
    if word = "--" then .ok (.separator :: rest.map .plain)
    else do
      let w ← readWord word
      let others ← readWords rest
      return w :: others

end QueryGuard.CommandLine
