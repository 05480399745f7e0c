import QueryGuard.CommandLine.Word
import QueryGuard.Number.Numeral
import QueryGuard.Settings.Basic

/-!
# `QueryGuard.CommandLine.Arguments`: what a command line asks for

A command line holds one query and any number of parameters, in any
order; the last of several values counts. Parameters that are not given
have the values of the settings. Faults are met from left to right; a
missing query and words that nobody asked for come last.

The words here are texts of characters. A query of other bytes, which
holds halves of pairs, has a place among the arguments, though no word
spells it.
-/

set_option autoImplicit false

namespace QueryGuard.CommandLine

/-- What a command line asks for. -/
structure Arguments where
  query : Wording
  backend : Backend.Config
  rules : String
  maxMetricCardinality : Int
  maxLabelCardinality : Int
  start : Option String := none
  finish : Option String := none
  /-- A file to read the snapshot from, instead of asking the backend. -/
  snapshot : Option String := none
  timeout : Double
  logLevel : String := "WARNING"

/-- The arguments of an empty command line. -/
def Arguments.ofSettings (s : Settings) : Arguments where
  query := ""
  backend := s.backend
  rules := s.rules
  maxMetricCardinality := s.maxMetricCardinality
  maxLabelCardinality := s.maxLabelCardinality
  timeout := s.timeout

/-- What is wrong with a command line. -/
inductive ArgumentError where
  | ambiguous (e : AmbiguousName)
  | missingValue (p : Parameter)
  | unwantedValue (p : Parameter) (value : String)
  | notAnInteger (p : Parameter) (value : String)
  | notANumber (p : Parameter) (value : String)
  | missingQuery
  | unwantedWords (words : List String)
  deriving DecidableEq, Repr

/-- The wording of a fault. -/
def ArgumentError.message : ArgumentError → String
  | .ambiguous e =>
    "ambiguous option: " ++ e.word ++ " could match " ++ ", ".intercalate e.meanings
  | .missingValue p => s!"argument {p.title}: expected one argument"
  | .unwantedValue p value =>
    s!"argument {p.title}: ignored explicit argument {Text.quoted value}"
  | .notAnInteger p value => s!"argument {p.title}: invalid int value: {Text.quoted value}"
  | .notANumber p value => s!"argument {p.title}: invalid float value: {Text.quoted value}"
  | .missingQuery => "the following arguments are required: query"
  | .unwantedWords words => "unrecognized arguments: " ++ " ".intercalate words

/-- Why a command line asks for nothing. -/
inductive Stop where
  /-- It asks how it is to be written. -/
  | help
  | error (e : ArgumentError)
  deriving DecidableEq, Repr

/-- A whole number given for a parameter. -/
def integerFor (p : Parameter) (value : String) : Except Stop Int :=
  match Numeral.readInt value with
  | .ok n => .ok n
  | .error _ => .error (.error (.notAnInteger p value))

/-- Arguments with the value of a parameter set. -/
def Arguments.set (a : Arguments) (p : Parameter) (value : String) : Except Stop Arguments :=
  match p with
  | .help | .insecure => .ok a
  | .backendUrl => .ok { a with backend := { a.backend with baseUrl := value } }
  | .token => .ok { a with backend := { a.backend with token := some value } }
  | .statsLimit => do
    let n ← integerFor p value
    return { a with backend := { a.backend with limit := some n } }
  | .rules => .ok { a with rules := value }
  | .maxMetricCardinality => do
    let n ← integerFor p value
    return { a with maxMetricCardinality := n }
  | .maxLabelCardinality => do
    let n ← integerFor p value
    return { a with maxLabelCardinality := n }
  | .start => .ok { a with start := some value }
  | .finish => .ok { a with finish := some value }
  | .snapshot => .ok { a with snapshot := some value }
  | .timeout =>
    match Numeral.readDouble? value with
    | some x => .ok { a with timeout := x, backend := { a.backend with timeout := .double x } }
    | none => .error (.error (.notANumber p value))
  | .logLevel => .ok { a with logLevel := value }

/-- What letters joined to the short name of the help ask for. Those
that repeat it are read as further short names; any other letter comes
too late, for the help is shown before it is looked at. -/
def joinedToHelp : List Char → Stop
  | '-' :: rest => .error (.unwantedValue .help (String.ofList ('-' :: rest)))
  | 'h' :: '=' :: rest => .error (.unwantedValue .help (String.ofList rest))
  | 'h' :: rest => joinedToHelp rest
  | _ => .help

/-- Arguments with a parameter set that takes no value. -/
def Arguments.turnOn (a : Arguments) (p : Parameter) (joined : Bool) (value : Option String) :
    Except Stop Arguments :=
  match value with
  | none =>
    match p with
    | .help => .error .help
    | _ => .ok { a with backend := { a.backend with verifyTls := false } }
  | some value =>
    .error (if joined then joinedToHelp value.toList else .error (.unwantedValue p value))

/-- What has been read of a command line. -/
structure Progress where
  arguments : Arguments
  query : Option String := none
  /-- Words that nobody asked for. -/
  unwanted : List String := []

/-- The arguments of a command line that has been read. -/
def Progress.finish (p : Progress) : Except Stop Arguments :=
  match p.query with
  | none => .error (.error .missingQuery)
  | some query =>
    if p.unwanted.isEmpty then .ok { p.arguments with query := query }
    else .error (.error (.unwantedWords p.unwanted))

/-- The progress with a word that nobody asked for. -/
def Progress.reject (p : Progress) (word : String) : Progress :=
  { p with unwanted := p.unwanted ++ [word] }

/-- Read a row of words. The separator goes with the query next to it;
without one it is a word that nobody asked for. -/
def consume (p : Progress) : List Word → Except Stop Arguments
  | [] => p.finish
  | .unknown text :: rest => consume (p.reject text) rest
  | .plain text :: .separator :: rest =>
    if p.query.isNone then consume { p with query := some text } rest
    else consume ((p.reject text).reject "--") rest
  | .plain text :: rest =>
    if p.query.isNone then consume { p with query := some text } rest
    else consume (p.reject text) rest
  | .separator :: .plain text :: rest =>
    if p.query.isNone then consume { p with query := some text } rest
    else consume ((p.reject "--").reject text) rest
  | .separator :: rest => consume (p.reject "--") rest
  | .named param joined value :: rest =>
    if param.takesValue then
      match value with
      | some v => do
        let a ← p.arguments.set param v
        consume { p with arguments := a } rest
      | none =>
        -- A separator is no value, and neither is a word that starts with a dash.
        match rest with
        | .plain v :: rest => do
          let a ← p.arguments.set param v
          consume { p with arguments := a } rest
        | _ => .error (.error (.missingValue param))
    else do
      let a ← p.arguments.turnOn param joined value
      consume { p with arguments := a } rest

/-- Read a command line. -/
def Arguments.read (s : Settings) (words : List String) : Except Stop Arguments :=
  match readWords words with
  | .error e => .error (.error (.ambiguous e))
  | .ok ws => consume { arguments := .ofSettings s } ws

end QueryGuard.CommandLine
