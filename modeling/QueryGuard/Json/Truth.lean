import QueryGuard.Json.Basic

/-!
# `QueryGuard.Json.Truth`: documents that say something

Two tests of documents: whether one says anything at all, and whether
it can be sent, as a strict reader expects it to be. Such a reader knows
neither numbers that are not finite nor halves of pairs.
-/

set_option autoImplicit false

namespace QueryGuard.Json

/-- A document that is neither nothing, false, zero nor empty. -/
def isGiven : Json → Bool
  | .null => false
  | .bool b => b
  | .number (.int n) => n != 0
  | .number (.double (.finite _ units)) => units != 0
  | .number (.double _) => true
  | .string s => s != ""
  | .halved _ => true
  | .array items => !items.isEmpty
  | .object fields => !fields.isEmpty
  | .mixed entries => !entries.isEmpty

/-- A number that is neither an infinity nor no number at all. -/
def isFiniteNumber : Number → Bool
  | .int _ => true
  | .double (.finite _ _) => true
  | .double _ => false

mutual

/-- A test holds of a document and of every document inside it. -/
def everywhere (test : Json → Bool) : Json → Bool
  | .array items => test (.array items) && everywhereItems test items
  | .object fields => test (.object fields) && everywhereFields test fields
  | .mixed entries => test (.mixed entries) && everywhereEntries test entries
  | j => test j

/-- A test holds everywhere in the items of an array. -/
def everywhereItems (test : Json → Bool) : List Json → Bool
  | [] => true
  | item :: rest => everywhere test item && everywhereItems test rest

/-- A test holds everywhere in the values of an object. -/
def everywhereFields (test : Json → Bool) : List (String × Json) → Bool
  | [] => true
  | (_, v) :: rest => everywhere test v && everywhereFields test rest

/-- A test holds everywhere in the values of an object with such
names. -/
def everywhereEntries (test : Json → Bool) : List (Wording × Json) → Bool
  | [] => true
  | (_, v) :: rest => everywhere test v && everywhereEntries test rest

end

/-- A document that is not itself a number without a size. -/
def hasSize : Json → Bool
  | .number n => isFiniteNumber n
  | _ => true

/-- A document that neither is a text with halves of pairs nor has such
a text as a name. -/
def hasCharacters : Json → Bool
  | .halved w => w.isPlain
  | .mixed entries => entries.all fun e => e.1.isPlain
  | _ => true

/-- All numbers of a document are finite. -/
def isFinite (j : Json) : Bool := j.everywhere hasSize

/-- All texts of a document consist of characters. -/
def isText (j : Json) : Bool := j.everywhere hasCharacters

end QueryGuard.Json
