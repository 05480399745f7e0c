/-!
# `QueryGuard.Text.Split`: texts cut at a character
-/

set_option autoImplicit false

namespace QueryGuard.Text

/-- The pieces of a row of characters between the separators, one more
than there are separators. -/
def splitAt (separator : Char) : List Char → List (List Char)
  | [] => [[]]
  | c :: rest =>
    if c = separator then [] :: splitAt separator rest
    else match splitAt separator rest with
      | piece :: others => (c :: piece) :: others
      | [] => [[c]]

/-- What follows the last separator, all of it if there is none. -/
def afterLast (separator : Char) (cs : List Char) : List Char :=
  (cs.reverse.takeWhile (· != separator)).reverse

/-- What precedes the first separator and what follows it, if there is
one. -/
def cutAt? (separator : Char) (cs : List Char) : Option (List Char × List Char) :=
  match cs.dropWhile (· != separator) with
  | [] => none
  | _ :: rest => some (cs.takeWhile (· != separator), rest)

end QueryGuard.Text
