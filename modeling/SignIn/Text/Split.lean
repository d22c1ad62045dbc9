/-!
# Splitting

A text cut at every occurrence of a character, parts put together again, and the search for one text
inside another.
-/

namespace SignIn.Text

/-- The parts of a text between the occurrences of a character. -/
def splitOn (sep : Char) : List Char → List (List Char)
  | [] => [[]]
  | c :: rest =>
    match splitOn sep rest with
    | [] => [[c]]
    | part :: parts => if c = sep then [] :: part :: parts else (c :: part) :: parts

def joinWith (sep : Char) (parts : List (List Char)) : List Char :=
  [sep].intercalate parts

/-- Whether the first text is somewhere inside the second. -/
def within (part : List Char) : List Char → Bool
  | [] => part.isEmpty
  | c :: s => part.isPrefixOf (c :: s) || within part s

end SignIn.Text
