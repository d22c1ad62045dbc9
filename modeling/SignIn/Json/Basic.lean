import SignIn.Keyed
import SignIn.Number.Binary64
import SignIn.Text.Sent

/-!
# JSON values

An object is the list of its members in the order in which their names first appeared; a name
stands once, with the value it was given last. A string is a text or, where a document is read as it
was sent, torn.
-/

namespace SignIn

/-- A JSON value. Integers are exact, and numbers with a fraction or an exponent are binary. -/
inductive Json
  | null
  | bool (b : Bool)
  | int (n : Int)
  | real (x : Binary64)
  | str (s : String)
  | torn (t : TornText)
  | arr (items : List Json)
  | obj (members : List (String × Json))
  deriving Repr, Inhabited

namespace Json

/-- The object of a list of members, of which the last of a name counts. -/
def ofMembers (members : List (String × Json)) : Json :=
  obj (Keyed.ofEntries members)

/-- The string of a text as it was sent. -/
def sent : SentText → Json
  | .whole s => str s
  | .torn t => torn t

def get? (name : String) : Json → Option Json
  | obj members => Keyed.find? name members
  | _ => none

def text? : Json → Option String
  | str s => some s
  | _ => none

def members? : Json → Option (List (String × Json))
  | obj members => some members
  | _ => none

end Json

end SignIn
