import SignIn.Json.Basic

/-!
# Truth values in JSON

What counts as a truth value where one is expected: the two values themselves, the numbers 0 and 1,
and a few words in any case.
-/

namespace SignIn.Json

inductive TruthFault
  /-- It is of a kind that never is one. -/
  | kind
  /-- It is of a kind that may be one. -/
  | unreadable
  deriving DecidableEq, Repr

def trueWords : List String := ["1", "t", "y", "on", "yes", "true"]

def falseWords : List String := ["0", "f", "n", "no", "off", "false"]

def truthOfWord (s : String) : Except TruthFault Bool :=
  let lower := String.ofList (s.toList.map Char.toLower)
  if lower ∈ trueWords then .ok true
  else if lower ∈ falseWords then .ok false
  else .error .unreadable

def truthOfInt (n : Int) : Except TruthFault Bool :=
  if n = 0 then .ok false else if n = 1 then .ok true else .error .unreadable

/-- The truth value of a value. An integer beyond the binary numbers is of the wrong kind. -/
def truth : Json → Except TruthFault Bool
  | bool b => .ok b
  | str s => truthOfWord s
  | torn _ => .error .unreadable
  | int n => if (Binary64.ofInt n).isInfinite then .error .kind else truthOfInt n
  | real x =>
    match x.toInt? with
    | some n => truthOfInt n
    | none => .error .kind
  | null | arr _ | obj _ => .error .kind

end SignIn.Json
