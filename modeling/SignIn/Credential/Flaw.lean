/-!
# Flaws

Why a field that a caller sends is not a value of its kind. A field is a text or, where the caller
sent something else, nothing; what a text is depends on the field.
-/

namespace SignIn

/-- A field as it is sent: a text, or nothing if what was sent is no text. -/
abbrev Field := Option String

/-- The kind of value that a field fails to be. -/
inductive Flaw
  | email
  | password
  | attempt
  | code
  deriving DecidableEq, Repr

def Flaw.message : Flaw → String
  | email => "invalid email"
  | password => "password too short"
  | attempt => "Invalid LoginAttemptId"
  | code => "Invalid 2FA code. It must be a 6-digit number."

/-- The value of a field, or the flaw of a field that has none. -/
def Field.read {τ α : Type} (flaw : Flaw) (ofText? : τ → Option α) (raw : Option τ) :
    Except Flaw α :=
  match raw.bind ofText? with
  | some v => .ok v
  | none => .error flaw

end SignIn
