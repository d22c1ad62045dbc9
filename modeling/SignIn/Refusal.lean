import SignIn.Credential.Flaw
import SignIn.Fault

/-!
# Refusals

What a caller is told when an operation fails: a kind with its status, and a message. The fault
behind a refusal is kept for the log and never told. A failure that the service does not turn into
a refusal escapes as the fault it is.
-/

namespace SignIn

inductive RefusalKind
  | general
  | invalidInput
  | wrongCredentials
  | missingToken
  | invalidToken
  | alreadyRegistered
  | unexpected
  deriving DecidableEq, Repr

namespace RefusalKind

def status : RefusalKind → Nat
  | general => 500
  | invalidInput => 400
  | wrongCredentials => 401
  | missingToken => 400
  | invalidToken => 401
  | alreadyRegistered => 409
  | unexpected => 500

/-- The message of a refusal that is given no other. -/
def message : RefusalKind → String
  | general => "Unexpected error"
  | invalidInput => "Invalid credentials"
  | wrongCredentials => "Incorrect credentials"
  | missingToken => "Missing auth token"
  | invalidToken => "Invalid auth token"
  | alreadyRegistered => "User already exists"
  | unexpected => "Unexpected error"

def all : List RefusalKind :=
  [general, invalidInput, wrongCredentials, missingToken, invalidToken, alreadyRegistered,
    unexpected]

end RefusalKind

/-- What a caller is told, and the fault behind it. -/
structure Refusal where
  kind : RefusalKind
  message : String
  because : Option Fault := none
  deriving DecidableEq, Repr

namespace Refusal

/-- A refusal with its kind's own message. -/
def of (kind : RefusalKind) (because : Option Fault := none) : Refusal :=
  ⟨kind, kind.message, because⟩

def ofFlaw (flaw : Flaw) : Refusal :=
  ⟨.invalidInput, flaw.message, some ⟨.flaw, some flaw.message, none⟩⟩

end Refusal

inductive Failure
  | refused (r : Refusal)
  | escaped (f : Fault)
  deriving DecidableEq, Repr

end SignIn
