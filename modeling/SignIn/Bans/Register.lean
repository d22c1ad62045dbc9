import SignIn.Keyed
import SignIn.Number.Deadline

/-!
# Registers

The ban store in memory: each banned token with the deadline at which its ban ends. A ban lasts at
least a second; banning again keeps the later end. An entry whose end has passed is dropped when it
is next looked up.
-/

namespace SignIn

structure Register where
  ends : Keyed String Deadline
  deriving DecidableEq

namespace Register

def empty : Register := ⟨[]⟩

def endOf (now : Int) (length : Seconds) : Deadline :=
  .after now length.atLeastOne

/-- The register with a token banned until the given deadline, or longer if it already was. -/
def ban (r : Register) (token : String) (deadline : Deadline) : Register :=
  ⟨Keyed.put token (deadline.later ((Keyed.find? token r.ends).getD .zero)) r.ends⟩

/-- The register with a token banned for a length of time. -/
def revoke (r : Register) (now : Int) (token : String) (length : Seconds) : Register :=
  r.ban token (endOf now length)

/-- The register without a token's entry if its end has passed. -/
def sweep (r : Register) (now : Int) (token : String) : Register :=
  match Keyed.find? token r.ends with
  | some d => if d.hasCome now then ⟨Keyed.drop token r.ends⟩ else r
  | none => r

/-- Whether a token is banned, and the register after the look-up. -/
def contains (r : Register) (now : Int) (token : String) : Bool × Register :=
  match Keyed.find? token r.ends with
  | none => (false, r)
  | some d => if d.hasCome now then (false, r.sweep now token) else (true, r)

end Register

end SignIn
