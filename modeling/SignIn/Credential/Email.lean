import SignIn.Credential.Flaw
import SignIn.Text.Quoted

/-!
# Email addresses

A text that holds an `@`; code points with an unpaired surrogate are no text and no address here. In
log lines an address appears in its redacted form only: the first two characters of its local part,
and its domain.
-/

namespace SignIn

structure Email where
  text : String
  mark : '@' ∈ text.toList
  deriving DecidableEq

namespace Email

/-- The address that a text is, if it holds the mark. -/
def ofText? (s : String) : Option Email :=
  if h : '@' ∈ s.toList then some ⟨s, h⟩ else none

def read (raw : Field) : Except Flaw Email :=
  Field.read .email ofText? raw

def localPart (e : Email) : List Char :=
  e.text.toList.takeWhile (· ≠ '@')

def domain (e : Email) : List Char :=
  (e.text.toList.dropWhile (· ≠ '@')).drop 1

/-- The form of an address that may stand in a log line. -/
def redacted (e : Email) : String :=
  String.ofList (e.localPart.take 2) ++ "***@" ++ String.ofList e.domain

def display (e : Email) : String :=
  "Email(value=" ++ Text.quoted e.text ++ ")"

/-- A text is read as an address exactly when it is the address's own text. -/
theorem ofText?_eq_some_iff {s : String} {e : Email} : ofText? s = some e ↔ e.text = s := by
  obtain ⟨t, h⟩ := e
  unfold ofText?
  split
  · next hs => simp [Email.mk.injEq, eq_comm]
  · next hs =>
    simp only [reduceCtorEq, false_iff]
    rintro rfl
    exact hs h

/-- Reading an address back from its text gives the address. -/
@[simp] theorem ofText?_text (e : Email) : ofText? e.text = some e :=
  ofText?_eq_some_iff.2 rfl

end Email

end SignIn
