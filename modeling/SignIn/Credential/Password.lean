import SignIn.Credential.Flaw
import SignIn.Text.Sent

/-!
# Passwords

A text of at least eight characters, kept as it was sent. A password is never displayed. Passwords
are compared by their octets, so there is no comparing where one of them is torn.
-/

namespace SignIn

/-- A password, held as it was sent. -/
structure Password where
  text : SentText
  long : 8 ≤ text.length
  deriving DecidableEq

/-- The field of a password as it is sent. -/
abbrev SecretField := Option SentText

namespace Password

/-- The password that a text is, if it is long enough. -/
def ofText? (t : SentText) : Option Password :=
  if h : 8 ≤ t.length then some ⟨t, h⟩ else none

def read (raw : SecretField) : Except Flaw Password :=
  Field.read .password ofText? raw

/-- Whether the text of a password has octets. -/
def isWhole (p : Password) : Bool := p.text.isWhole

/-- Whether two passwords agree, if both have octets to compare. -/
def agrees? (p q : Password) : Option Bool :=
  if p.isWhole && q.isWhole then some (p = q) else none

/-- What stands for a password wherever it is shown. -/
def mask : String := "********"

/-- A password as a displayed value: without its text. -/
def display : String := "Password()"

/-- A text is read as a password exactly when it is the password's own text. -/
theorem ofText?_eq_some_iff {t : SentText} {p : Password} : ofText? t = some p ↔ p.text = t := by
  obtain ⟨s, h⟩ := p
  unfold ofText?
  split
  · next hs => simp [Password.mk.injEq, eq_comm]
  · next hs =>
    simp only [reduceCtorEq, false_iff]
    rintro rfl
    exact hs h

/-- Reading a password back from its text gives the password. -/
@[simp] theorem ofText?_text (p : Password) : ofText? p.text = some p :=
  ofText?_eq_some_iff.2 rfl

end Password

end SignIn
