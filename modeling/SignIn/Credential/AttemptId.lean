import SignIn.Credential.Flaw
import SignIn.Text.Hex
import SignIn.Text.Quoted

/-!
# Attempt ids

The name of a sign-in that waits for its second factor: 128 bits, written as five hyphenated groups
of hexadecimal digits. Both cases are read, the lower case is written, so that two texts name the
same attempt exactly if they differ in case only.
-/

namespace SignIn

/-- The id of a sign-in that waits for its second factor. -/
structure AttemptId where
  value : BitVec 128
  deriving DecidableEq

namespace AttemptId

def groupSizes : List Nat := [8, 4, 4, 4, 12]

/-- Digits with a hyphen between groups of the given sizes. -/
def hyphenate : List Nat → List Char → List Char
  | [], _ => []
  | [n], cs => cs.take n
  | n :: sizes, cs => cs.take n ++ '-' :: hyphenate sizes (cs.drop n)

/-- The digits of hyphenated groups of exactly the given sizes. -/
def unhyphenate? : List Nat → List Char → Option (List Char)
  | [], cs => if cs = [] then some [] else none
  | [n], cs => if cs.length = n then some cs else none
  | n :: sizes, cs =>
    match cs.drop n with
    | '-' :: rest => (unhyphenate? sizes rest).map (cs.take n ++ ·)
    | _ => none

def ofText? (s : String) : Option AttemptId := do
  let digits ← unhyphenate? groupSizes s.toList
  let n ← Text.ofHex? digits
  return ⟨BitVec.ofNat 128 n⟩

def read (raw : Field) : Except Flaw AttemptId :=
  Field.read .attempt ofText? raw

def hex (a : AttemptId) : List Char :=
  Text.toHex 32 a.value.toNat

def text (a : AttemptId) : String :=
  String.ofList (hyphenate groupSizes a.hex)

def display (a : AttemptId) : String :=
  "LoginAttemptId(value=" ++ Text.quoted a.text ++ ")"

end AttemptId

end SignIn
