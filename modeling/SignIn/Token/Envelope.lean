import SignIn.Bytes.Base64
import SignIn.Json.Printer
import SignIn.Json.Reader

/-!
# Token envelopes

A token is three parts with points between them: a header, a payload and a signature, each in
Base64. The signature covers the text before the last point as it stands. An envelope is a token
taken apart, with nothing checked but its form.
-/

namespace SignIn.Token

inductive EnvelopeFault
  | malformed
  /-- A JSON part is nested too deeply. -/
  | tooDeep
  deriving DecidableEq, Repr

structure Envelope where
  /-- The text before the last point. -/
  signed : List Char
  header : List (String × Json)
  payload : List UInt8
  signature : List UInt8

/-- What stands before and after the first point of a text. -/
def cutFirst : List Char → Option (List Char × List Char)
  | [] => none
  | c :: rest =>
    if c = '.' then some ([], rest) else (cutFirst rest).map fun (a, b) => (c :: a, b)

/-- What stands before and after the last point of a text. -/
def cutLast (cs : List Char) : Option (List Char × List Char) :=
  (cutFirst cs.reverse).map fun (a, b) => (b.reverse, a.reverse)

/-- The members of the JSON object that octets stand for. -/
def objectOf (bs : List UInt8) : Except EnvelopeFault (List (String × Json)) :=
  match Text.Utf8.decode? bs with
  | none => .error .malformed
  | some cs =>
    match Json.read cs with
    | .ok (.obj ms) => .ok ms
    | .ok _ => .error .malformed
    | .error .depth => .error .tooDeep
    | .error _ => .error .malformed

def partOctets (cs : List Char) : Except EnvelopeFault (List UInt8) :=
  match Base64.decode? cs with
  | some bs => .ok bs
  | none => .error .malformed

def Envelope.ofText (s : String) : Except EnvelopeFault Envelope :=
  match cutLast s.toList with
  | none => .error .malformed
  | some (signed, signature) =>
    match cutFirst signed with
    | none => .error .malformed
    | some (header, payload) => do
      let header ← objectOf (← partOctets header)
      let payload ← partOctets payload
      let signature ← partOctets signature
      return ⟨signed, header, payload, signature⟩

def algorithm : String := "HS256"

/-- The header of every token that is issued. -/
def issuedHeader : List (String × Json) :=
  [("alg", .str algorithm), ("typ", .str "JWT")]

def part (members : List (String × Json)) : List Char :=
  Base64.encode (Text.Utf8.encode (Json.print .compact (.obj members)))

/-- The text that is signed for a payload. -/
def signedText (payload : List (String × Json)) : List Char :=
  part issuedHeader ++ '.' :: part payload

/-- A token from the text that is signed and its signature. -/
def assemble (signed : List Char) (signature : List UInt8) : String :=
  String.ofList (signed ++ '.' :: Base64.encode signature)

end SignIn.Token
