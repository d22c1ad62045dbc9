import SignIn.Challenges.Book
import SignIn.Json.Printer
import SignIn.Json.Reader

/-!
# Stored challenges

A challenge as the text that the key-value server keeps: a JSON array of the attempt id and the
code. The reader takes any text that others may have put there. It reads JSON, takes the value
apart into two parts, which may be the items of an array, the characters of a string or the names
of an object, and reads both; it tells at which of these stages it failed.
-/

namespace SignIn.Challenge

def payload (c : Challenge) : String :=
  String.ofList (Json.print .spaced (.arr [.str c.attempt.text, .str c.code.text]))

inductive PayloadFault
  | notJson
  | digits
  | depth
  | noParts
  /-- The value does not have two parts. -/
  | partCount
  | flaw (f : Flaw)
  deriving DecidableEq, Repr

/-- The parts of a value, each with the text that it is, if it is one. -/
def parts? : Json → Option (List Field)
  | .arr vs => some (vs.map Json.text?)
  | .str s => some (s.toList.map fun c => some (String.singleton c))
  | .obj ms => some (ms.map fun m => some m.1)
  | _ => none

def ofFields (attempt code : Field) : Except Flaw Challenge := do
  let attempt ← AttemptId.read attempt
  let code ← OneTimeCode.read code
  return ⟨attempt, code⟩

def ofPayload (s : String) : Except PayloadFault Challenge :=
  match Json.read s.toList with
  | .error (.grammar _) => .error .notJson
  | .error .digits => .error .digits
  | .error .depth => .error .depth
  | .ok v =>
    match parts? v with
    | none => .error .noParts
    | some [attempt, code] => (ofFields attempt code).mapError .flaw
    | some _ => .error .partCount

end SignIn.Challenge
