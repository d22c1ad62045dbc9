import SignIn.Http.Calendar
import SignIn.Text.Blank
import SignIn.Text.Split

/-!
# Cookies

The session cookie as a header that sets it, a header that clears it, and what is read back from
the headers of a request. A value that holds anything but the characters of a token is put into
double quotes, with escapes; reading undoes quotes and escapes.
-/

namespace SignIn.Http.Cookie

def sessionName : String := "jwt"

/-- How cookies are written: how long they last, to which sites they are sent, and whether only
over a secure connection. -/
structure Policy where
  seconds : Int
  sameSite : String
  secure : Bool

/-- A character that stands in a value without quotes. -/
def isPlain (c : Char) : Bool :=
  c.isAlphanum || "!#$%&'*+-.^_\x60|~:".toList.contains c

/-- A character that stands in a quoted value as itself. -/
def isQuotable (c : Char) : Bool :=
  isPlain c || " ()/<=>?@[]\x7b\x7d".toList.contains c

def octal (n : Nat) : List Char :=
  [n / 64, n / 8 % 8, n % 8].map fun d => Char.ofNat ('0'.toNat + d)

def quotedChar (c : Char) : List Char :=
  if c = '"' ∨ c = '\\' then ['\\', c]
  else if isQuotable c || 0x100 ≤ c.toNat then [c]
  else '\\' :: octal c.toNat

def writeValue (v : List Char) : List Char :=
  if v ≠ [] ∧ v.all isPlain then v else '"' :: v.flatMap quotedChar ++ ['"']

def octalDigit? (limit : Nat) (c : Char) : Option Nat :=
  if '0' ≤ c ∧ c.toNat ≤ '0'.toNat + limit then some (c.toNat - '0'.toNat) else none

def octalChar? (a b c : Char) : Option Char := do
  let x ← octalDigit? 3 a
  let y ← octalDigit? 7 b
  let z ← octalDigit? 7 c
  return Char.ofNat (64 * x + 8 * y + z)

def unescape : List Char → List Char
  | '\\' :: a :: b :: c :: rest =>
    match octalChar? a b c with
    | some x => x :: unescape rest
    | none =>
      if a = '\n' then '\\' :: a :: unescape (b :: c :: rest)
      else a :: unescape (b :: c :: rest)
  | '\\' :: a :: rest => if a = '\n' then '\\' :: a :: unescape rest else a :: unescape rest
  | c :: rest => c :: unescape rest
  | [] => []

/-- A value as it is read: without its quotes, if it has both. -/
def readValue (v : List Char) : List Char :=
  match v with
  | '"' :: rest => if rest.getLast? = some '"' then unescape rest.dropLast else v
  | _ => v

/-- The name and the value of a part; a part without an equals sign has no name. -/
def pair (part : List Char) : List Char × List Char :=
  let name := part.takeWhile (· ≠ '=')
  let (name, value) :=
    if name.length < part.length then (name, part.drop (name.length + 1)) else ([], part)
  (Text.trim Text.isBlank name, Text.trim Text.isBlank value)

def pairs (header : List Char) : List (List Char × List Char) :=
  ((Text.splitOn ';' header).map pair).filter fun (n, v) => n ≠ [] ∨ v ≠ []

/-- The value of a cookie in the headers of a request; of several values the last counts. -/
def find? (name : String) (headers : List String) : Option String :=
  let all := headers.flatMap fun h => pairs h.toList
  (all.reverse.find? fun (n, _) => n == name.toList).map fun (_, v) =>
    String.ofList (readValue v)

/-- The session token of a request; an empty one is none. -/
def token? (headers : List String) : Option String :=
  (find? sessionName headers).filter (· ≠ "")

def attributes (p : Policy) (seconds : Int) : String :=
  "; HttpOnly; Max-Age=" ++ toString seconds ++ "; Path=/; SameSite=" ++ p.sameSite ++
    (if p.secure then "; Secure" else "")

/-- The header that sets the session cookie. -/
def setHeader (p : Policy) (token : String) : String :=
  sessionName ++ "=" ++ String.ofList (writeValue token.toList) ++ attributes p p.seconds

/-- The header that clears the session cookie at an instant in seconds. -/
def clearHeader (p : Policy) (now : Int) : String :=
  sessionName ++ "=\"\"; expires=" ++ Calendar.text now ++ attributes p 0

/-- Whether a header can be sent: all its characters are octets. -/
def isSendable (header : String) : Bool :=
  header.toList.all (·.toNat < 0x100)

end SignIn.Http.Cookie
