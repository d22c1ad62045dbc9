import SignIn.Text.Hex
import SignIn.Text.Utf8

/-!
# Percent-encoding

Octets that may not stand in a URL, written as a percent sign and two hexadecimal digits, and the
text that such escapes stand for.
-/

namespace SignIn.Text.Percent

/-- A character of the unreserved set of RFC 3986. -/
def isUnreserved (c : Char) : Bool :=
  c.isAlphanum || c == '.' || c == '_' || c == '-' || c == '~'

/-- The escape of an octet, in upper case. -/
def escape (b : UInt8) : List Char :=
  '%' :: (toHex 2 b.toNat).map Char.toUpper

def escapeChar (c : Char) : List Char :=
  (Utf8.encode [c]).flatMap escape

/-- A character that may stand in a URL, the percent sign apart. -/
def isUrlChar (c : Char) : Bool :=
  isUnreserved c || "!#$&'()*+,/:;=?@[]".toList.contains c

/-- A URL with every character that may not stand in it escaped; percent signs are left alone. -/
def encodeUrl (cs : List Char) : List Char :=
  cs.flatMap fun c => if isUrlChar c || c == '%' then [c] else escapeChar c

/-- The octets of a text with its escapes undone; a percent sign that begins none is left alone. -/
def octets : List Char → List UInt8
  | '%' :: a :: b :: rest =>
    match ofHex? [a, b] with
    | some n => UInt8.ofNat n :: octets rest
    | none => Utf8.encode ['%'] ++ octets (a :: b :: rest)
  | c :: rest => Utf8.encode [c] ++ octets rest
  | [] => []

/-- A text with its escapes undone, those that stand for no text replaced. -/
def unescape (cs : List Char) : List Char :=
  Utf8.lossy (octets cs)

end SignIn.Text.Percent
