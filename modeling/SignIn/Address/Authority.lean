import SignIn.Address.Ip
import SignIn.Number.Numeral
import SignIn.Text.Case

/-!
# Authorities

The part of a URL that says where: perhaps a user and a password before an `@`, then a host, which
may be a numeric address in brackets, and perhaps a port after a colon.
-/

namespace SignIn.Address.Authority

/-- What stands before the last `@` of an authority, if there is one, and what follows it. -/
def cutUser (cs : List Char) : Option (List Char) × List Char :=
  if cs.contains '@' then
    let place := (cs.reverse.takeWhile (· ≠ '@')).reverse
    (some (cs.take (cs.length - place.length - 1)), place)
  else (none, cs)

def user? (cs : List Char) : Option (List Char × Option (List Char)) :=
  (cutUser cs).1.map fun user =>
    let name := user.takeWhile (· ≠ ':')
    (name, if name.length < user.length then some (user.drop (name.length + 1)) else none)

/-- What follows the first occurrence of a character; nothing if there is none. -/
def afterFirst (c : Char) (cs : List Char) : List Char :=
  (cs.dropWhile (· ≠ c)).drop 1

/-- The host and the port as they are written, without the brackets of a numeric address. -/
def hostAndPort (cs : List Char) : List Char × List Char :=
  let place := (cutUser cs).2
  if place.contains '[' then
    let inner := afterFirst '[' place
    (inner.takeWhile (· ≠ ']'), afterFirst ':' (afterFirst ']' inner))
  else (place.takeWhile (· ≠ ':'), afterFirst ':' place)

/-- The host in lower case, a zone apart. -/
def host (cs : List Char) : List Char :=
  let host := (hostAndPort cs).1
  let front := host.takeWhile (· ≠ '%')
  Text.lower front ++ host.drop front.length

/-- The port, if one is written; none at all if it is no number up to 65535. -/
def port? (cs : List Char) : Option (Option Nat) :=
  let port := (hostAndPort cs).2
  if port.isEmpty then some none
  else if port.all Char.isDigit && port.length ≤ Numeral.digitLimit then
    let n := Text.ofDecimalDigits (port.filterMap Text.asciiDecimal?)
    if n ≤ 65535 then some (some n) else none
  else none

/-- Whether what is taken for the inside of brackets is a numeric address. -/
def isBracketed (host : List Char) : Bool :=
  if host.head? = some 'v' then isFuture host else isLong host

/-- Whether brackets come in a pair that holds a numeric address and nothing but a port follows.
Brackets in the user's part alone ask for a numeric address, too. -/
def hasSoundBrackets (cs : List Char) : Bool :=
  if cs.contains '[' && cs.contains ']' then
    let place := (cutUser cs).2
    let rest := afterFirst ']' place
    let closed := !place.contains '[' ||
      (place.head? == some '[' && (rest.isEmpty || rest.head? == some ':'))
    closed && isBracketed (hostAndPort cs).1
  else !cs.contains '[' && !cs.contains ']'

/-- The characters beyond ASCII whose compatibility form holds a delimiter of URLs: a slash, a
question mark, a number sign, an `@` or a colon. -/
def hiddenDelimiters : List Nat :=
  [0x2047, 0x2048, 0x2049, 0x2100, 0x2101, 0x2105, 0x2106, 0x2A74, 0xFE13, 0xFE16, 0xFE55, 0xFE56,
    0xFE5F, 0xFE6B, 0xFF03, 0xFF0F, 0xFF1A, 0xFF1F, 0xFF20]

def isSound (cs : List Char) : Bool :=
  hasSoundBrackets cs && !cs.any fun c => hiddenDelimiters.contains c.toNat

end SignIn.Address.Authority
