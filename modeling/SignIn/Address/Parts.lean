import SignIn.Address.Authority

/-!
# The parts of a URL

A URL taken apart: a scheme before a colon, an authority after two slashes, a path, a query after a
question mark and a fragment after a number sign. Tabs and line ends are passed over wherever they
stand, and so are control characters and blanks at the start.
-/

namespace SignIn.Address

/-- The parts of a URL; those that are not there are empty. -/
structure Parts where
  scheme : List Char
  authority : List Char
  path : List Char
  query : List Char
  fragment : List Char
  deriving DecidableEq, Repr

namespace Parts

/-- A character that is passed over wherever it stands. -/
def isIgnored (c : Char) : Bool :=
  c == '\t' || c == '\r' || c == '\n'

/-- A character that may stand in a scheme. -/
def isSchemeChar (c : Char) : Bool :=
  c.isAlphanum || c == '+' || c == '-' || c == '.'

/-- The scheme in lower case and what follows its colon; an empty scheme if there is none. -/
def cutScheme (cs : List Char) : List Char × List Char :=
  let scheme := cs.takeWhile isSchemeChar
  match cs.drop scheme.length with
  | ':' :: rest =>
    if (scheme.head?.map Char.isAlpha).getD false then (scheme.map Char.toLower, rest) else ([], cs)
  | _ => ([], cs)

/-- What stands before a character and what follows it; nothing follows if it is not there. -/
def cutAt (c : Char) (cs : List Char) : List Char × List Char :=
  (cs.takeWhile (· ≠ c), Authority.afterFirst c cs)

/-- The parts of a URL; none if the authority is not accepted. -/
def read? (cs : List Char) : Option Parts :=
  let cs := (cs.dropWhile (·.toNat ≤ 0x20)).filter (!isIgnored ·)
  let (scheme, rest) := cutScheme cs
  let (authority, rest) : List Char × List Char := match rest with
    | '/' :: '/' :: rest =>
      let authority := rest.takeWhile fun c => c != '/' && c != '?' && c != '#'
      (authority, rest.drop authority.length)
    | rest => ([], rest)
  if Authority.isSound authority then
    let (rest, fragment) := cutAt '#' rest
    let (path, query) := cutAt '?' rest
    some ⟨scheme, authority, path, query, fragment⟩
  else none

end Parts

end SignIn.Address
