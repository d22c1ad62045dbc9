import SignIn.Text.Digit
import SignIn.Text.Hex
import SignIn.Text.Split

/-!
# Numeric addresses

The texts of numeric network addresses: four decimal numbers with points between them, or eight
groups of hexadecimal digits with colons between them, of which a run of zero groups may be left out
and the last two may be written as a short address. A long address may name a zone after a percent
sign.
-/

namespace SignIn.Address

/-- Whether a text is a number of a short address: up to 255, without zeros in front. -/
def isByte (cs : List Char) : Bool :=
  !cs.isEmpty && cs.length ≤ 3 && cs.all Char.isDigit &&
    (cs.length == 1 || cs.head? != some '0') &&
    Text.ofDecimalDigits (cs.filterMap Text.asciiDecimal?) ≤ 255

def isShort (cs : List Char) : Bool :=
  let parts := Text.splitOn '.' cs
  parts.length == 4 && parts.all isByte

/-- Whether a text is a group of a long address. -/
def isGroup (cs : List Char) : Bool :=
  !cs.isEmpty && cs.length ≤ 4 && cs.all fun c => (Text.hexValue? c).isSome

/-- The parts between the colons of a long address, a short address at the end as two groups; none
if that one is malformed. -/
def groups? (cs : List Char) : Option (List (List Char)) :=
  let parts := Text.splitOn ':' cs
  let last := parts.getLast?.getD []
  if last.contains '.' then
    if 3 ≤ parts.length && isShort last then some (parts.dropLast ++ [['0'], ['0']]) else none
  else some parts

/-- Whether the parts on one side of an omission are groups; where nothing stands on that side there
is one empty part. -/
def isSide (parts : List (List Char)) : Bool :=
  parts == [[]] || parts.all isGroup

/-- How many groups stand on one side of an omission. -/
def sideLength (parts : List (List Char)) : Nat :=
  if parts = [[]] then 0 else parts.length

/-- Whether parts are the groups of a long address. An empty part that is neither the first nor the
last one stands for the groups that are left out. -/
def areGroups (parts : List (List Char)) : Bool :=
  let inner := (parts.drop 1).dropLast
  if inner.any List.isEmpty then
    let front := parts.take (1 + (inner.takeWhile (!·.isEmpty)).length)
    let back := parts.drop (front.length + 1)
    isSide front && isSide back && sideLength front + sideLength back ≤ 7
  else parts.length == 8 && parts.all isGroup

/-- Whether what follows the address is a zone: nothing, or a percent sign and a text without
another one. -/
def isZone : List Char → Bool
  | [] => true
  | _ :: zone => !zone.isEmpty && !zone.contains '%'

/-- Whether a text is a long address, perhaps with a zone. -/
def isLong (cs : List Char) : Bool :=
  let address := cs.takeWhile (· ≠ '%')
  isZone (cs.drop address.length) && !cs.contains '/' &&
    match groups? address with
    | some parts => 3 ≤ parts.length && areGroups parts
    | none => false

/-- Whether a text is an address of a kind yet to come: the letter `v`, hexadecimal digits, a point
and something more. -/
def isFuture (cs : List Char) : Bool :=
  let version := (cs.drop 1).takeWhile fun c => (Text.hexValue? c).isSome
  let rest := cs.drop (1 + version.length)
  cs.head? == some 'v' && !version.isEmpty && rest.head? == some '.' && 1 < rest.length

end SignIn.Address
