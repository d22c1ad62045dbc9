import SignIn.Number.Binary64
import SignIn.Number.Numeral

/-!
# Numbers in text

The reading of a number in decimal or scientific notation, or as one of the words for infinity and
for no number. The liberal reading lets white space stand around it, takes the decimal digits of any
script, and passes over single underscores between digits.
-/

namespace SignIn.Decimal

/-- The words for the numbers without digits. -/
def specialNumber? (negative : Bool) (cs : List Char) : Option Binary64 :=
  let lower := cs.map Char.toLower
  if lower = "nan".toList then some .nan
  else if lower = "inf".toList ∨ lower = "infinity".toList then some (.infinite negative)
  else none

/-- The exponent after the digits of a number. -/
def exponent? : List Char → Option Int
  | [] => some 0
  | c :: rest =>
    if c = 'e' ∨ c = 'E' then
      let (negative, ds) := Numeral.sign rest
      if ds.isEmpty || !ds.all Char.isDigit then none
      else some (Numeral.signed negative (Text.ofDecimalDigits (ds.filterMap Text.asciiDecimal?)))
    else none

/-- The number of a text that holds nothing else. -/
def read? (cs : List Char) : Option Binary64 :=
  let (negative, rest) := Numeral.sign cs
  match specialNumber? negative rest with
  | some x => some x
  | none =>
    let whole := rest.takeWhile Char.isDigit
    let (fraction, after) : List Char × List Char := match rest.drop whole.length with
      | '.' :: more => (more.takeWhile Char.isDigit, more.dropWhile Char.isDigit)
      | more => ([], more)
    if whole.isEmpty && fraction.isEmpty then none
    else
      (exponent? after).map fun e =>
        .ofDecimal negative
          (Text.ofDecimalDigits ((whole ++ fraction).filterMap Text.asciiDecimal?))
          (e - fraction.length)

/-- A text with the decimal digits of any script as those of ASCII. -/
def withAsciiDigits (cs : List Char) : List Char :=
  cs.map fun c => ((Text.decimal? c).map Text.digitChar).getD c

/-- A text without underscores, each of which must stand between two digits; `before` is the
character in front of the text. -/
def withoutSeparators? (before : Char) : List Char → Option (List Char)
  | [] => some []
  | '_' :: c :: rest =>
    if before.isDigit && c.isDigit then (withoutSeparators? c rest).map (c :: ·) else none
  | '_' :: [] => none
  | c :: rest => (withoutSeparators? c rest).map (c :: ·)

/-- The number of a text in the liberal reading. -/
def readFree? (cs : List Char) : Option Binary64 :=
  (withoutSeparators? ' ' (withAsciiDigits (Text.trim Text.isWhite cs))).bind read?

end SignIn.Decimal
