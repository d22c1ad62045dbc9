import SignIn.Text.Hex
import SignIn.Text.Printable

/-!
# Quoted literals

A text in quotes, as it stands in log lines and in the display of values: unprintable characters,
the backslash and the delimiter are escaped. The delimiter is the single quote unless the text
holds one and no double quote.
-/

namespace SignIn.Text

def delimiter (cs : List Char) : Char :=
  if '\'' ∈ cs ∧ '"' ∉ cs then '"' else '\''

/-- The escape of a code point by two, four or eight hexadecimal digits, whichever suffices. -/
def escapeCode (n : Nat) : List Char :=
  if n < 0x100 then '\\' :: 'x' :: toHex 2 n
  else if n < 0x10000 then '\\' :: 'u' :: toHex 4 n
  else '\\' :: 'U' :: toHex 8 n

/-- A character inside a literal with the given delimiter. -/
def quotedChar (quote c : Char) : List Char :=
  if c = quote ∨ c = '\\' then ['\\', c]
  else if c = '\n' then ['\\', 'n']
  else if c = '\r' then ['\\', 'r']
  else if c = '\t' then ['\\', 't']
  else if isPrintable c then [c]
  else escapeCode c.toNat

def quotedChars (cs : List Char) : List Char :=
  let quote := delimiter cs
  quote :: cs.flatMap (quotedChar quote) ++ [quote]

def quoted (s : String) : String :=
  String.ofList (quotedChars s.toList)

end SignIn.Text
