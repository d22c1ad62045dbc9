import SignIn.Text.Utf8

/-!
# Base64

Octets as text over the URL-safe alphabet, without padding, and the lenient reading of such text.
The reader takes the standard alphabet too, skips every other character, ignores bits left over in
the last digit, and stops at the padding that completes a group; only a group that is left open at
the end makes it fail. Reading what was written gives it back.
-/

namespace SignIn.Base64

/-- The URL-safe digit of a six-bit value. -/
def digit (n : Nat) : Char :=
  if n < 26 then Char.ofNat ('A'.toNat + n)
  else if n < 52 then Char.ofNat ('a'.toNat + (n - 26))
  else if n < 62 then Char.ofNat ('0'.toNat + (n - 52))
  else if n = 62 then '-'
  else '_'

def value? (c : Char) : Option Nat :=
  if 'A' ≤ c ∧ c ≤ 'Z' then some (c.toNat - 'A'.toNat)
  else if 'a' ≤ c ∧ c ≤ 'z' then some (c.toNat - 'a'.toNat + 26)
  else if '0' ≤ c ∧ c ≤ '9' then some (c.toNat - '0'.toNat + 52)
  else if c = '-' ∨ c = '+' then some 62
  else if c = '_' ∨ c = '/' then some 63
  else none

def encode : List UInt8 → List Char
  | [] => []
  | [a] => [digit (a.toNat / 4), digit (a.toNat % 4 * 16)]
  | [a, b] =>
    [digit (a.toNat / 4), digit (a.toNat % 4 * 16 + b.toNat / 16), digit (b.toNat % 16 * 4)]
  | a :: b :: c :: rest =>
    digit (a.toNat / 4) :: digit (a.toNat % 4 * 16 + b.toNat / 16) ::
      digit (b.toNat % 16 * 4 + c.toNat / 64) :: digit (c.toNat % 64) :: encode rest

/-- Where a reader stands in a group of four digits: how many it has read, the bits it has not yet
written, and how many padding characters it has seen since the last digit. -/
structure Group where
  digits : Nat
  bits : Nat
  pads : Nat
  deriving DecidableEq, Repr

namespace Group

def fresh : Group := ⟨0, 0, 0⟩

/-- Takes one digit: the octet it completes, if any, and the group after it. -/
def take (g : Group) (v : Nat) : Option UInt8 × Group :=
  match g.digits with
  | 0 => (none, ⟨1, v, 0⟩)
  | 1 => (some (UInt8.ofNat (g.bits * 4 + v / 16)), ⟨2, v % 16, 0⟩)
  | 2 => (some (UInt8.ofNat (g.bits * 16 + v / 4)), ⟨3, v % 4, 0⟩)
  | _ => (some (UInt8.ofNat (g.bits * 64 + v)), fresh)

/-- Whether one more padding character completes the group. -/
def closes (g : Group) : Bool :=
  2 ≤ g.digits && 4 ≤ g.digits + (g.pads + 1)

/-- Takes one padding character that does not complete the group. -/
def pad (g : Group) : Group :=
  if 2 ≤ g.digits then { g with pads := g.pads + 1 } else g

end Group

/-- The octets of a text from a given place in a group on. -/
def decodeFrom : Group → List Char → Option (List UInt8)
  | g, [] => if g.digits = 0 then some [] else none
  | g, c :: rest =>
    if c = '=' then
      if g.closes then some [] else decodeFrom g.pad rest
    else
      match value? c with
      | none => decodeFrom g rest
      | some v =>
        match g.take v with
        | (none, g) => decodeFrom g rest
        | (some b, g) => (decodeFrom g rest).map (b :: ·)

/-- How many padding characters complete a text of the given number of octets. -/
def padding (size : Nat) : Nat :=
  if size % 4 = 0 then 0 else 4 - size % 4

/-- The octets of a text, which is first padded to a multiple of four octets. -/
def decode? (cs : List Char) : Option (List UInt8) :=
  decodeFrom .fresh (cs ++ List.replicate (padding (Text.Utf8.size cs)) '=')

end SignIn.Base64
