/-!
# UTF-8

Code points as one to four octets. The decoder reads one code point at a time and accepts the
shortest form only; whether the surrogate range is accepted is the caller's choice, because one
reader of this project lets surrogates pass. Decoding what was encoded gives it back. A lossy
reading puts a replacement character in place of octets that are no text, one for each longest
beginning of a code point.
-/

namespace SignIn.Text.Utf8

def encodeCode (n : Nat) : List UInt8 :=
  if n < 0x80 then [UInt8.ofNat n]
  else if n < 0x800 then [UInt8.ofNat (0xC0 + n / 0x40), UInt8.ofNat (0x80 + n % 0x40)]
  else if n < 0x10000 then
    [UInt8.ofNat (0xE0 + n / 0x1000), UInt8.ofNat (0x80 + n / 0x40 % 0x40),
      UInt8.ofNat (0x80 + n % 0x40)]
  else
    [UInt8.ofNat (0xF0 + n / 0x40000), UInt8.ofNat (0x80 + n / 0x1000 % 0x40),
      UInt8.ofNat (0x80 + n / 0x40 % 0x40), UInt8.ofNat (0x80 + n % 0x40)]

def encode (cs : List Char) : List UInt8 :=
  cs.flatMap fun c => encodeCode c.toNat

def size (cs : List Char) : Nat :=
  (encode cs).length

/-- The six payload bits of a continuation octet. -/
def tail? (b : UInt8) : Option Nat :=
  if 0x80 ≤ b.toNat ∧ b.toNat < 0xC0 then some (b.toNat - 0x80) else none

/-- The first code point of a sequence of octets, surrogates included, and the octets after it. -/
def next? : List UInt8 → Option (Nat × List UInt8)
  | [] => none
  | a :: rest =>
    let n := a.toNat
    if n < 0x80 then some (n, rest)
    else if n < 0xC2 then none
    else if n < 0xE0 then
      match rest with
      | b :: rest => do
        let b ← tail? b
        return ((n - 0xC0) * 0x40 + b, rest)
      | _ => none
    else if n < 0xF0 then
      match rest with
      | b :: c :: rest => do
        let b ← tail? b
        let c ← tail? c
        let code := (n - 0xE0) * 0x1000 + b * 0x40 + c
        if code < 0x800 then none else return (code, rest)
      | _ => none
    else if n < 0xF5 then
      match rest with
      | b :: c :: d :: rest => do
        let b ← tail? b
        let c ← tail? c
        let d ← tail? d
        let code := (n - 0xF0) * 0x40000 + b * 0x1000 + c * 0x40 + d
        if code < 0x10000 ∨ 0x110000 ≤ code then none else return (code, rest)
      | _ => none
    else none

/-- The code points of a sequence of octets; `fuel` bounds their number. -/
def codes? : Nat → List UInt8 → Option (List Nat)
  | _, [] => some []
  | 0, _ => none
  | fuel + 1, bs => do
    let (n, rest) ← next? bs
    return n :: (← codes? fuel rest)

/-- Whether a number is the code point of a character. -/
def isScalar (n : Nat) : Bool :=
  n < 0xD800 || (0xE000 ≤ n && n < 0x110000)

/-- The text of a sequence of octets, if it is well-formed. -/
def decode? (bs : List UInt8) : Option (List Char) := do
  let ns ← codes? bs.length bs
  if ns.all isScalar then return ns.map Char.ofNat else none

/-! ## Lossy reading -/

def replacement : Char := Char.ofNat 0xFFFD

/-- How many octets follow the first one of a code point. -/
def tailLength (first : Nat) : Nat :=
  if first < 0xC2 then 0
  else if first < 0xE0 then 1
  else if first < 0xF0 then 2
  else if first < 0xF5 then 3
  else 0

/-- Whether an octet may follow the first one of a code point. -/
def isSecond (first second : Nat) : Bool :=
  let low := if first = 0xE0 then 0xA0 else if first = 0xF0 then 0x90 else 0x80
  let high := if first = 0xED then 0xA0 else if first = 0xF4 then 0x90 else 0xC0
  low ≤ second && second < high

/-- How many octets are replaced together where the first one begins no code point. -/
def malformedLength (first : UInt8) : List UInt8 → Nat
  | [] => 1
  | second :: rest =>
    let expected := tailLength first.toNat
    if expected = 0 || !isSecond first.toNat second.toNat then 1
    else 2 + ((rest.take (expected - 1)).takeWhile fun b => (tail? b).isSome).length

/-- The text of a sequence of octets, what is malformed replaced; `fuel` bounds the characters. -/
def lossyFrom : Nat → List UInt8 → List Char
  | 0, _ => []
  | _, [] => []
  | fuel + 1, b :: bs =>
    match next? (b :: bs) with
    | some (n, rest) =>
      if isScalar n then Char.ofNat n :: lossyFrom fuel rest
      else replacement :: lossyFrom fuel bs
    | none => replacement :: lossyFrom fuel ((b :: bs).drop (malformedLength b bs))

/-- The text of a sequence of octets, what is malformed replaced. -/
def lossy (bs : List UInt8) : List Char :=
  lossyFrom bs.length bs

end SignIn.Text.Utf8
