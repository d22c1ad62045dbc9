/-!
# Punycode

The ASCII form of a host label (RFC 3492): its ASCII characters, a hyphen, and the other code
points in ascending order, each as a distance in variable-length base 36 whose digit thresholds
adapt to the distances seen so far.
-/

namespace SignIn.Address.Punycode

def digit (n : Nat) : Char :=
  if n < 26 then Char.ofNat ('a'.toNat + n) else Char.ofNat ('0'.toNat + (n - 26))

def threshold (k bias : Nat) : Nat :=
  min 26 (max 1 (k - bias))

/-- The bias for the next distance; `fuel` bounds the halvings. -/
def adapt (delta points : Nat) (first : Bool) : Nat :=
  let delta := if first then delta / 700 else delta / 2
  let rec shrink : Nat → Nat → Nat → Nat
    | 0, k, delta => k + 36 * delta / (delta + 38)
    | fuel + 1, k, delta =>
      if 455 < delta then shrink fuel (k + 36) (delta / 35) else k + 36 * delta / (delta + 38)
  shrink 64 0 (delta + delta / points)

/-- A distance in base 36; `fuel` bounds the digits. -/
def distance (bias : Nat) : Nat → Nat → Nat → List Char
  | 0, _, _ => []
  | fuel + 1, k, q =>
    let t := threshold k bias
    if q < t then [digit q]
    else digit (t + (q - t) % (36 - t)) :: distance bias fuel (k + 36) ((q - t) / (36 - t))

/-- Where an encoder stands: the distance so far, the bias, and how many code points it has
written. -/
structure Progress where
  delta : Nat
  bias : Nat
  written : Nat
  text : List Char

/-- Passes once over the label and writes every occurrence of the code point `n`. -/
def pass (basic n : Nat) (label : List Nat) (p : Progress) : Progress :=
  label.foldl (fun p c =>
    if c < n then { p with delta := p.delta + 1 }
    else if c = n then
      { delta := 0
        bias := adapt p.delta (p.written + 1) (p.written == basic)
        written := p.written + 1
        text := p.text ++ distance p.bias 64 36 p.delta }
    else p) p

/-- Writes the code points from `n` on, the least of the remaining ones first. -/
def encodeFrom (basic : Nat) (label : List Nat) : Nat → Nat → Progress → List Char
  | 0, _, p => p.text
  | fuel + 1, n, p =>
    match (label.filter (n ≤ ·)).min? with
    | none => p.text
    | some m =>
      let p := { p with delta := p.delta + (m - n) * (p.written + 1) }
      let p := pass basic m label p
      encodeFrom basic label fuel (m + 1) { p with delta := p.delta + 1 }

def encode (label : List Char) : List Char :=
  let basic := label.filter (·.toNat < 0x80)
  let start := if basic.isEmpty then [] else basic ++ ['-']
  let ns := label.map Char.toNat
  encodeFrom basic.length ns (ns.length + 1) 0x80 ⟨0, 72, basic.length, start⟩

end SignIn.Address.Punycode
