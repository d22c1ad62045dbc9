import SignIn.Address.Label
import SignIn.Fault
import SignIn.Text.Digit
import SignIn.Text.Percent
import SignIn.Text.Quoted

/-!
# Hosts of providers

The host and the port in the URL of a mail provider, as they are configured and as they are sent: a
numeric address in brackets keeps its zone, escapes of unreserved characters are undone, and the
labels of a name are put in lower case and in ASCII.
-/

namespace SignIn.Mail.Host

/-- Why a host cannot be used. -/
inductive Fault
  /-- A character that may not stand in a host. -/
  | badChar (place : List Char) (c : Char)
  /-- The escape of a character that may not stand in a host. -/
  | badEscape (place escape : List Char)
  /-- A place that is no host and port. -/
  | malformed (place : List Char)
  | largePort
  | badLabel (label : List Char)
  deriving DecidableEq, Repr

def isHex (c : Char) : Bool :=
  (Text.hexValue? c).isSome

/-! ## The grammar -/

/-- Whether a text is up to four hexadecimal digits. -/
def isGroup (cs : List Char) : Bool :=
  0 < cs.length && cs.length ≤ 4 && cs.all isHex

/-- Whether a text is four decimal numbers of up to three digits with points between them. -/
def isDottedQuad (cs : List Char) : Bool :=
  let nums := Text.splitOn '.' cs
  nums.length == 4 && nums.all fun n => 0 < n.length && n.length ≤ 3 && n.all Char.isDigit

/-- How many groups a list of parts between colons makes; none if one is malformed. -/
def groupCount? (ps : List (List Char)) : Option Nat :=
  if ps = [[]] then some 0
  else
    let quad := (ps.getLast?.map isDottedQuad).getD false
    let front := if quad then ps.dropLast else ps
    if front.all isGroup then some (front.length + if quad then 2 else 0) else none

/-- The parts before and after the first double colon. -/
def cutAtDouble : List Char → Option (List Char × List Char)
  | ':' :: ':' :: rest => some ([], rest)
  | c :: rest => (cutAtDouble rest).map fun (a, b) => (c :: a, b)
  | [] => none

/-- Whether a text is a numeric address of the longer kind. -/
def isColonAddress (cs : List Char) : Bool :=
  match cutAtDouble cs with
  | none => groupCount? (Text.splitOn ':' cs) == some 8
  | some (a, b) =>
    match groupCount? (Text.splitOn ':' a), groupCount? (Text.splitOn ':' b) with
    | some m, some n => m + n ≤ 7
    | _, _ => false

/-- Whether a text consists of unreserved characters and escapes. -/
def isZone : List Char → Bool
  | '%' :: a :: b :: rest => isHex a && isHex b && isZone rest
  | c :: rest => Text.Percent.isUnreserved c && isZone rest
  | [] => true

/-- Whether a host is a bracketed numeric address, perhaps with a zone. -/
def isBracketed (host : List Char) : Bool :=
  match host with
  | '[' :: rest =>
    rest.getLast? == some ']' &&
      let inner := rest.dropLast
      let address := inner.takeWhile (· != '%')
      let zone := inner.drop address.length
      isColonAddress address && (zone.isEmpty || (1 < zone.length && isZone (zone.drop 1)))
  | _ => false

/-- Whether a text may be the name of a host. -/
def isName : List Char → Bool
  | '%' :: a :: b :: rest => isHex a && isHex b && isName rest
  | c :: rest =>
    !(c == '[' || c == ']' || c == '%' || c == ':' || c == '/' || c == '?' || c == '#') &&
      isName rest
  | [] => true

/-- The number that digits after a colon stand for, leading zeros skipped; more than five others
are refused. -/
def port? (ds : List Char) : Option (Option Nat) :=
  if !ds.all Char.isDigit then none
  else
    let significant := ds.dropWhile (· == '0')
    if ds.isEmpty then some none
    else if 5 < significant.length then none
    else some (some (Text.ofDecimalDigits (significant.filterMap Text.asciiDecimal?)))

/-- A host and what follows the colon after it. -/
def cutPort? (cs : List Char) : Option (List Char × Option Nat) :=
  let (host, rest) : List Char × List Char :=
    if cs.head? = some '[' then
      let inner := cs.takeWhile (· != ']')
      (inner ++ (cs.drop inner.length).take 1, cs.drop (inner.length + 1))
    else (cs.takeWhile (· != ':'), cs.dropWhile (· != ':'))
  if !(isBracketed host || isName host) then none
  else
    match rest with
    | [] => some (host, none)
    | ':' :: ds => (port? ds).map (host, ·)
    | _ => none

/-- A control character or a blank of the ASCII range. -/
def isControl (c : Char) : Bool :=
  c.toNat ≤ 0x20 || c.toNat == 0x7F

/-- The first escape of a control character. -/
def controlEscape? : List Char → Option (List Char)
  | '%' :: a :: b :: rest =>
    if ((a = '0' ∨ a = '1') ∧ isHex b) ∨ (a = '7' ∧ (b = 'f' ∨ b = 'F')) then some ['%', a, b]
    else controlEscape? (a :: b :: rest)
  | _ :: rest => controlEscape? rest
  | [] => none

/-- The host and the port that are written in a URL. -/
def read (place : List Char) : Except Fault (List Char × Option Nat) :=
  match place.find? isControl with
  | some c => .error (.badChar place c)
  | none =>
    match controlEscape? place with
    | some escape => .error (.badEscape place escape)
    | none =>
      match cutPort? place with
      | none => .error (.malformed place)
      | some (host, port) => if port.any (65535 < ·) then .error .largePort else .ok (host, port)

/-! ## The form that is sent -/

def upperEscapes : List Char → List Char
  | '%' :: a :: b :: rest =>
    if isHex a && isHex b then '%' :: a.toUpper :: b.toUpper :: upperEscapes rest
    else '%' :: upperEscapes (a :: b :: rest)
  | c :: rest => c :: upperEscapes rest
  | [] => []

/-- A bracketed address in lower case; its zone keeps its letters and follows a bare percent
sign. -/
def normalAddress (host : List Char) : List Char :=
  let address := host.takeWhile (· ≠ '%')
  match host.drop address.length with
  | '%' :: '2' :: '5' :: c :: zone =>
    if c = ']' then address.map Char.toLower ++ '%' :: '2' :: '5' :: c :: zone
    else address.map Char.toLower ++ '%' :: upperEscapes (c :: zone)
  | zone => address.map Char.toLower ++ upperEscapes zone

/-- Whether a text is a number as the parts of a short address may be: decimal digits, or
hexadecimal ones after `0x`. -/
def isNumber (cs : List Char) : Bool :=
  match cs with
  | '0' :: x :: digits => ((x = 'x' ∨ x = 'X') && digits.all isHex) || cs.all Char.isDigit
  | _ => !cs.isEmpty && cs.all Char.isDigit

/-- Whether a host is a short address in any of its forms, of one to four numbers. -/
def isShortAddress (host : List Char) : Bool :=
  let parts := Text.splitOn '.' host
  parts.length ≤ 4 && parts.all isNumber

def unescapeUnreserved : List Char → List Char
  | '%' :: a :: b :: rest =>
    match Text.ofHex? [a, b] with
    | some n =>
      if n < 0x80 && Text.Percent.isUnreserved (Char.ofNat n) then
        Char.ofNat n :: unescapeUnreserved rest
      else '%' :: a :: b :: unescapeUnreserved rest
    | none => '%' :: unescapeUnreserved (a :: b :: rest)
  | c :: rest => c :: unescapeUnreserved rest
  | [] => []

/-- A label in lower case and ASCII; the rules are for labels beyond ASCII only. -/
def normalLabel (label : List Char) : Except Fault (List Char) :=
  if label.all (·.toNat < 0x80) then .ok (label.map Char.toLower)
  else
    match Address.Label.ascii? (Text.lower label) with
    | some ascii => .ok ascii
    | none => .error (.badLabel label)

def normal (host : List Char) : Except Fault (List Char) :=
  if host.head? = some '[' then .ok (normalAddress host)
  else if isShortAddress host then .ok host
  else
    ((Text.splitOn '.' (unescapeUnreserved host)).mapM normalLabel).map (Text.joinWith '.')

/-! ## Hosts of other schemes -/

/-- A character in its ordinary width: full-width characters of ASCII and the points of other
scripts are replaced. -/
def ordinaryWidth (c : Char) : Char :=
  let n := c.toNat
  if 0xFF01 ≤ n ∧ n ≤ 0xFF5E then Char.ofNat (n - 0xFEE0)
  else if n = 0x3002 ∨ n = 0xFF61 then '.'
  else c

/-- The characters that a name is read without. -/
def silent : Text.CodeSet :=
  .ofHex ["ad 34f 180b-180d 180f 200b 2060 2064 fe00-fe0f feff 1bca0-1bca3 e0100-e01ef"]

/-- The ASCII form of a whole name, if all of its labels keep the rules; a point may end it. -/
def asciiName? (host : List Char) : Option (List Char) :=
  let heard := host.filter (!silent.has ·)
  let labels := Text.splitOn '.' (Address.Composition.composed
    (Text.lower (heard.map ordinaryWidth)))
  let rooted := labels.getLast? == some []
  let inner := if rooted then labels.dropLast else labels
  if inner.isEmpty then none
  else
    (inner.mapM Address.Label.ascii?).map fun ls =>
      Text.joinWith '.' (ls ++ if rooted then [[]] else [])

end SignIn.Mail.Host
