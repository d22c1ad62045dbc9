import SignIn.Bytes.Base64
import SignIn.Digest.Hmac
import SignIn.Fault
import SignIn.Json.Reader
import SignIn.Text.Split

/-!
# Signing keys

A secret text signs with its own octets. When a signature is checked, a secret that is itself JSON
text stands for other keys: the items of an array, the values of an object, or what an object in
one of the two shapes of a key set says. A text that looks like an asymmetric key is refused on
both sides.
-/

namespace SignIn.Token.Key

def armourLabels : List String :=
  ["CERTIFICATE", "TRUSTED CERTIFICATE", "PRIVATE KEY", "PUBLIC KEY", "ENCRYPTED PRIVATE KEY",
    "OPENSSH PRIVATE KEY", "DSA PRIVATE KEY", "RSA PRIVATE KEY", "RSA PUBLIC KEY",
    "EC PRIVATE KEY", "DH PARAMETERS", "NEW CERTIFICATE REQUEST", "CERTIFICATE REQUEST",
    "SSH2 PUBLIC KEY", "SSH2 ENCRYPTED PRIVATE KEY", "X509 CRL"]

/-- The formats of public keys of the secure shell. -/
def shellFormats : List String :=
  ["ssh-ed25519", "ssh-rsa", "ssh-dss", "ecdsa-sha2-nistp256", "ecdsa-sha2-nistp384",
    "ecdsa-sha2-nistp521"]

/-- What follows a prefix of a text, if it has that prefix. -/
def after? : List Char → List Char → Option (List Char)
  | [], cs => some cs
  | p :: ps, c :: cs => if p = c then after? ps cs else none
  | _ :: _, [] => none

/-- A hyphen or a space, and what follows it. -/
def afterDash? : List Char → Option (List Char)
  | c :: cs => if c = '-' ∨ c = ' ' then some cs else none
  | [] => none

def startsWithArmour (cs : List Char) : Bool :=
  match after? "----".toList cs >>= afterDash? >>= after? "BEGIN ".toList with
  | none => false
  | some cs => armourLabels.any fun label =>
    (after? label.toList cs >>= afterDash? >>= after? "----".toList).isSome

def hasArmour : List Char → Bool
  | [] => false
  | c :: cs => startsWithArmour (c :: cs) || hasArmour cs

def isAsciiBlank (c : Char) : Bool :=
  c == ' ' || (0x09 ≤ c.toNat && c.toNat ≤ 0x0D)

/-- Whether the name of a public key's format stands anywhere in a text. -/
def namesShellFormat (cs : List Char) : Bool :=
  shellFormats.any fun f => Text.within f.toList cs

/-- Whether a text begins like a certificate of the secure shell. -/
def startsLikeCertificate (cs : List Char) : Bool :=
  let word := cs.takeWhile (!isAsciiBlank ·)
  let rest := cs.drop word.length
  let more := rest.dropWhile fun c => c == ' ' || c == '\t'
  "-cert-v01@openssh.com".toList.isSuffixOf word && more.length < rest.length &&
    (more.head?.map (!isAsciiBlank ·)).getD false

/-- Whether a text is taken for a public key or a certificate of the secure shell. -/
def isShellKey (cs : List Char) : Bool :=
  namesShellFormat cs || startsLikeCertificate cs

/-- Whether a text cannot be a secret. -/
def isRefused (s : String) : Bool :=
  hasArmour s.toList || isShellKey s.toList

def octets (s : String) : List UInt8 :=
  Text.Utf8.encode s.toList

/-- A key that cannot be used for checking a signature. -/
def unusable : Fault := .foreign .unfitKey

/-- The values that a secret stands for when a signature is checked. -/
def candidates (secret : String) : Except Fault (List Json) :=
  match Json.readWith .asTexts secret.toList with
  | .error _ => .ok [.str secret]
  | .ok (.arr vs) => .ok vs
  | .ok (.obj ms) =>
    match Keyed.find? "keys" ms with
    | some (.arr vs) => .ok vs
    | some (.str s) => .ok (s.toList.map fun c => .str (String.singleton c))
    | some (.obj ks) => .ok (ks.map fun k => .str k.1)
    | some _ => .error .wrongType
    | none =>
      if (Keyed.find? "kty" ms).isSome || ms.isEmpty then .ok [.obj ms]
      else .ok (ms.map (·.2))
  | .ok v => .ok [v]

/-- The octets of a key that a secret stands for. -/
def candidateOctets : Json → Except Fault (List UInt8)
  | .str s => if isRefused s then .error unusable else .ok (octets s)
  | .obj ms =>
    match Keyed.find? "kty" ms with
    | some (.str "oct") =>
      match Keyed.find? "k" ms with
      | some (.str k) =>
        match Base64.decode? k.toList with
        | some bs => .ok bs
        | none => .error (.foreign .undecodableKey)
      | _ => .error (.foreign .keyWithoutText)
    | _ => .error unusable
  | _ => .error unusable

/-- Whether one of the keys has made a signature; a key that cannot be used is a fault unless an
earlier one matches. -/
def anyMatches (message signature : List UInt8) : List Json → Except Fault Bool
  | [] => .ok false
  | v :: vs => do
    let key ← candidateOctets v
    if Hmac.sign key message = signature then return true else anyMatches message signature vs

def verifies (secret : String) (message signature : List UInt8) : Except Fault Bool := do
  anyMatches message signature (← candidates secret)

def sign (secret : String) (message : List UInt8) : Except Fault (List UInt8) :=
  if isRefused secret then .error (.foreign .unfitSecret)
  else .ok (Hmac.sign (octets secret) message)

end SignIn.Token.Key
