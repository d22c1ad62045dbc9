import SignIn.Bans.Calls
import SignIn.Token.Claims
import SignIn.Token.Envelope
import SignIn.Token.Key

/-!
# Sessions

A session is nothing but a token: a text that says who signed in and until when, sealed with a
secret. Opening a token checks the seal and the claims without asking any store; only a token that
opens is looked up among the bans. Ending a session bans its token for as long as it would still
open.
-/

namespace SignIn

open Token

/-- What mints and checks tokens: the secret, and how many seconds a session lasts. -/
structure Authority where
  secret : String
  seconds : Int

namespace Authority

def claims (e : Email) (expiry : Int) (id : BitVec 128) : Claims.Members :=
  [("sub", .str e.text), ("exp", .int expiry),
    ("jti", .str (String.ofList (Text.toHex 32 id.toNat)))]

def mint (a : Authority) (ms : Claims.Members) : Except Fault String := do
  let signed := signedText ms
  let signature ← Key.sign a.secret (Text.Utf8.encode signed)
  return assemble signed signature

def issue (a : Authority) (e : Email) : Call String := do
  let now ← dated (← get).wallSeconds
  let expiry := now + a.seconds
  if hasDate expiry then
    let id ← World.drawId
    match a.mint (claims e expiry id) with
    | .ok token => return token
    | .error f => throw f
  else throw .overflow

/-- A text that is no token of this service. -/
def notAToken : Fault := .token .malformed (some .notAToken)

def envelopeFault : EnvelopeFault → Fault
  | .malformed => notAToken
  | .tooDeep => .tooDeep

def sealedClaims (a : Authority) (token : String) : Except Fault Claims.Members := do
  let v ← (Envelope.ofText token).mapError envelopeFault
  if (Keyed.find? "alg" v.header).bind Json.text? = some algorithm then
    if ← Key.verifies a.secret (Text.Utf8.encode v.signed) v.signature then
      (objectOf v.payload).mapError envelopeFault
    else throw notAToken
  else throw notAToken

/-- The address that a token names at an instant in seconds, if its seal and its claims hold. -/
def openAt (a : Authority) (now : Int) (token : String) : Except Fault Email := do
  let ms ← a.sealedClaims token
  Claims.checkAll now ms
  Claims.subject ms

/-- The address that a live session belongs to. -/
def validate (a : Authority) (token : String) : Call Email := do
  match a.openAt (← get).wallSeconds token with
  | .error f => throw f
  | .ok e =>
    if ← World.guarded .isBanned (Bans.contains token) then throw (.token .revoked)
    else return e

/-- How many seconds a token is still good for, its seal unchecked; the whole length of a session
if the token does not tell. -/
def remainingAt (a : Authority) (now : Int) (token : String) : Except Fault Int :=
  match Envelope.ofText token with
  | .error _ => .ok a.seconds
  | .ok v =>
    match objectOf v.payload with
    | .error .malformed => .ok a.seconds
    | .error .tooDeep => .error .tooDeep
    | .ok ms =>
      match Keyed.find? "exp" ms with
      | none => .ok a.seconds
      | some x =>
        match integerOf x with
        | .ok expiry => .ok (max 0 (expiry - now))
        | .error .infinite => .error .overflow
        | .error _ => .ok a.seconds

def remaining (a : Authority) (token : String) : Call Int := do
  match a.remainingAt (← get).wallSeconds token with
  | .ok n => return n
  | .error f => throw f

/-- Ends a session: bans its token until it would have ended by itself. -/
def revoke (a : Authority) (token : String) : Call Unit := do
  let seconds ← a.remaining token
  World.guarded .revoke (Bans.revoke token (.whole seconds))

end Authority

end SignIn
