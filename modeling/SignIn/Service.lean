import SignIn.Accounts.Calls
import SignIn.Challenges.Calls
import SignIn.Mail.Calls
import SignIn.Refusal
import SignIn.Session

/-!
# The service

The five things that a caller can ask for: signing up, signing in, verifying the second factor,
signing out, and checking a token. Fields are read first, in the order in which they are declared;
then the collaborators are called one after the other, and each of their faults is either turned
into a refusal or escapes. Nothing is undone when a later step fails.
-/

namespace SignIn

abbrev Op (α : Type) := ExceptT Failure (StateM World) α

/-- What signing in gives: a session, or a challenge to be met. -/
inductive SignedIn
  | session (token : String)
  | challenge (attempt : AttemptId)
  deriving DecidableEq

namespace Service

/-- The part of the service that writes these log lines. -/
def source : String := "authservice.auth"

def codeSubject : String := "2FA code"

def refuse {α : Type} (kind : RefusalKind) (because : Option Fault := none) : Op α :=
  throw (.refused (.of kind because))

def escape {α : Type} (f : Fault) : Op α :=
  throw (.escaped f)

def field {α : Type} (r : Except Flaw α) : Op α :=
  match r with
  | .ok v => return v
  | .error flaw => throw (.refused (.ofFlaw flaw))

/-- Calls a collaborator and looks at how the call ended. -/
def attempt {α : Type} (call : Call α) : Op (Except Fault α) := fun w =>
  let (r, w) := call.run w
  (.ok r, w)

/-- Calls a collaborator none of whose faults is turned into a refusal. -/
def orEscape {α : Type} (call : Call α) : Op α := do
  match ← attempt call with
  | .ok v => return v
  | .error f => escape f

def log (text : String) : Op Unit :=
  World.log .info source text

/-- What a fault of the account store means where any of them is unexpected. -/
def unexpectedAccount {α : Type} (f : Fault) : Op α :=
  match f.kind with
  | .account _ => refuse .unexpected (some f)
  | _ => escape f

def unexpectedChallenge {α : Type} (f : Fault) : Op α :=
  match f.kind with
  | .challenge _ => refuse .unexpected (some f)
  | _ => escape f

def unexpectedBan {α : Type} (f : Fault) : Op α :=
  match f.kind with
  | .ban => refuse .unexpected (some f)
  | _ => escape f

/-! ## Signing up -/

def requireFree (e : Email) : Op Unit := do
  match ← attempt (World.guarded .lookUp (Accounts.lookUp e)) with
  | .ok _ => refuse .alreadyRegistered
  | .error f =>
    match f.kind with
    | .account .unknown => return ()
    | _ => unexpectedAccount f

/-- Adds a user; somebody else may have taken the address meanwhile. -/
def register (u : User) : Op Unit := do
  match ← attempt (World.guarded .add (Accounts.add u)) with
  | .ok () => return ()
  | .error f =>
    match f.kind with
    | .account .taken => refuse .alreadyRegistered (some f)
    | _ => unexpectedAccount f

def signUp (email : Field) (password : SecretField) (secondFactor : Bool) : Op User := do
  let e ← field (Email.read email)
  let p ← field (Password.read password)
  let u : User := ⟨e, p, secondFactor⟩
  requireFree e
  register u
  log ("User created: " ++ e.redacted ++ " (2fa=" ++ User.truthWord secondFactor ++ ")")
  return u

/-! ## Signing in -/

/-- The user of an address whose password is the given one. -/
def authenticated (e : Email) (p : Password) : Call User := do
  World.guarded .check (Accounts.check e p)
  World.guarded .lookUp (Accounts.lookUp e)

def credentialsOf (e : Email) (p : Password) : Op User := do
  match ← attempt (authenticated e p) with
  | .ok u => return u
  | .error f =>
    match f.kind with
    | .account .unavailable => refuse .unexpected (some f)
    | .account _ =>
      log ("Login rejected for " ++ e.redacted)
      refuse .wrongCredentials (some f)
    | _ => escape f

def codeMessage (e : Email) (c : OneTimeCode) : Message :=
  ⟨e, codeSubject, "Your 2FA code is " ++ c.text⟩

/-- Sets a challenge and mails its code. If the message is lost the challenge stays all the same. -/
def challenge (e : Email) : Op AttemptId := do
  let id : AttemptId := ⟨← World.drawId⟩
  let code : OneTimeCode := ⟨← World.drawCode⟩
  match ← attempt (World.guarded .issue (Challenges.issue e ⟨id, code⟩)) with
  | .ok () => pure ()
  | .error f => unexpectedChallenge f
  match ← attempt (World.guarded .send (Mailer.send (codeMessage e code))) with
  | .ok () => pure ()
  | .error f =>
    match f.kind with
    | .mail => refuse .unexpected (some f)
    | _ => escape f
  log ("2FA challenge issued for " ++ e.redacted)
  return id

def signIn (a : Authority) (email : Field) (password : SecretField) : Op SignedIn := do
  let e ← field (Email.read email)
  let p ← field (Password.read password)
  let u ← credentialsOf e p
  if u.secondFactor then return .challenge (← challenge u.email)
  else
    log ("Login succeeded for " ++ e.redacted)
    return .session (← orEscape (a.issue u.email))

/-! ## Verifying the second factor -/

/-- Meets a challenge: a session for the pair that was set last and is still live. -/
def verify (a : Authority) (email attemptId code : Field) : Op String := do
  let e ← field (Email.read email)
  let id ← field (AttemptId.read attemptId)
  let c ← field (OneTimeCode.read code)
  match ← attempt (World.guarded .take (Challenges.take e ⟨id, c⟩)) with
  | .error f => unexpectedChallenge f
  | .ok false =>
    log ("2FA verification failed for " ++ e.redacted)
    refuse .wrongCredentials
  | .ok true =>
    log ("2FA verification succeeded for " ++ e.redacted)
    orEscape (a.issue e)

/-! ## Tokens -/

/-- The address that a live session belongs to. -/
def checkToken (a : Authority) (token : String) : Op Email := do
  match ← attempt (a.validate token) with
  | .ok e => return e
  | .error f =>
    match f.kind with
    | .token _ => refuse .invalidToken (some f)
    | _ => unexpectedBan f

/-- Signs out; no token and the empty one are the same. -/
def signOut (a : Authority) (token : Option String) : Op Unit := do
  match token.filter (· ≠ "") with
  | none => refuse .missingToken
  | some token =>
    let e ← checkToken a token
    match ← attempt (a.revoke token) with
    | .ok () => pure ()
    | .error f => unexpectedBan f
    log ("Logout for " ++ e.redacted)

def close (w : World) : World :=
  let w := Challenges.close (Bans.close { w with accounts := w.accounts.close })
  { w with mailer := w.mailer.close }

end Service

end SignIn
