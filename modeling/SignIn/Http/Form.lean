import SignIn.Credential.User
import SignIn.Json.Coerce

/-!
# Forms

The shapes of request and response bodies: objects with named fields, each a text or a truth value.
A field may be sent under several names, of which the first that is there counts; a body that does
not fit is refused with the names of the fields that are missing or of the wrong kind, in the order
of the form. Whether a text is a good address or code is not a matter of form.
-/

namespace SignIn.Http

inductive FieldKind
  | text
  | truth
  deriving DecidableEq, Repr

inductive FieldValue
  | text (t : SentText)
  | truth (b : Bool)
  deriving DecidableEq, Repr

/-- A field: its own name, the names under which it may be sent, the one under which it is written,
what it holds, what it holds if it is not sent, and whether it is left out when the form is
displayed. -/
structure FieldRule where
  name : String
  sentAs : List String
  writtenAs : String
  kind : FieldKind
  fallback : Option FieldValue
  hidden : Bool

structure Form where
  name : String
  fields : List FieldRule

/-- What is wrong with a field, or with the body as a whole. -/
inductive FormFault
  | missing (place : String)
  | noText (place : String)
  | noTruth (place : String)
  | unreadableTruth (place : String)
  | noObject (form : String)
  deriving DecidableEq, Repr

namespace FormFault

/-- The name of the field, if it is one that is wrong. -/
def place? : FormFault → Option String
  | missing p | noText p | noTruth p | unreadableTruth p => some p
  | noObject _ => none

def kind : FormFault → String
  | missing _ => "missing"
  | noText _ => "string_type"
  | noTruth _ => "bool_type"
  | unreadableTruth _ => "bool_parsing"
  | noObject _ => "model_type"

def message : FormFault → String
  | missing _ => "Field required"
  | noText _ => "Input should be a valid string"
  | noTruth _ => "Input should be a valid boolean"
  | unreadableTruth _ => "Input should be a valid boolean, unable to interpret input"
  | noObject form => "Input should be a valid dictionary or instance of " ++ form

end FormFault

namespace FieldValue

def toJson : FieldValue → Json
  | text t => .sent t
  | truth b => .bool b

def display : FieldValue → String
  | text t => String.ofList t.quotedChars
  | truth b => User.truthWord b

end FieldValue

namespace FieldRule

def text (name : String) : FieldRule := ⟨name, [name], name, .text, none, false⟩

def secret (name : String) : FieldRule := { text name with hidden := true }

/-- The value of a field from what was sent under the given name. -/
def accept (r : FieldRule) (place : String) (v : Json) : Except FormFault FieldValue :=
  match r.kind with
  | .text =>
    match v with
    | .str s => .ok (.text s)
    | .torn t => .ok (.text (.torn t))
    | _ => .error (.noText place)
  | .truth =>
    match v.truth with
    | .ok b => .ok (.truth b)
    | .error .kind => .error (.noTruth place)
    | .error .unreadable => .error (.unreadableTruth place)

/-- The first of the names that is there, with what was sent under it. -/
def sent? (r : FieldRule) (ms : List (String × Json)) : Option (String × Json) :=
  r.sentAs.findSome? fun n => (Keyed.find? n ms).map (n, ·)

def read (r : FieldRule) (ms : List (String × Json)) : Except FormFault FieldValue :=
  match r.sent? ms with
  | some (place, v) => r.accept place v
  | none =>
    match r.fallback with
    | some v => .ok v
    | none => .error (.missing (r.sentAs.headD r.name))

end FieldRule

/-- The values of a form's fields, in the order of the form. -/
abbrev Filled := List (FieldRule × FieldValue)

namespace Filled

def byName (f : Filled) : Json :=
  .obj (f.map fun (r, v) => (r.name, v.toJson))

/-- The values under the names by which the fields are written. -/
def asWritten (f : Filled) : Json :=
  .obj (f.map fun (r, v) => (r.writtenAs, v.toJson))

def display (form : Form) (f : Filled) : String :=
  let shown := (f.filter fun (r, _) => !r.hidden).map fun (r, v) => r.name ++ "=" ++ v.display
  form.name ++ "(" ++ ", ".intercalate shown ++ ")"

/-- The text of a field as it was sent. -/
def sentOf (f : Filled) (name : String) : SentText :=
  (f.findSome? fun (r, v) => match v with
    | .text t => if r.name = name then some t else none
    | .truth _ => none).getD ""

/-- The characters of a field, what is no character replaced. -/
def textOf (f : Filled) (name : String) : String :=
  (f.sentOf name).characters

def truthOf (f : Filled) (name : String) : Bool :=
  (f.findSome? fun (r, v) => match v with
    | .truth b => if r.name = name then some b else none
    | .text _ => none).getD false

end Filled

namespace Form

/-- The values of the fields in an object, or all that is wrong with them. -/
def readFields : List FieldRule → List (String × Json) → Except (List FormFault) Filled
  | [], _ => .ok []
  | r :: rs, ms =>
    match r.read ms, readFields rs ms with
    | .ok v, .ok rest => .ok ((r, v) :: rest)
    | .ok _, .error fs => .error fs
    | .error f, .ok _ => .error [f]
    | .error f, .error fs => .error (f :: fs)

/-- The values of a form's fields, or all that is wrong with the body. -/
def read (form : Form) (body : Json) : Except (List FormFault) Filled :=
  match body with
  | .obj ms => readFields form.fields ms
  | _ => .error [.noObject form.name]

def signUp : Form :=
  ⟨"SignupRequest", [.text "email", .secret "password",
    ⟨"requires_2fa", ["requires2FA", "requires_2fa"], "requires2FA", .truth, none, false⟩]⟩

def signIn : Form :=
  ⟨"LoginRequest", [.text "email", .secret "password"]⟩

/-- The body of a request to verify the second factor. -/
def verify : Form :=
  ⟨"Verify2FARequest", [.text "email",
    ⟨"login_attempt_id", ["loginAttemptId", "login_attempt_id"], "loginAttemptId", .text, none,
      false⟩,
    ⟨"two_fa_code", ["2FACode", "two_fa_code"], "2FACode", .text, none, true⟩]⟩

def checkToken : Form :=
  ⟨"VerifyTokenRequest", [.text "token"]⟩

def message : Form :=
  ⟨"MessageResponse", [.text "message"]⟩

/-- The body of a sign-in that needs its second factor. -/
def needsCode : Form :=
  ⟨"TwoFactorAuthResponse",
    [⟨"message", ["message"], "message", .text, some (.text "2FA required"), false⟩,
      ⟨"login_attempt_id", ["login_attempt_id"], "loginAttemptId", .text, none, false⟩]⟩

def error : Form :=
  ⟨"ErrorResponse", [.text "error"]⟩

def health : Form :=
  ⟨"HealthResponse",
    [⟨"status", ["status"], "status", .text, some (.text "healthy"), false⟩, .text "version"]⟩

def all : List Form :=
  [signUp, signIn, verify, checkToken, message, needsCode, error, health]

end Form

end SignIn.Http
