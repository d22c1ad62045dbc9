import SignIn.Text.Quoted

/-!
# Faults

What a collaborator of the service fails with: the account, ban and challenge stores, the token
check, the mailer, or something foreign to all of them. A fault has a kind, perhaps a note, and
perhaps a cause that lies beneath it. The name of a kind stands in log lines, a cause never does.
-/

namespace SignIn

inductive AccountFault
  | general
  | taken
  | unknown
  | mismatch
  | unavailable
  deriving DecidableEq, Repr

inductive ChallengeFault
  | general
  | noChallenge
  | unavailable
  deriving DecidableEq, Repr

inductive TokenFault
  | general
  | expired
  | malformed
  | revoked
  deriving DecidableEq, Repr

inductive RequestFault
  | noScheme
  /-- The address has no host, or one that cannot be. -/
  | badAddress
  /-- The address has a scheme for which there is no way to send. -/
  | otherScheme
  /-- The token cannot be a header's value. -/
  | badHeader
  | badStatus
  | redirected
  /-- There is no answer; what went wrong has a name. -/
  | lost (name : String)
  deriving DecidableEq, Repr

inductive Cause
  /-- A text that fails the rule of its kind. -/
  | flaw
  | missingTable
  /-- A text that cannot be bound to a statement. -/
  | tornText
  | duplicateRow
  /-- A text that is no token, or whose seal does not hold. -/
  | notAToken
  | badClaim
  | pastEnd
  | notJson
  | longNumber
  | noParts
  | partCount
  | badLifetime
  | request (f : RequestFault)
  /-- What a server reports, by its name. -/
  | reported (name : String)
  deriving DecidableEq, Repr

/-- What goes wrong beyond the collaborators' own faults. -/
inductive Defect
  /-- A number that is too large for the arithmetic it meets. -/
  | overflow
  | wrongType
  | undated
  /-- An instant that is in no year of the calendar. -/
  | beyondCalendar
  | tooDeep
  | unfitSecret
  | unfitKey
  | keyWithoutText
  | undecodableKey
  /-- A character that is no octet where octets are sent. -/
  | wideCharacter
  /-- A text without octets where octets are needed, since it is torn. -/
  | tornText
  | malformedText
  /-- An address of a mail provider that is none. -/
  | providerAddress
  /-- An address of a database that is none. -/
  | databaseAddress
  /-- A kind of database that there is not. -/
  | databaseKind
  /-- A kind of database to which there is no connector. -/
  | databaseConnector
  /-- A part of a database's address that has no readable value. -/
  | databaseValue
  | databaseFile
  /-- An address of a key-value server that is none. -/
  | serverAddress
  /-- A protocol of a key-value server that does not know caches. -/
  | protocolWithoutCache
  /-- Settings of a key-value server that should be more than a text. -/
  | badServerSettings
  /-- What a collaborator reports, by its name. -/
  | reported (name : String)
  deriving DecidableEq, Repr

inductive FaultKind
  | flaw
  | account (f : AccountFault)
  | ban
  | challenge (f : ChallengeFault)
  | token (f : TokenFault)
  | mail
  | foreign (d : Defect)
  deriving DecidableEq, Repr

/-- A fault with its note and its cause. -/
structure Fault where
  kind : FaultKind
  note : Option String := none
  cause : Option Cause := none
  deriving DecidableEq, Repr

namespace AccountFault

def name : AccountFault → String
  | general => "UserStoreError"
  | taken => "UserAlreadyExists"
  | unknown => "UserNotFound"
  | mismatch => "InvalidCredentials"
  | unavailable => "UserStoreUnexpectedError"

def all : List AccountFault := [general, taken, unknown, mismatch, unavailable]

end AccountFault

namespace ChallengeFault

def name : ChallengeFault → String
  | general => "TwoFACodeStoreError"
  | noChallenge => "LoginAttemptIdNotFound"
  | unavailable => "TwoFACodeStoreUnexpectedError"

def all : List ChallengeFault := [general, noChallenge, unavailable]

end ChallengeFault

namespace TokenFault

def name : TokenFault → String
  | general => "TokenError"
  | expired => "TokenExpired"
  | malformed => "BadSignature"
  | revoked => "TokenRevoked"

def all : List TokenFault := [general, expired, malformed, revoked]

end TokenFault

namespace FaultKind

/-- The name of a kind; all that is foreign has one. -/
def name : FaultKind → String
  | flaw => "ValidationError"
  | account f => f.name
  | ban => "BannedTokenStoreError"
  | challenge f => f.name
  | token f => f.name
  | mail => "EmailSendError"
  | foreign _ => "Defect"

def named : List FaultKind :=
  flaw :: ban :: mail :: AccountFault.all.map account ++ ChallengeFault.all.map challenge ++
    TokenFault.all.map token

/-- The kind of a name; a name that none of the kinds has is that of something foreign. -/
def ofName (name : String) : FaultKind :=
  (named.find? fun k => k.name == name).getD (foreign (.reported name))

def isForeign : FaultKind → Bool
  | foreign _ => true
  | _ => false

end FaultKind

namespace Fault

def account (f : AccountFault) (cause : Option Cause := none) : Fault := ⟨.account f, none, cause⟩

def ban (cause : Option Cause := none) : Fault := ⟨.ban, none, cause⟩

def challenge (f : ChallengeFault) (cause : Option Cause := none) : Fault :=
  ⟨.challenge f, none, cause⟩

def token (f : TokenFault) (cause : Option Cause := none) : Fault := ⟨.token f, none, cause⟩

def foreign (d : Defect) : Fault := ⟨.foreign d, none, none⟩

/-- A number that is too large for the arithmetic it meets. -/
def overflow : Fault := foreign .overflow

def wrongType : Fault := foreign .wrongType

def tooDeep : Fault := foreign .tooDeep

def tornText : Fault := foreign .tornText

def message (f : Fault) : String := f.note.getD ""

def display (f : Fault) : String :=
  f.kind.name ++ "(" ++ (f.note.map Text.quoted).getD "" ++ ")"

end Fault

end SignIn
