import SignIn.Challenges.Payload
import SignIn.World

/-!
# Challenge calls

Issuing, consuming, peeking at and taking the challenge of an address, in memory or on the
key-value server. The server keeps a challenge as text, so comparing texts compares challenges; a
text that is no challenge counts as the store being unavailable.
-/

namespace SignIn.Challenges

/-- The part of the service that writes these log lines. -/
def source : String := "authservice.stores.redis"

/-- The key of an address's challenge on the server. -/
def key (e : Email) : String := "two_fa_code:" ++ e.text

/-- A command about an address's challenge; its failure is logged after the given words. -/
def command (words : String) (e : Email) (c : Command) : Call Keyspace := do
  match ← (World.command c).run with
  | .ok k => return k
  | .error f =>
    World.log .error source (words ++ " for " ++ e.redacted ++ ": " ++ f.text)
    throw (.challenge .unavailable (some f.cause))

/-- Issues a challenge, which replaces the address's last one. -/
def issue (e : Email) (c : Challenge) : Call Unit := do
  let w ← get
  match w.challenges with
  | .book b =>
    if (Seconds.whole b.seconds).fits then
      set { w with challenges := .book (b.issue w.uptime e c) }
    else throw .overflow
  | .keyspace seconds =>
    let _ ← command "Failed to store 2FA challenge" e (.put (key e) c.payload seconds)

def consume (e : Email) : Call Unit := do
  let w ← get
  match w.challenges with
  | .book b => set { w with challenges := .book (b.consume e) }
  | .keyspace _ =>
    let _ ← command "Failed to delete 2FA challenge" e (.remove (key e))

/-- Why a text is no challenge; none for a text that is nested too deeply, which is a defect. -/
def payloadCause : Challenge.PayloadFault → Option Cause
  | .notJson => some .notJson
  | .digits => some .longNumber
  | .noParts => some .noParts
  | .partCount => some .partCount
  | .flaw _ => some .flaw
  | .depth => none

def peek (e : Email) : Call Challenge := do
  let w ← get
  match w.challenges with
  | .book b =>
    let (found, b) := b.peek w.uptime e
    set { w with challenges := .book b }
    match found with
    | some c => return c
    | none => throw (.challenge .noChallenge)
  | .keyspace _ =>
    let k ← command "Failed to read 2FA challenge" e (.read (key e))
    match k.find? w.uptime (key e) with
    | none => throw (.challenge .noChallenge)
    | some text =>
      match Challenge.ofPayload text with
      | .ok c => return c
      | .error f =>
        match payloadCause f with
        | none => throw .tooDeep
        | some cause =>
          World.log .error source ("Corrupt 2FA challenge stored for " ++ e.redacted)
          throw (.challenge .unavailable (some cause))

/-- Takes the address's challenge if it is the given one; tells whether it was. -/
def take (e : Email) (c : Challenge) : Call Bool := do
  let w ← get
  match w.challenges with
  | .book b =>
    let (taken, b) := b.take w.uptime e c
    set { w with challenges := .book b }
    return taken
  | .keyspace _ =>
    let k ← command "Failed to redeem 2FA challenge" e (.removeIf (key e) c.payload)
    return k.find? w.uptime (key e) == some c.payload

def close (w : World) : World :=
  match w.challenges with
  | .book _ => w
  | .keyspace _ => { w with keyspace := { w.keyspace with closes := w.keyspace.closes + 1 } }

end SignIn.Challenges
