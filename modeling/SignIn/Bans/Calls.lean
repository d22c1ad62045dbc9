import SignIn.World

/-!
# Ban calls

Banning a token for a length of time and asking whether it is banned, in memory or on the key-value
server. A ban lasts at least a second. The server keeps whole seconds.
-/

namespace SignIn.Bans

/-- The part of the service that writes these log lines. -/
def source : String := "authservice.stores.redis"

/-- The key of a token's ban on the server. -/
def key (token : String) : String := "banned_token:" ++ token

/-- A command about bans; its failure is logged after the given words. -/
def command (words : String) (c : Command) : Call Keyspace := do
  match ← (World.command c).run with
  | .ok k => return k
  | .error f =>
    World.log .error source (words ++ ": " ++ f.text)
    throw (.ban (some f.cause))

def revoke (token : String) (length : Seconds) : Call Unit := do
  let w ← get
  match w.bans with
  | .register r =>
    if length.atLeastOne.fits then
      set { w with bans := .register (r.revoke w.uptime token length) }
    else throw .overflow
  | .keyspace =>
    match length.truncate? with
    | some seconds =>
      let _ ← command "Failed to store revoked token" (.put (key token) "1" (max 1 seconds))
    | none => throw .overflow

def contains (token : String) : Call Bool := do
  let w ← get
  match w.bans with
  | .register r =>
    let (banned, r) := r.contains w.uptime token
    set { w with bans := .register r }
    return banned
  | .keyspace =>
    let k ← command "Failed to query revoked tokens" (.probe (key token))
    return (k.find? w.uptime (key token)).isSome

def close (w : World) : World :=
  match w.bans with
  | .register _ => w
  | .keyspace => { w with keyspace := { w.keyspace with closes := w.keyspace.closes + 1 } }

end SignIn.Bans
