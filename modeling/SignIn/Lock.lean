/-!
# The readers-writer lock

The lock that guards the stores in memory. Many readers may hold it at once, a writer holds it
alone, and a waiting writer keeps new readers out. The lock has three counters and one condition on
which every blocked thread waits; a thread that is woken checks again and, if it still may not
enter, waits again. `settle` lets every woken thread check until none is left.
-/

namespace SignIn

/-- How a thread wants to hold the lock. -/
inductive LockMode
  | read
  | write
  deriving DecidableEq, Repr

/-- Where a thread stands. -/
inductive Standing
  | holding
  | blocked
  | woken
  deriving DecidableEq, Repr

/-- A thread that has asked for the lock. -/
structure Thread where
  name : String
  mode : LockMode
  standing : Standing
  deriving DecidableEq, Repr

/-- The lock: its counters, and the threads that hold it or wait for it. -/
structure Lock where
  readers : Nat
  writer : Bool
  writersWaiting : Nat
  threads : List Thread
  deriving DecidableEq, Repr

namespace Lock

/-- A lock that nobody has asked for. -/
def free : Lock := ⟨0, false, 0, []⟩

def admits (l : Lock) : LockMode → Bool
  | .read => !l.writer && l.writersWaiting == 0
  | .write => !l.writer && l.readers == 0

/-- The counters after a thread has entered. -/
def countEntry (l : Lock) : LockMode → Lock
  | .read => { l with readers := l.readers + 1 }
  | .write => { l with writer := true, writersWaiting := l.writersWaiting - 1 }

/-- The lock with a thread standing elsewhere. -/
def place (l : Lock) (name : String) (standing : Standing) : Lock :=
  { l with threads := l.threads.map fun t =>
      if t.name = name then { t with standing := standing } else t }

/-- Lets a thread check whether it may enter; if not, it waits. -/
def check (l : Lock) (name : String) (mode : LockMode) : Lock :=
  if l.admits mode then (l.countEntry mode).place name .holding else l.place name .blocked

/-- A thread asks for the lock; a writer counts as waiting before it checks. -/
def request (l : Lock) (name : String) (mode : LockMode) : Lock :=
  let l := { l with threads := l.threads ++ [(⟨name, mode, .woken⟩ : Thread)] }
  match mode with
  | .read => l.check name .read
  | .write => { l with writersWaiting := l.writersWaiting + 1 }.check name .write

def wakeAll (l : Lock) : Lock :=
  { l with threads := l.threads.map fun t =>
      if t.standing = .blocked then { t with standing := .woken } else t }

def thread? (l : Lock) (name : String) : Option Thread :=
  l.threads.find? fun t => t.name = name

/-- A holder leaves, whether normally or by an exception; the last reader and a writer wake all. -/
def leave (l : Lock) (name : String) : Lock :=
  match l.thread? name with
  | some ⟨_, mode, .holding⟩ =>
    let l := { l with threads := l.threads.filter fun t => t.name ≠ name }
    match mode with
    | .read =>
      let l := { l with readers := l.readers - 1 }
      if l.readers = 0 then l.wakeAll else l
    | .write => { l with writer := false }.wakeAll
  | _ => l

def recheck (l : Lock) (name : String) : Lock :=
  match l.thread? name with
  | some ⟨_, mode, .woken⟩ => l.check name mode
  | _ => l

def settle (l : Lock) : Lock :=
  (l.threads.filter fun t => t.standing = .woken).foldl (fun l t => l.recheck t.name) l

/-- The names of the threads that stand somewhere. -/
def namesOf (l : Lock) (standing : Standing) : List String :=
  (l.threads.filter fun t => t.standing = standing).map (·.name)

end Lock

end SignIn
