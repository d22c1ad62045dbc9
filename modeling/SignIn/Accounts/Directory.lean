import SignIn.Credential.User
import SignIn.Keyed

/-!
# Directories

The account store in memory: at most one user per address, never changed once added.
-/

namespace SignIn

structure Directory where
  users : Keyed Email User
  deriving DecidableEq

namespace Directory

def empty : Directory := ⟨[]⟩

def find? (d : Directory) (e : Email) : Option User :=
  Keyed.find? e d.users

/-- The directory with one more user, unless the address is taken. -/
def add? (d : Directory) (u : User) : Option Directory :=
  match d.find? u.email with
  | some _ => none
  | none => some ⟨Keyed.put u.email u d.users⟩

/-- Adding a user makes that user, and no other, findable. -/
theorem find?_add? {d d' : Directory} {u : User} (h : d.add? u = some d') (e : Email) :
    d'.find? e = if u.email = e then some u else d.find? e := by
  unfold add? at h
  split at h
  · cases h
  · cases h
    exact Keyed.find?_put ..

end Directory

end SignIn
