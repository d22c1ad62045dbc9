import SignIn.Credential.Email
import SignIn.Credential.Password

/-!
# Users

A registered account. It is made on signing up and never changed.
-/

namespace SignIn

structure User where
  email : Email
  password : Password
  /-- Whether signing in takes a one-time code as well. -/
  secondFactor : Bool
  deriving DecidableEq

namespace User

/-- The words for the two truth values in displayed values and log lines. -/
def truthWord (b : Bool) : String :=
  if b then "True" else "False"

/-- A user as a displayed value: without the password. -/
def display (u : User) : String :=
  "User(email=" ++ u.email.display ++ ", requires_2fa=" ++ truthWord u.secondFactor ++ ")"

end User

end SignIn
