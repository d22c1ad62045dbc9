import SignIn.CommandLine

/-!
# The program

Reads the command line and says what the service is started with.
-/

namespace SignIn

/-- What a server is started with, in words. -/
def CommandLine.Arguments.describe (a : CommandLine.Arguments) : String :=
  CommandLine.application ++ " on " ++ a.host.getD "no host" ++ ", " ++
    (a.port.map fun n => "port " ++ toString n).getD "no port" ++
    (if a.reload then ", restarting on changes" else "")

end SignIn

open SignIn in
/-- Reads the command line; the status is 2 if it is not accepted. -/
def main (words : List String) : IO UInt32 := do
  match CommandLine.read words with
  | .ok (.run a) =>
    IO.println a.describe
    return 0
  | .ok .help =>
    IO.print CommandLine.helpText
    return 0
  | .error f =>
    IO.eprint CommandLine.usage
    IO.eprintln (CommandLine.errorLine f)
    return 2
