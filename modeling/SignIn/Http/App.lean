import SignIn.Http.Cookie
import SignIn.Http.Form
import SignIn.Http.Origins
import SignIn.Json.Reader
import SignIn.Service
import SignIn.Text.Encoding
import SignIn.Text.Percent

/-!
# The service over HTTP

Five routes for the five operations, and one for a health report. A request whose body does not fit
its form is answered without touching the service; a refusal is answered with its own status and
message; a fault that escapes is answered as an unexpected error and let through. Every response
but that one is marked for pages of other origins and noted in the journal.
-/

namespace SignIn.Http

/-- What the service needs to answer requests. -/
structure Site where
  authority : Authority
  cookies : Cookie.Policy
  origins : List String

inductive Route
  | signUp
  | signIn
  | verify
  | signOut
  | checkToken
  | health
  deriving DecidableEq, Repr

namespace Route

def all : List Route := [signUp, signIn, verify, signOut, checkToken, health]

def path : Route → String
  | signUp => "/signup"
  | signIn => "/login"
  | verify => "/verify-2fa"
  | signOut => "/logout"
  | checkToken => "/verify-token"
  | health => "/health"

def method : Route → String
  | health => "GET"
  | _ => "POST"

/-- The route of a path, which may end in a line feed. -/
def ofPath? (path : String) : Option Route :=
  all.find? fun r => r.path == path || r.path ++ "\n" == path

/-- A path with a slash at its end if it has none, and without those it has. -/
def otherSlash (path : String) : String :=
  let cs := path.toList
  if cs.getLast? = some '/' then String.ofList (Text.trimEnd (· == '/') cs) else path ++ "/"

end Route

namespace App

/-- The part of the service that writes these log lines. -/
def source : String := "authservice.api"

def version : String := "0.1.0"

def baseUrl : String := "https://testserver"

def client : String := "testclient"

/-! ## Bodies -/

/-- Whether a content type is that of a JSON document. -/
def isJson (contentType : String) : Bool :=
  let essence := contentType.toList.takeWhile (· ≠ ';')
  let essence := (Text.trim Text.isBlank essence).map Char.toLower
  match Text.splitOn '/' essence with
  | [kind, sub] => kind == "application".toList &&
      (sub == "json".toList || "+json".toList.isSuffixOf sub)
  | _ => false

/-- The response to a body that does not fit. -/
def unprocessable (places : List String) : Response :=
  .failure 422 ("Unprocessable request: " ++ ", ".intercalate places)

/-- The response to a body that is no readable text. -/
def unreadable : Response :=
  .detail 400 "There was an error parsing the body"

/-- How deeply arrays and objects may be nested in a body. More calls are under way when one is read
than when another text is. -/
def bodyNesting : Nat := Json.callLimit - 35

/-- The JSON value of a body; a body of another type counts as no value. -/
def bodyValue (r : Request) : Except Response Json :=
  if r.body.isEmpty || !isJson ((r.header? "content-type").getD "") then .ok .null
  else
    match Text.ofDocument? r.body with
    | none => .error unreadable
    | some cs =>
      match Json.readWithin .asSent bodyNesting cs with
      | .ok v => .ok v
      | .error (.grammar left) => .error (unprocessable [toString (cs.length - left)])
      | .error _ => .error unreadable

def filled (form : Form) (r : Request) : Except Response Filled := do
  let v ← bodyValue r
  (form.read v).mapError fun fs => unprocessable (fs.map fun f => f.place?.getD "body")

/-! ## Operations -/

/-- How a request ends: with a response, or with a fault that is let through. -/
abbrev Answer := StateM World (Except Fault Response)

def answer {α : Type} (r : Request) (op : Op α) (success : α → World → Response) : Answer := do
  match ← op.run with
  | .ok v => return .ok (success v (← get))
  | .error (.escaped f) => return .error f
  | .error (.refused refusal) =>
    if refusal.kind = .unexpected then
      World.log .error source
        ("Unexpected error on " ++ r.method ++ " " ++ r.shownPath ++ ": " ++
          (refusal.because.map Fault.display).getD "None")
    return .ok (.failure refusal.kind.status refusal.message)

/-- Answers a request with a form, if it fits. -/
def answerForm (form : Form) (r : Request) (next : Filled → Answer) : Answer :=
  match filled form r with
  | .error response => return .ok response
  | .ok f => next f

def success (status : Nat) (message : String) : Response :=
  .json status (.obj [("message", .str message)])

def opened (site : Site) (token : String) : Response :=
  (success 200 "Login successful").withCookie (Cookie.setHeader site.cookies token)

def signedIn (site : Site) : SignedIn → Response
  | .session token => opened site token
  | .challenge attempt =>
    (Response.json 206 (.obj [("message", .str "2FA required"),
      ("loginAttemptId", .str attempt.text)])).withHeader "cache-control" "no-store"

def onRoute (site : Site) (r : Request) : Route → Answer
  | .signUp => answerForm .signUp r fun f =>
    answer r (Service.signUp (some (f.textOf "email")) (some (f.sentOf "password"))
      (f.truthOf "requires_2fa")) fun _ _ => success 201 "User created successfully!"
  | .signIn => answerForm .signIn r fun f =>
    answer r (Service.signIn site.authority (some (f.textOf "email"))
      (some (f.sentOf "password"))) fun s _ => signedIn site s
  | .verify => answerForm .verify r fun f =>
    answer r (Service.verify site.authority (some (f.textOf "email"))
      (some (f.textOf "login_attempt_id")) (some (f.textOf "two_fa_code")))
      fun token _ => opened site token
  | .signOut =>
    answer r (Service.signOut site.authority (Cookie.token? r.cookies)) fun _ w =>
      (success 200 "Logged out.").withCookie (Cookie.clearHeader site.cookies w.wallSeconds)
  | .checkToken => answerForm .checkToken r fun f =>
    answer r (Service.checkToken site.authority (f.textOf "token")) fun _ _ =>
      success 200 "Token is valid."
  | .health =>
    return .ok (.json 200 (.obj [("status", .str "healthy"), ("version", .str version)]))

/-! ## Requests -/

/-- The response that sends a request to the same path with or without its last slash. -/
def redirect (r : Request) (path : String) : Response :=
  let query := if r.query == "?" then "" else r.query
  let location := Text.Percent.encodeUrl (baseUrl ++ path ++ query).toList
  ⟨307, [("location", String.ofList location)], [], .empty, none⟩

def dispatch (site : Site) (r : Request) : Answer :=
  match Route.ofPath? r.path with
  | some route =>
    if r.method = route.method then onRoute site r route
    else return .ok ((Response.detail 405 "Method Not Allowed").withHeader "allow" route.method)
  | none =>
    let other := Route.otherSlash r.path
    if r.path ≠ "/" ∧ (Route.ofPath? other).isSome then return .ok (redirect r other)
    else return .ok (.detail 404 "Not Found")

/-- Answers a request, pages of other origins included. -/
def respond (site : Site) (r : Request) : Answer := do
  if Origins.isQuestion r then return .ok (Origins.answer site.origins r)
  else return (← dispatch site r).map (Origins.mark site.origins r)

/-- Answers a request and notes it in the journal. -/
def handle (site : Site) (r : Request) : StateM World Response := do
  match ← respond site r with
  | .ok response =>
    World.log .info source
      (r.method ++ " " ++ r.shownPath ++ " " ++ toString response.status ++ " 0.0ms " ++ client)
    return response
  | .error f =>
    World.log .error source ("Unhandled exception on " ++ r.method ++ " " ++ r.shownPath)
    return { Response.failure 500 RefusalKind.unexpected.message with letThrough := some f }

def starting : StateM World Unit :=
  World.log .info source "Auth service starting up"

def started (mailer : String) (site : Site) : StateM World Unit :=
  World.log .info source
    ("Auth initialized (email=" ++ mailer ++ ", token_ttl=" ++ toString site.authority.seconds ++
      "s)")

def stop : StateM World Unit := do
  modify Service.close
  World.log .info source "Auth service shutdown complete"

end App

end SignIn.Http
