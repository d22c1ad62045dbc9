import SignIn.Http.Message
import SignIn.Text.Blank
import SignIn.Text.Split

/-!
# Foreign origins

Which pages of other origins may use the service. A browser asks first what it may send; the answer
says so or names everything that is not allowed. Every other response tells whether the page that
asked may see it, and that it depends on the origin.
-/

namespace SignIn.Http.Origins

def methods : List String := ["GET", "POST"]

/-- The headers that pages may send, in lower case. -/
def headers : List String := ["accept", "accept-language", "content-language", "content-type"]

/-- Whether a request is a browser's question about another one. -/
def isQuestion (r : Request) : Bool :=
  r.method == "OPTIONS" && (r.header? "origin").isSome &&
    (r.header? "access-control-request-method").isSome

/-- Whether all headers of a list may be sent. -/
def headersAllowed (list : String) : Bool :=
  (Text.splitOn ',' list.toList).all fun h =>
    headers.contains (String.ofList (Text.trim Text.isBlank (h.map Char.toLower)))

/-- What a request in question may not do. -/
def objections (origins : List String) (r : Request) : List String :=
  let test := fun (name : String) (header : String) (allowed : String → Bool) =>
    match r.header? header with
    | some v => if allowed v then [] else [name]
    | none => []
  test "origin" "origin" origins.contains ++
    test "method" "access-control-request-method" methods.contains ++
    test "headers" "access-control-request-headers" headersAllowed ++
    test "private-network" "access-control-request-private-network" fun _ => false

/-- The header that names the origin if it is allowed. -/
def allowOrigin (origins : List String) (origin : String) : List (String × String) :=
  if origins.contains origin then [("access-control-allow-origin", origin)] else []

def answer (origins : List String) (r : Request) : Response :=
  let objections := objections origins r
  let plain :=
    if objections.isEmpty then Response.text 200 "OK"
    else Response.text 400 ("Disallowed CORS " ++ ", ".intercalate objections)
  { plain with headers := plain.headers ++
      [("access-control-allow-credentials", "true"),
        ("access-control-allow-headers",
          "Accept, Accept-Language, Content-Language, Content-Type"),
        ("access-control-allow-methods", ", ".intercalate methods),
        ("access-control-max-age", "3600"),
        ("vary", "Origin, Access-Control-Request-Method, Access-Control-Request-Headers, " ++
          "Access-Control-Request-Private-Network")] ++
      allowOrigin origins ((r.header? "origin").getD "") }

/-- A response with what it tells a page of another origin. -/
def mark (origins : List String) (r : Request) (response : Response) : Response :=
  let told := match r.header? "origin" with
    | some origin => ("access-control-allow-credentials", "true") :: allowOrigin origins origin
    | none => []
  { response with headers := response.headers ++ told ++ [("vary", "Origin")] }

end SignIn.Http.Origins
