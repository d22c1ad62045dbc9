import SignIn.Fault
import SignIn.Json.Basic

/-!
# Requests and responses

A request as it arrives and a response as it leaves. Header names are compared in lower case.
-/

namespace SignIn.Http

/-- A request: its method, its target with the query, its headers in lower case, and its body. -/
structure Request where
  method : String
  target : String
  headers : List (String × String)
  body : List UInt8

namespace Request

def header? (r : Request) (name : String) : Option String :=
  Keyed.find? name r.headers

def path (r : Request) : String :=
  String.ofList (r.target.toList.takeWhile (· ≠ '?'))

/-- A character of a path as it is shown: line ends and tabs are left out, and what would end the
path is escaped. -/
def shownPathChar (c : Char) : List Char :=
  if c = '#' then "%23".toList
  else if c = '\\' then "%5C".toList
  else if c = '\t' ∨ c = '\r' ∨ c = '\n' then []
  else [c]

def shownPath (r : Request) : String :=
  let cs := r.path.toList
  let rooted := if cs.head? = some '/' then cs else '/' :: cs
  String.ofList (rooted.flatMap shownPathChar)

/-- The query of a request with its question mark. -/
def query (r : Request) : String :=
  String.ofList (r.target.toList.dropWhile (· ≠ '?'))

def cookies (r : Request) : List String :=
  (r.headers.filter fun h => h.1 == "cookie").map (·.2)

end Request

inductive Body
  | json (v : Json)
  | text (s : String)
  | empty

/-- A response: its status, its headers, the headers that set cookies, and its body; and the fault
that was let through, if one was. -/
structure Response where
  status : Nat
  headers : List (String × String)
  cookies : List String
  body : Body
  letThrough : Option Fault

namespace Response

def json (status : Nat) (v : Json) : Response :=
  ⟨status, [("content-type", "application/json")], [], .json v, none⟩

def text (status : Nat) (s : String) : Response :=
  ⟨status, [("content-type", "text/plain; charset=utf-8")], [], .text s, none⟩

def withHeader (r : Response) (name value : String) : Response :=
  { r with headers := r.headers ++ [(name, value)] }

/-- A response with one more cookie, which no cache may keep. -/
def withCookie (r : Response) (cookie : String) : Response :=
  { r.withHeader "cache-control" "no-store" with cookies := r.cookies ++ [cookie] }

def failure (status : Nat) (message : String) : Response :=
  json status (.obj [("error", .str message)])

def detail (status : Nat) (message : String) : Response :=
  json status (.obj [("detail", .str message)])

end Response

end SignIn.Http
