import TableSource.Raw.JsonText
import TableSource.Text.Lowercase

/-!
# Requests and responses

A request has a method, a path, named parameters and headers, and a body of bytes.  Of a repeated
parameter the last one counts, and of a repeated header the first one; the names of headers are
compared without regard to case.
-/

namespace TableSource.Http

structure Request where
  method : String
  path : String
  parameters : List (String × String)
  headers : List (String × String)
  body : List UInt8
  deriving Repr, Inhabited

namespace Request

def parameter? (request : Request) (name : String) : Option String :=
  (request.parameters.reverse.find? fun parameter => parameter.1 == name).map (·.2)

def header? (request : Request) (name : String) : Option String :=
  (request.headers.find? fun header =>
    Text.asciiLower header.1 == Text.asciiLower name).map (·.2)

end Request

/-- The bounds of a whole number in a parameter are those of sixty-four bits, without the least
negative number. -/
def maxInteger : Nat := Nat.pow 2 63 - 1

/-- The whole number that a parameter spells; one out of bounds counts as absent, like a text that
spells none. -/
def integer? (parameter : Option String) : Option Int :=
  (parameter.bind Numeral.whole?).filter fun number => number.natAbs ≤ maxInteger

/-- A response.  It is aborted when the answer broke off, or was replaced by the report of an
unforeseen failure. -/
structure Response where
  status : Nat
  contentType : Option String
  body : String
  aborted : Bool
  deriving DecidableEq, Repr, Inhabited

namespace Response

def jsonType : String := "application/json"

/-- The response to a failure that nobody foresaw. -/
def serverError : Response :=
  { status := 500, contentType := some "text/plain; charset=utf-8"
    body := "Internal Server Error", aborted := true }

/-- A response with a value as its body; a value that has no JSON form is an unforeseen failure. -/
def json (status : Nat) (value : Raw) : Response :=
  match value.json .compact with
  | .ok body => { status, contentType := some jsonType, body, aborted := false }
  | .error _ => serverError

def error (status : Nat) (name : String) : Response :=
  json status (Raw.record [("error", .text name)])

/-- A response with a detail in place of a resource. -/
def detail (status : Nat) (text : String) : Response :=
  json status (Raw.record [("detail", .text text)])

/-- The response to a request without the right keys. -/
def unauthorized : Response := error 401 "unauthorized"

/-- The response to a path that leads nowhere. -/
def notFound : Response := detail 404 "Not Found"

/-- The response to a method that a path does not know. -/
def methodNotAllowed : Response := detail 405 "Method Not Allowed"

/-- The response to a path that is known but for slashes at its end. -/
def redirect : Response :=
  { status := 307, contentType := none, body := "", aborted := false }

end Response

end TableSource.Http
