import TableSource.Http.Message

/-!
# Routes

Seven routes lead to the operations of a source, and four more to the documentation of the
interface where it is served.  A path is known or not before its method is looked at; a path that
would be known without the slashes at its end is redirected.
-/

namespace TableSource.Http

/-- The operations that requests can ask for. -/
inductive Route where
  | info
  | insert
  | update
  | count
  | select
  | nominalValues
  | health
  /-- A page of the documentation with its type. -/
  | document (contentType : String)
  deriving DecidableEq, Repr

namespace Route

def needsKeys : Route → Bool
  | .health | .document _ => false
  | _ => true

/-- The pages of the documentation. -/
def documents : List (String × Route) :=
  [("/openapi.json", .document Response.jsonType),
    ("/docs", .document "text/html; charset=utf-8"),
    ("/docs/oauth2-redirect", .document "text/html; charset=utf-8"),
    ("/redoc", .document "text/html; charset=utf-8")]

/-- All routes by method and path. -/
def table (servesDocs : Bool) : List (String × String × Route) :=
  (if servesDocs then
    documents.flatMap fun page => [("GET", page), ("HEAD", page)]
   else []) ++
  [("GET", "/source/info", .info), ("POST", "/source/instances", .insert),
    ("POST", "/source/update", .update), ("GET", "/source/instances/count", .count),
    ("GET", "/source/instances", .select), ("GET", "/source/nominal_values", .nominalValues),
    ("GET", "/healthz", .health)]

end Route

/-- Where a request leads. -/
inductive Destination where
  | route (route : Route)
  | wrongMethod
  | redirected
  | nowhere
  deriving DecidableEq, Repr

def withoutLineEnd (path : String) : String :=
  match path.toList.getLast? with
  | some '\n' => String.ofList path.toList.dropLast
  | _ => path

def withoutSlashes (path : String) : String :=
  String.ofList (path.toList.reverse.dropWhile (· == '/')).reverse

/-- The routes of a path by method. -/
def routesAt (servesDocs : Bool) (path : String) : List (String × Route) :=
  ((Route.table servesDocs).filter fun entry => entry.2.1 == withoutLineEnd path).map fun entry =>
    (entry.1, entry.2.2)

/-- Where a method and a path lead. -/
def destination (servesDocs : Bool) (method path : String) : Destination :=
  let known := routesAt servesDocs path
  match known.find? (·.1 == method) with
  | some entry => .route entry.2
  | none =>
    if !known.isEmpty then .wrongMethod
    else if path.toList.getLast? == some '/' && path != "/" &&
        !(routesAt servesDocs (withoutSlashes path)).isEmpty then .redirected
    else .nowhere

end TableSource.Http
