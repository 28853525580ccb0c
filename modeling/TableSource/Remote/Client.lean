import TableSource.Credentials
import TableSource.Failure
import TableSource.Raw.JsonText
import TableSource.Raw.Wire
import TableSource.Remote.Url
import TableSource.Replication.Delivery

/-!
# The remote endpoint

New rows are sent to the update address below a base address, as one JSON array of rows with both
keys.  Only the status 200 accepts them; every other answer, and every request that fails, is a
failure of replication.
-/

namespace TableSource.Remote

structure Client where
  url : String
  credentials : Credentials
  closed : Bool
  deriving Repr

/-- The base address of an endpoint that is not configured. -/
def defaultBase : String := "https://app.deepint.net/api/v1/"

/-- The update address below a base address. -/
def updateUrl (base : String) : Except Url.UrlError String :=
  Url.join (if base.endsWith "/" then base else base ++ "/") ["external", "source", "update"]

/-- The client of the endpoint below a base address. -/
def Client.ofBase (base : String) (credentials : Credentials) : Except Failure Client :=
  ((updateUrl base).mapError .address).map fun url => { url, credentials, closed := false }

/-- The client when nothing can be sent with it any more. -/
def Client.close (client : Client) : Client :=
  { client with closed := true }

/-- The status that accepts rows. -/
def acceptedStatus : Int := 200

/-! ## Sending -/

def body (rows : List (List Raw)) : Except TextFailure String := do
  let wired ← rows.mapM fun row => row.mapM Raw.wire
  (Raw.list (wired.map .list)).json .compact

def Client.canSend (client : Client) (rows : List (List Raw)) : Bool :=
  !client.closed && (body rows).toOption.isSome

/-! ## Answers -/

/-- How the endpoint treats a request. -/
inductive Effect where
  /-- It accepts the rows. -/
  | success
  | status (code : Int)
  /-- The request does not reach it. -/
  | unreachable (message : String)
  /-- Something else fails meanwhile. -/
  | failure (failure : Failure)
  /-- It does not answer until it is released. -/
  | silence
  deriving Repr

/-- The treatment of a request, with the label under which a log shows it. -/
structure Reply where
  effect : Effect
  label : Raw
  deriving Repr

/-- The reply to every request after the announced ones. -/
def Reply.success : Reply :=
  { effect := .success, label := .text "ok" }

/-- The outcome of a request for the one who sent it. -/
def Client.received (client : Client) : Effect → Except Failure Unit
  | .success | .silence => .ok ()
  | .status code =>
    if code = acceptedStatus then .ok ()
    else .error (.replication ("Status code: " ++ toString code) (some code))
  | .unreachable message =>
    .error (.replication ("Request to " ++ client.url ++ " failed: " ++ message) none)
  | .failure failure => .error failure

/-- Whether a treatment accepts the rows. -/
def verdict (reply : Reply) : Replication.Verdict :=
  match reply.effect with
  | .success => .accepted
  | .status code => if code = acceptedStatus then .accepted else .refused
  | .unreachable _ | .failure _ => .refused
  | .silence => .held

/-- The endpoint of a queue: that of a client, or one to which everything can be sent. -/
def endpoint (client : Option Client) : Replication.Endpoint (List Raw) Reply :=
  { verdict
    success := Reply.success
    success_accepted := rfl
    canSend := fun rows =>
      match client with
      | some client => client.canSend rows
      | none => true }

end TableSource.Remote
