import TableSource.Filter.Admission
import TableSource.Http.Routing
import TableSource.Source.Basic

/-!
# Answering requests

A source answers requests for its description, for inserting, counting and selecting instances, for
the values of nominal features, for a replication, and for its health.  All but the last need both
keys, and a request without them changes nothing.

The selected instances are streamed: the answer begins when the first instance has been read, so a
failure before is reported by the status and a failure later breaks the body off.
-/

namespace TableSource.Http

def failed (failure : Failure) : Response :=
  if failure.isStore then Response.error 500 "store_error" else Response.serverError

def respond {α : Type} (result : Except Failure α) (body : α → Raw) : Response :=
  match result with
  | .ok value => Response.json 200 (body value)
  | .error failure => failed failure

def answered {α : Type} (activity : Activity (Except Failure α)) (body : α → Raw) :
    Activity Response :=
  { activity with result := respond activity.result body }

/-- The keys that a request carries. -/
def keysOf (request : Request) : Credentials :=
  { publicKey := (request.header? "x-public-key").map .ofText
    secretKey := (request.header? "x-secret-key").map .ofText }

def filterOf (source : Source) (request : Request) : Except Failure Condition :=
  (Filter.ofRequest source.schema
    (match request.parameter? "filter" with
     | some written => .text written
     | none => .null)).mapError .text

/-! ## Operations -/

/-- Describes the features and counts all instances. -/
def info (source : Source) : Activity Response :=
  answered (source.ofOutcome (source.store.count source.database none)) fun size =>
    Raw.record [("fields", .list source.schema.describe), ("size", .int size)]

/-- Gives notice of new rows after an insertion that succeeded. -/
def notifyInserted (activity : Activity (Except Failure Nat)) : Activity (Except Failure Nat) :=
  match activity.result with
  | .ok _ => { activity with source := activity.source.withQueue (·.notify) }
  | .error _ => activity

/-- Inserts the instances of the body and gives notice of them. -/
def insert (source : Source) (request : Request) : Activity Response :=
  match Json.ofBytes? request.body with
  | none => source.quiet (Response.error 400 "invalid_json")
  | some (.list values) =>
    match Row.coerceAll source.schema (.list values) with
    | .error failure => source.quiet (failed (.text failure))
    | .ok rows =>
      answered (notifyInserted (source.insert (rows.map (·.map Cell.toRaw)))) fun inserted =>
        Raw.record [("inserted", .int inserted)]
  | some _ => source.quiet (Response.error 400 "expected_array")

/-- Gives notice that the endpoint needs an update. -/
def update (source : Source) : Activity Response :=
  (source.withQueue (·.notify)).quiet (Response.json 200 (Raw.record [("ok", .bool true)]))

/-- Counts the instances that match a filter. -/
def count (source : Source) (request : Request) : Activity Response :=
  match filterOf source request with
  | .error failure => source.quiet (failed failure)
  | .ok filter =>
    answered (source.ofOutcome (source.store.count source.database filter)) fun total =>
      Raw.record [("count", .int total)]

/-- Looks up the values of a nominal feature. -/
def nominalValues (source : Source) (request : Request) : Activity Response :=
  match filterOf source request with
  | .error failure => source.quiet (failed failure)
  | .ok filter =>
    let start := (request.parameter? "query").getD ""
    let index :=
      match integer? (request.parameter? "feature") with
      | some index => Raw.int index
      | none => .null
    answered (source.ofOutcome (source.store.distinctValues source.database filter start index))
      fun values => .list (values.map .text)

/-- Whether the database answers, and the state of the pool and of the queue. -/
def health (source : Source) : Activity Response :=
  let checked := source.ofOutcome source.database.check
  match checked.result with
  | .error failure => { checked with result := failed failure }
  | .ok healthy =>
    let queue := checked.source.line.queue
    let content :=
      Raw.record [
        ("status", .text (if healthy then "healthy" else "unhealthy")),
        ("database", .text (if healthy then "connected" else "disconnected")),
        ("pool", checked.source.database.poolStatus),
        ("replication", Raw.record [("running", .bool queue.isRunning),
          ("pending", .int queue.pending.length)])]
    { checked with result := Response.json (if healthy then 200 else 503) content }

/-! ## Streaming -/

/-- The beginning of a streamed body: the features and the opening of the instances. -/
def streamHead (features : List Feature) : Except TextFailure String :=
  ((Raw.list (features.map Feature.describe)).json .spaced).map fun described =>
    "\x7b\"features\":" ++ described ++ ",\"instances\":["

def streamEnd : String := "]\x7d"

/-- An instance in a streamed body. -/
def streamedRow (row : Row) : Except TextFailure String :=
  (Raw.list row.wire).json .spaced

/-- Instances in a streamed body with commas between them. -/
def streamedRows (rows : List Row) : Except TextFailure String :=
  (rows.mapM streamedRow).map (String.intercalate ",")

/-- A streamed body as far as it was sent. -/
def streamBody (features : List Feature) (rows : List Row) (complete : Bool) :
    Except TextFailure String := do
  let head ← streamHead features
  let written ← streamedRows rows
  return head ++ written ++ (if complete then streamEnd else "")

/-- The response of a stream that gave instances and then ended, or failed. -/
def streamed (features : List Feature) (rows : List Row) (failure? : Option Failure) : Response :=
  match failure?, rows with
  | some failure, [] => failed failure
  | _, _ =>
    match streamBody features rows failure?.isNone with
    | .ok body =>
      { status := 200, contentType := some Response.jsonType, body, aborted := failure?.isSome }
    | .error _ => Response.serverError

/-- Keeps every instance, in reverse order. -/
def keeping (rows : List Row) (row : Row) : Step (List Row) :=
  .more (row :: rows)

def selectionOf (source : Source) (request : Request) (filter : Condition) : Selection :=
  { filter
    order :=
      match integer? (request.parameter? "order") with
      | some index => .int index
      | none => .null
    direction := (request.parameter? "dir").getD "asc"
    skip := integer? (request.parameter? "skip")
    limit := integer? (request.parameter? "limit")
    projection := source.schema.projectionOfText ((request.parameter? "projection").getD "") }

/-- Streams the instances that match a filter. -/
def select (source : Source) (request : Request) : Activity Response :=
  match filterOf source request with
  | .error failure => source.quiet (failed failure)
  | .ok filter =>
    let selection := selectionOf source request filter
    let (outcome, rows) := source.store.read source.database selection keeping []
    let failure? := match outcome.result with | .ok _ => none | .error failure => some failure
    { result := streamed (source.store.selected selection) rows.reverse failure?
      source := { source with database := outcome.database }
      events := outcome.events
      replication := [] }

/-! ## Requests -/

def perform (source : Source) (request : Request) : Route → Activity Response
  | .info => info source
  | .insert => insert source request
  | .update => update source
  | .count => count source request
  | .select => select source request
  | .nominalValues => nominalValues source request
  | .health => health source
  | .document contentType =>
    source.quiet { status := 200, contentType := some contentType, body := "", aborted := false }

def handle (source : Source) (request : Request) : Activity Response :=
  match destination source.servesDocs request.method request.path with
  | .nowhere => source.quiet Response.notFound
  | .redirected => source.quiet Response.redirect
  | .wrongMethod => source.quiet Response.methodNotAllowed
  | .route route =>
    if route.needsKeys then
      match source.credentials.require (keysOf request) with
      | .ok _ => perform source request route
      | .error .credentials => source.quiet Response.unauthorized
      | .error failure => source.quiet (failed failure)
    else perform source request route

end TableSource.Http
