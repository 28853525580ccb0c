import TableSource.Remote.Client
import TableSource.Store.Reading

/-!
# Sources

A source is a store together with the queue that replicates its rows, the endpoint they are
replicated to, and the keys that requests need.  Rows are handed to the queue when, and only when,
they have been inserted.
-/

namespace TableSource

/-- What happens between the worker of a source and its endpoint. -/
abbrev ReplicationEvent := Replication.Event (List Raw) Remote.Reply

structure Source where
  store : Store
  database : Database
  line : Replication.Line (List Raw) Remote.Reply
  /-- Whether inserted rows are handed to the queue. -/
  replicates : Bool
  client : Option Remote.Client
  credentials : Credentials
  /-- Whether the documentation of the interface is served. -/
  servesDocs : Bool

/-- What an activity of a source came to. -/
structure Activity (α : Type) where
  result : α
  source : Source
  events : List DatabaseEvent
  replication : List ReplicationEvent

namespace Source

def schema (source : Source) : Schema :=
  source.store.schema

def endpoint (source : Source) : Replication.Endpoint (List Raw) Remote.Reply :=
  Remote.endpoint source.client

def withQueue (source : Source)
    (change : Replication.Queue (List Raw) → Replication.Queue (List Raw)) : Source :=
  { source with line := { source.line with queue := change source.line.queue } }

/-- An activity in which nothing happens outside. -/
def quiet {α : Type} (source : Source) (result : α) : Activity α :=
  { result, source, events := [], replication := [] }

/-- The activity of an operation on the database. -/
def ofOutcome {α : Type} (source : Source) (outcome : Outcome α) : Activity (Except Failure α) :=
  { result := outcome.result
    source := { source with database := outcome.database }
    events := outcome.events
    replication := [] }

/-- The activity of a change of the queue's line. -/
def ofLine (source : Source)
    (change : Replication.Line (List Raw) Remote.Reply × List ReplicationEvent) : Activity Unit :=
  { result := ()
    source := { source with line := change.1 }
    events := []
    replication := change.2 }

/-! ## Operations -/

/-- Inserts rows and hands them to the queue. -/
def insert (source : Source) (rows : List (List Raw)) : Activity (Except Failure Nat) :=
  let inserted := source.ofOutcome (source.store.insert source.database rows)
  match inserted.result with
  | .ok _ =>
    if source.replicates then
      { inserted with source := inserted.source.withQueue (·.enqueue rows) }
    else inserted
  | .error _ => inserted

/-- Lets the worker do everything that it can do without time passing. -/
def settle (source : Source) : Activity Unit :=
  source.ofLine (Replication.settle source.endpoint source.line)

/-- Lets time pass. -/
def advance (source : Source) (seconds : Rat) : Activity Unit :=
  source.ofLine (Replication.advance source.endpoint source.line seconds)

/-- Releases the push that is open. -/
def release (source : Source) (reply : Remote.Reply) : Activity Unit :=
  source.ofLine (Replication.release source.endpoint source.line reply)

/-- Connects the database and starts the worker, unless connecting fails. -/
def start (source : Source) : Activity (Except Failure Unit) :=
  let connected := source.ofOutcome source.database.connect
  match connected.result with
  | .ok _ => { connected with source := connected.source.withQueue (·.start) }
  | .error _ => connected

/-- Stops the worker, closes the client and disconnects the database. -/
def stop (source : Source) : Activity (Except Failure Unit) :=
  let idle := source.withQueue (·.stop)
  let closed := { idle with client := idle.client.map Remote.Client.close }
  closed.ofOutcome closed.database.disconnect

/-- Sends rows to the endpoint at once. -/
def sendNow (source : Source) (rows : List (List Raw)) : Activity (Except Failure Unit) :=
  match source.client with
  | none => source.quiet (.ok ())
  | some client =>
    match Remote.body rows with
    | .error failure => source.quiet (.error (.text failure))
    | .ok _ =>
      if client.closed then
        source.quiet (.error (.value "Cannot send a request, as the client has been closed."))
      else
        let reply := source.line.script.head?.getD Remote.Reply.success
        { result := client.received reply.effect
          source := { source with line := { source.line with script := source.line.script.tail } }
          events := []
          replication := [.pushed source.line.now rows reply] }

end Source

end TableSource
