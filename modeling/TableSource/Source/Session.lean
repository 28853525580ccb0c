import TableSource.Http.Service

/-!
# Sessions

A session is a sequence of commands to a source.  The worker of the queue runs only between the
commands: at the end of a command, unless it says otherwise, everything happens that can happen
without time passing, and also before a request is answered.
-/

namespace TableSource

/-- A change of what the database answers; what is not given stays. -/
structure PoolChange where
  rows : Option (List Record)
  value : Option Raw
  fault : Option (Option Fault)
  failAfter : Option (Option Nat)

def Pool.change (pool : Pool) (change : PoolChange) : Pool :=
  { pool with
    rows := change.rows.getD pool.rows
    value := change.value.getD pool.value
    fault := change.fault.getD pool.fault
    failAfter := change.failAfter.getD pool.failAfter }

inductive Command where
  | changePool (change : PoolChange)
  | insert (rows : List (List Raw))
  | insertValues (values : Raw)
  | count (filter : Raw)
  | selectFeatures (indexes : List Int)
  | distinctValues (filter : Raw) (start : String) (index : Raw)
  | take (filter : Raw) (selection : Selection) (enough : Nat)
  | query (filter : Raw) (selection : Selection) (patience : Option Nat)
  | connect
  | disconnect
  | check
  | poolStatus
  | enqueue (rows : List (List Raw))
  | notify
  | startQueue
  | stopQueue
  | extendScript (replies : List Remote.Reply)
  | release (reply : Remote.Reply)
  | advance (seconds : Rat)
  | settle
  | start
  | stop
  /-- Starts the service in front of the source. -/
  | serve
  /-- Stops the service, if it was started. -/
  | shutDown
  | sendNow (rows : List (List Raw))
  | request (request : Http.Request)

/-- What a command gives. -/
inductive Result where
  | done
  | number (value : Int)
  | truth (value : Bool)
  | indexes (values : List Int)
  | texts (values : List String)
  | rows (rows : List Row)
  | notices (notices : List Store.Notice) (failure : Option Failure)
  | status (value : Raw)
  | response (response : Http.Response)

/-- A source in use. -/
structure Session where
  source : Source
  /-- Whether the service in front of the source is running. -/
  serving : Bool

/-- What a command came to. -/
structure Report where
  result : Except Failure Result
  session : Session
  events : List DatabaseEvent
  replication : List ReplicationEvent

namespace Session

def report {α : Type} (session : Session) (activity : Activity (Except Failure α))
    (result : α → Result) : Report :=
  { result := activity.result.map result
    session := { session with source := activity.source }
    events := activity.events
    replication := activity.replication }

/-- The report of an activity that gives nothing and does not fail. -/
def reportDone (session : Session) (activity : Activity Unit) : Report :=
  session.report { activity with result := .ok () } fun _ => .done

def changeQueue (session : Session)
    (change : Replication.Queue (List Raw) → Replication.Queue (List Raw)) : Report :=
  session.reportDone ((session.source.withQueue change).quiet ())

/-- The report of an activity that needs a filter; a filter that cannot be read is its failure. -/
def withFilter (session : Session) (filter : Raw) (activity : Condition → Report) : Report :=
  match Filter.ofRequest session.source.schema filter with
  | .ok tree => activity tree
  | .error failure => session.report (session.source.quiet (.error (.text failure))) fun () => .done

def perform (session : Session) : Command → Report
  | .changePool change =>
    let source := session.source
    let database := { source.database with pool := source.database.pool.change change }
    session.reportDone ({ source with database }.quiet ())
  | .insert rows => session.report (session.source.insert rows) fun inserted => .number inserted
  | .insertValues values =>
    match Row.coerceAll session.source.schema values with
    | .ok rows =>
      session.report (session.source.insert (rows.map (·.map Cell.toRaw))) fun inserted =>
        .number inserted
    | .error failure =>
      session.report (session.source.quiet (.error (.text failure))) fun () => .done
  | .count filter =>
    session.withFilter filter fun tree =>
      let source := session.source
      session.report (source.ofOutcome (source.store.count source.database tree)) .number
  | .selectFeatures indexes =>
    session.report
      (session.source.quiet (.ok ((session.source.schema.select indexes).map (·.index)))) .indexes
  | .distinctValues filter start index =>
    session.withFilter filter fun tree =>
      let source := session.source
      session.report
        (source.ofOutcome (source.store.distinctValues source.database tree start index)) .texts
  | .take filter selection enough =>
    session.withFilter filter fun tree =>
      let source := session.source
      let selection := { selection with filter := tree }
      session.report
        (source.ofOutcome (source.store.take source.database selection enough)) .rows
  | .query filter selection patience =>
    session.withFilter filter fun tree =>
      let source := session.source
      let selection := { selection with filter := tree }
      let (outcome, notices) := source.store.query source.database selection patience
      let failure := match outcome.result with | .ok _ => none | .error failure => some failure
      session.report { source.ofOutcome outcome with result := .ok () } fun () =>
        .notices notices failure
  | .connect =>
    session.report (session.source.ofOutcome session.source.database.connect) fun () => .done
  | .disconnect =>
    session.report (session.source.ofOutcome session.source.database.disconnect) fun () => .done
  | .check => session.report (session.source.ofOutcome session.source.database.check) .truth
  | .poolStatus =>
    session.report (session.source.quiet (.ok session.source.database.poolStatus)) .status
  | .enqueue rows => session.changeQueue (·.enqueue rows)
  | .notify => session.changeQueue (·.notify)
  | .startQueue => session.changeQueue (·.start)
  | .stopQueue => session.changeQueue (·.stop)
  | .extendScript replies =>
    let source := session.source
    let line := { source.line with script := source.line.script ++ replies }
    session.reportDone ({ source with line }.quiet ())
  | .release reply => session.reportDone (session.source.release reply)
  | .advance seconds => session.reportDone (session.source.advance seconds)
  | .settle => session.reportDone session.source.settle
  | .start => session.report session.source.start fun () => .done
  | .stop => session.report session.source.stop fun () => .done
  | .serve =>
    let report := session.report session.source.start fun () => .done
    { report with session := { report.session with serving := report.result.toOption.isSome } }
  | .shutDown =>
    if session.serving then
      let report := session.report session.source.stop fun () => .done
      { report with session := { report.session with serving := false } }
    else session.reportDone (session.source.quiet ())
  | .sendNow rows => session.report (session.source.sendNow rows) fun () => .done
  | .request request =>
    let activity := Http.handle session.source request
    session.report { activity with result := .ok activity.result } .response

/-- Whether the worker runs before a command. -/
def settlesBefore : Command → Bool
  | .request _ => true
  | _ => false

/-- The session with the worker at rest, and what happened until then. -/
def settled (session : Session) (settles : Bool) : Session × List ReplicationEvent :=
  if settles then
    let activity := session.source.settle
    ({ session with source := activity.source }, activity.replication)
  else (session, [])

/-- Performs a command, with the worker running before and after it as it should. -/
def execute (session : Session) (command : Command) (settles : Bool) : Report :=
  let (ready, before) := session.settled (settlesBefore command)
  let report := ready.perform command
  let (last, after) := report.session.settled settles
  { report with
    session := last
    replication := before ++ report.replication ++ after }

end Session

end TableSource
