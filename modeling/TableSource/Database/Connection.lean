import TableSource.Database.Pool
import TableSource.Database.Settings

/-!
# The database

A database is connected by creating a pool.  Every operation acquires a connection, which is
released again however the operation ends; faults of the driver are failures of the store for the
caller, and so is the want of a pool.  Statements that change rows run in a transaction, and
cursors in one that may only read; a transaction is committed exactly when its block ended without
a fault and without being left early.
-/

namespace TableSource

abbrev DatabaseEvent := PoolEvent DatabaseSettings

/-- A database with the answers of its pool. -/
structure Database where
  settings : DatabaseSettings
  connected : Bool
  pool : Pool
  /-- The fault of the next creation of a pool. -/
  connectFault : Option Fault
  deriving Inhabited

/-- What an operation on a database came to. -/
structure Outcome (α : Type) where
  result : Except Failure α
  database : Database
  events : List DatabaseEvent

namespace Database

/-! ## The pool -/

/-- The failure of every operation without a pool. -/
def notConnected : Failure :=
  .store "Database not connected. Call connect() first."

/-- What a fault is when a pool is created. -/
def connectFailure : Fault → Failure
  | .driver message => .store ("Failed to connect to database: " ++ message)
  | .other failure => failure

/-- Creates the pool, unless there is one. -/
def connect (database : Database) : Outcome Unit :=
  if database.connected then { result := .ok (), database, events := [] }
  else
    let events := [PoolEvent.createPool database.settings]
    match database.connectFault with
    | some fault =>
      { result := .error (connectFailure fault)
        database := { database with connectFault := none }
        events }
    | none => { result := .ok (), database := { database with connected := true }, events }

/-- Closes the pool, if there is one. -/
def disconnect (database : Database) : Outcome Unit :=
  if database.connected then
    { result := .ok (), database := { database with connected := false }, events := [.close] }
  else { result := .ok (), database, events := [] }

/-! ## Held connections -/

/-- What a connection was used for while it was held. -/
structure Held (α : Type) where
  /-- What the use gives, unless it fails. -/
  answer : α
  ending : Ending
  pool : Pool
  events : List DatabaseEvent

/-- Holds a connection for a use of the pool.  It is released however the use ends. -/
def holding {α : Type} (database : Database) (use : Pool → Held α) : Outcome α :=
  if database.connected then
    let held := use database.pool
    { result := held.ending.result held.answer
      database := { database with pool := held.pool }
      events := .acquire :: (held.events ++ [.release]) }
  else { result := .error notConnected, database, events := [] }

/-- The end of a transaction. -/
def closing (committed : Bool) : DatabaseEvent :=
  if committed then .commit else .rollback

/-- A use of a connection as the block of one transaction. -/
def Held.inTransaction {α : Type} (readOnly : Bool) (held : Held α) : Held α :=
  { held with events := .begin readOnly :: (held.events ++ [closing held.ending.isFinished]) }

/-! ## Statements -/

/-- The use of a connection for one statement that gives an answer. -/
def asking {α : Type} (event : DatabaseEvent) (answer : Pool → α) (pool : Pool) : Held α :=
  let (fault, next) := pool.statementFault
  { answer := answer pool, ending := .ofFault fault, pool := next, events := [event] }

/-- Runs one statement that gives an answer. -/
def ask {α : Type} (database : Database) (event : DatabaseEvent) (answer : Pool → α) : Outcome α :=
  database.holding (asking event answer)

/-- The rows of a look-up. -/
def fetch (database : Database) (statement : Statement Raw) : Outcome (List Record) :=
  database.ask (.fetch statement) (·.rows)

/-- The value of a single-value query. -/
def fetchValue (database : Database) (statement : Statement Raw) : Outcome Raw :=
  database.ask (.fetchValue statement) (·.value)

/-- The use of a connection for statements up to the first that raises a fault. -/
def executing (statements : List (Statement Raw)) (pool : Pool) : Held Unit :=
  let (fault, next, events) := pool.executeAll statements
  { answer := (), ending := .ofFault fault, pool := next, events }

/-- Executes statements in one transaction. -/
def transact (database : Database) (statements : List (Statement Raw)) : Outcome Unit :=
  database.holding fun pool => (executing statements pool).inTransaction false

/-! ## Cursors -/

/-- The use of a connection for a cursor, and the last state of its reader. -/
def reading {σ : Type} (statement : Statement Raw) (step : σ → Record → Step σ) (state : σ)
    (pool : Pool) : Held Unit × σ :=
  let (rows, fault) := pool.given
  let (last, ending) := consume step state rows fault
  let next :=
    match ending with
    | .fault _ => { pool with fault := none }
    | _ => pool
  ({ answer := (), ending, pool := next, events := [.openCursor statement] }, last)

/-- Reads the rows of a statement through a cursor, which is closed when the reader has enough or
fails.  The reader's state is kept also when reading fails. -/
def stream {σ : Type} (database : Database) (statement : Statement Raw)
    (step : σ → Record → Step σ) (state : σ) : Outcome Unit × σ :=
  let use := reading statement step state
  (database.holding fun pool => (use pool).1.inTransaction true,
    if database.connected then (use database.pool).2 else state)

/-! ## Health -/

/-- The statement that only asks whether the database answers. -/
def probe : Statement Raw :=
  { pieces := [.words "SELECT 1"] }

/-- Whether the database answers as it should; a failure of the store is an answer too. -/
def check (database : Database) : Outcome Bool :=
  let outcome := database.fetchValue probe
  { result :=
      match outcome.result with
      | .ok value => .ok value.isOne
      | .error failure => if failure.isStore then .ok false else .error failure
    database := outcome.database
    events := outcome.events }

/-- The state of the pool while no connection is held. -/
def poolStatus (database : Database) : Raw :=
  if database.connected then
    Raw.record [("status", .text "connected"), ("size", .int 1), ("freesize", .int 1),
      ("min_size", .int database.settings.minPoolSize),
      ("max_size", .int database.settings.maxPoolSize)]
  else Raw.record [("status", .text "disconnected"), ("size", .int 0), ("freesize", .int 0)]

end Database

end TableSource
