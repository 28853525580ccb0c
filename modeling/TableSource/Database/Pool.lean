import TableSource.Failure
import TableSource.Statement.Basic

/-!
# The connection pool

What the database answers is given in advance: the rows of every look-up and cursor, the value of
every single-value query, and possibly one fault.  A fault is raised once, either by a statement or
by a cursor when it has given a number of rows.
-/

namespace TableSource

/-- A row of the database, its columns by name. -/
abbrev Record := List (Raw × Raw)

/-- What goes wrong at the database. -/
inductive Fault where
  /-- The driver, the network or a time limit fails. -/
  | driver (message : String)
  /-- Something else fails meanwhile. -/
  | other (failure : Failure)
  deriving Repr

/-- What a fault is for the caller of an operation on a held connection. -/
def Fault.raised : Fault → Failure
  | .driver message => .store message
  | .other failure => failure

inductive PoolEvent (settings : Type) where
  | createPool (settings : settings)
  | acquire
  | begin (readOnly : Bool)
  | execute (statement : Statement Raw)
  | fetch (statement : Statement Raw)
  | fetchValue (statement : Statement Raw)
  | openCursor (statement : Statement Raw)
  | commit
  | rollback
  | release
  | close
  deriving Repr

/-- What the database answers. -/
structure Pool where
  rows : List Record
  value : Raw
  fault : Option Fault
  /-- The number of rows after which a cursor raises the fault; without it a statement does. -/
  failAfter : Option Nat
  /-- The number of statements that succeed before one raises the fault. -/
  quiet : Nat
  deriving Repr

namespace Pool

/-- A pool that has nothing to answer. -/
def empty : Pool :=
  { rows := [], value := .null, fault := none, failAfter := none, quiet := 0 }

instance : Inhabited Pool := ⟨empty⟩

/-- The fault that the next statement raises, and the pool after it. -/
def statementFault (pool : Pool) : Option Fault × Pool :=
  match pool.fault, pool.failAfter, pool.quiet with
  | some fault, none, 0 => (some fault, { pool with fault := none })
  | some _, none, quiet + 1 => (none, { pool with quiet })
  | _, _, _ => (none, pool)

/-- Executes statements up to the first that raises a fault. -/
def executeAll {settings : Type} :
    List (Statement Raw) → Pool → Option Fault × Pool × List (PoolEvent settings)
  | [], pool => (none, pool, [])
  | statement :: rest, pool =>
    match pool.statementFault with
    | (some fault, next) => (some fault, next, [.execute statement])
    | (none, next) =>
      let (fault, last, events) := executeAll rest next
      (fault, last, .execute statement :: events)

/-! ## Cursors -/

/-- The rows that a cursor gives, and the fault that it raises after them. -/
def given (pool : Pool) : List Record × Option Fault :=
  match pool.fault, pool.failAfter with
  | some fault, some rows =>
    if rows ≤ pool.rows.length then (pool.rows.take rows, some fault) else (pool.rows, none)
  | _, _ => (pool.rows, none)

end Pool

/-- What a reader does with a row. -/
inductive Step (σ : Type) where
  | more (state : σ)
  | enough (state : σ)
  | failed (state : σ) (failure : Failure)

/-- How reading from a cursor ends. -/
inductive Ending where
  /-- All rows were read. -/
  | finished
  /-- The reader closed the cursor. -/
  | closed
  /-- The cursor raised a fault. -/
  | fault (fault : Fault)
  | failed (failure : Failure)
  deriving Repr

namespace Ending

/-- The end of a use that only a fault can break off. -/
def ofFault : Option Fault → Ending
  | none => .finished
  | some raised => .fault raised

/-- Whether nothing kept the rows from being read to their end. -/
def isFinished : Ending → Bool
  | .finished => true
  | _ => false

/-- The failure that the caller sees. -/
def failure? : Ending → Option Failure
  | .finished | .closed => none
  | .fault raised => some raised.raised
  | .failed cause => some cause

/-- What the caller gets: an answer, unless there is a failure to see. -/
def result {α : Type} (ending : Ending) (answer : α) : Except Failure α :=
  match ending.failure? with
  | some failure => .error failure
  | none => .ok answer

end Ending

/-- Reads rows, after which a fault may follow. -/
def consume {σ : Type} (step : σ → Record → Step σ) :
    σ → List Record → Option Fault → σ × Ending
  | state, [], none => (state, .finished)
  | state, [], some fault => (state, .fault fault)
  | state, row :: rows, fault =>
    match step state row with
    | .more next => consume step next rows fault
    | .enough last => (last, .closed)
    | .failed last failure => (last, .failed failure)

end TableSource
