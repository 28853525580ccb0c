import TableSource.Database.Connection

/-!
# Held connections

Every operation with a connection is one use of it, and what surrounds the use is the same for all
of them: without a pool the operation fails before anything happens, and with one the connection is
acquired before and released after the use, whatever the use comes to.  A transaction is begun and
ended inside, by a commit exactly if its block ran to its end.
-/

namespace TableSource

namespace Ending

variable {fault : Option Fault}

@[simp]
theorem isFinished_ofFault : (ofFault fault).isFinished = fault.isNone := by
  cases fault <;> rfl

@[simp]
theorem failure?_ofFault : (ofFault fault).failure? = fault.map Fault.raised := by
  cases fault <;> rfl

/-- An answer is given exactly if there is no failure to see. -/
theorem result_eq_ok_iff {α : Type} {ending : Ending} {answer given : α} :
    ending.result answer = .ok given ↔ ending.failure? = none ∧ answer = given := by
  rw [result]
  cases ending.failure? <;> simp

end Ending

namespace Database

variable {α : Type} {database : Database}

theorem holding_of_disconnected
    (disconnected : database.connected = false) (use : Pool → Held α) :
    database.holding use = { result := .error notConnected, database, events := [] } := by
  simp [holding, disconnected]

/-- The connection is released behind the use. -/
theorem holding_of_connected
    (connected : database.connected = true) (use : Pool → Held α) :
    database.holding use =
      { result := (use database.pool).ending.result (use database.pool).answer
        database := { database with pool := (use database.pool).pool }
        events := .acquire :: ((use database.pool).events ++ [.release]) } := by
  simp [holding, connected]

/-- A transaction ends before its connection is released. -/
theorem events_inTransaction (readOnly : Bool) (held : Held α) :
    (.acquire :: ((held.inTransaction readOnly).events ++ [.release]) : List DatabaseEvent) =
      [.acquire, .begin readOnly] ++ held.events ++
        [closing held.ending.isFinished, .release] := by
  simp [Held.inTransaction]

/-- A question is asked alone on its connection. -/
theorem events_ask
    (connected : database.connected = true) (event : DatabaseEvent) (answer : Pool → α) :
    (database.ask event answer).events = [.acquire, event, .release] := by
  rw [ask, holding_of_connected connected]
  rfl

theorem transact_of_disconnected
    (disconnected : database.connected = false) (statements : List (Statement Raw)) :
    database.transact statements = { result := .error notConnected, database, events := [] } :=
  holding_of_disconnected disconnected _

/-- A transaction comes to what its statements come to. -/
theorem transact_of_connected
    (connected : database.connected = true) (statements : List (Statement Raw)) :
    let (fault, _, events) := database.pool.executeAll statements
    (database.transact statements).result = (Ending.ofFault fault).result () ∧
      (database.transact statements).events =
        [.acquire, .begin false] ++ events ++ [closing fault.isNone, .release] := by
  rw [transact, holding_of_connected connected, events_inTransaction]
  simp [Held.inTransaction, executing]

section Reading

variable {σ : Type}

theorem stream_of_disconnected
    (disconnected : database.connected = false)
    (statement : Statement Raw) (step : σ → Record → Step σ) (state : σ) :
    database.stream statement step state =
      ({ result := .error notConnected, database, events := [] }, state) := by
  simp [stream, holding_of_disconnected disconnected, disconnected]

/-- A stream comes to what its reader comes to. -/
theorem stream_of_connected
    (connected : database.connected = true)
    (statement : Statement Raw) (step : σ → Record → Step σ) (state : σ) :
    let (last, ending) := consume step state database.pool.given.1 database.pool.given.2
    (database.stream statement step state).1.result = ending.result () ∧
      (database.stream statement step state).1.events =
        [.acquire, .begin true, .openCursor statement, closing ending.isFinished, .release] ∧
      (database.stream statement step state).2 = last := by
  simp only [stream, holding_of_connected connected, events_inTransaction, connected, if_true]
  exact ⟨rfl, rfl, rfl⟩

end Reading

end Database

end TableSource
