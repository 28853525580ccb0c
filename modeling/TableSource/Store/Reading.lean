import TableSource.Store.Basic

/-!
# Reading instances

Instances are read one by one through a cursor, the projected columns of each row becoming cells of
their features' types.  A reader may stop after a number of instances; it may also hand each
instance on to its caller, who may fail.
-/

namespace TableSource

/-- Which instances are read, and which columns of them. -/
structure Selection where
  filter : Condition
  /-- The index of the feature that orders the instances. -/
  order : Raw
  direction : String
  skip : Option Int
  limit : Option Int
  /-- The indexes of the features that are read; without any that resolves, all are. -/
  projection : List Int

namespace Store

/-- The features that a selection reads. -/
def selected (store : Store) (selection : Selection) : List Feature :=
  store.schema.select selection.projection

def selectStatement (store : Store) (selection : Selection) :
    Except StatementError (Statement Cell) :=
  Statement.select store.schema store.table selection.filter (store.selected selection)
    { order := store.schema.lookup? selection.order
      descending := Page.isDescending selection.direction
      skip := selection.skip
      limit := selection.limit }

/-- The instance of a row, with the cells of given features. -/
def instanceOf (features : List Feature) (record : Record) : Except Failure Row :=
  features.mapM fun feature => do
    let value ← column record feature.name
    (Cell.coerce feature.type value).mapError .text

/-- A step of a reader that gets instances instead of rows. -/
def onInstance {σ : Type} (features : List Feature) (step : σ → Row → Step σ) (state : σ)
    (record : Record) : Step σ :=
  match instanceOf features record with
  | .ok row => step state row
  | .error failure => .failed state failure

def read {σ : Type} (store : Store) (database : Database) (selection : Selection)
    (step : σ → Row → Step σ) (state : σ) : Outcome Unit × σ :=
  match store.selectStatement selection with
  | .error error => (refused database error, state)
  | .ok statement =>
    database.stream (statement.map Cell.toRaw) (onInstance (store.selected selection) step) state

/-- Collects an instance, in reverse order, until there are enough. -/
def collecting (enough : Nat) (rows : List Row) (row : Row) : Step (List Row) :=
  if rows.length + 1 < enough then .more (row :: rows) else .enough (row :: rows)

/-- At most a number of instances of a selection; for none of them nothing happens. -/
def take (store : Store) (database : Database) (selection : Selection) (enough : Nat) :
    Outcome (List Row) :=
  if enough = 0 then { result := .ok [], database, events := [] }
  else
    let (outcome, rows) := store.read database selection (collecting enough) []
    { result := outcome.result.map fun _ => rows.reverse
      database := outcome.database
      events := outcome.events }

/-! ## Handing instances on -/

/-- What a caller is told during a query. -/
inductive Notice where
  /-- The features of the instances that follow. -/
  | schema (features : List Feature)
  | row (row : Row)
  deriving Repr

/-- The failure of a caller that is told too much. -/
def callbackFailure : Failure :=
  .value "callback failed"

/-- Hands an instance on to a caller that fails when it was told a number of things before.  The
notices are kept in reverse order. -/
def telling (patience : Option Nat) (notices : List Notice) (row : Row) : Step (List Notice) :=
  match patience with
  | some told =>
    if told ≤ notices.length then .failed notices callbackFailure else .more (.row row :: notices)
  | none => .more (.row row :: notices)

/-- Tells a caller the features of a selection and then its instances. -/
def query (store : Store) (database : Database) (selection : Selection) (patience : Option Nat) :
    Outcome Unit × List Notice :=
  let (outcome, notices) :=
    store.read database selection (telling patience) [.schema (store.selected selection)]
  (outcome, notices.reverse)

end Store

end TableSource
