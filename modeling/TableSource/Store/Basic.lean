import TableSource.Cell.Row
import TableSource.Database.Connection
import TableSource.Schema.Projection
import TableSource.Statement.Query

/-!
# The store

A store is the table of a schema in a database.  It inserts instances, counts the rows that match a
filter, and looks up the values of nominal columns.  All instances of one insertion go into one
transaction, in as many statements as the limit on the parameters of a statement demands.
-/

namespace TableSource

/-- A typed table. -/
structure Store where
  schema : Schema
  table : String

/-- A filter of cells, if there is one. -/
abbrev Condition := Option (Filter.Node Cell)

namespace Store

/-- The largest number of parameters of a statement. -/
def maxParams : Nat := 32767

def rowsPerStatement (schema : Schema) : Nat :=
  max 1 (maxParams / max 1 schema.size)

/-- Consecutive slices of a list that have a given length, the last one possibly less; at most a
number of slices. -/
def slices {α : Type} (length : Nat) : Nat → List α → List (List α)
  | 0, _ => []
  | bound + 1, items =>
    if items.isEmpty then [] else items.take length :: slices length bound (items.drop length)

/-- The slices of rows that statements insert. -/
def chunks {α : Type} (schema : Schema) (rows : List α) : List (List α) :=
  slices (rowsPerStatement schema) rows.length rows

def insertions (store : Store) (rows : List (List Raw)) : List (Statement Raw) :=
  (chunks store.schema rows).map (Statement.insert store.schema store.table)

/-- Inserts rows, all or none, and gives their number; without rows nothing happens. -/
def insert (store : Store) (database : Database) (rows : List (List Raw)) : Outcome Nat :=
  if rows.isEmpty then { result := .ok 0, database, events := [] }
  else
    let outcome := database.transact (store.insertions rows)
    { result := outcome.result.map fun _ => rows.length
      database := outcome.database
      events := outcome.events }

/-! ## Counting -/

/-- The number of characters that a report shows of a value. -/
def maxShown : Nat := 200

/-- The report of a value that spells no whole number; it shows the beginning of a long one. -/
def notWhole (value : Raw) : Failure :=
  match value.literal with
  | .ok written =>
    .value ("invalid literal for int() with base 10: " ++
      String.ofList (written.toList.take maxShown))
  | .error failure => .text failure

def asciiChars? (bytes : List UInt8) : Option (List Char) :=
  if bytes.all (· < 128) then some (bytes.map fun byte => Char.ofNat byte.toNat) else none

/-- The whole number that a database value stands for; an absent value counts as zero, and a
fraction is dropped. -/
def wholeNumber (value : Raw) : Except Failure Int :=
  if value.isEmptyValue then .ok 0
  else
    match value with
    | .bool truth => .ok truth.toNat
    | .int number => .ok number
    | .float (.finite number) => .ok number.truncate
    | .float .nan => .error (.value "cannot convert float NaN to integer")
    | .float (.infinite _) => .error (.value "cannot convert float infinity to integer")
    | .decimal (.finite negative coefficient exponent) =>
      .ok ((Decimal.finite negative coefficient exponent).truncate?.getD 0)
    | .decimal (.nan _ _ _) => .error (.value "cannot convert NaN to integer")
    | .decimal (.infinite _) => .error (.value "cannot convert Infinity to integer")
    | .text written =>
      match Numeral.whole? written with
      | some number => .ok number
      | none => .error (notWhole value)
    | .bytes written =>
      match (asciiChars? written).bind Numeral.wholeOfChars? with
      | some number => .ok number
      | none => .error (notWhole value)
    | _ => .error (.value "not a number")

/-- The statement's failure as that of an operation that never reached the database. -/
def refused {α : Type} (database : Database) (error : StatementError) : Outcome α :=
  { result := .error (.statement error), database, events := [] }

/-- The number of rows that match a filter. -/
def count (store : Store) (database : Database) (filter : Condition) : Outcome Int :=
  match Statement.count store.schema store.table filter with
  | .error error => refused database error
  | .ok statement =>
    let outcome := database.fetchValue (statement.map Cell.toRaw)
    { result := outcome.result.bind wholeNumber
      database := outcome.database
      events := outcome.events }

/-! ## Distinct values -/

def column (record : Record) (name : String) : Except Failure Raw :=
  match record.find? fun entry => match entry.1 with | .text key => key == name | _ => false with
  | some entry => .ok entry.2
  | none => .error (.missingColumn name)

/-- The texts that the values of a column are shown as, without those that are null. -/
def shownColumn (name : String) : List Record → Except Failure (List String)
  | [] => .ok []
  | record :: rest => do
    match ← column record name with
    | .null => shownColumn name rest
    | value =>
      let first ← value.shown.mapError .text
      return first :: (← shownColumn name rest)

/-- The distinct values of a nominal feature in the rows that match a filter, as texts; with a
text only those that start with it in any case.  Other features have no such values. -/
def distinctValues (store : Store) (database : Database) (filter : Condition) (start : String)
    (index : Raw) : Outcome (List String) :=
  match store.schema.lookup? index with
  | none => { result := .ok [], database, events := [] }
  | some feature =>
    if feature.type ≠ .nominal then { result := .ok [], database, events := [] }
    else
      match Statement.distinct store.schema store.table filter feature (Text.lower start) with
      | .error error => refused database error
      | .ok statement =>
        let outcome := database.fetch (statement.map Cell.toRaw)
        { result := outcome.result.bind (shownColumn feature.name)
          database := outcome.database
          events := outcome.events }

end Store

end TableSource
