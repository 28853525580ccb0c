import TableSource.Proofs.Filter.FixedPoint
import TableSource.Proofs.Statement.Existence
import TableSource.Proofs.Store.Insertion
import TableSource.Proofs.Store.Instances

/-!
# What a query tells its caller

The caller of a query is told the features of the instances, and then every instance that the cursor
gives, in order.  The features that are told are those whose cells the instances have.  When the
cursor fails, the caller has been told all instances before the fault, and the query ends as the
fault demands; without a pool the caller is told the features alone.
-/

namespace TableSource

namespace Store

/-- What a query comes to for a caller who is told everything. -/
structure Told
    (store : Store) (database : Database) (selection : Selection) (patience : Option ℕ) : Prop where
  disconnected : database.connected = false →
    (store.query database selection patience).1.result = .error Database.notConnected ∧
      (store.query database selection patience).2 = [.schema (store.selected selection)]
  connected : database.connected = true →
    (∀ record ∈ database.pool.given.1, Presents (store.selected selection) record) →
    (∀ told ∈ patience, database.pool.given.1.length < told) →
      ∃ rows,
        List.Forall₂ (ReadAs (store.selected selection)) database.pool.given.1 rows ∧
        (store.query database selection patience).2 =
          .schema (store.selected selection) :: rows.map .row ∧
        (store.query database selection patience).1.result =
          match database.pool.given.2 with
          | none => .ok ()
          | some (.driver message) => .error (.store message)
          | some (.other failure) => .error failure

/-- Telling goes on as long as the caller's patience lasts. -/
theorem telling_of_patient
    {patience : Option ℕ} {bound : ℕ}
    (patient : ∀ told ∈ patience, bound ≤ told)
    {notices : List Notice} (within : notices.length < bound) (row : Row) :
    telling patience notices row = .more (.row row :: notices) := by
  cases patience with
  | none =>
      rfl
  | some told =>
      have enough : bound ≤ told := patient told rfl
      exact if_neg (by omega)

/-- A query tells its caller the features, and then the instances of the cursor one by one. -/
theorem query_tells
    (store : Store) (database : Database) (selection : Selection) (patience : Option ℕ)
    (admitted : Filter.Admitted store.schema selection.filter) :
    Told store database selection patience := by
  rcases Filter.Node.conditionOf_of_admitted admitted with ⟨condition, made⟩
  rcases exists_selectStatement made with ⟨statement, asked⟩
  constructor
  case disconnected =>
    intro disconnected
    simp [query, read, asked, Database.stream_of_disconnected disconnected]
  case connected =>
    intro connected present patient
    rcases exists_readAs_all present with ⟨rows, each⟩
    have adds : ∀ notices row, notices.length < 1 + database.pool.given.1.length →
        telling patience notices row = .more (.row row :: notices) := by
      intro notices row within
      refine telling_of_patient (fun told member => ?_) within row
      have lasts := patient told member
      omega
    have within : [Notice.schema (store.selected selection)].length + rows.length ≤
        1 + database.pool.given.1.length := by
      rw [each.length_eq]
      exact le_rfl
    have consumed := consume_adding each adds within database.pool.given.2
    have streamed := Database.stream_of_connected connected (statement.map Cell.toRaw)
      (onInstance (store.selected selection) (telling patience))
      [.schema (store.selected selection)]
    rw [consumed] at streamed
    rcases streamed with ⟨result, -, told⟩
    refine ⟨rows, each, ?_, ?_⟩
    · simp [query, read, asked, told]
    · simp only [query, read, asked, result]
      cases database.pool.given.2 with
      | none =>
          rfl
      | some fault =>
          cases fault <;> rfl

/-- A query for a name given twice, from a cursor that times out after one row. -/
theorem query_tells_until_timeout :
    let record : Record := [(.text "name", .text "x")]
    let database : Database :=
      { (default : Database) with
        connected := true
        pool :=
          { Pool.empty with
            rows := [record, record], fault := some (.driver "timeout"), failAfter := some 1 } }
    let selection : Selection :=
      { filter := none, order := .null, direction := "asc", skip := none, limit := none
        projection := [0, 7, 0] }
    let name : Feature := ⟨0, "name", .text⟩
    Filter.Admitted names.schema selection.filter ∧
      names.selected selection = [name, name] ∧
      Told .names database selection (some 2) ∧
      (names.query database selection (some 2)).2 =
        [.schema [name, name], .row [.text "x", .text "x"]] ∧
      (names.query database selection (some 2)).1.result = .error (.store "timeout") := by
  intro record database selection name
  have admitted : Filter.Admitted names.schema selection.filter :=
    ⟨.null, 0, Filter.accept_null _ 0⟩
  have selected : names.selected selection = [name, name] := rfl
  have told := query_tells .names database selection (some 2) admitted
  have present : ∀ shown ∈ database.pool.given.1, Presents (names.selected selection) shown := by
    intro shown member
    rw [List.mem_singleton.mp member, selected]
    intro feature projected
    have isName : feature = name := by
      simpa using projected
    exact ⟨.text "x", by rw [isName]; rfl, rfl⟩
  have patient : ∀ told ∈ some 2, database.pool.given.1.length < told := by
    decide
  rcases told.connected rfl present patient with ⟨rows, each, notices, result⟩
  have given : database.pool.given.1 = [record] := rfl
  rw [given, selected] at each
  cases each with
  | cons readAs rest =>
      cases rest
      have made := instanceOf_eq_ok_iff.mpr readAs
      cases made
      exact ⟨admitted, selected, told, notices, result⟩

end Store

end TableSource
