import TableSource.Proofs.Slices
import TableSource.Proofs.Statement.Places
import TableSource.Proofs.Store.Insertion

/-!
# Insertions in chunks

A statement binds a limited number of values, so an insertion puts its rows into as many statements
as the limit demands.  Nothing is lost or repeated where one statement ends and the next begins: the
rows of the statements follow one another and make up the inserted rows.  All statements but the
last one have as many rows as the limit admits, and at least one row goes into each.

If a statement fails, those behind it are not executed.
-/

namespace TableSource

namespace Statement

variable {schema : Schema} {rows : List (List Raw)}

/-- An insertion binds the values of its rows, row by row. -/
theorem params_insert (schema : Schema) (table : String) (rows : List (List Raw)) :
    (insert schema table rows).params = rows.flatten.map .value := by
  simp [params, insert, Piece.bounds_separate, List.flatMap_def, List.map_flatten,
    Function.comp_def]

theorem length_params_insert
    (even : ∀ row ∈ rows, row.length = schema.size) (table : String) :
    (insert schema table rows).params.length = rows.length * schema.size := by
  have lengths : rows.map List.length = rows.map fun _ => schema.size :=
    List.map_congr_left even
  rw [params_insert, List.length_map, List.length_flatten, lengths, List.map_const',
    List.sum_replicate_nat]

end Statement

namespace Store

/-! ## Slices of the rows -/

theorem sliced_slices
    {α : Type} {length bound : ℕ} {items : List α}
    (positive : 0 < length) (enough : items.length ≤ bound) :
    Sliced length items (slices length bound items) := by
  induction bound generalizing items with
  | zero =>
      rw [Nat.le_zero, List.length_eq_zero_iff] at enough
      rw [enough]
      exact .nil length
  | succ bound induction =>
      cases items with
      | nil =>
          exact .nil length
      | cons item rest =>
          have fewer : ((item :: rest).drop length).length ≤ bound := by
            rw [List.length_drop]
            omega
          exact .cons positive (List.cons_ne_nil _ _) (induction fewer)

theorem sliced_chunks {α : Type} (schema : Schema) (rows : List α) :
    Sliced (max 1 (32767 / max 1 schema.size)) rows (chunks schema rows) :=
  sliced_slices (Nat.lt_of_lt_of_le Nat.one_pos (le_max_left _ _)) le_rfl

/-- As many rows as go into a statement have no more values than it can bind, unless one row alone
has more. -/
theorem rows_mul_le_of_le
    {size : ℕ}
    (narrow : size ≤ 32767) :
    max 1 (32767 / max 1 size) * size ≤ 32767 := by
  cases size with
  | zero =>
      exact Nat.zero_le _
  | succ others =>
      have some : 1 ≤ 32767 / (others + 1) := (Nat.one_le_div_iff (Nat.succ_pos others)).mpr narrow
      rw [max_eq_right (Nat.le_add_left 1 others), max_eq_right some]
      exact Nat.div_mul_le_self _ _

/-! ## The statements of an insertion -/

/-- The statements that carry rows are insertions of the slices of these rows. -/
structure Chunked
    (store : Store) (rows : List (List Raw)) (slices : List (List (List Raw)))
    (statements : List (Statement Raw)) : Prop where
  sliced : Sliced (max 1 (32767 / max 1 store.schema.size)) rows slices
  inserts : statements = slices.map (Statement.insert store.schema store.table)
  carries : statements.map (·.params) = slices.map fun slice => slice.flatten.map .value
  whole : statements.flatMap (·.params) = rows.flatten.map .value
  bounded : store.schema.size ≤ 32767 → ∀ statement ∈ statements, statement.params.length ≤ 32767
  /-- If one row alone has too many values, no other goes with it. -/
  single : 32767 < store.schema.size → ∀ slice ∈ slices, slice.length = 1

variable {store : Store} {rows : List (List Raw)}

theorem chunked_insertions
    (even : ∀ row ∈ rows, row.length = store.schema.size) :
    Chunked store rows (chunks store.schema rows) (store.insertions rows) := by
  have sliced := sliced_chunks store.schema rows
  have carries : (store.insertions rows).map (·.params) =
      (chunks store.schema rows).map fun slice => slice.flatten.map .value := by
    rw [insertions, List.map_map]
    exact List.map_congr_left fun slice _ => Statement.params_insert _ _ slice
  refine ⟨sliced, rfl, carries, ?whole, ?bounded, ?single⟩
  case whole =>
    calc (store.insertions rows).flatMap (·.params)
        = ((chunks store.schema rows).map fun slice => slice.flatten.map .value).flatten := by
          rw [List.flatMap_def, carries]
      _ = (chunks store.schema rows).flatten.flatten.map .value := by
          rw [List.flatten_flatten, List.map_flatten, List.map_map]
          rfl
      _ = rows.flatten.map .value := by
          rw [sliced.whole]
  case bounded =>
    intro narrow statement member
    rcases List.mem_map.mp member with ⟨slice, isSlice, rfl⟩
    have evenSlice : ∀ row ∈ slice, row.length = store.schema.size := by
      intro row inside
      apply even
      rw [← sliced.whole]
      exact List.mem_flatten.mpr ⟨slice, isSlice, inside⟩
    rw [Statement.length_params_insert evenSlice]
    exact (Nat.mul_le_mul_right _ (sliced.bounded slice isSlice)).trans (rows_mul_le_of_le narrow)
  case single =>
    intro wide slice isSlice
    have bounded := sliced.bounded slice isSlice
    have none : 32767 / max 1 store.schema.size = 0 :=
      Nat.div_eq_of_lt (wide.trans_le (le_max_right _ _))
    rw [none] at bounded
    exact le_antisymm bounded (List.length_pos_iff.mpr (sliced.filled slice isSlice))

/-! ## The statements that are executed -/

/-- The statements that events execute. -/
def executions (events : List DatabaseEvent) : List (Statement Raw) :=
  events.filterMap fun event =>
    match event with
    | .execute statement => some statement
    | _ => none

@[simp]
theorem executions_append (earlier later : List DatabaseEvent) :
    executions (earlier ++ later) = executions earlier ++ executions later :=
  List.filterMap_append

@[simp]
theorem executions_map (statements : List (Statement Raw)) :
    executions (statements.map .execute) = statements := by
  rw [executions, List.filterMap_map]
  exact List.filterMap_some

/-- A transaction executes the statements between its begin and its end. -/
theorem executions_transaction
    {ending : List DatabaseEvent}
    (idle : executions ending = []) (statements : List (Statement Raw)) :
    executions ([.acquire, .begin false] ++ statements.map .execute ++ ending) = statements := by
  rw [executions_append, executions_append, executions_map, idle, List.append_nil]
  rfl

/-- What is executed of the statements of an insertion: all of them, unless one fails. -/
structure Executed
    (store : Store) (database : Database) (rows : List (List Raw))
    (statements : List (Statement Raw)) : Prop where
  first : executions (store.insert database rows).events <+: statements
  all : ∀ inserted, (store.insert database rows).result = .ok inserted →
    executions (store.insert database rows).events = statements
  made : database.connected = true → database.pool.fault = none →
    (store.insert database rows).result = .ok rows.length

theorem executed_insertions (store : Store) (database : Database) (rows : List (List Raw)) :
    Executed store database rows (store.insertions rows) := by
  by_cases filled : rows = []
  · subst filled
    exact ⟨List.nil_prefix, fun _ _ => rfl, fun _ _ => rfl⟩
  rcases store.insert_of_filled filled database with ⟨result, events⟩
  cases connected : database.connected with
  | false =>
      rw [Database.transact_of_disconnected connected] at result events
      constructor
      · rw [events]
        exact List.nil_prefix
      · intro inserted made
        rw [made] at result
        cases result
      · intro connects
        rw [connected] at connects
        cases connects
  | true =>
      cases reached : database.pool.faultWithin? (store.insertions rows).length with
      | none =>
          rcases Database.transact_of_safe connected reached with ⟨committed, executed⟩
          rw [committed] at result
          rw [executed, Pool.executed_of_safe reached] at events
          have all : executions (store.insert database rows).events = store.insertions rows := by
            rw [events]
            exact executions_transaction rfl _
          exact ⟨by rw [all], fun _ _ => all, fun _ _ => result⟩
      | some fault =>
          rcases Database.transact_of_fault connected reached with ⟨raised, executed⟩
          rw [raised] at result
          rw [executed, (Pool.executed_of_fault reached).1] at events
          constructor
          · rw [events, executions_transaction rfl]
            exact List.take_prefix _ _
          · intro inserted made
            rw [made] at result
            cases result
          · intro _ none
            rw [Pool.faultWithin?, Pool.fuse?, none] at reached
            cases reached

/-- The statements that an insertion executes carry the rows in consecutive slices, and none of them
binds too many values as long as one row does not have too many.  An insertion that fails executes
only the first ones. -/
theorem insert_chunks_rows
    (store : Store) (database : Database) {rows : List (List Raw)}
    (even : ∀ row ∈ rows, row.length = store.schema.size) :
    ∃ slices statements,
      Chunked store rows slices statements ∧ Executed store database rows statements :=
  ⟨chunks store.schema rows, store.insertions rows, chunked_insertions even,
    executed_insertions store database rows⟩

/-- More names than a statement can bind go in two statements. -/
theorem insert_chunks_rows_many :
    let database : Database := { (default : Database) with connected := true }
    let rows : List (List Raw) := List.replicate 40000 [.text "x"]
    (∀ row ∈ rows, row.length = Store.names.schema.size) ∧
      (Store.names.insert database rows).result = .ok 40000 ∧
      ∃ slices statements,
        Chunked .names rows slices statements ∧
        executions (Store.names.insert database rows).events = statements ∧
        statements.length = 2 ∧ ∀ slice ∈ slices.dropLast, slice.length = 32767 := by
  intro database rows
  have even : ∀ row ∈ rows, row.length = Store.names.schema.size := by
    intro row member
    rw [List.eq_of_mem_replicate member]
    rfl
  have many : rows.length = 40000 := List.length_replicate
  rcases insert_chunks_rows .names database even with ⟨slices, statements, chunked, executed⟩
  have result := executed.made rfl rfl
  have number := chunked.sliced.length_eq (by decide)
  rw [many] at result number
  refine ⟨even, result, slices, statements, chunked, executed.all _ result, ?_, ?_⟩
  · rw [chunked.inserts, List.length_map, number]
    decide
  · exact chunked.sliced.full

end Store

end TableSource
