import TableSource.Proofs.Http.Streaming
import TableSource.Proofs.Number.WholeText
import TableSource.Proofs.Schema.Projections
import TableSource.Proofs.Statement.Paging

/-!
# Numbers of rows in requests

A request for instances may limit the rows and skip some, each by the text of a parameter.  A text
asks for a number of rows when it spells a whole number that is positive and fits into sixty-four
bits with its sign.  The statement that is issued has a clause for exactly the numbers that are
asked for, and a parameter that asks for none might as well be missing.
-/

namespace TableSource

open Statement

/-- The statement that an event hands to the database. -/
def PoolEvent.statement? {settings : Type} : PoolEvent settings → Option (Statement Raw)
  | .execute statement | .fetch statement | .fetchValue statement | .openCursor statement =>
    some statement
  | _ => none

/-! ## Selections of the same rows -/

namespace Statement

/-- A number that is not positive is left out, like a missing one. -/
theorem rowsClause_filter {α : Type} (words : String) (rows : Option ℤ) :
    (rowsClause words (rows.filter (0 < ·)) : List (Piece α)) = rowsClause words rows := by
  cases rows with
  | none =>
      rfl
  | some count =>
      by_cases positive : 0 < count <;> simp [Option.filter, positive, rowsClause]

end Statement

/-- The selection with the numbers of rows that are positive. -/
def Selection.asked (selection : Selection) : Selection :=
  { selection with
    skip := selection.skip.filter (0 < ·), limit := selection.limit.filter (0 < ·) }

/-- The selection of all rows. -/
def Selection.unpaged (selection : Selection) : Selection :=
  { selection with skip := none, limit := none }

namespace Store

variable {store : Store}

/-- A selection of an admitted filter has a statement, and so has the selection of all rows. -/
theorem exists_pagedSelection
    (selection : Selection) (admitted : Filter.Admitted store.schema selection.filter) :
    ∃ unpaged paged,
      store.selectStatement selection.unpaged = .ok unpaged ∧
      store.selectStatement selection = .ok paged ∧
      unpaged.params = treeBounds selection.filter ∧
      Paged selection.asked.limit selection.asked.skip unpaged paged := by
  let page : Page :=
    { order := store.schema.lookup? selection.order
      descending := Page.isDescending selection.direction
      skip := selection.skip
      limit := selection.limit }
  have ordered : ∀ feature ∈ page.order, feature ∈ store.schema.features :=
    fun feature found => Schema.mem_of_get? (Schema.get?_of_lookup? found)
  have chosen : ∀ feature ∈ store.selected selection, feature ∈ store.schema.features :=
    fun feature member => Schema.mem_of_mem_select member
  exact exists_paged store.table admitted chosen ordered

theorem selectStatement_asked (selection : Selection) :
    store.selectStatement selection.asked = store.selectStatement selection := by
  simp only [selectStatement, select, Selection.asked, rowsClause_filter]
  rfl

theorem read_asked
    {σ : Type} (database : Database) (selection : Selection) (step : σ → Row → Step σ) (state : σ) :
    store.read database selection.asked step state = store.read database selection step state := by
  rw [read, read, selectStatement_asked]
  rfl

/-- A cursor is opened for the statement of a selection, if there is a pool. -/
theorem issued_read
    {σ : Type} {selection : Selection} {statement : Statement Cell}
    (made : store.selectStatement selection = .ok statement)
    (database : Database) (step : σ → Row → Step σ) (state : σ) :
    (store.read database selection step state).1.events.filterMap PoolEvent.statement? =
      if database.connected then [statement.map Cell.toRaw] else [] := by
  have opened (committed : Bool) :
      [PoolEvent.acquire, .begin true, .openCursor (statement.map Cell.toRaw),
        Database.closing committed, .release].filterMap PoolEvent.statement? =
        [statement.map Cell.toRaw] := by
    cases committed <;> rfl
  simp only [read, made]
  cases connected : database.connected with
  | false =>
      rw [Database.stream_of_disconnected connected]
      rfl
  | true =>
      rcases Database.stream_of_connected connected (statement.map Cell.toRaw)
        (onInstance (store.selected selection) step) state with ⟨-, events, -⟩
      rw [events]
      exact opened _

end Store

namespace Http

/-! ## Parameters -/

/-- A request without the parameters that have one of some names. -/
def Request.without (request : Request) (names : List String) : Request :=
  { request with
    parameters := request.parameters.filter fun parameter => !names.contains parameter.1 }

theorem Request.parameter?_without (request : Request) (names : List String) (name : String) :
    (request.without names).parameter? name =
      if name ∈ names then none else request.parameter? name := by
  rw [parameter?, without, ← List.filter_reverse, List.find?_filter, parameter?]
  split
  · next member =>
      rw [Option.map_eq_none_iff, List.find?_eq_none]
      intro parameter _
      by_cases same : parameter.1 = name <;> simp [same, member]
  · next other =>
      congr 2
      funext parameter
      by_cases same : parameter.1 = name <;> simp [same, other]

/-- A parameter asks for a number of rows when its text spells a positive number of sixty-four
bits. -/
def AsksFor (parameter : Option String) (rows : ℤ) : Prop :=
  ∃ text, parameter = some text ∧ Numeral.Spells text.toList rows ∧ 1 ≤ rows ∧ rows ≤ 2 ^ 63 - 1

/-- The number of rows that a parameter asks for, if it does. -/
def rowsOf? (parameter : Option String) : Option ℤ :=
  (integer? parameter).filter (0 < ·)

theorem rowsOf?_eq_some_iff
    {parameter : Option String} {rows : ℤ} :
    rowsOf? parameter = some rows ↔ AsksFor parameter rows := by
  have bounds : (rows.natAbs ≤ maxInteger ∧ 0 < rows) ↔ 1 ≤ rows ∧ rows ≤ 2 ^ 63 - 1 := by
    have most : maxInteger = 2 ^ 63 - 1 := rfl
    rw [most]
    omega
  simp only [rowsOf?, integer?, Option.filter_eq_some_iff, Option.bind_eq_some_iff,
    decide_eq_true_eq, and_assoc, bounds, Numeral.whole?_eq_some_iff, AsksFor]
  constructor
  · rintro ⟨⟨text, given, spells⟩, inRange⟩
    exact ⟨text, given, spells, inRange⟩
  · rintro ⟨text, given, spells, inRange⟩
    exact ⟨⟨text, given, spells⟩, inRange⟩

theorem rowsOf?_eq_none
    {parameter : Option String}
    (nothing : ∀ rows, ¬ AsksFor parameter rows) :
    rowsOf? parameter = none := by
  rw [Option.eq_none_iff_forall_ne_some]
  intro rows found
  exact nothing rows (rowsOf?_eq_some_iff.mp found)

/-! ## Requests for instances -/

/-- The statements that an activity hands to the database. -/
def issued (activity : Activity Response) : List (Statement Raw) :=
  activity.events.filterMap PoolEvent.statement?

section Selecting

variable {source : Source} {request other : Request} {filter : Condition}

theorem filterOf_without
    {names : List String} (unnamed : "filter" ∉ names) :
    filterOf source (request.without names) = filterOf source request := by
  rw [filterOf, filterOf, Request.parameter?_without, if_neg unnamed]

theorem issued_select
    {statement : Statement Cell}
    (found : filterOf source request = .ok filter)
    (made : source.store.selectStatement (selectionOf source request filter) = .ok statement) :
    issued (select source request) =
      if source.database.connected then [statement.map Cell.toRaw] else [] := by
  rw [issued, select, found]
  exact Store.issued_read made _ _ _

/-- Requests that ask for the same rows are answered alike. -/
theorem select_congr
    (found : filterOf source request = .ok filter) (foundOther : filterOf source other = .ok filter)
    (same : (selectionOf source request filter).asked = (selectionOf source other filter).asked) :
    select source request = select source other := by
  have columns : source.store.selected (selectionOf source request filter) =
      source.store.selected (selectionOf source other filter) := by
    have columns := congrArg source.store.selected same
    exact columns
  have read := source.store.read_asked source.database (selectionOf source request filter)
    keeping []
  rw [same, source.store.read_asked] at read
  rw [select, select, found, foundOther]
  dsimp only
  rw [columns, read]

theorem selectionOf_without :
    selectionOf source (request.without ["limit", "skip"]) filter =
      (selectionOf source request filter).unpaged := by
  simp [selectionOf, Selection.unpaged, Request.parameter?_without, integer?]

/-- A parameter that asks for no rows might as well be missing. -/
theorem asked_without
    {name : String} (member : name ∈ ["limit", "skip"])
    (nothing : ∀ rows, ¬ AsksFor (request.parameter? name) rows) :
    (selectionOf source (request.without [name]) filter).asked =
      (selectionOf source request filter).asked := by
  have none_asked : (integer? (request.parameter? name)).filter (0 < ·) = none :=
    rowsOf?_eq_none nothing
  have none_missing : (integer? none).filter (0 < ·) = none := rfl
  rcases List.mem_pair.mp member with rfl | rfl <;>
    simp [Selection.asked, selectionOf, Request.parameter?_without, none_asked, none_missing]

end Selecting

/-- The statement for a request is the one without numbers of rows, which binds the values of the
filter, and behind it a limit and a number of skipped rows, if they are asked for.  A parameter that
asks for no rows changes nothing. -/
theorem paged_statement_is_issued
    (source : Source) (request : Request)
    (method : request.method = "GET")
    (path : withoutLineEnd request.path = "/source/instances")
    (same : source.credentials.Matches (keysOf request)) :
    (∃ filter unpaged paged limit skip,
      filterOf source request = .ok filter ∧
      issued (handle source (request.without ["limit", "skip"])) =
        (if source.database.connected then [unpaged] else []) ∧
      issued (handle source request) =
        (if source.database.connected then [paged] else []) ∧
      (∀ rows, limit = some rows ↔ AsksFor (request.parameter? "limit") rows) ∧
      (∀ rows, skip = some rows ↔ AsksFor (request.parameter? "skip") rows) ∧
      unpaged.params = (treeBounds filter).map (.map Cell.toRaw) ∧
      Paged limit skip unpaged paged) ∧
    ∀ name ∈ ["limit", "skip"], (∀ rows, ¬ AsksFor (request.parameter? name) rows) →
      handle source request = handle source (request.without [name]) := by
  have selecting (names : List String) :
      handle source (request.without names) = select source (request.without names) :=
    handle_of_selecting method path same
  rcases exists_filterOf source request with ⟨filter, found, admitted⟩
  rw [handle_of_selecting method path same]
  constructor
  · rcases Store.exists_pagedSelection (selectionOf source request filter) admitted with
      ⟨unpaged, paged, madeUnpaged, madePaged, bound, pages⟩
    have foundUnpaged : filterOf source (request.without ["limit", "skip"]) = .ok filter := by
      rw [filterOf_without (by decide), found]
    rw [← selectionOf_without] at madeUnpaged
    refine ⟨filter, unpaged.map Cell.toRaw, paged.map Cell.toRaw, _, _, found, ?_,
      issued_select found madePaged, fun rows => rowsOf?_eq_some_iff,
      fun rows => rowsOf?_eq_some_iff, ?_, pages.map Cell.toRaw⟩
    · rw [selecting, issued_select foundUnpaged madeUnpaged]
    · rw [params, Statement.map, Piece.bounds_map, ← params, bound]
      rfl
  · intro name member nothing
    have unnamed : "filter" ∉ [name] := by
      rcases List.mem_pair.mp member with rfl | rfl <;> decide
    rw [selecting]
    exact select_congr found ((filterOf_without unnamed).trans found)
      (asked_without member nothing).symm

/-- A limit with a sign, a blank and an underscore, and no rows to skip. -/
theorem paged_statement_is_issued_for_names :
    let source : Source :=
      { store := .names
        database := { settings := default, connected := true, pool := .empty, connectFault := none }
        line := { queue := .empty (List Raw) 1 (by decide) 5, script := [], now := 0 }
        replicates := false
        client := none
        credentials := { publicKey := some "p", secretKey := some "s" }
        servesDocs := false }
    let request :=
      { nameRequest with method := "GET", parameters := [("limit", " +1_0"), ("skip", "0")] }
    (request.method = "GET" ∧ withoutLineEnd request.path = "/source/instances" ∧
      source.credentials.Matches (keysOf request)) ∧
    (∃ unpaged paged,
      issued (handle source (request.without ["limit", "skip"])) = [unpaged] ∧
      issued (handle source request) = [paged] ∧
      paged.params = unpaged.params ++ [.count 10]) ∧
    handle source request = handle source (request.without ["skip"]) := by
  intro source request
  have path : withoutLineEnd request.path = "/source/instances" := by
    decide +kernel
  have same : source.credentials.Matches (keysOf request) :=
    ⟨by decide, by decide, rfl, rfl⟩
  have limited : AsksFor (request.parameter? "limit") 10 := by
    rw [← rowsOf?_eq_some_iff]
    decide +kernel
  have unskipped : ∀ rows, ¬ AsksFor (request.parameter? "skip") rows := by
    intro rows asks
    rw [← rowsOf?_eq_some_iff] at asks
    have nothing : rowsOf? (request.parameter? "skip") = none := by
      decide +kernel
    rw [nothing] at asks
    cases asks
  rcases paged_statement_is_issued source request rfl path same with
    ⟨⟨filter, unpaged, paged, limit, skip, -, all, some, limits, skips, -, pages⟩, missing⟩
  refine ⟨⟨rfl, path, same⟩, ⟨unpaged, paged, all, some, ?_⟩, missing "skip" (by decide) unskipped⟩
  have noSkip : skip = none := by
    rw [Option.eq_none_iff_forall_ne_some]
    exact fun rows asked => unskipped rows ((skips rows).mp asked)
  rw [pages.supplied, (limits 10).mpr limited, noSkip]
  rfl

end Http

end TableSource
