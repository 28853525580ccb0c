import TableSource.Http.Service
import TableSource.Proofs.Database.Holding

/-!
# Insertions are all or nothing

An insertion either takes place at the database and at the queue, or at neither of them.  If it
takes place, one statement for each chunk of rows is executed in a transaction that is committed,
and exactly these rows join the pending ones.  If it fails, be it for want of a pool or at any of
its statements, the transaction is rolled back, the connection is released, and the line of
replication stays as it was.

Where an insertion fails is known in advance: the pool raises its fault after a number of
statements, if there are more than that.
-/

namespace TableSource

/-! ## The loop over statements -/

namespace Pool

/-- The fault that a statement is going to raise, with the number of statements before it. -/
def fuse? (pool : Pool) : Option (Fault × Nat) :=
  match pool.fault, pool.failAfter with
  | some fault, none => some (fault, pool.quiet)
  | _, _ => none

/-- The fault that executing a number of statements runs into. -/
def faultWithin? (pool : Pool) (statements : Nat) : Option Fault :=
  match pool.fuse? with
  | some (fault, quiet) => if quiet < statements then some fault else none
  | none => none

/-- The statements of a sequence up to the one that raises the fault. -/
def executed (pool : Pool) (statements : List (Statement Raw)) : List (Statement Raw) :=
  match pool.fuse? with
  | some (_, quiet) => statements.take (quiet + 1)
  | none => statements

variable {pool : Pool} {fault : Fault}

theorem statementFault_of_none
    (safe : pool.fuse? = none) :
    pool.statementFault = (none, pool) := by
  rw [fuse?.eq_def] at safe
  rw [statementFault.eq_def]
  split
  · next raised failAfter _ =>
      rw [raised, failAfter] at safe
      cases safe
  · next raised failAfter _ =>
      rw [raised, failAfter] at safe
      cases safe
  · rfl

theorem statementFault_of_some
    {quiet : Nat}
    (fused : pool.fuse? = some (fault, quiet)) :
    pool.fault = some fault ∧ pool.failAfter = none ∧ pool.quiet = quiet := by
  rw [fuse?.eq_def] at fused
  split at fused
  · next raised failAfter =>
      cases fused
      exact ⟨raised, failAfter, rfl⟩
  · cases fused

/-- Executing statements runs into the fault that is within reach, and into no other. -/
theorem executeAll_spec {settings : Type} (statements : List (Statement Raw)) (pool : Pool) :
    (@executeAll settings statements pool).1 = pool.faultWithin? statements.length ∧
      (@executeAll settings statements pool).2.2 = (pool.executed statements).map .execute := by
  induction statements generalizing pool with
  | nil =>
      cases fused : pool.fuse? with
      | none =>
          simp [executeAll, faultWithin?, executed, fused]
      | some fuse =>
          simp [executeAll, faultWithin?, executed, fused]
  | cons statement rest induction =>
      cases fused : pool.fuse? with
      | none =>
          have later := induction pool
          simp only [faultWithin?, executed, fused] at later
          simp [executeAll, statementFault_of_none fused, faultWithin?, executed, fused, later]
      | some fuse =>
          rcases fuse with ⟨fault, quiet⟩
          rcases statementFault_of_some fused with ⟨raised, failAfter, quietly⟩
          cases quiet with
          | zero =>
              simp [executeAll, statementFault, faultWithin?, executed, fused, raised, failAfter,
                quietly]
          | succ quieter =>
              -- the next pool is one statement closer to the fault
              have later := induction { pool with quiet := quieter }
              have fusedLater : fuse? { pool with quiet := quieter } = some (fault, quieter) := by
                simp [fuse?, raised, failAfter]
              simp only [faultWithin?, executed, fusedLater] at later
              simpa [executeAll, statementFault, faultWithin?, executed, fused, raised, failAfter,
                quietly] using later

end Pool

/-! ## One transaction -/

namespace Database

variable {database : Database} {statements : List (Statement Raw)}

/-- Without a fault within reach the transaction is committed. -/
theorem transact_of_safe
    (connected : database.connected = true)
    (safe : database.pool.faultWithin? statements.length = none) :
    (database.transact statements).result = .ok () ∧
      (database.transact statements).events =
        [.acquire, .begin false] ++ (database.pool.executed statements).map .execute ++
          [.commit, .release] := by
  have execution := @Pool.executeAll_spec DatabaseSettings statements database.pool
  rw [safe] at execution
  rcases transact_of_connected connected statements with ⟨result, events⟩
  rw [result, events, execution.1, execution.2]
  exact ⟨rfl, rfl⟩

/-- A fault within reach is raised, and the transaction is rolled back. -/
theorem transact_of_fault
    {fault : Fault}
    (connected : database.connected = true)
    (faulty : database.pool.faultWithin? statements.length = some fault) :
    (database.transact statements).result = .error fault.raised ∧
      (database.transact statements).events =
        [.acquire, .begin false] ++ (database.pool.executed statements).map .execute ++
          [.rollback, .release] := by
  have execution := @Pool.executeAll_spec DatabaseSettings statements database.pool
  rw [faulty] at execution
  rcases transact_of_connected connected statements with ⟨result, events⟩
  rw [result, events, execution.1, execution.2]
  exact ⟨rfl, rfl⟩

end Database

/-- A pool without a fault within reach executes all statements. -/
theorem Pool.executed_of_safe
    {pool : Pool} {statements : List (Statement Raw)}
    (safe : pool.faultWithin? statements.length = none) :
    pool.executed statements = statements := by
  rw [executed]
  cases fused : pool.fuse? with
  | none =>
      rfl
  | some fuse =>
      rcases fuse with ⟨fault, quiet⟩
      have enough : ¬ quiet < statements.length := by
        simpa [faultWithin?, fused] using safe
      exact List.take_of_length_le (by omega)

/-- A fault is raised by one of the statements, after those before it. -/
theorem Pool.executed_of_fault
    {pool : Pool} {statements : List (Statement Raw)} {fault : Fault}
    (faulty : pool.faultWithin? statements.length = some fault) :
    pool.executed statements = statements.take (pool.quiet + 1) ∧
      pool.quiet < statements.length := by
  rw [executed]
  cases fused : pool.fuse? with
  | none =>
      rw [faultWithin?, fused] at faulty
      cases faulty
  | some fuse =>
      rcases fuse with ⟨raised, quiet⟩
      rw [(statementFault_of_some fused).2.2]
      refine ⟨rfl, ?_⟩
      by_cases within : quiet < statements.length
      · exact within
      · simp [faultWithin?, fused, within] at faulty

/-! ## The two ends of an insertion -/

/-- An insertion that took place, at the database and at the queue. -/
structure Inserted
    (source : Source) (rows : List (List Raw)) (activity : Activity (Except Failure Nat)) :
    Prop where
  result : activity.result = .ok rows.length
  events : activity.events =
    [.acquire, .begin false] ++ (source.store.insertions rows).map .execute ++ [.commit, .release]
  /-- These rows join the pending ones, where rows are replicated, and nothing else changes. -/
  line : activity.source.line =
    if source.replicates then
      { source.line with
        queue := { source.line.queue with pending := source.line.queue.pending ++ rows } }
    else source.line

/-- An insertion that failed and left nothing behind. -/
structure Refused
    (source : Source) (failure : Failure) (activity : Activity (Except Failure Nat)) :
    Prop where
  result : activity.result = .error failure
  uncommitted : .commit ∉ activity.events
  line : activity.source.line = source.line

namespace Source

variable {source : Source} {rows : List (List Raw)}

theorem insert_result (source : Source) (rows : List (List Raw)) :
    (source.insert rows).result = (source.store.insert source.database rows).result := by
  rw [insert]
  split
  · split <;> rfl
  · rfl

theorem insert_events (source : Source) (rows : List (List Raw)) :
    (source.insert rows).events = (source.store.insert source.database rows).events := by
  rw [insert]
  split
  · split <;> rfl
  · rfl

theorem insert_line_of_ok
    {inserted : Nat}
    (made : (source.store.insert source.database rows).result = .ok inserted) :
    (source.insert rows).source.line =
      if source.replicates then { source.line with queue := source.line.queue.enqueue rows }
      else source.line := by
  simp only [insert, ofOutcome, made]
  split <;> rfl

theorem insert_line_of_error
    {failure : Failure}
    (failed : (source.store.insert source.database rows).result = .error failure) :
    (source.insert rows).source.line = source.line := by
  simp only [insert, ofOutcome, failed]

end Source

/-- Rows are inserted by one transaction. -/
theorem Store.insert_of_filled
    {store : Store} {rows : List (List Raw)}
    (filled : rows ≠ []) (database : Database) :
    (store.insert database rows).result =
        (database.transact (store.insertions rows)).result.map (fun _ => rows.length) ∧
      (store.insert database rows).events =
        (database.transact (store.insertions rows)).events := by
  rw [insert, if_neg (by simpa using filled)]
  exact ⟨rfl, rfl⟩

namespace Source

variable {source : Source} {rows : List (List Raw)}

theorem refused_of_disconnected
    (filled : rows ≠ [])
    (disconnected : source.database.connected = false) :
    Refused source Database.notConnected (source.insert rows) ∧
      (source.insert rows).events = [] := by
  rcases source.store.insert_of_filled filled source.database with ⟨result, events⟩
  rw [Database.transact_of_disconnected disconnected] at result events
  have noEvents : (source.insert rows).events = [] := (source.insert_events rows).trans events
  refine ⟨⟨(source.insert_result rows).trans result, ?_, insert_line_of_error result⟩, noEvents⟩
  rw [noEvents]
  exact List.not_mem_nil

theorem inserted_of_safe
    (filled : rows ≠ [])
    (connected : source.database.connected = true)
    (safe : source.database.pool.faultWithin? (source.store.insertions rows).length = none) :
    Inserted source rows (source.insert rows) := by
  rcases source.store.insert_of_filled filled source.database with ⟨result, events⟩
  rcases Database.transact_of_safe connected safe with ⟨committed, executed⟩
  rw [committed] at result
  rw [executed, Pool.executed_of_safe safe] at events
  exact ⟨(source.insert_result rows).trans result, (source.insert_events rows).trans events,
    insert_line_of_ok result⟩

theorem commit_notMem_executions (statements : List (Statement Raw)) :
    (.commit : DatabaseEvent) ∉ statements.map .execute := by
  intro member
  rcases List.mem_map.mp member with ⟨statement, _, execution⟩
  cases execution

theorem refused_of_fault
    {fault : Fault}
    (filled : rows ≠ [])
    (connected : source.database.connected = true)
    (faulty : source.database.pool.faultWithin? (source.store.insertions rows).length =
      some fault) :
    Refused source fault.raised (source.insert rows) ∧
      (source.insert rows).events =
        [.acquire, .begin false] ++
          ((source.store.insertions rows).take (source.database.pool.quiet + 1)).map .execute ++
          [.rollback, .release] := by
  rcases source.store.insert_of_filled filled source.database with ⟨result, events⟩
  rcases Database.transact_of_fault connected faulty with ⟨raised, executed⟩
  rw [raised] at result
  rw [executed, (Pool.executed_of_fault faulty).1] at events
  have allEvents := (source.insert_events rows).trans events
  refine ⟨⟨(source.insert_result rows).trans result, ?_, insert_line_of_error result⟩, allEvents⟩
  rw [allEvents]
  simp only [List.mem_append, List.mem_cons, List.not_mem_nil, reduceCtorEq, false_or, or_false]
  exact commit_notMem_executions _

end Source

/-! ## Insertions over the wire -/

namespace Http

variable {source : Source} {request : Request}

/-- The rows that a request posts, if its body is a list whose values can be read. -/
def postedRows? (source : Source) (request : Request) : Option (List (List Raw)) :=
  match Json.ofBytes? request.body with
  | some (.list values) =>
    (Row.coerceAll source.schema (.list values)).toOption.map fun rows =>
      rows.map (·.map Cell.toRaw)
  | _ => none

theorem insert_of_posted
    {rows : List (List Raw)}
    (posted : postedRows? source request = some rows) :
    insert source request =
      answered (notifyInserted (source.insert rows)) fun inserted =>
        Raw.record [("inserted", .int inserted)] := by
  simp only [postedRows?] at posted
  split at posted
  · next values body =>
      cases read : Row.coerceAll source.schema (.list values) with
      | error failure =>
          rw [read] at posted
          cases posted
      | ok cells =>
          rw [read] at posted
          cases posted
          simp only [insert, body, read]
  · cases posted

theorem insert_of_unposted
    (unposted : postedRows? source request = none) :
    ∃ response, insert source request = source.quiet response := by
  simp only [postedRows?] at unposted
  rw [insert]
  split
  · exact ⟨_, rfl⟩
  · next values body =>
      simp only [body] at unposted
      cases read : Row.coerceAll source.schema (.list values) with
      | error failure =>
          exact ⟨_, rfl⟩
      | ok cells =>
          rw [read] at unposted
          cases unposted
  · exact ⟨_, rfl⟩

theorem destination_instances (servesDocs : Bool) :
    destination servesDocs "POST" "/source/instances" = .route .insert := by
  cases servesDocs with
  | false =>
      decide +kernel
  | true =>
      decide +kernel

theorem handle_of_posting
    (method : request.method = "POST") (path : request.path = "/source/instances")
    (accepted : source.credentials.accept (keysOf request) = .ok true) :
    handle source request = insert source request := by
  simp only [handle, method, path, destination_instances, Credentials.require, accepted]
  rfl

/-- What a request to insert comes to, beside what the insertion does: notice is given of an
insertion that succeeded, and of nothing else. -/
structure Noticed (source : Source) (request : Request) (activity : Activity Response) : Prop where
  events : ∀ rows, postedRows? source request = some rows →
    activity.events = (source.insert rows).events
  made : ∀ rows inserted, postedRows? source request = some rows →
    (source.insert rows).result = .ok inserted →
      activity.result = Response.json 200 (Raw.record [("inserted", .int inserted)]) ∧
        activity.source = (source.insert rows).source.withQueue (·.notify)
  failed : ∀ rows failure, postedRows? source request = some rows →
    (source.insert rows).result = .error failure →
      activity.result = Http.failed failure ∧ activity.source.line = source.line
  unread : postedRows? source request = none →
    activity.events = [] ∧ activity.source = source

theorem noticed_insert (source : Source) (request : Request) :
    Noticed source request (insert source request) where
  events := by
    intro rows posted
    rw [insert_of_posted posted, answered, notifyInserted]
    split <;> rfl
  made := by
    intro rows inserted posted result
    rw [insert_of_posted posted]
    simp only [answered, notifyInserted, result, respond]
    exact ⟨trivial, trivial⟩
  failed := by
    intro rows failure posted result
    rw [insert_of_posted posted]
    simp only [answered, notifyInserted, result, respond]
    rw [Source.insert_result] at result
    exact ⟨trivial, Source.insert_line_of_error result⟩
  unread := by
    intro unposted
    rcases insert_of_unposted unposted with ⟨response, same⟩
    rw [same]
    exact ⟨rfl, rfl⟩

end Http

/-! ## All or nothing -/

/-- Rows are inserted and replicated, or neither: there is no pool, no statement raises a fault, or
the fault of one undoes the others. -/
theorem Source.insert_all_or_nothing
    (source : Source) {rows : List (List Raw)} (filled : rows ≠ []) :
    let fault? := source.database.pool.faultWithin? (source.store.insertions rows).length
    (source.database.connected = false →
      Refused source Database.notConnected (source.insert rows) ∧
        (source.insert rows).events = []) ∧
    (source.database.connected = true → fault? = none →
      Inserted source rows (source.insert rows)) ∧
    (∀ fault, source.database.connected = true → fault? = some fault →
      Refused source fault.raised (source.insert rows) ∧
        (source.insert rows).events =
          [.acquire, .begin false] ++
            ((source.store.insertions rows).take (source.database.pool.quiet + 1)).map .execute ++
            [.rollback, .release]) ∧
    ∀ request : Http.Request, request.method = "POST" → request.path = "/source/instances" →
      source.credentials.accept (Http.keysOf request) = .ok true →
        Http.Noticed source request (Http.handle source request) := by
  intro fault?
  refine ⟨refused_of_disconnected filled, inserted_of_safe filled, ?_, ?_⟩
  · intro fault connected faulty
    exact refused_of_fault filled connected faulty
  · intro request method path accepted
    rw [Http.handle_of_posting method path accepted]
    exact Http.noticed_insert source request

/-- A store of names. -/
def Store.names : Store where
  schema :=
    { features := [⟨0, "name", .text⟩]
      inOrder := by
        rw [Schema.inOrder_cons]
        simp [Schema.InOrder]
      distinct := by
        decide }
  table := "names"

/-- A request that posts a name. -/
def Http.nameRequest : Request where
  method := "POST"
  path := "/source/instances"
  parameters := []
  headers := [("x-public-key", "p"), ("x-secret-key", "s")]
  body := "[\x7b\"name\":\"x\"\x7d]".toList.map fun c => c.val.toUInt8

/-- One row for a database that answers, and for one that times out, to which it is also posted. -/
theorem Source.insert_all_or_nothing_on_timeout :
    let source (fault : Option Fault) : Source :=
      { store := .names
        database :=
          { settings := default
            connected := true
            pool := { Pool.empty with fault }
            connectFault := none }
        line := { queue := .empty (List Raw) 1 (by decide) 5, script := [], now := 0 }
        replicates := true
        client := none
        credentials := { publicKey := some "p", secretKey := some "s" }
        servesDocs := false }
    let rows := [[Raw.text "x"]]
    let slow := source (some (.driver "timeout"))
    rows ≠ [] ∧
      Inserted (source none) rows ((source none).insert rows) ∧
      slow.database.pool.faultWithin? (slow.store.insertions rows).length =
        some (.driver "timeout") ∧
      Refused slow (.store "timeout") (slow.insert rows) ∧
      Http.postedRows? slow Http.nameRequest = some rows ∧
      Http.Noticed slow Http.nameRequest (Http.handle slow Http.nameRequest) := by
  intro source rows slow
  have filled : rows ≠ [] := by decide
  have faulty : slow.database.pool.faultWithin? (slow.store.insertions rows).length =
      some (.driver "timeout") := rfl
  have accepted : slow.credentials.accept (Http.keysOf Http.nameRequest) = .ok true := by rfl
  have posted : Http.postedRows? slow Http.nameRequest = some rows := by
    have read : Json.ofBytes? Http.nameRequest.body =
        some (.list [.mapping [(.text "name", .text "x")]]) := by rfl
    rw [Http.postedRows?, read]
    rfl
  rcases slow.insert_all_or_nothing filled with ⟨-, -, onFault, onRequest⟩
  exact ⟨filled, ((source none).insert_all_or_nothing filled).2.1 rfl rfl, faulty,
    (onFault _ rfl faulty).1, posted, onRequest _ rfl rfl accepted⟩

end TableSource
