import TableSource.Proofs.Database.Balance
import TableSource.Source.Session

/-!
# Transactions of a session

Every command of a session leaves the log of the pool balanced, whatever it does and wherever it
fails.  So the log of a whole session is balanced between any two commands, where nothing is being
read.  If a command has a transaction, it is committed exactly when the block inside was completed:
all its statements succeeded, or all rows of its cursor were read without a failure of the pool, of
the rows or of the caller, and without the reader having had enough before.
-/

namespace TableSource

/-! ## Operations of a store -/

namespace Store

theorem insert_visits (store : Store) (database : Database) (rows : List (List Raw)) :
    Visit (∃ inserted, (store.insert database rows).result = .ok inserted)
      (store.insert database rows).events := by
  by_cases filled : rows = []
  · rw [filled]
    exact .none
  · rcases store.insert_of_filled filled database with ⟨result, events⟩
    rw [events, result]
    refine (database.transact_visits _).congr ?_
    cases (database.transact (store.insertions rows)).result <;> simp [Except.map]

theorem count_visits {completed : Prop} (store : Store) (database : Database)
    (filter : Condition) :
    Visit completed (store.count database filter).events := by
  rw [count]
  split
  · exact .none
  · exact Database.ask_visits rfl

theorem distinctValues_visits {completed : Prop} (store : Store) (database : Database)
    (filter : Condition) (start : String) (index : Raw) :
    Visit completed (store.distinctValues database filter start index).events := by
  rw [distinctValues]
  split
  · exact .none
  · split
    · exact .none
    · split
      · exact .none
      · exact Database.ask_visits rfl

section Reading

variable {σ : Type} {step : σ → Row → Step σ} {going : σ → Prop}

theorem onInstance_tells
    (tells : Tells step going) (features : List Feature) :
    Tells (onInstance features step) going := by
  constructor
  · intro state record next start told
    rw [onInstance] at told
    split at told
    · exact tells.more _ _ _ start told
    · cases told
  · intro state record last start told
    rw [onInstance] at told
    split at told
    · exact tells.enough _ _ _ start told
    · cases told

theorem read_visits
    (tells : Tells step going)
    {state : σ} (start : going state)
    (store : Store) (database : Database) (selection : Selection) :
    Visit
      ((store.read database selection step state).1.result = .ok () ∧
        going (store.read database selection step state).2)
      (store.read database selection step state).1.events := by
  rw [read]
  split
  · exact .none
  · exact Database.stream_visits (onInstance_tells tells _) start _ _

end Reading

theorem collecting_tells (enough : Nat) :
    Tells (collecting enough) fun rows => rows.length < enough := by
  constructor
  · intro rows row next _ told
    rw [collecting] at told
    split at told
    · next short =>
        cases told
        exact short
    · cases told
  · intro rows row last _ told
    rw [collecting] at told
    split at told
    · cases told
    · next long =>
        cases told
        exact long

/-- A reader that collects instances has read all of them if it got fewer than were enough. -/
theorem take_visits (store : Store) (database : Database) (selection : Selection) (enough : Nat) :
    Visit
      (∃ rows, (store.take database selection enough).result = .ok rows ∧ rows.length < enough)
      (store.take database selection enough).events := by
  rw [take]
  split
  · exact .none
  · next some =>
      have start : ([] : List Row).length < enough := Nat.pos_of_ne_zero some
      refine (store.read_visits (collecting_tells enough) start database selection).congr ?_
      dsimp only
      cases (store.read database selection (collecting enough) []).1.result <;> simp [Except.map]

theorem telling_tells (patience : Option Nat) :
    Tells (telling patience) fun _ => True := by
  constructor
  · intros
    trivial
  · intro notices row last _ told
    rw [telling.eq_def] at told
    split at told
    · split at told <;> cases told
    · cases told

theorem query_visits (store : Store) (database : Database) (selection : Selection)
    (patience : Option Nat) :
    Visit ((store.query database selection patience).1.result = .ok ())
      (store.query database selection patience).1.events :=
  (store.read_visits (telling_tells patience) trivial database selection).congr (iff_of_eq (and_true _))

end Store

namespace Source

variable {completed : Prop} {source : Source}

theorem insert_visits (source : Source) (rows : List (List Raw)) :
    Visit (∃ inserted, (source.insert rows).result = .ok inserted) (source.insert rows).events := by
  rw [source.insert_result, source.insert_events]
  exact source.store.insert_visits _ _

theorem start_visits (source : Source) :
    Visit completed source.start.events := by
  have events : source.start.events = source.database.connect.events := by
    simp only [start]
    split <;> rfl
  rw [events]
  exact source.database.connect_visits

theorem stop_visits (source : Source) :
    Visit completed source.stop.events :=
  source.database.disconnect_visits

theorem sendNow_visits (source : Source) (rows : List (List Raw)) :
    Visit completed (source.sendNow rows).events := by
  have events : (source.sendNow rows).events = [] := by
    rw [sendNow]
    split
    · rfl
    · split
      · rfl
      · split <;> rfl
  rw [events]
  exact .none

end Source

/-! ## Requests -/

namespace Http

/-- A request to insert or to select completes its transaction. -/
def Completes (source : Source) (request : Request) : Route → Prop
  | .insert => ∃ rows inserted, postedRows? source request = some rows ∧
      (source.insert rows).result = .ok inserted
  | .select => ∃ filter, filterOf source request = .ok filter ∧
      (source.store.read source.database (selectionOf source request filter) keeping []).1.result =
        .ok ()
  | _ => False

theorem keeping_tells :
    Tells keeping fun _ => True := by
  constructor
  · intros
    trivial
  · intro rows row last _ told
    cases told

theorem insert_visits (source : Source) (request : Request) :
    Visit (Completes source request .insert) (insert source request).events := by
  have noticed := noticed_insert source request
  cases posted : postedRows? source request with
  | none =>
      rw [(noticed.unread posted).1]
      exact .none
  | some rows =>
      rw [noticed.events rows posted]
      refine (source.insert_visits rows).congr ?_
      simp [Completes, posted]

theorem select_visits (source : Source) (request : Request) :
    Visit (Completes source request .select) (select source request).events := by
  rw [select]
  cases accepted : filterOf source request with
  | error failure =>
      exact .none
  | ok filter =>
      refine (source.store.read_visits keeping_tells trivial source.database
        (selectionOf source request filter)).congr ?_
      simp [Completes, accepted]

theorem perform_visits (source : Source) (request : Request) (route : Route) :
    Visit (Completes source request route) (perform source request route).events := by
  cases route with
  | info =>
      exact source.store.count_visits _ _
  | insert =>
      exact insert_visits source request
  | update =>
      exact .none
  | count =>
      rw [perform, count]
      split
      · exact .none
      · exact source.store.count_visits _ _
  | select =>
      exact select_visits source request
  | nominalValues =>
      rw [perform, nominalValues]
      split
      · exact .none
      · exact source.store.distinctValues_visits _ _ _ _
  | health =>
      have events : (health source).events = source.database.check.events := by
        simp only [health]
        split <;> rfl
      rw [perform, events]
      exact source.database.check_visits
  | document contentType =>
      exact .none

theorem handle_visits (source : Source) (request : Request) :
    Visit
      (∃ route, destination source.servesDocs request.method request.path = .route route ∧
        Completes source request route)
      (handle source request).events := by
  rw [handle]
  split
  · exact .none
  · exact .none
  · exact .none
  · next route leads =>
      have performed :
          Visit
            (∃ other, destination source.servesDocs request.method request.path = .route other ∧
              Completes source request other)
            (perform source request route).events := by
        refine (perform_visits source request route).congr ?_
        simp [leads]
      split
      · split
        · exact performed
        · exact .none
        · exact .none
      · exact performed

end Http

/-! ## Commands -/

namespace Session

/-- A command completes its transaction; commands without one complete none. -/
def Completes (session : Session) : Command → Prop
  | .insert rows => ∃ result, (session.perform (.insert rows)).result = .ok result
  | .insertValues values => ∃ result, (session.perform (.insertValues values)).result = .ok result
  | .take filter selection enough => ∃ rows,
      (session.perform (.take filter selection enough)).result = .ok (.rows rows) ∧
        rows.length < enough
  | .query filter selection patience => ∃ notices,
      (session.perform (.query filter selection patience)).result = .ok (.notices notices none)
  | .request request => ∃ route,
      Http.destination session.source.servesDocs request.method request.path = .route route ∧
        Http.Completes session.source request route
  | _ => False

theorem withFilter_visits
    {completed : Prop} {activity : Condition → Report}
    (session : Session) (filter : Raw)
    (visits : ∀ tree, Filter.ofRequest session.source.schema filter = .ok tree →
      Visit completed (activity tree).events) :
    Visit completed (session.withFilter filter activity).events := by
  rw [withFilter]
  split
  · next tree accepted =>
      exact visits tree accepted
  · exact .none

/-- Every command writes one visit at most. -/
theorem perform_visits (session : Session) (command : Command) :
    Visit (session.Completes command) (session.perform command).events := by
  cases command with
  | changePool | selectFeatures | poolStatus | enqueue | notify | startQueue | stopQueue
  | extendScript | release | advance | settle =>
      exact .none
  | insert rows =>
      refine (session.source.insert_visits rows).congr ?_
      rw [Completes, perform, report]
      cases (session.source.insert rows).result <;> simp [Except.map]
  | insertValues values =>
      rw [Completes, perform]
      split
      · next cells read =>
          refine (session.source.insert_visits _).congr ?_
          rw [report]
          cases (session.source.insert (cells.map (·.map Cell.toRaw))).result <;> simp [Except.map]
      · exact .none
  | count filter =>
      exact session.withFilter_visits filter fun tree _ => session.source.store.count_visits _ _
  | distinctValues filter start index =>
      exact session.withFilter_visits filter fun tree _ =>
        session.source.store.distinctValues_visits _ _ _ _
  | take filter selection enough =>
      refine session.withFilter_visits filter fun tree accepted => ?_
      refine (session.source.store.take_visits session.source.database
        { selection with filter := tree } enough).congr ?_
      simp only [Completes, perform, withFilter, accepted, report, Source.ofOutcome]
      cases (session.source.store.take session.source.database
        { selection with filter := tree } enough).result <;> simp [Except.map]
  | query filter selection patience =>
      refine session.withFilter_visits filter fun tree accepted => ?_
      refine (session.source.store.query_visits session.source.database
        { selection with filter := tree } patience).congr ?_
      simp only [Completes, perform, withFilter, accepted, report]
      cases (session.source.store.query session.source.database
        { selection with filter := tree } patience).1.result <;> simp [Except.map]
  | connect =>
      exact session.source.database.connect_visits
  | disconnect =>
      exact session.source.database.disconnect_visits
  | check =>
      exact session.source.database.check_visits
  | start | serve =>
      exact session.source.start_visits
  | stop =>
      exact session.source.stop_visits
  | shutDown =>
      rw [perform]
      split
      · exact session.source.stop_visits
      · exact .none
  | sendNow rows =>
      exact session.source.sendNow_visits rows
  | request request =>
      exact Http.handle_visits session.source request

/-! ## Runs -/

/-- Performs commands one after another, and collects what they write to the log. -/
def play : Session → List (Command × Bool) → Session × List DatabaseEvent
  | session, [] => (session, [])
  | session, (command, settles) :: rest =>
    let report := session.execute command settles
    let (last, events) := report.session.play rest
    (last, report.events ++ events)

/-- The session in which a command is performed. -/
def ready (session : Session) (command : Command) : Session :=
  (session.settled (settlesBefore command)).1

/-- A reader that closes a cursor after the first of two rows has its transaction rolled back. -/
example :
    let database : Database :=
      { settings := default, connected := true, connectFault := none
        pool := { Pool.empty with rows := [[(.text "name", .text "x")], [(.text "name", .text "y")]] } }
    let selection : Selection :=
      { filter := none, order := .null, direction := "asc", skip := none, limit := none
        projection := [] }
    ∃ statement, (Store.names.take database selection 1).events =
      [.acquire, .begin true, .openCursor statement, .rollback, .release] :=
  ⟨_, rfl⟩

end Session

end TableSource
