import TableSource.Proofs.Credentials
import TableSource.Proofs.Store.Insertion
import TableSource.Source.Session

/-!
# The gate of the keys

Six routes need both keys.  A request to one of them is performed exactly when both keys are
configured and the given ones equal them; every other request gets one and the same answer, which
depends neither on what is wrong with its keys nor on anything else in it, and leaves no trace: the
session goes on as if it had only settled.

The exception are configured keys that cannot be encoded.  With them no request is performed, and
every request gets the answer to an unforeseen failure instead, again without a trace.

No operation gives the answer to a refused request itself, so the status alone tells whether a
request has been refused.
-/

namespace TableSource

namespace Http

/-! ## Routes -/

/-- The methods and paths that need keys. -/
def guardedRoutes : List (String × String) :=
  [("GET", "/source/info"), ("POST", "/source/instances"), ("POST", "/source/update"),
    ("GET", "/source/instances/count"), ("GET", "/source/instances"),
    ("GET", "/source/nominal_values")]

/-- A method and a path lead to one route at most. -/
theorem table_functional (servesDocs : Bool) :
    ∀ entry ∈ Route.table servesDocs, ∀ other ∈ Route.table servesDocs,
      entry.1 = other.1 → entry.2.1 = other.2.1 → entry = other := by
  cases servesDocs <;> decide +kernel

theorem mem_routesAt
    {servesDocs : Bool} {path : String} {known : String × Route} :
    known ∈ routesAt servesDocs path ↔
      (known.1, withoutLineEnd path, known.2) ∈ Route.table servesDocs := by
  simp only [routesAt, List.mem_map, List.mem_filter, beq_iff_eq]
  constructor
  · rintro ⟨⟨method, place, route⟩, ⟨member, rfl⟩, rfl⟩
    exact member
  · intro member
    exact ⟨_, ⟨member, rfl⟩, rfl⟩

/-- A request is led by the table of routes alone. -/
theorem destination_eq_route_iff (servesDocs : Bool) (method path : String) (route : Route) :
    destination servesDocs method path = .route route ↔
      (method, withoutLineEnd path, route) ∈ Route.table servesDocs := by
  rw [destination]
  cases found : (routesAt servesDocs path).find? (·.1 == method) with
  | some known =>
      have member := mem_routesAt.mp (List.mem_of_find?_eq_some found)
      have sameMethod : known.1 = method := by
        simpa using List.find?_some found
      rw [sameMethod] at member
      constructor
      · intro same
        cases same
        exact member
      · intro listed
        have same := table_functional servesDocs _ member _ listed rfl rfl
        exact congrArg (Destination.route ·.2.2) same
  | none =>
      rw [List.find?_eq_none] at found
      constructor
      · intro same
        dsimp only at same
        split at same
        · cases same
        · split at same <;> cases same
      · intro listed
        exact absurd (beq_self_eq_true method) (found (method, route) (mem_routesAt.mpr listed))

theorem guarded_of_table (servesDocs : Bool) :
    ((Route.table servesDocs).filter (·.2.2.needsKeys)).map (fun entry => (entry.1, entry.2.1)) =
      guardedRoutes := by
  cases servesDocs <;> decide +kernel

/-- The routes that need keys are the guarded ones, whether the documentation is served or not. -/
theorem mem_guardedRoutes_iff (servesDocs : Bool) (method path : String) :
    (method, withoutLineEnd path) ∈ guardedRoutes ↔
      ∃ route, destination servesDocs method path = .route route ∧ route.needsKeys = true := by
  simp only [destination_eq_route_iff, ← guarded_of_table servesDocs, List.mem_map, List.mem_filter]
  constructor
  · rintro ⟨⟨_, _, route⟩, ⟨member, needs⟩, same⟩
    cases same
    exact ⟨route, member, needs⟩
  · rintro ⟨route, member, needs⟩
    exact ⟨_, ⟨member, needs⟩, rfl⟩

/-! ## Answers -/

theorem unauthorized_eq :
    Response.unauthorized =
      { status := 401, contentType := some "application/json"
        body := "\x7b\"error\":\"unauthorized\"\x7d", aborted := false } := by
  decide +kernel

/-- The answer of a status either has this status or reports an unforeseen failure. -/
theorem json_status (status : Nat) (value : Raw) :
    (Response.json status value).status = status ∨ (Response.json status value).status = 500 := by
  rw [Response.json]
  split
  · exact .inl rfl
  · exact .inr rfl

theorem json_status_ne
    {status : Nat} (value : Raw)
    (other : status ≠ 401) :
    (Response.json status value).status ≠ 401 := by
  rcases json_status status value with same | same <;> rw [same]
  · exact other
  · decide

theorem failed_status_ne (failure : Failure) :
    (failed failure).status ≠ 401 := by
  rw [failed]
  split
  · exact json_status_ne _ (by decide)
  · decide

theorem respond_status_ne {α : Type} (result : Except Failure α) (body : α → Raw) :
    (respond result body).status ≠ 401 := by
  cases result with
  | ok value =>
      exact json_status_ne _ (by decide)
  | error failure =>
      exact failed_status_ne failure

theorem streamed_status_ne
    (features : List Feature) (rows : List Row) (failure? : Option Failure) :
    (streamed features rows failure?).status ≠ 401 := by
  rw [streamed.eq_def]
  split
  · exact failed_status_ne _
  · split
    · exact Nat.ne_of_beq_eq_false rfl
    · decide

/-- No operation answers that a request has no access. -/
theorem perform_status_ne (source : Source) (request : Request) (route : Route) :
    (perform source request route).result.status ≠ 401 := by
  cases route with
  | info =>
      exact respond_status_ne _ _
  | insert =>
      rw [perform, insert]
      split
      · exact json_status_ne _ (by decide)
      · split
        · exact failed_status_ne _
        · exact respond_status_ne _ _
      · exact json_status_ne _ (by decide)
  | update =>
      exact json_status_ne _ (by decide)
  | count =>
      rw [perform, count]
      split
      · exact failed_status_ne _
      · exact respond_status_ne _ _
  | select =>
      rw [perform, select]
      split
      · exact failed_status_ne _
      · exact streamed_status_ne _ _ _
  | nominalValues =>
      rw [perform, nominalValues]
      split
      · exact failed_status_ne _
      · exact respond_status_ne _ _
  | health =>
      simp only [perform, health]
      split
      · exact failed_status_ne _
      · split <;> exact json_status_ne _ (by decide)
  | document contentType =>
      exact Nat.ne_of_beq_eq_false rfl

/-! ## The gate -/

variable {source : Source} {request : Request}

/-- The keys of a request are texts. -/
theorem encodable_keysOf (request : Request) : (keysOf request).Encodable := by
  have text (header : Option String) : Key.Encodable ((header.map Key.ofText).getD "") := by
    cases header with
    | none =>
        exact Key.encodable_ofText ""
    | some key =>
        exact Key.encodable_ofText key
  exact ⟨text _, text _⟩

theorem encodable_of_matches (same : source.credentials.Matches (keysOf request)) :
    source.credentials.Encodable :=
  same.encodable.mpr (encodable_keysOf request)

theorem handle_of_matches
    {route : Route}
    (leads : destination source.servesDocs request.method request.path = .route route)
    (same : source.credentials.Matches (keysOf request)) :
    handle source request = perform source request route := by
  have accepted := (Credentials.accept_eq_ok_true_iff _ _).mpr ⟨same, encodable_of_matches same⟩
  simp [handle, leads, Credentials.require, accepted]

theorem handle_of_not_matches
    {route : Route}
    (leads : destination source.servesDocs request.method request.path = .route route)
    (needs : route.needsKeys = true)
    (differ : ¬ source.credentials.Matches (keysOf request))
    (comparable : source.credentials.Configured → source.credentials.Encodable) :
    handle source request = source.quiet Response.unauthorized := by
  rcases Credentials.accept_cases source.credentials (keysOf request) with
    ⟨-, same, -⟩ | ⟨refused, -⟩ | ⟨-, configured, unencodable⟩
  · exact absurd same differ
  · simp [handle, leads, needs, Credentials.require, refused]
  · exact absurd ⟨comparable configured, encodable_keysOf request⟩ unencodable

/-- With configured keys that cannot be encoded, the comparison breaks off. -/
theorem handle_of_unencodable
    {route : Route}
    (leads : destination source.servesDocs request.method request.path = .route route)
    (needs : route.needsKeys = true)
    (configured : source.credentials.Configured)
    (unencodable : ¬ source.credentials.Encodable) :
    handle source request = source.quiet Response.serverError := by
  rcases Credentials.exists_accept_error configured
    (fun both : _ ∧ (keysOf request).Encodable => unencodable both.1) with ⟨run, failed⟩
  simp [handle, leads, needs, Credentials.require, failed, Http.failed, Failure.isStore]

end Http

/-- A session whose answer to a request is made without doing anything goes on as if it only
settled. -/
theorem Session.execute_of_quiet
    {session : Session} {request : Http.Request} {response : Http.Response}
    (idle : Http.handle session.source.settle.source request =
      session.source.settle.source.quiet response)
    (settles : Bool) :
    (session.execute (.request request) settles).events = [] ∧
      session.execute (.request request) settles =
        { session.execute .settle settles with result := .ok (.response response) } := by
  have settling : session.source.settle.events = [] := rfl
  have executed : session.execute (.request request) settles =
      { session.execute .settle settles with result := .ok (.response response) } := by
    simp [Session.execute, Session.settled, Session.settlesBefore, Session.perform, idle,
      Session.reportDone, Session.report, Source.quiet, settling, Except.map]
  refine ⟨?_, executed⟩
  rw [executed]
  simp [Session.execute, Session.settled, Session.settlesBefore, Session.perform,
    Session.reportDone, Session.report, Source.settle, Source.ofLine]

/-- What the gate does for a request to a guarded route. -/
structure Gated (session : Session) (request : Http.Request) : Prop where
  passes : session.source.credentials.Matches (Http.keysOf request) →
    ∃ route, Http.destination session.source.servesDocs request.method request.path =
        .route route ∧
      Http.handle session.source request = Http.perform session.source request route
  refused : ¬ session.source.credentials.Matches (Http.keysOf request) →
    (session.source.credentials.Configured → session.source.credentials.Encodable) →
    Http.handle session.source request = session.source.quiet Http.Response.unauthorized
  /-- With configured keys that cannot be encoded, every request is answered by a failure. -/
  broken : session.source.credentials.Configured → ¬ session.source.credentials.Encodable →
    ¬ session.source.credentials.Matches (Http.keysOf request) ∧
      Http.handle session.source request = session.source.quiet Http.Response.serverError
  /-- The status tells whether a request has been refused. -/
  status : (Http.handle session.source request).result.status = 401 ↔
    ¬ session.source.credentials.Matches (Http.keysOf request) ∧
      (session.source.credentials.Configured → session.source.credentials.Encodable)
  /-- A request that does not pass leaves no trace: the session goes on as if it only settled. -/
  traceless : ¬ session.source.credentials.Matches (Http.keysOf request) → ∀ settles,
    (session.execute (.request request) settles).events = [] ∧
      session.execute (.request request) settles =
        { session.execute .settle settles with
          result := .ok (.response (Http.handle session.source request).result) }

/-- Keys that can be encoded are accepted exactly when they match, and the comparison fails exactly
when both keys are configured and one of the four cannot be encoded.  A key has the bytes of a text
or is reported with its first run of surrogates.  Every request to a guarded route is held to it in
the same way: it is refused by one answer, or with unencodable keys broken off by another, neither
of which leaves a trace. -/
theorem Session.gate_is_exact
    (session : Session) (request : Http.Request)
    (guarded : (request.method, Http.withoutLineEnd request.path) ∈ Http.guardedRoutes) :
    (∀ expected given : Credentials,
      (expected.accept given = .ok true ↔ expected.Matches given ∧ expected.Encodable) ∧
      ((∃ run, expected.accept given = .error run) ↔
        expected.Configured ∧ ¬ (expected.Encodable ∧ given.Encodable))) ∧
    (∀ key : Key,
      (∀ bytes, key.utf8 = .ok bytes ↔ ∃ text : String, key = text ∧ text.toUTF8 = bytes) ∧
      ∀ run, key.utf8 = .error run ↔ run.FirstIn key.points) ∧
    Http.Response.unauthorized =
      { status := 401, contentType := some "application/json"
        body := "\x7b\"error\":\"unauthorized\"\x7d", aborted := false } ∧
    Gated session request := by
  rcases (Http.mem_guardedRoutes_iff session.source.servesDocs _ _).mp guarded with
    ⟨route, leads, needs⟩
  refine ⟨fun expected given => ⟨Credentials.accept_eq_ok_true_iff expected given,
    Credentials.exists_accept_error_iff expected given⟩,
    fun key => ⟨fun bytes => Key.utf8_eq_ok_iff, fun run => Key.utf8_eq_error_iff⟩,
    Http.unauthorized_eq, ?_⟩
  constructor
  case passes =>
    intro same
    exact ⟨route, leads, Http.handle_of_matches leads same⟩
  case refused =>
    exact Http.handle_of_not_matches leads needs
  case broken =>
    intro configured unencodable
    exact ⟨fun same => unencodable (Http.encodable_of_matches same),
      Http.handle_of_unencodable leads needs configured unencodable⟩
  case status =>
    constructor
    · intro unauthorized
      refine ⟨fun same => ?_, fun configured => ?_⟩
      · rw [Http.handle_of_matches leads same] at unauthorized
        exact Http.perform_status_ne _ _ _ unauthorized
      · by_contra unencodable
        rw [Http.handle_of_unencodable leads needs configured unencodable] at unauthorized
        exact Nat.ne_of_beq_eq_false rfl unauthorized
    · rintro ⟨differ, comparable⟩
      rw [Http.handle_of_not_matches leads needs differ comparable]
      exact congrArg Http.Response.status Http.unauthorized_eq
  case traceless =>
    intro differ
    by_cases comparable :
        session.source.credentials.Configured → session.source.credentials.Encodable
    case pos =>
      rw [Http.handle_of_not_matches leads needs differ comparable]
      exact Session.execute_of_quiet (Http.handle_of_not_matches leads needs differ comparable)
    case neg =>
      rw [Classical.not_imp] at comparable
      rw [Http.handle_of_unencodable leads needs comparable.1 comparable.2]
      exact Session.execute_of_quiet
        (Http.handle_of_unencodable leads needs comparable.1 comparable.2)

/-- A session for names that is guarded by two keys. -/
def Session.guardedBy (publicKey secretKey : Key) : Session where
  source :=
    { store := .names
      database := { settings := default, connected := true, pool := .empty, connectFault := none }
      line := { queue := .empty (List Raw) 1 (by decide) 5, script := [], now := 0 }
      replicates := true
      client := none
      credentials := { publicKey, secretKey }
      servesDocs := true }
  serving := true

/-- A request that has the right secret for one session and a wrong one for the other. -/
theorem Session.gate_is_exact_for_one_secret :
    let session (secret : String) : Session := .guardedBy "p" secret
    let request := Http.nameRequest
    (request.method, Http.withoutLineEnd request.path) ∈ Http.guardedRoutes ∧
      (session "s").source.credentials.Matches (Http.keysOf request) ∧
      Gated (session "s") request ∧
      ¬ (session "other").source.credentials.Matches (Http.keysOf request) ∧
      Gated (session "other") request := by
  intro session request
  have guarded : (request.method, Http.withoutLineEnd request.path) ∈ Http.guardedRoutes := by
    decide +kernel
  refine ⟨guarded, ?_, ((session "s").gate_is_exact request guarded).2.2.2, ?_,
    ((session "other").gate_is_exact request guarded).2.2.2⟩
  · exact ⟨by decide, by decide, rfl, rfl⟩
  · intro same
    exact absurd same.sameSecret (by decide)

/-- With a public key that holds a surrogate, a request without keys is not refused but broken off,
and the comparison of the configured keys with themselves fails. -/
theorem Session.gate_breaks_on_surrogate :
    let stray : Key := { points := [.surrogate 0x4FF] }
    let session : Session := .guardedBy stray "s"
    let request : Http.Request :=
      { method := "GET", path := "/source/info", parameters := [], headers := [], body := [] }
    let run : SurrogateRun := { place := 0, first := 0x4FF, length := 1 }
    (request.method, Http.withoutLineEnd request.path) ∈ Http.guardedRoutes ∧
      ¬ session.source.credentials.Matches (Http.keysOf request) ∧
      (Http.handle session.source request).result = Http.Response.serverError ∧
      Http.Response.serverError ≠ Http.Response.unauthorized ∧
      session.source.credentials.Matches session.source.credentials ∧
      session.source.credentials.accept session.source.credentials = .error run ∧
      run.message =
        "'utf-8' codec can't encode character '\\udcff' in position 0: surrogates not allowed" := by
  refine ⟨by decide +kernel, fun same => absurd same.samePublic (by decide), by decide +kernel,
    by decide +kernel, ⟨by decide, by decide, rfl, rfl⟩, by rfl, by decide +kernel⟩

end TableSource
