import TableSource.Proofs.Replication.Pacing
import TableSource.Proofs.Store.Insertion
import TableSource.Source.Session

/-!
# Attempts at a batch

The pushes of a run fall into groups, one for each batch that is taken.  All pushes of a group
carry the batch; each but the last was refused, and the next one comes no earlier than the delay
after the refusal; an accepted push is the last of its group.  The next group begins only when the
batch before was accepted or given up by a stop.

Nothing but a stop ends the worker, and callers never hear of a refusal.
-/

namespace TableSource.Replication

variable {ρ ο : Type}

open History

/-! ## Groups of pushes -/

/-- Nothing is pushed in a part of a history. -/
def History.Pushless (during : List (Entry ρ ο)) : Prop :=
  ∀ time batch outcome, .event (.pushed time batch outcome) ∉ during

/-- The time at which a push with an outcome was refused: at once, or when it was released in the
part of the history after it. -/
inductive RefusedAt
    (endpoint : Endpoint ρ ο) (time : Rat) (outcome : ο) (during : List (Entry ρ ο)) :
    Rat → Prop where
  | atOnce (verdict : endpoint.verdict outcome = .refused) :
      RefusedAt endpoint time outcome during time
  | onRelease {released : Rat} {answer : ο}
      (held : endpoint.verdict outcome = .held)
      (member : .event (.released released answer) ∈ during)
      (verdict : endpoint.verdict answer ≠ .accepted) :
      RefusedAt endpoint time outcome during released

/-- The pushes of one batch, in a part of a history after it was taken in which no other is. -/
structure Attempts
    (endpoint : Endpoint ρ ο) (delay : Rat)
    (batch : List ρ) (during : List (Entry ρ ο)) : Prop where
  carried : ∀ time other outcome,
    .event (.pushed time other outcome) ∈ during →
      other = batch ∧ endpoint.canSend batch = true
  /-- A push that is followed by another was refused, and the delay was kept. -/
  again : ∀ before time outcome between time' outcome' after,
    during = before ++ .event (.pushed time batch outcome) ::
      (between ++ .event (.pushed time' batch outcome') :: after) →
      Pushless between →
        ∃ refused, RefusedAt endpoint time outcome between refused ∧ refused + delay ≤ time'
  /-- After an acceptance there is no push. -/
  last : ∀ before entry after, during = before ++ entry :: after →
    entry.accepts endpoint = true → Pushless after

/-- What the history of a run and the line at its end say about attempts. -/
structure Disciplined
    (endpoint : Endpoint ρ ο) (delay : Rat)
    (history : List (Entry ρ ο)) (last : Line ρ ο) : Prop where
  /-- Before a batch is taken there is no push. -/
  first : ∀ before after, history = before ++ after → batches before = [] → Pushless before
  /-- A batch that can be sent is pushed as soon as it is taken. -/
  offered : ∀ before batch after, history = before ++ .event (.taken batch) :: after →
    endpoint.canSend batch = true →
      ∃ time outcome rest, after = .event (.pushed time batch outcome) :: rest
  attempts : ∀ before batch during after,
    history = before ++ .event (.taken batch) :: (during ++ after) → batches during = [] →
      Attempts endpoint delay batch during
  /-- The next batch is taken when the one before was accepted, or after a stop. -/
  next : ∀ before batch during next after,
    history = before ++ .event (.taken batch) :: (during ++ .event (.taken next) :: after) →
      batches during = [] →
        acceptances endpoint during = 1 ∨
          (acceptances endpoint during = 0 ∧ .move .stop ∈ during)
  /-- Only stops end the worker. -/
  running : last.queue.isRunning = runs false history

namespace Phase

variable {endpoint : Endpoint ρ ο} {delay : Rat}

/-- Without a batch nothing is pushed unless one is taken. -/
theorem Path.pushless_of_free
    {last : Phase ρ} {during : List (Entry ρ ο)}
    (path : Path endpoint .free during last)
    (untaken : batches during = []) :
    Pushless during := by
  induction during with
  | nil =>
      intro time batch outcome member
      cases member
  | cons entry rest induction =>
      cases path with
      | cons step later =>
          cases step with
          | taken =>
              simp at untaken
          | stopped =>
              have others := induction later untaken
              intro time batch outcome member
              exact others time batch outcome (by simpa using member)
          | moved =>
              have others := induction later untaken
              intro time batch outcome member
              exact others time batch outcome (by simpa using member)

theorem pushless_cons
    {entry : Entry ρ ο} {rest : List (Entry ρ ο)} :
    Pushless (entry :: rest) ↔
      (∀ time batch outcome, entry ≠ .event (.pushed time batch outcome)) ∧ Pushless rest := by
  simp only [Pushless, List.mem_cons, not_or, forall_and, ne_comm]

/-- As long as a refused batch is neither pushed nor given up, the time to wait for stays. -/
theorem Path.earliest_of_holding
    {batch next : List ρ} {during : List (Entry ρ ο)}
    (path : Path endpoint (.holding batch) during (.holding next))
    (untaken : batches during = []) (unpushed : Pushless during) (before : Option Rat) :
    earliest endpoint delay before during = before := by
  induction during generalizing before with
  | nil =>
      rfl
  | cons entry rest induction =>
      rw [pushless_cons] at unpushed
      cases path with
      | cons step later =>
          cases step with
          | pushed =>
              exact absurd rfl (unpushed.1 _ _ _)
          | stopped =>
              have free := later.free_of_untaken untaken
              cases free.2
          | moved =>
              exact induction later untaken unpushed.2 before

/-- An open push becomes a refused batch only when it is released, and not accepted. -/
theorem Path.released_of_asking
    (delay : Rat) {batch next : List ρ} {during : List (Entry ρ ο)}
    (path : Path endpoint (.asking batch) during (.holding next))
    (untaken : batches during = []) (unpushed : Pushless during) (before : Option Rat) :
    ∃ time answer, .event (.released time answer) ∈ during ∧
      endpoint.verdict answer ≠ .accepted ∧
      earliest endpoint delay before during = some (time + delay) := by
  induction during generalizing before with
  | nil =>
      cases path
  | cons entry rest induction =>
      rw [pushless_cons] at unpushed
      cases path with
      | cons step later =>
          cases step with
          | accepted =>
              have free := later.free_of_untaken untaken
              cases free.2
          | refused time _ answer verdict =>
              refine ⟨time, answer, List.mem_cons_self, verdict, ?_⟩
              rw [earliest_cons, Entry.earliest, if_neg verdict]
              exact later.earliest_of_holding untaken unpushed.2 _
          | stopped =>
              have free := later.free_of_untaken untaken
              cases free.2
          | moved =>
              rcases induction later untaken unpushed.2 before with
                ⟨time, answer, member, verdict, waits⟩
              exact ⟨time, answer, List.mem_cons_of_mem _ member, verdict, waits⟩

/-- After an acceptance nothing is left to be accepted. -/
theorem Step.free_of_accepts
    {first next : Phase ρ} {entry : Entry ρ ο}
    (step : Step endpoint first entry next)
    (accepts : entry.accepts endpoint = true) :
    next = .free := by
  cases step with
  | pushed time batch outcome =>
      have verdict : endpoint.verdict outcome = .accepted := by
        simpa using accepts
      rw [verdict]
      rfl
  | refused _ _ _ verdict =>
      exact absurd (by simpa using accepts) verdict
  | accepted =>
      rfl
  | stopped =>
      rfl
  | _ =>
      cases accepts

end Phase

/-! ## One group -/

section Group

variable {endpoint : Endpoint ρ ο} {delay : Rat}
variable {batch : List ρ} {during after : List (Entry ρ ο)} {last : Phase ρ}

/-- A batch that is in hand while none is taken is the one that was held first. -/
theorem batch_of_untaken
    {batch next : List ρ} {during : List (Entry ρ ο)}
    (path : Phase.Path endpoint (.holding batch) during (.holding next))
    (untaken : batches during = []) :
    next = batch := by
  have latest := path.latest rfl
  rw [untaken] at latest
  exact (Option.some.inj latest).symm

theorem inTime_of_paced
    {before : Option Rat} {earlier later : List (Entry ρ ο)} {entry : Entry ρ ο}
    (paced : Paced endpoint delay before (earlier ++ entry :: later)) :
    entry.InTime endpoint (earliest endpoint delay before earlier) :=
  (paced_of_append paced).1

theorem carried_of_path
    (path : Phase.Path endpoint (.holding batch) during last)
    (untaken : batches during = [])
    (paced : Paced endpoint delay none (during ++ after))
    {time : Rat} {other : List ρ} {outcome : ο}
    (member : .event (.pushed time other outcome) ∈ during) :
    other = batch ∧ endpoint.canSend batch = true := by
  rcases List.append_of_mem member with ⟨earlier, later, rfl⟩
  rcases Phase.path_append_iff.mp path with ⟨_, before, fromPush⟩
  cases fromPush with
  | cons step _ =>
      cases step with
      | pushed =>
          rw [batches_append, List.append_eq_nil_iff] at untaken
          obtain rfl := batch_of_untaken before untaken.1
          rw [List.append_assoc] at paced
          exact ⟨rfl, (inTime_of_paced paced).1⟩

/-- Between two pushes the first is refused, and the delay goes by. -/
theorem refused_of_path
    {between : List (Entry ρ ο)} {time time' : Rat} {outcome outcome' : ο} {first : Option Rat}
    (path : Phase.Path endpoint (.judged batch (endpoint.verdict outcome)) between
      (.holding batch))
    (untaken : batches between = []) (unpushed : Pushless between)
    (paced : Paced endpoint delay (Entry.earliest endpoint delay first
        (.event (.pushed time batch outcome)))
      (between ++ .event (.pushed time' batch outcome') :: after)) :
    ∃ refused, RefusedAt endpoint time outcome between refused ∧ refused + delay ≤ time' := by
  have inTime := (inTime_of_paced paced).2
  cases verdict : endpoint.verdict outcome with
  | accepted =>
      rw [verdict] at path
      have free := path.free_of_untaken untaken
      cases free.2
  | refused =>
      rw [verdict] at path
      rw [Entry.earliest, if_pos verdict, path.earliest_of_holding untaken unpushed] at inTime
      exact ⟨time, .atOnce verdict, inTime _ rfl⟩
  | held =>
      rw [verdict] at path
      rcases path.released_of_asking delay untaken unpushed
        (Entry.earliest endpoint delay first (.event (.pushed time batch outcome))) with
        ⟨released, answer, member, refused, waits⟩
      rw [waits] at inTime
      exact ⟨released, .onRelease verdict member refused, inTime _ rfl⟩

/-- The pushes from when a batch is taken are attempts at this batch. -/
theorem attempts_of_path
    (path : Phase.Path endpoint (.holding batch) during last)
    (untaken : batches during = [])
    (paced : Paced endpoint delay none (during ++ after)) :
    Attempts endpoint delay batch during where
  carried := fun _ _ _ member => carried_of_path path untaken paced member
  again := by
    rintro before time outcome between time' outcome' later rfl unpushed
    -- the path is split at both pushes, so that what is between them is a path of its own
    rcases Phase.path_append_iff.mp path with ⟨_, _, fromPush⟩
    simp only [batches_append, batches_cons, List.append_eq_nil_iff] at untaken
    simp only [List.append_assoc, List.cons_append] at paced
    have pacedAfter := (paced_of_append paced).2.2
    cases fromPush with
    | cons step rest =>
        cases step with
        | pushed =>
            rcases Phase.path_append_iff.mp rest with ⟨_, during, fromNext⟩
            cases fromNext with
            | cons step _ =>
                cases step with
                | pushed =>
                    exact refused_of_path during untaken.2.2.1 unpushed pacedAfter
  last := by
    rintro before entry later rfl accepts
    rcases Phase.path_append_iff.mp path with ⟨_, _, fromEntry⟩
    simp only [batches_append, batches_cons, List.append_eq_nil_iff] at untaken
    cases fromEntry with
    | cons step rest =>
        obtain rfl := step.free_of_accepts accepts
        exact rest.pushless_of_free untaken.2.2

end Group

/-! ## Whole runs -/

/-- Whatever callers, the clock and the worker do, in whatever order, and whatever the outcomes of
pushes are, the pushes are attempts at one batch after the other. -/
theorem Line.play_disciplined
    (endpoint : Endpoint ρ ο)
    (batchSize : Nat) (batchSize_pos : 0 < batchSize)
    (retryDelay : Rat) (script : List ο) (now : Rat)
    (moves : List (Move ρ ο)) (forward : ∀ move ∈ moves, move.Keeps (· ≤ ·)) :
    let line : Line ρ ο := Line.fresh batchSize batchSize_pos retryDelay script now
    Disciplined endpoint retryDelay (line.play endpoint moves).2 (line.play endpoint moves).1 := by
  intro line
  have path : Phase.Path endpoint .free (line.play endpoint moves).2 _ :=
    (Accounted.of_play endpoint line moves).path
  have conduct := (conduct_kept endpoint).of_play line moves forward
  have paced : Paced endpoint retryDelay none (line.play endpoint moves).2 :=
    (conduct.pace none trivial).1
  constructor
  case first =>
    intro before after same untaken
    rw [same] at path
    rcases Phase.path_append_iff.mp path with ⟨_, fromStart, _⟩
    exact fromStart.pushless_of_free untaken
  case offered =>
    intro before batch after same sendable
    rw [same] at paced
    rcases (paced_of_append paced).2.1 batch rfl sendable with ⟨time, outcome, first⟩
    rcases List.head?_eq_some_iff.mp first with ⟨rest, rfl⟩
    exact ⟨time, outcome, rest, rfl⟩
  case attempts =>
    intro before batch during after same untaken
    rw [same] at path paced
    rcases Phase.path_append_iff.mp path with ⟨_, _, fromTaken⟩
    cases fromTaken with
    | cons step rest =>
        cases step
        rcases Phase.path_append_iff.mp rest with ⟨_, fromBatch, _⟩
        exact attempts_of_path fromBatch untaken (paced_of_append paced).2.2
  case next =>
    intro before batch during next after same untaken
    rw [same] at path
    exact path.closed_before_next untaken
  case running =>
    exact conduct.running

end TableSource.Replication

namespace TableSource

open Replication History

/-! ## Attempts of a source -/

/-- The status of an answer, if the endpoint answers at all. -/
def Remote.Effect.status? : Effect → Option Int
  | .success => some acceptedStatus
  | .status code => some code
  | .unreachable _ | .failure _ | .silence => none

theorem Remote.verdict_eq_accepted_iff (reply : Reply) :
    verdict reply = .accepted ↔ reply.effect.status? = some acceptedStatus := by
  rw [verdict]
  cases reply.effect with
  | status code =>
      by_cases accepted : code = acceptedStatus <;> simp [Effect.status?, accepted]
  | _ =>
      simp [Effect.status?]

/-- The requests of a group have one body, since only rows with a body are sent. -/
theorem Remote.body_of_attempts
    {client : Client} {delay : Rat} {batch : List (List Raw)}
    {during : List (Entry (List Raw) Reply)}
    (attempts : Attempts (endpoint (some client)) delay batch during) :
    ∃ text, ∀ time other reply, .event (.pushed time other reply) ∈ during →
      body other = .ok text := by
  cases made : body batch with
  | ok text =>
      refine ⟨text, fun time other reply member => ?_⟩
      rw [(attempts.carried time other reply member).1]
      exact made
  | error failure =>
      refine ⟨"", fun time other reply member => ?_⟩
      have sendable : client.canSend batch = true := (attempts.carried time other reply member).2
      rw [Client.canSend, made, Bool.and_eq_true] at sendable
      cases sendable.2

/-- However a source replicates, the pushes are attempts at one batch after the other, which end
with the status that accepts rows; the requests of one batch have one body; and callers of the
queue and of insertions get what they get without replication. -/
theorem Source.replication_retries_until_accepted
    (client : Option Remote.Client)
    (batchSize : Nat) (batchSize_pos : 0 < batchSize)
    (retryDelay : Rat) (script : List Remote.Reply) (now : Rat)
    (moves : List (Move (List Raw) Remote.Reply))
    (forward : ∀ move ∈ moves, move.Keeps (· ≤ ·)) :
    let endpoint := Remote.endpoint client
    let line : Line (List Raw) Remote.Reply :=
      Line.fresh batchSize batchSize_pos retryDelay script now
    let last := (line.play endpoint moves).1
    let history := (line.play endpoint moves).2
    Disciplined endpoint retryDelay history last ∧
    (∀ reply, endpoint.verdict reply = .accepted ↔ reply.effect.status? = some 200) ∧
    (client.isSome = true → ∀ before batch during after,
      history = before ++ .event (.taken batch) :: (during ++ after) → batches during = [] →
        ∃ text, ∀ time other reply, .event (.pushed time other reply) ∈ during →
          Remote.body other = .ok text) ∧
    ∀ (session : Session) (rows : List (List Raw)) (settles : Bool),
      let busy := { session with source := { session.source with line := last, client } }
      (busy.execute (.enqueue rows) settles).result = .ok .done ∧
      (busy.execute .notify settles).result = .ok .done ∧
      (busy.execute (.insert rows) settles).result =
        (session.source.store.insert session.source.database rows).result.map
          fun inserted => .number inserted := by
  intro endpoint line last history
  have disciplined : Disciplined endpoint retryDelay history last :=
    Line.play_disciplined endpoint batchSize batchSize_pos retryDelay script now moves forward
  refine ⟨disciplined, Remote.verdict_eq_accepted_iff, ?_, ?_⟩
  · intro some before batch during after same untaken
    have attempts := disciplined.attempts before batch during after same untaken
    cases client with
    | none =>
        cases some
    | some client =>
        exact Remote.body_of_attempts attempts
  · intro session rows settles
    refine ⟨rfl, rfl, ?_⟩
    exact congrArg (Except.map _) (Source.insert_result _ rows)

/-- A run with a status that refuses, a request that does not arrive, and a push that is refused
when it is released. -/
theorem Source.replication_retries_after_refusals :
    let client : Remote.Client := { url := "u", credentials := default, closed := false }
    let reply (effect : Remote.Effect) : Remote.Reply := { effect, label := .null }
    let script := [reply (.status 503), reply (.unreachable "down"), reply .silence]
    let moves : List (Move (List Raw) Remote.Reply) :=
      [.start, .enqueue [[.int 1], [.text "a"]], .notify, .advance 11,
        .release (reply (.status 201)), .advance 5]
    let line : Line (List Raw) Remote.Reply := Line.fresh 1 (by decide) 5 script 0
    let history := (line.play (Remote.endpoint (some client)) moves).2
    (∀ move ∈ moves, move.Keeps (· ≤ ·)) ∧
      acceptances (Remote.endpoint (some client)) history = 2 ∧
      Disciplined (Remote.endpoint (some client)) 5 history
        (line.play (Remote.endpoint (some client)) moves).1 := by
  intro client reply script moves line history
  have forward : ∀ move ∈ moves, move.Keeps (· ≤ ·) := by
    simp only [moves, List.forall_mem_cons]
    exact ⟨trivial, trivial, trivial, Move.keeps_advance (by norm_num), trivial,
      Move.keeps_advance (by norm_num), List.forall_mem_nil _⟩
  exact ⟨forward, by decide +kernel,
    (Source.replication_retries_until_accepted (some client) 1 (by decide) 5 script 0 moves
      forward).1⟩

end TableSource
