import TableSource.Proofs.Replication.Notices
import TableSource.Proofs.Slices

/-!
# A notice drains the queue

As long as every push succeeds, one notice is enough for all rows that are pending.  The first look
at the flag takes a batch whether there are rows or not, and every delivery that leaves rows behind
sets the flag again.  So the rows go on in slices of the size of a batch, and when the last slice is
delivered, nothing wakes the worker any more.
-/

namespace TableSource.Replication

variable {ρ ο : Type} {endpoint : Endpoint ρ ο}

/-! ## Batches -/

/-- The batches of a number of rows: their slices, or a batch without rows if there are none. -/
inductive Parceled (size : ℕ) : List ρ → List (List ρ) → Prop where
  | empty : Parceled size [] [[]]
  | slices {rows : List ρ} {batches : List (List ρ)}
      (filled : rows ≠ []) (sliced : Sliced size rows batches) : Parceled size rows batches

namespace Parceled

variable {size : ℕ} {rows : List ρ} {batches : List (List ρ)}

/-- Rows that go into one batch are one batch. -/
theorem single
    (positive : 0 < size) (last : rows.drop size = []) :
    Parceled size rows [rows.take size] := by
  cases rows with
  | nil =>
      rw [List.take_nil]
      exact .empty
  | cons row rest =>
      have later : Sliced size ((row :: rest).drop size) [] := by
        rw [last]
        exact .nil size
      exact .slices (List.cons_ne_nil _ _) (.cons positive (List.cons_ne_nil _ _) later)

/-- Of more rows the first go into a batch of their own. -/
theorem cons
    (positive : 0 < size) (more : rows.drop size ≠ [])
    (later : Parceled size (rows.drop size) batches) :
    Parceled size rows (rows.take size :: batches) := by
  have filled : rows ≠ [] := by
    rintro rfl
    exact more List.drop_nil
  generalize behind : rows.drop size = others at more later
  cases later with
  | empty =>
      exact absurd rfl more
  | slices _ sliced =>
      rw [← behind] at sliced
      exact .slices filled (.cons positive filled sliced)

theorem length_eq
    (positive : 0 < size) (parceled : Parceled size rows batches) :
    batches.length = max 1 (rows.length ⌈/⌉ size) := by
  cases parceled with
  | empty =>
      simp
  | slices filled sliced =>
      have nonempty : batches ≠ [] := by
        rintro rfl
        exact filled sliced.whole.symm
      have one : 1 ≤ batches.length := List.length_pos_iff.mpr nonempty
      rw [← sliced.length_eq positive, max_eq_right one]

end Parceled

/-- Batches that are taken one after the other, each pushed once and accepted. -/
inductive Delivered (endpoint : Endpoint ρ ο) (now : Rat) :
    List (List ρ) → List (Event ρ ο) → Prop where
  | done : Delivered endpoint now [] []
  | next {batch : List ρ} {outcome : ο} {rest : List (List ρ)} {events : List (Event ρ ο)}
      (accepts : endpoint.verdict outcome = .accepted)
      (later : Delivered endpoint now rest events) :
      Delivered endpoint now (batch :: rest)
        (.taken batch :: .pushed now batch outcome :: events)

/-! ## One batch -/

/-- Every push of pending rows succeeds. -/
structure Line.Succeeds (endpoint : Endpoint ρ ο) (line : Line ρ ο) : Prop where
  accepted : ∀ outcome ∈ line.script, endpoint.verdict outcome = .accepted
  sendable : ∀ batch, batch <:+: line.queue.pending → endpoint.canSend batch = true

/-- The line when its worker has taken the next batch and delivered it. -/
def Line.forwarded (line : Line ρ ο) : Line ρ ο :=
  { line with queue := line.queue.takeBatch.delivered, script := line.script.tail }

/-- The line when nothing is left to do. -/
def Line.drained (line : Line ρ ο) (batches : ℕ) : Line ρ ο :=
  { line with
    queue := { line.queue with
      pending := [], updateRequired := false, wake := false, worker := .waiting }
    script := line.script.drop batches }

namespace Line

variable {line : Line ρ ο}

theorem Succeeds.head
    (succeeds : line.Succeeds endpoint) :
    endpoint.verdict (line.script.headD endpoint.success) = .accepted := by
  cases script : line.script with
  | nil =>
      exact endpoint.success_accepted
  | cons outcome rest =>
      exact succeeds.accepted outcome (by simp [script])

theorem Succeeds.forwarded
    (succeeds : line.Succeeds endpoint) :
    line.forwarded.Succeeds endpoint where
  accepted := fun outcome member => succeeds.accepted outcome (List.mem_of_mem_tail member)
  sendable := fun batch inside =>
    succeeds.sendable batch (inside.trans (List.drop_suffix _ _).isInfix)

/-- A worker that is awake and has work forwards the next batch. -/
theorem step?_of_succeeds
    (succeeds : line.Succeeds endpoint)
    (waiting : line.queue.worker = .waiting) (awake : line.queue.wake = true)
    (work : line.queue.hasWork = true) :
    step? endpoint line =
      some (line.forwarded,
        [.taken line.queue.nextBatch,
          .pushed line.now line.queue.nextBatch (line.script.headD endpoint.success)]) := by
  have sendable : endpoint.canSend line.queue.nextBatch = true :=
    succeeds.sendable _ (List.take_prefix _ _).isInfix
  have accepted := succeeds.head
  rw [List.headD_eq_head?_getD] at accepted
  simp [step?, waiting, awake, work, deliver, push, sendable, accepted, Queue.judged, forwarded]

/-- Behind the last rows nothing wakes the worker. -/
theorem forwarded_of_last
    (last : line.queue.pending.drop line.queue.batchSize = []) :
    line.forwarded = line.drained 1 := by
  simp [forwarded, drained, Queue.delivered, Queue.takeBatch, last, List.drop_one]

theorem drained_forwarded (line : Line ρ ο) (batches : ℕ) :
    line.forwarded.drained batches = line.drained (batches + 1) := by
  simp [forwarded, drained, Queue.delivered, Queue.takeBatch, List.drop_tail]

theorem drained_settled (endpoint : Endpoint ρ ο) (line : Line ρ ο) (batches : ℕ) :
    (line.drained batches).Settled endpoint := rfl

end Line

/-! ## All batches -/

theorem run_of_settled
    {line : Line ρ ο}
    (settled : line.Settled endpoint) (steps : ℕ) :
    run endpoint steps line = (line, []) := by
  cases steps with
  | zero =>
      rfl
  | succ steps =>
      rw [run, show step? endpoint line = none from settled]

theorem run_succ_of_succeeds
    {line : Line ρ ο}
    (succeeds : line.Succeeds endpoint)
    (waiting : line.queue.worker = .waiting) (awake : line.queue.wake = true)
    (work : line.queue.hasWork = true) (steps : ℕ) :
    run endpoint (steps + 1) line =
      ((run endpoint steps line.forwarded).1,
        .taken line.queue.nextBatch ::
          .pushed line.now line.queue.nextBatch (line.script.headD endpoint.success) ::
            (run endpoint steps line.forwarded).2) := by
  rw [run, line.step?_of_succeeds succeeds waiting awake work]
  rfl

/-- A worker that is awake delivers the pending rows batch by batch. -/
theorem run_drains
    {steps : ℕ} {line : Line ρ ο}
    (succeeds : line.Succeeds endpoint)
    (waiting : line.queue.worker = .waiting) (awake : line.queue.wake = true)
    (work : line.queue.hasWork = true) (enough : line.queue.pending.length < steps) :
    ∃ batches events,
      Parceled line.queue.batchSize line.queue.pending batches ∧
      Delivered endpoint line.now batches events ∧
      run endpoint steps line = (line.drained batches.length, events) := by
  induction steps generalizing line with
  | zero =>
      exact absurd enough (Nat.not_lt_zero _)
  | succ steps induction =>
      rw [run_succ_of_succeeds succeeds waiting awake work]
      have positive := line.queue.batchSize_pos
      by_cases last : line.queue.pending.drop line.queue.batchSize = []
      · rw [line.forwarded_of_last last, run_of_settled (line.drained_settled endpoint 1)]
        exact ⟨[line.queue.nextBatch], _, .single positive last, .next succeeds.head .done, rfl⟩
      · have fewer : line.forwarded.queue.pending.length < steps := by
          have some := List.length_pos_iff.mpr last
          rw [List.length_drop] at some
          show (line.queue.pending.drop line.queue.batchSize).length < steps
          rw [List.length_drop]
          omega
        have awakeAgain : line.forwarded.queue.wake = true := by
          simp [Line.forwarded, Queue.delivered, Queue.takeBatch, last]
        have moreWork : line.forwarded.queue.hasWork = true := by
          simp [Line.forwarded, Queue.delivered, Queue.takeBatch, Queue.hasWork, last]
        rcases induction succeeds.forwarded rfl awakeAgain moreWork fewer with
          ⟨batches, events, parceled, delivered, same⟩
        rw [same, line.drained_forwarded]
        exact ⟨line.queue.nextBatch :: batches, _, .cons positive last parceled,
          .next succeeds.head delivered, rfl⟩

/-! ## One notice -/

/-- What one notice comes to when every push succeeds. -/
structure Drained
    (endpoint : Endpoint ρ ο) (line : Line ρ ο) (batches : List (List ρ))
    (last : Line ρ ο) (events : List (Event ρ ο)) : Prop where
  parceled : Parceled line.queue.batchSize line.queue.pending batches
  number : batches.length = max 1 (line.queue.pending.length ⌈/⌉ line.queue.batchSize)
  delivered : Delivered endpoint line.now batches events
  /-- Nothing is left, and the worker waits for the next notice. -/
  queue : last.queue =
    { line.queue with pending := [], updateRequired := false, wake := false, worker := .waiting }
  script : last.script = line.script.drop batches.length
  now : last.now = line.now
  settled : last.Settled endpoint

/-- A notice to a running worker without a batch in hand pushes all pending rows, in as many batches
as they fill, or a batch without rows if none are pending; then the worker is at rest. -/
theorem notify_drains
    (line : Line ρ ο)
    (running : line.queue.isRunning = true) (idle : line.queue.worker.inFlight = none)
    (succeeds : line.Succeeds endpoint) :
    ∃ batches,
      Drained endpoint line batches (settle endpoint { line with queue := line.queue.notify }).1
        (settle endpoint { line with queue := line.queue.notify }).2 := by
  have waiting := Queue.waiting_of_idle running idle
  have noticed : Line.Succeeds endpoint { line with queue := line.queue.notify } :=
    ⟨succeeds.accepted, succeeds.sendable⟩
  have enough : line.queue.pending.length <
      Line.effort { line with queue := line.queue.notify } := by
    show line.queue.pending.length < line.queue.pending.length + line.script.length + 4
    omega
  rcases run_drains noticed waiting rfl rfl enough with
    ⟨batches, events, parceled, delivered, same⟩
  rw [settle, same]
  exact ⟨batches, parceled, parceled.length_eq line.queue.batchSize_pos, delivered, rfl, rfl, rfl,
    rfl⟩

/-- Five rows go in three batches. -/
theorem notify_drains_five :
    let line : Line ℕ Verdict :=
      { queue :=
          { Queue.empty ℕ 2 (by decide) 5 with pending := [1, 2, 3, 4, 5], worker := .waiting }
        script := [.accepted]
        now := 0 }
    let noticed := settle (Endpoint.plain ℕ) { line with queue := line.queue.notify }
    line.Settled (Endpoint.plain ℕ) ∧ line.queue.isRunning = true ∧
      line.queue.worker.inFlight = none ∧ line.Succeeds (Endpoint.plain ℕ) ∧
      ∃ batches, Drained (Endpoint.plain ℕ) line batches noticed.1 noticed.2 ∧
        batches.length = 3 := by
  intro line noticed
  have succeeds : line.Succeeds (Endpoint.plain ℕ) := by
    constructor
    · intro outcome member
      exact List.mem_singleton.mp member
    · intro batch inside
      rfl
  rcases notify_drains line rfl rfl succeeds with ⟨batches, drained⟩
  exact ⟨rfl, rfl, rfl, succeeds, batches, drained, drained.number.trans (by decide)⟩

end TableSource.Replication
