import TableSource.Replication.Delivery

/-!
# Histories of a queue

A line is moved by its callers, by the clock and by its worker, in any order.  The history of a
sequence of moves lists every move together with what it made happen.  Histories are all that the
statements about whole runs speak of: which rows were enqueued, which batches were taken, and which
pushes were accepted.

The clock may also go on without anybody looking at it, and the worker may take a single step, so
the histories include those of a busy machine in which a timer is noticed late, and those in which
a caller comes between any two steps of the worker.
-/

namespace TableSource.Replication

variable {ρ ο : Type}

/-! ## Moves -/

/-- Something that callers, the clock or the worker do. -/
inductive Move (ρ ο : Type) where
  | enqueue (rows : List ρ)
  | notify
  | start
  | stop
  | release (outcome : ο)
  /-- Further outcomes are announced. -/
  | extend (outcomes : List ο)
  /-- Time passes, and nothing happens meanwhile. -/
  | pass (seconds : Rat)
  /-- The worker takes one step, if it can take one without time passing. -/
  | work
  | settle
  | advance (seconds : Rat)

/-- Makes a move. -/
def Line.make (endpoint : Endpoint ρ ο) (line : Line ρ ο) :
    Move ρ ο → Line ρ ο × List (Event ρ ο)
  | .enqueue rows => ({ line with queue := line.queue.enqueue rows }, [])
  | .notify => ({ line with queue := line.queue.notify }, [])
  | .start => ({ line with queue := line.queue.start }, [])
  | .stop => ({ line with queue := line.queue.stop }, [])
  | .release outcome => release endpoint line outcome
  | .extend outcomes => ({ line with script := line.script ++ outcomes }, [])
  | .pass seconds => ({ line with now := line.now + seconds }, [])
  | .work => (step? endpoint line).getD (line, [])
  | .settle => TableSource.Replication.settle endpoint line
  | .advance seconds => TableSource.Replication.advance endpoint line seconds

/-! ## Histories -/

/-- An entry of a history. -/
inductive Entry (ρ ο : Type) where
  | move (move : Move ρ ο)
  | event (event : Event ρ ο)

/-- Makes moves in order; the result is the last line and the history. -/
def Line.play (endpoint : Endpoint ρ ο) (line : Line ρ ο) :
    List (Move ρ ο) → Line ρ ο × List (Entry ρ ο)
  | [] => (line, [])
  | move :: rest =>
    let (next, events) := line.make endpoint move
    let (last, later) := next.play endpoint rest
    (last, .move move :: (events.map .event ++ later))

namespace Entry

/-- The rows that an entry enqueues. -/
@[simp]
def rows : Entry ρ ο → List ρ
  | .move (.enqueue rows) => rows
  | _ => []

/-- The batch that the worker takes at an entry. -/
@[simp]
def batch? : Entry ρ ο → Option (List ρ)
  | .event (.taken batch) => some batch
  | _ => none

/-- Whether a push is accepted at an entry, at once or when it is released. -/
@[simp]
def accepts (endpoint : Endpoint ρ ο) : Entry ρ ο → Bool
  | .event (.pushed _ _ outcome) | .event (.released _ outcome) =>
    endpoint.verdict outcome == .accepted
  | _ => false

end Entry

namespace History

/-- All rows that were enqueued, in order. -/
def enqueued (history : List (Entry ρ ο)) : List ρ :=
  history.flatMap Entry.rows

/-- All batches that were taken, in order. -/
def batches (history : List (Entry ρ ο)) : List (List ρ) :=
  history.filterMap Entry.batch?

/-- The number of pushes that were accepted. -/
def acceptances (endpoint : Endpoint ρ ο) (history : List (Entry ρ ο)) : Nat :=
  history.countP (Entry.accepts endpoint)

/-- The batches whose pushes were accepted, in order, once for each accepted push; `latest` is the
batch that was taken last before the history. -/
def accepted (endpoint : Endpoint ρ ο) :
    (latest : Option (List ρ)) → List (Entry ρ ο) → List (List ρ)
  | _, [] => []
  | latest, entry :: rest =>
    let current := entry.batch?.or latest
    (if entry.accepts endpoint then current.toList else []) ++ accepted endpoint current rest

@[simp]
theorem enqueued_nil : enqueued ([] : List (Entry ρ ο)) = [] := rfl

@[simp]
theorem enqueued_cons
    (entry : Entry ρ ο) (rest : List (Entry ρ ο)) :
    enqueued (entry :: rest) = entry.rows ++ enqueued rest := by
  simp [enqueued]

@[simp]
theorem enqueued_append (earlier later : List (Entry ρ ο)) :
    enqueued (earlier ++ later) = enqueued earlier ++ enqueued later := by
  simp [enqueued]

@[simp]
theorem batches_nil : batches ([] : List (Entry ρ ο)) = [] := rfl

@[simp]
theorem batches_cons
    (entry : Entry ρ ο) (rest : List (Entry ρ ο)) :
    batches (entry :: rest) = entry.batch?.toList ++ batches rest := by
  cases taken : entry.batch? with
  | none =>
      rw [batches, List.filterMap_cons_none taken]
      rfl
  | some batch =>
      rw [batches, List.filterMap_cons_some taken]
      rfl

@[simp]
theorem batches_append (earlier later : List (Entry ρ ο)) :
    batches (earlier ++ later) = batches earlier ++ batches later := by
  simp [batches]

@[simp]
theorem acceptances_nil (endpoint : Endpoint ρ ο) :
    acceptances endpoint ([] : List (Entry ρ ο)) = 0 := rfl

theorem acceptances_cons
    (endpoint : Endpoint ρ ο)
    (entry : Entry ρ ο) (rest : List (Entry ρ ο)) :
    acceptances endpoint (entry :: rest) =
      acceptances endpoint rest + if entry.accepts endpoint then 1 else 0 := by
  simp [acceptances, List.countP_cons]

end History

end TableSource.Replication
