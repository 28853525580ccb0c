import TableSource.Proofs.Replication.Conservation
import TableSource.Proofs.Replication.Runs

/-!
# No notice is lost

Notices coalesce in one flag, and the worker clears it when it looks for work.  Nevertheless, when
the worker has come to rest without a batch in hand, it has seen to every notice: no update is
required any more, and every row that was enqueued before a notice has been taken.  The same holds
of stops, since a worker that is started again looks for rows that were left behind.

What carries this through a run is that the flag is set as long as anything is left to see to,
unless a batch is in flight, whose delivery sets the flag again.
-/

namespace TableSource.Replication

variable {ρ ο : Type}

open History

/-! ## The newest rows -/

/-- The rows after an entry that were enqueued since the last notice or stop. -/
def Entry.newest (rows : List ρ) : Entry ρ ο → List ρ
  | .move .notify | .move .stop => []
  | entry => rows ++ entry.rows

/-- The rows after a history that were enqueued since the last notice or stop, where `rows` are
those before it. -/
def History.newest (rows : List ρ) (history : List (Entry ρ ο)) : List ρ :=
  history.foldl Entry.newest rows

@[simp]
theorem newest_cons (rows : List ρ) (entry : Entry ρ ο) (rest : List (Entry ρ ο)) :
    newest rows (entry :: rest) = newest (entry.newest rows) rest := rfl

@[simp]
theorem newest_append (rows : List ρ) (earlier later : List (Entry ρ ο)) :
    newest rows (earlier ++ later) = newest (newest rows earlier) later :=
  List.foldl_append

@[simp]
theorem newest_events (rows : List ρ) (events : List (Event ρ ο)) :
    newest rows (events.map .event) = rows := by
  induction events generalizing rows with
  | nil =>
      rfl
  | cons event rest induction =>
      have unchanged : Entry.newest rows (.event event : Entry ρ ο) = rows := List.append_nil rows
      rw [List.map_cons, newest_cons, unchanged]
      exact induction rows

theorem newest_suffix (rows : List ρ) (history : List (Entry ρ ο)) :
    newest rows history <:+ rows ++ enqueued history := by
  induction history generalizing rows with
  | nil =>
      rw [enqueued_nil, List.append_nil]
      exact List.suffix_refl rows
  | cons entry rest induction =>
      have later := induction (entry.newest rows)
      have fewer : entry.newest rows <:+ rows ++ entry.rows := by
        rw [Entry.newest.eq_def]
        split
        · exact List.nil_suffix
        · exact List.nil_suffix
        · exact List.suffix_refl _
      rw [enqueued_cons, ← List.append_assoc]
      refine later.trans ?_
      rcases fewer with ⟨older, same⟩
      exact ⟨older, by rw [← same, List.append_assoc]⟩

/-- After a notice or a stop only rows that were enqueued later are among the newest. -/
theorem newest_suffix_of_mark
    {mark : Move ρ ο}
    (marks : mark = .notify ∨ mark = .stop)
    (rows : List ρ) (before after : List (Entry ρ ο)) :
    newest rows (before ++ .move mark :: after) <:+ enqueued after := by
  rw [newest_append]
  rcases marks with rfl | rfl
  · exact newest_suffix [] after
  · exact newest_suffix [] after

/-- Entries other than calls that enqueue rows or mark those before leave the newest rows. -/
theorem newest_of_unmarked
    {move : Move ρ ο} {rows : List ρ} (events : List (Event ρ ο))
    (unmarked : move ≠ .notify ∧ move ≠ .stop)
    (noRows : (Entry.move move : Entry ρ ο).rows = []) :
    newest rows (.move move :: events.map .event) = rows := by
  have unchanged : (Entry.move move : Entry ρ ο).newest rows = rows ++ [] := by
    rw [Entry.newest, noRows]
    · simpa using unmarked.1
    · simpa using unmarked.2
  rw [newest_cons, newest_events, unchanged, List.append_nil]

/-! ## The flag -/

/-- While the flag is down no update is required, and unless a batch is in flight only the newest
rows are pending. -/
def Queue.Heeds (queue : Queue ρ) (newest : List ρ) : Prop :=
  queue.wake = false →
    queue.updateRequired = false ∧
      (queue.worker.inFlight = none → queue.pending <:+ newest)

namespace Queue

theorem heeds_of_awake
    {queue : Queue ρ}
    (awake : queue.wake = true) (newest : List ρ) :
    queue.Heeds newest := by
  intro asleep
  rw [awake] at asleep
  cases asleep

/-- After a push either the batch is in flight still, or the flag is set for the rows behind it. -/
theorem heeds_judged
    {queue : Queue ρ}
    (update : queue.wake = false → queue.updateRequired = false)
    (now : Rat) (batch : List ρ) (verdict : Verdict) (newest : List ρ) :
    (queue.judged now batch verdict).Heeds newest := by
  intro asleep
  cases verdict with
  | accepted =>
      simp only [judged, delivered, Bool.or_eq_false_iff, Bool.not_eq_false', List.isEmpty_iff]
        at asleep
      refine ⟨update asleep.1, fun _ => ?_⟩
      rw [show (queue.judged now batch .accepted).pending = queue.pending from rfl, asleep.2]
      exact List.nil_suffix
  | refused =>
      refine ⟨update asleep, fun none => ?_⟩
      cases none
  | held =>
      refine ⟨update asleep, fun none => ?_⟩
      cases none

theorem heeds_of_stepped
    {endpoint : Endpoint ρ ο} {line next : Line ρ ο} {events : List (Event ρ ο)} {newest : List ρ}
    (step : Stepped endpoint line next events)
    (heeds : line.queue.Heeds newest) :
    next.queue.Heeds newest := by
  have update : line.queue.wake = false → line.queue.updateRequired = false :=
    fun asleep => (heeds asleep).1
  cases step with
  | takes =>
      exact heeds_judged (fun _ => rfl) _ _ _ _
  | looksAway _ _ noWork =>
      simp only [hasWork, Bool.or_eq_false_iff, Bool.not_eq_false', List.isEmpty_iff] at noWork
      intro _
      refine ⟨noWork.1, fun _ => ?_⟩
      rw [show line.queue.lookAway.pending = line.queue.pending from rfl, noWork.2]
      exact List.nil_suffix
  | judges =>
      exact heeds_judged update _ _ _ _
  | pushesAgain =>
      exact heeds_judged update _ _ _ _

theorem heeds_enqueue
    {queue : Queue ρ} {newest : List ρ}
    (heeds : queue.Heeds newest) (rows : List ρ) :
    (queue.enqueue rows).Heeds (newest ++ rows) := by
  intro asleep
  rcases heeds asleep with ⟨update, older⟩
  refine ⟨update, fun none => ?_⟩
  rcases older none with ⟨taken, rfl⟩
  exact ⟨taken, (List.append_assoc _ _ _).symm⟩

theorem heeds_start
    {queue : Queue ρ} {newest : List ρ}
    (heeds : queue.Heeds newest) :
    queue.start.Heeds newest := by
  rw [start]
  split
  · next stopped =>
      intro asleep
      rcases heeds asleep with ⟨update, older⟩
      refine ⟨update, fun _ => older ?_⟩
      rw [stopped]
      rfl
  · exact heeds

/-- Another worker that holds a batch as long as this one heeds the same. -/
theorem heeds_of_inFlight
    {queue : Queue ρ} {newest : List ρ} {worker : Worker ρ}
    (heeds : queue.Heeds newest)
    (held : worker.inFlight = none → queue.worker.inFlight = none) :
    Heeds { queue with worker } newest := by
  intro asleep
  rcases heeds asleep with ⟨update, older⟩
  exact ⟨update, fun none => older (held none)⟩

end Queue

theorem heeds_release
    {endpoint : Endpoint ρ ο} {line : Line ρ ο} {newest : List ρ}
    (heeds : line.queue.Heeds newest) (outcome : ο) :
    (release endpoint line outcome).1.queue.Heeds newest := by
  rw [release]
  split
  · next batch pushing =>
      simp only [Queue.answer, pushing]
      exact Queue.heeds_of_inFlight heeds fun none => by cases none
  · exact heeds

/-! ## Whole runs -/

/-- The flag keeps track of the newest rows through every run. -/
theorem heeds_kept (endpoint : Endpoint ρ ο) :
    Kept endpoint (fun _ _ => True) fun line history last =>
      ∀ rows, line.queue.Heeds rows → last.queue.Heeds (newest rows history) where
  forward := fun _ => trivial
  refl := fun _ _ heeds => heeds
  trans := by
    intro line middle last earlier later first second rows heeds
    rw [newest_append]
    exact second _ (first rows heeds)
  step := by
    intro line next events step rows heeds
    rw [newest_events]
    exact Queue.heeds_of_stepped step heeds
  clock := fun _ _ heeds => heeds
  postpone := by
    intro line batch due again resting _ _ rows heeds
    exact Queue.heeds_of_inFlight heeds fun none => by cases none
  call := by
    intro line move isCall rows heeds
    cases move with
    | enqueue added =>
        exact Queue.heeds_enqueue heeds added
    | notify =>
        exact Queue.heeds_of_awake rfl _
    | start =>
        rw [newest_of_unmarked _ (by simp) rfl]
        exact Queue.heeds_start heeds
    | stop =>
        exact Queue.heeds_of_awake rfl _
    | release outcome =>
        rw [newest_of_unmarked _ (by simp) rfl]
        exact heeds_release heeds outcome
    | extend outcomes =>
        rw [newest_of_unmarked _ (by simp) rfl]
        exact heeds
    | _ =>
        cases isCall
  note := by
    intro line move noCall rows heeds
    have unmarked : newest rows [.move move] = rows := by
      cases move with
      | pass | work | settle | advance =>
          exact newest_of_unmarked [] (by simp) rfl
      | _ =>
          cases noCall
    rw [unmarked]
    exact heeds

/-- What the history of a run and the line at its end say about notices and stops. -/
structure Heedful
    (endpoint : Endpoint ρ ο) (history : List (Entry ρ ο)) (last : Line ρ ο) : Prop where
  /-- The line can come to rest. -/
  settles : (settle endpoint last).1.Settled endpoint
  /-- At rest without a batch in hand, a worker that runs has seen to every notice. -/
  update : last.Settled endpoint → last.queue.isRunning = true →
    last.queue.worker.inFlight = none → last.queue.updateRequired = false
  /-- It has also taken all rows that were enqueued before a notice or a stop. -/
  rows : last.Settled endpoint → last.queue.isRunning = true →
    last.queue.worker.inFlight = none →
      ∀ before mark after, history = before ++ .move mark :: after →
        mark = .notify ∨ mark = .stop →
          ∃ taken, (batches history).flatten = enqueued before ++ taken ∧
            enqueued after = taken ++ last.queue.pending
  /-- At rest an update is required only while a batch is in hand or no worker runs. -/
  required : last.Settled endpoint → last.queue.updateRequired = true →
    last.queue.worker.inFlight.isSome = true ∨ last.queue.isRunning = false

/-- A worker that runs without a batch in hand waits. -/
theorem Queue.waiting_of_idle
    {queue : Queue ρ}
    (running : queue.isRunning = true) (idle : queue.worker.inFlight = none) :
    queue.worker = .waiting := by
  cases worker : queue.worker with
  | waiting =>
      rfl
  | stopped =>
      simp [isRunning, worker, Worker.isRunning] at running
  | _ =>
      rw [worker] at idle
      cases idle

/-- A settled worker that runs without a batch in hand waits for the flag. -/
theorem Line.Settled.asleep
    {endpoint : Endpoint ρ ο} {line : Line ρ ο}
    (settled : line.Settled endpoint)
    (running : line.queue.isRunning = true)
    (idle : line.queue.worker.inFlight = none) :
    line.queue.wake = false := by
  rw [Line.Settled, step?, Queue.waiting_of_idle running idle] at settled
  cases awake : line.queue.wake with
  | false =>
      rfl
  | true =>
      simp only [awake, if_true] at settled
      split at settled <;> cases settled

/-- Whatever callers, the clock and the worker do, in whatever order, and whatever the outcomes of
pushes are, no notice is lost. -/
theorem Line.play_heeds_notices
    (endpoint : Endpoint ρ ο)
    (batchSize : Nat) (batchSize_pos : 0 < batchSize)
    (retryDelay : Rat) (script : List ο) (now : Rat)
    (moves : List (Move ρ ο)) :
    let line : Line ρ ο := Line.fresh batchSize batchSize_pos retryDelay script now
    Heedful endpoint (line.play endpoint moves).2 (line.play endpoint moves).1 := by
  intro line
  have fresh : line.queue.Heeds [] := fun _ => ⟨rfl, fun _ => List.nil_suffix⟩
  have heeds := (heeds_kept endpoint).of_play line moves
    (fun move _ => move.keeps_any) [] fresh
  have conserved : enqueued (line.play endpoint moves).2 =
      (batches (line.play endpoint moves).2).flatten ++
        (line.play endpoint moves).1.queue.pending :=
    (Accounted.of_play endpoint line moves).rows
  constructor
  case settles =>
    exact settle_settled endpoint _
  case update =>
    intro settled running idle
    exact (heeds (settled.asleep running idle)).1
  case rows =>
    intro settled running idle before mark after same marks
    have newer := (heeds (settled.asleep running idle)).2 idle
    rw [same] at newer
    -- what is pending was enqueued behind the mark, so everything before it was taken
    rcases newer.trans (newest_suffix_of_mark marks [] before after) with ⟨taken, later⟩
    refine ⟨taken, ?_, later.symm⟩
    have rows : enqueued before ++ enqueued after =
        (batches (line.play endpoint moves).2).flatten ++
          (line.play endpoint moves).1.queue.pending := by
      rw [← conserved, same, enqueued_append, enqueued_cons]
      rcases marks with rfl | rfl <;> rfl
    rw [← later, ← List.append_assoc] at rows
    exact (List.append_cancel_right rows).symm
  case required =>
    intro settled required
    by_contra otherwise
    rw [not_or, Option.not_isSome_iff_eq_none, Bool.not_eq_false] at otherwise
    have seen := (heeds (settled.asleep otherwise.2 otherwise.1)).1
    rw [seen] at required
    cases required

/-- A run in which a notice comes while a push is open, and a stop before the rest is taken. -/
theorem Line.play_heeds_notices_over_stop :
    let line : Line Nat Verdict := Line.fresh 2 (by decide) 5 [.held, .refused, .held] 0
    let moves : List (Move Nat Verdict) :=
      [.enqueue [1, 2, 3], .notify, .start, .settle, .enqueue [4], .notify, .release .refused,
        .advance 11, .stop, .enqueue [5], .start, .settle, .enqueue [6]]
    let last := (line.play (Endpoint.plain Nat) moves).1
    (step? (Endpoint.plain Nat) last).isNone = true ∧ last.queue.isRunning = true ∧
      last.queue.worker.inFlight = none ∧ last.queue.pending = [6] ∧
      Heedful (Endpoint.plain Nat) (line.play (Endpoint.plain Nat) moves).2 last :=
  ⟨by decide +kernel, by decide +kernel, by decide +kernel, by decide +kernel,
    Line.play_heeds_notices (Endpoint.plain Nat) 2 (by decide) 5 [.held, .refused, .held] 0 _⟩

end TableSource.Replication
