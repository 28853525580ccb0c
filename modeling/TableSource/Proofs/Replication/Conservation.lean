import TableSource.Proofs.Replication.Phase

/-!
# Conservation of rows

Over a whole run the batches that were taken, followed by the rows that are pending, are exactly
the rows that were enqueued, in order.  Each batch leaves the hand of the worker after exactly one
accepted push, or because the worker is stopped.

Every operation on a line keeps an account of this kind, and accounts of consecutive operations
add up, so a statement about runs needs one account for each kind of move.
-/

namespace TableSource.Replication

variable {ρ ο : Type}

open History

/-! ## What a push does to a queue -/

namespace Queue

@[simp]
theorem judged_pending
    (queue : Queue ρ) (now : Rat) (batch : List ρ) (verdict : Verdict) :
    (queue.judged now batch verdict).pending = queue.pending := by
  cases verdict <;> rfl

@[simp]
theorem judged_batchSize
    (queue : Queue ρ) (now : Rat) (batch : List ρ) (verdict : Verdict) :
    (queue.judged now batch verdict).batchSize = queue.batchSize := by
  cases verdict <;> rfl

@[simp]
theorem judged_phase
    (queue : Queue ρ) (now : Rat) (batch : List ρ) (verdict : Verdict) :
    (queue.judged now batch verdict).worker.phase = .judged batch verdict := by
  cases verdict <;> rfl

/-- Whatever the verdict, the worker keeps no other batch than the one that was pushed. -/
theorem judged_inFlight
    {queue : Queue ρ} {now : Rat} {batch other : List ρ} {verdict : Verdict}
    (held : (queue.judged now batch verdict).worker.inFlight = some other) :
    other = batch := by
  cases verdict with
  | accepted =>
      simp [judged, delivered, Worker.inFlight] at held
  | refused =>
      simpa [judged, refused, Worker.inFlight, eq_comm] using held
  | held =>
      simpa [judged, Worker.inFlight, eq_comm] using held

end Queue

theorem deliver_queue
    (endpoint : Endpoint ρ ο) (line : Line ρ ο) (batch : List ρ) :
    (deliver endpoint line batch).1.queue =
      line.queue.judged line.now batch (push endpoint line batch).verdict := rfl

theorem deliver_events
    (endpoint : Endpoint ρ ο) (line : Line ρ ο) (batch : List ρ) :
    (deliver endpoint line batch).2 = (push endpoint line batch).events := rfl

theorem push_path
    (endpoint : Endpoint ρ ο) (line : Line ρ ο) (batch : List ρ) :
    Phase.Path endpoint (.holding batch) ((push endpoint line batch).events.map .event)
      (.judged batch (push endpoint line batch).verdict) := by
  rw [push]
  split
  · exact Phase.path_single (.pushed _ _ _)
  · exact .nil _

/-- A push neither takes a batch nor enqueues rows. -/
theorem push_untaken
    (endpoint : Endpoint ρ ο) (line : Line ρ ο) (batch : List ρ) :
    batches ((push endpoint line batch).events.map .event) = [] ∧
      enqueued ((push endpoint line batch).events.map .event) = [] := by
  rw [push]
  split <;> simp

/-! ## Accounts -/

/-- What a history that leads from one line to another accounts for. -/
structure Accounted
    (endpoint : Endpoint ρ ο)
    (line : Line ρ ο) (history : List (Entry ρ ο)) (last : Line ρ ο) : Prop where
  path : Phase.Path endpoint line.queue.worker.phase history last.queue.worker.phase
  /-- A batch in flight at the end is the one that was taken last. -/
  latest : ∀ batch, last.queue.worker.inFlight = some batch →
    (line.queue.worker.inFlight.toList ++ batches history).getLast? = some batch
  rows : line.queue.pending ++ enqueued history = (batches history).flatten ++ last.queue.pending
  bounded : ∀ batch ∈ batches history, batch.length ≤ line.queue.batchSize
  batchSize : last.queue.batchSize = line.queue.batchSize

namespace Accounted

variable {endpoint : Endpoint ρ ο}

/-- An account of a change that neither takes nor adds rows nor gives the worker a batch. -/
theorem of_quiet
    {line last : Line ρ ο} {history : List (Entry ρ ο)}
    (path : Phase.Path endpoint line.queue.worker.phase history last.queue.worker.phase)
    (inFlight : ∀ batch, last.queue.worker.inFlight = some batch →
      line.queue.worker.inFlight = some batch)
    (pending : last.queue.pending = line.queue.pending)
    (batchSize : last.queue.batchSize = line.queue.batchSize)
    (untaken : batches history = [])
    (unchanged : enqueued history = []) :
    Accounted endpoint line history last where
  path := path
  latest := by
    intro batch held
    rw [inFlight batch held, untaken]
    rfl
  rows := by
    simp [untaken, unchanged, pending]
  bounded := by
    simp [untaken]
  batchSize := batchSize

theorem refl (line : Line ρ ο) :
    Accounted endpoint line [] line :=
  of_quiet (.nil _) (fun _ held => held) rfl rfl rfl rfl

/-- Accounts of consecutive histories add up. -/
theorem trans
    {line middle last : Line ρ ο} {earlier later : List (Entry ρ ο)}
    (first : Accounted endpoint line earlier middle)
    (second : Accounted endpoint middle later last) :
    Accounted endpoint line (earlier ++ later) last where
  path := Phase.path_append_iff.mpr ⟨_, first.path, second.path⟩
  latest := by
    intro batch held
    have fromMiddle := second.latest batch held
    rw [List.getLast?_append] at fromMiddle
    rw [batches_append, ← List.append_assoc, List.getLast?_append]
    -- the batch was taken later, or it was in flight in the middle already
    cases taken : (batches later).getLast? with
    | some other =>
        rw [taken] at fromMiddle
        exact fromMiddle
    | none =>
        rw [taken, Option.none_or] at fromMiddle
        rw [Option.none_or]
        apply first.latest
        cases inMiddle : middle.queue.worker.inFlight with
        | none => simp [inMiddle] at fromMiddle
        | some other => simpa [inMiddle] using fromMiddle
  rows := by
    calc line.queue.pending ++ enqueued (earlier ++ later)
        = (line.queue.pending ++ enqueued earlier) ++ enqueued later := by
          rw [enqueued_append, List.append_assoc]
      _ = (batches earlier).flatten ++ (middle.queue.pending ++ enqueued later) := by
          rw [first.rows, List.append_assoc]
      _ = (batches (earlier ++ later)).flatten ++ last.queue.pending := by
          rw [second.rows, batches_append, List.flatten_append, List.append_assoc]
  bounded := by
    intro batch taken
    rw [batches_append, List.mem_append] at taken
    rcases taken with taken | taken
    · exact first.bounded batch taken
    · exact first.batchSize ▸ second.bounded batch taken
  batchSize := second.batchSize.trans first.batchSize

/-! ## Accounts of the worker -/

/-- Pushing the batch in hand once more. -/
theorem of_retry
    {line : Line ρ ο} {batch : List ρ} {due : Rat}
    (resting : line.queue.worker = .resting batch due) :
    Accounted endpoint line ((deliver endpoint line batch).2.map .event)
      (deliver endpoint line batch).1 := by
  rcases push_untaken endpoint line batch with ⟨untaken, unchanged⟩
  rw [deliver_events]
  refine of_quiet ?path ?inFlight ?pending ?batchSize untaken unchanged
  case path =>
    rw [resting, deliver_queue, Queue.judged_phase]
    exact push_path endpoint line batch
  case inFlight =>
    intro other held
    obtain rfl := Queue.judged_inFlight held
    rw [resting]
    rfl
  case pending =>
    rw [deliver_queue, Queue.judged_pending]
  case batchSize =>
    rw [deliver_queue, Queue.judged_batchSize]

/-- Taking the next batch and pushing it. -/
theorem of_take
    {line : Line ρ ο}
    (waiting : line.queue.worker = .waiting) :
    Accounted endpoint line
      (.event (.taken line.queue.nextBatch) ::
        (deliver endpoint { line with queue := line.queue.takeBatch }
          line.queue.nextBatch).2.map .event)
      (deliver endpoint { line with queue := line.queue.takeBatch } line.queue.nextBatch).1 := by
  obtain ⟨untaken, unchanged⟩ :=
    push_untaken endpoint { line with queue := line.queue.takeBatch } line.queue.nextBatch
  constructor
  case path =>
    rw [waiting, deliver_queue, Queue.judged_phase, deliver_events]
    exact .cons (.taken _) (push_path endpoint _ _)
  case latest =>
    intro other held
    obtain rfl := Queue.judged_inFlight held
    rw [waiting, deliver_events, batches_cons, untaken]
    rfl
  case rows =>
    rw [deliver_events, deliver_queue, Queue.judged_pending, enqueued_cons, unchanged,
      batches_cons, untaken]
    simp [Queue.takeBatch, Queue.nextBatch]
  case bounded =>
    intro batch member
    rw [deliver_events, batches_cons, untaken] at member
    obtain rfl : batch = line.queue.nextBatch := by simpa using member
    exact List.length_take_le _ _
  case batchSize =>
    rw [deliver_queue, Queue.judged_batchSize]
    rfl

/-- Every step of the worker has an account. -/
theorem of_step
    {line next : Line ρ ο} {events : List (Event ρ ο)}
    (step : step? endpoint line = some (next, events)) :
    Accounted endpoint line (events.map .event) next := by
  rw [step?] at step
  split at step
  case h_1 waiting =>
    split at step
    · split at step
      · cases step
        exact of_take waiting
      · cases step
        exact of_quiet (.nil _) (fun _ held => held) rfl rfl rfl rfl
    · cases step
  case h_2 batch accepted answered =>
    cases step
    refine of_quiet ?_ ?_ ?_ ?_ rfl rfl
    · rw [answered, Queue.judged_phase]
      cases accepted <;> exact .nil _
    · intro other held
      obtain rfl := Queue.judged_inFlight held
      rw [answered]
      rfl
    · exact Queue.judged_pending _ _ _ _
    · exact Queue.judged_batchSize _ _ _ _
  case h_3 batch due resting =>
    split at step
    · cases step
    · cases step
      exact of_retry resting
  case h_4 =>
    cases step

theorem of_run (steps : Nat) (line : Line ρ ο) :
    Accounted endpoint line ((run endpoint steps line).2.map .event)
      (run endpoint steps line).1 := by
  induction steps generalizing line with
  | zero =>
      exact refl line
  | succ steps induction =>
      rw [run]
      split
      · exact refl line
      · next next events step =>
          simpa using (of_step step).trans (induction next)

theorem of_settle (endpoint : Endpoint ρ ο) (line : Line ρ ο) :
    Accounted endpoint line ((settle endpoint line).2.map .event) (settle endpoint line).1 :=
  of_run _ line

/-! ## Accounts of the clock -/

/-- Only the queues of the lines at the two ends matter. -/
theorem of_queues
    {line last line' last' : Line ρ ο} {history : List (Entry ρ ο)}
    (account : Accounted endpoint line history last)
    (first : line'.queue = line.queue)
    (second : last'.queue = last.queue) :
    Accounted endpoint line' history last' where
  path := first ▸ second ▸ account.path
  latest := first ▸ second ▸ account.latest
  rows := first ▸ second ▸ account.rows
  bounded := first ▸ account.bounded
  batchSize := first ▸ second ▸ account.batchSize

theorem of_ring (target : Rat) (times : Nat) (line : Line ρ ο) :
    Accounted endpoint line ((ring endpoint target times line).2.map .event)
      (ring endpoint target times line).1 := by
  induction times generalizing line with
  | zero =>
      exact refl line
  | succ times induction =>
      rw [ring]
      split
      case h_1 batch due resting =>
        split
        · exact refl line
        · split
          · have settled := of_settle endpoint { line with now := due }
            have both := settled.trans (induction _)
            rw [← List.map_append] at both
            exact both.of_queues rfl rfl
          · refine of_quiet ?_ ?_ rfl rfl rfl rfl
            · rw [resting]
              exact .nil _
            · intro other held
              rw [resting]
              exact held
      case h_2 =>
        exact refl line

theorem of_advance (line : Line ρ ο) (seconds : Rat) :
    Accounted endpoint line ((advance endpoint line seconds).2.map .event)
      (advance endpoint line seconds).1 := by
  rw [advance]
  have settled := of_settle endpoint line
  have both := settled.trans (of_ring (line.now + seconds)
    ((settle endpoint line).1.script.length + 2) (settle endpoint line).1)
  rw [← List.map_append] at both
  exact both.of_queues rfl rfl

/-! ## Accounts of moves -/

/-- A move other than a stop that leaves the queue as it is. -/
theorem of_idle
    {line last : Line ρ ο} {move : Move ρ ο}
    (other : move ≠ .stop)
    (unchanged : Entry.rows (.move move : Entry ρ ο) = [])
    (same : last.queue = line.queue) :
    Accounted endpoint line [.move move] last := by
  refine of_quiet ?_ ?_ ?_ ?_ rfl (by simpa using unchanged)
  · rw [same]
    exact Phase.path_single (.moved _ move other)
  · rw [same]
    exact fun _ held => held
  · rw [same]
  · rw [same]

theorem of_enqueue (line : Line ρ ο) (rows : List ρ) :
    Accounted endpoint line [.move (.enqueue rows)]
      { line with queue := line.queue.enqueue rows } where
  path := Phase.path_single (.moved _ _ (by simp))
  latest := by
    intro batch held
    rw [show line.queue.worker.inFlight = some batch from held]
    rfl
  rows := by
    simp [Queue.enqueue]
  bounded := by
    simp
  batchSize := rfl

theorem of_start (line : Line ρ ο) :
    Accounted endpoint line [.move .start] { line with queue := line.queue.start } := by
  rw [Queue.start]
  split
  case h_1 stopped =>
    refine of_quiet ?_ ?_ rfl rfl rfl rfl
    · rw [stopped]
      exact Phase.path_single (.moved _ _ (by simp))
    · intro batch held
      cases held
  case h_2 =>
    exact of_idle (by simp) rfl rfl

theorem of_stop (line : Line ρ ο) :
    Accounted endpoint line [.move .stop] { line with queue := line.queue.stop } := by
  refine of_quiet ?_ ?_ rfl rfl rfl rfl
  · exact Phase.path_single (.stopped _)
  · intro batch held
    cases held

theorem of_release (line : Line ρ ο) (outcome : ο) :
    Accounted endpoint line
      (.move (.release outcome) :: (release endpoint line outcome).2.map .event)
      (release endpoint line outcome).1 := by
  rw [release]
  split
  case h_1 batch pushing =>
    refine of_quiet ?_ ?_ ?_ ?_ rfl rfl
    · rw [pushing]
      refine .cons (.moved _ _ (by simp)) (Phase.path_single ?_)
      by_cases verdict : endpoint.verdict outcome = .accepted
      · simpa [Queue.answer, pushing, verdict, Worker.phase] using
          Phase.Step.accepted line.now batch outcome verdict
      · have refused : (endpoint.verdict outcome == .accepted) = false := by
          simpa using verdict
        simpa [Queue.answer, pushing, refused, Worker.phase] using
          Phase.Step.refused line.now batch outcome verdict
    · intro other held
      simpa [Queue.answer, pushing, Worker.inFlight] using held
    · simp [Queue.answer, pushing]
    · simp [Queue.answer, pushing]
  case h_2 =>
    exact of_idle (by simp) rfl rfl

/-- Every move has an account. -/
theorem of_make (line : Line ρ ο) (move : Move ρ ο) :
    Accounted endpoint line
      (.move move :: (line.make endpoint move).2.map .event) (line.make endpoint move).1 := by
  cases move with
  | enqueue rows =>
      exact of_enqueue line rows
  | notify =>
      exact of_quiet (Phase.path_single (.moved _ _ (by simp))) (fun _ held => held) rfl rfl rfl rfl
  | start =>
      exact of_start line
  | stop =>
      exact of_stop line
  | release outcome =>
      exact of_release line outcome
  | extend outcomes =>
      exact of_idle (by simp) rfl rfl
  | pass seconds =>
      exact of_idle (by simp) rfl rfl
  | work =>
      have idle : Accounted endpoint line [.move .work] line := of_idle (by simp) rfl rfl
      simp only [Line.make]
      cases step : step? endpoint line with
      | none =>
          exact idle
      | some result =>
          exact idle.trans (of_step step)
  | settle =>
      have idle : Accounted endpoint line [.move .settle] line := of_idle (by simp) rfl rfl
      exact idle.trans (of_settle endpoint line)
  | advance seconds =>
      have idle : Accounted endpoint line [.move (.advance seconds)] line :=
        of_idle (by simp) rfl rfl
      exact idle.trans (of_advance line seconds)

/-- Every sequence of moves has an account. -/
theorem of_play
    (endpoint : Endpoint ρ ο) (line : Line ρ ο) (moves : List (Move ρ ο)) :
    Accounted endpoint line (line.play endpoint moves).2 (line.play endpoint moves).1 := by
  induction moves generalizing line with
  | nil =>
      exact refl line
  | cons move rest induction =>
      exact (of_make line move).trans (induction (line.make endpoint move).1)

end Accounted

/-! ## Whole runs -/

/-- A line at the beginning: nothing was enqueued, and the worker has not been started. -/
def Line.fresh
    (batchSize : Nat) (batchSize_pos : 0 < batchSize)
    (retryDelay : Rat) (script : List ο) (now : Rat) : Line ρ ο :=
  { queue := Queue.empty ρ batchSize batchSize_pos retryDelay, script, now }

/-- What the history of a whole run and the line at its end say about each other: no row is lost,
doubled or moved, and every batch is delivered unless it was given up by a stop. -/
structure Conserved
    (endpoint : Endpoint ρ ο) (batchSize : Nat)
    (history : List (Entry ρ ο)) (last : Line ρ ο) : Prop where
  /-- The enqueued rows are those of the batches, followed by those that are pending. -/
  rows : enqueued history = (batches history).flatten ++ last.queue.pending
  bounded : ∀ batch ∈ batches history, batch.length ≤ batchSize
  /-- A push carries the batch that was taken last before it. -/
  pushes : ∀ before time batch outcome after,
    history = before ++ .event (.pushed time batch outcome) :: after →
      (batches before).getLast? = some batch
  /-- Only the batch that was taken last can be in flight. -/
  inFlight : ∀ batch, last.queue.worker.inFlight = some batch →
    (batches history).getLast? = some batch
  /-- Before the next batch is taken, a batch is accepted by exactly one push, or else the worker
  is stopped while no push of it has been accepted. -/
  closed : ∀ before batch during next after,
    history = before ++ .event (.taken batch) :: (during ++ .event (.taken next) :: after) →
      batches during = [] →
        acceptances endpoint during = 1 ∨
          (acceptances endpoint during = 0 ∧ .move .stop ∈ during)
  /-- If there was no stop, the enqueued rows are those of the accepted batches, followed by those
  of the batch that still has to be accepted, followed by those that are pending. -/
  unstopped : .move .stop ∉ history →
    enqueued history =
      (accepted endpoint none history).flatten ++
        (last.queue.worker.phase.batch?.getD [] ++ last.queue.pending)

/-- Whatever callers, the clock and the worker do, in whatever order, and whatever the outcomes of
pushes are, rows are conserved. -/
theorem Line.play_conserves_rows
    (endpoint : Endpoint ρ ο)
    (batchSize : Nat) (batchSize_pos : 0 < batchSize)
    (retryDelay : Rat) (script : List ο) (now : Rat)
    (moves : List (Move ρ ο)) :
    let line : Line ρ ο := Line.fresh batchSize batchSize_pos retryDelay script now
    Conserved endpoint batchSize (line.play endpoint moves).2 (line.play endpoint moves).1 := by
  intro line
  have account := Accounted.of_play endpoint line moves
  have rows : enqueued (line.play endpoint moves).2 =
      (batches (line.play endpoint moves).2).flatten ++
        (line.play endpoint moves).1.queue.pending :=
    account.rows
  constructor
  case rows => exact rows
  case bounded => exact account.bounded
  case pushes =>
    intro before time batch outcome after same
    have path := account.path
    rw [same] at path
    exact path.push_carries_latest
  case inFlight => exact account.latest
  case closed =>
    intro before batch during next after same untaken
    have path := account.path
    rw [same] at path
    exact path.closed_before_next untaken
  case unstopped =>
    intro unstopped
    have taken := account.path.batches_of_unstopped none unstopped (by intro _ held; cases held)
    rw [show line.queue.worker.phase = .free from rfl] at taken
    simp only [Phase.batch?_free, Option.toList_none, List.nil_append] at taken
    rw [rows, taken, List.flatten_append, List.append_assoc]
    cases (line.play endpoint moves).1.queue.worker.phase.batch? <;> simp

/-- An endpoint whose outcomes are the verdicts themselves, and to which everything can be sent. -/
def Endpoint.plain (ρ : Type) : Endpoint ρ Verdict :=
  { verdict := id, success := .accepted, success_accepted := rfl, canSend := fun _ => true }

/-- A run with a refused push, a stop during the second batch and a new start. -/
theorem Line.play_conserves_rows_over_stop :
    let line : Line Nat Verdict := Line.fresh 2 (by decide) 5 [.refused, .accepted, .held] 0
    let moves : List (Move Nat Verdict) :=
      [.start, .enqueue [1, 2, 3], .notify, .settle, .enqueue [4, 5, 6], .advance 5, .stop,
        .start, .settle]
    batches (line.play (Endpoint.plain Nat) moves).2 = [[1, 2], [3, 4], [5, 6]] ∧
      Conserved (Endpoint.plain Nat) 2 (line.play (Endpoint.plain Nat) moves).2
        (line.play (Endpoint.plain Nat) moves).1 :=
  ⟨by decide +kernel, Line.play_conserves_rows (Endpoint.plain Nat) 2 (by decide) 5
    [.refused, .accepted, .held] 0 _⟩

end TableSource.Replication
