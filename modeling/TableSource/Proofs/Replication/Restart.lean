import TableSource.Proofs.Replication.Notices
import TableSource.Proofs.Replication.Pacing

/-!
# Stopping and starting again

A stop gives up the batch in flight and nothing else.  What is pending stays pending, whatever
callers do and however much time passes until the next start, and nothing is pushed meanwhile.  A
worker that is started again takes up the pending rows in order and needs no notice for it, because
the stop has left the flag set; without rows it looks at the flag and pushes nothing, unless an
update was still required.

The statements hold of a stop in every state of the worker, also of one that comes when a push has
just been answered.
-/

namespace TableSource.Replication

variable {ρ ο : Type} {endpoint : Endpoint ρ ο}

open History

/-! ## While the worker is stopped -/

/-- What a history without a start makes of a line whose worker is stopped. -/
structure Halted (line : Line ρ ο) (history : List (Entry ρ ο)) (last : Line ρ ο) : Prop where
  stopped : last.queue.worker = .stopped
  /-- Nothing happens between the worker and the endpoint. -/
  silent : ∀ event, .event event ∉ history
  pending : last.queue.pending = line.queue.pending ++ enqueued history
  update : .move .notify ∉ history → last.queue.updateRequired = line.queue.updateRequired
  awake : line.queue.wake = true → last.queue.wake = true

namespace Halted

theorem refl
    {line : Line ρ ο}
    (stopped : line.queue.worker = .stopped) :
    Halted line [] line where
  stopped := stopped
  silent := fun _ => List.not_mem_nil
  pending := (List.append_nil _).symm
  update := fun _ => rfl
  awake := id

theorem trans
    {line middle last : Line ρ ο} {earlier later : List (Entry ρ ο)}
    (first : Halted line earlier middle)
    (second : Halted middle later last) :
    Halted line (earlier ++ later) last where
  stopped := second.stopped
  silent := by
    intro event member
    rcases List.mem_append.mp member with member | member
    · exact first.silent event member
    · exact second.silent event member
  pending := by
    rw [second.pending, first.pending, enqueued_append, List.append_assoc]
  update := by
    intro unnoticed
    rw [List.mem_append, not_or] at unnoticed
    exact (second.update unnoticed.2).trans (first.update unnoticed.1)
  awake := fun awake => second.awake (first.awake awake)

/-- Only the queue of the line at the end matters. -/
theorem of_queue
    {line last last' : Line ρ ο} {history : List (Entry ρ ο)}
    (halted : Halted line history last)
    (same : last'.queue = last.queue) :
    Halted line history last' where
  stopped := same ▸ halted.stopped
  silent := halted.silent
  pending := same ▸ halted.pending
  update := same ▸ halted.update
  awake := same ▸ halted.awake

/-- A move that leaves the rows, the worker and the flags of a stopped line. -/
theorem of_idle
    {line last : Line ρ ο} {move : Move ρ ο}
    (stopped : line.queue.worker = .stopped)
    (unchanged : (Entry.move move : Entry ρ ο).rows = [])
    (same : last.queue = line.queue) :
    Halted line [.move move] last where
  stopped := same ▸ stopped
  silent := by
    simp
  pending := by
    rw [same, enqueued_cons, unchanged, enqueued_nil, List.append_nil, List.append_nil]
  update := fun _ => same ▸ rfl
  awake := fun awake => same ▸ awake

end Halted

/-- Until it is started, a stopped worker does nothing. -/
theorem halted_kept (endpoint : Endpoint ρ ο) :
    Kept endpoint (fun _ _ => True) fun line history last =>
      line.queue.worker = .stopped → .move .start ∉ history → Halted line history last where
  forward := fun _ => trivial
  refl := fun _ stopped _ => .refl stopped
  trans := by
    intro line middle last earlier later first second stopped unstarted
    rw [List.mem_append, not_or] at unstarted
    have halted := first stopped unstarted.1
    exact halted.trans (second halted.stopped unstarted.2)
  step := by
    intro line next events step stopped
    -- every step is one of a worker that runs
    cases step with
    | takes waiting =>
        rw [stopped] at waiting
        cases waiting
    | looksAway waiting =>
        rw [stopped] at waiting
        cases waiting
    | judges answered =>
        rw [stopped] at answered
        cases answered
    | pushesAgain resting =>
        rw [stopped] at resting
        cases resting
  clock := fun _ stopped _ => .of_queue (.refl stopped) rfl
  postpone := by
    intro line batch due again resting _ _ stopped
    rw [stopped] at resting
    cases resting
  call := by
    intro line move isCall stopped unstarted
    cases move with
    | enqueue rows =>
        exact ⟨stopped, by simp [Line.make], by simp [Line.make, Queue.enqueue], fun _ => rfl, id⟩
    | notify =>
        exact ⟨stopped, by simp [Line.make], by simp [Line.make, Queue.notify], by simp,
          fun _ => rfl⟩
    | start =>
        simp at unstarted
    | stop =>
        exact ⟨rfl, by simp [Line.make], by simp [Line.make, Queue.stop], fun _ => rfl,
          fun _ => rfl⟩
    | release outcome =>
        have unheard : release endpoint line outcome = (line, []) := by
          simp [release, stopped]
        simp only [Line.make, unheard]
        exact .of_idle stopped rfl rfl
    | extend outcomes =>
        exact .of_idle stopped rfl rfl
    | _ =>
        cases isCall
  note := by
    intro line move noCall stopped _
    cases move with
    | pass | work | settle | advance =>
        exact .of_idle stopped rfl rfl
    | _ =>
        cases noCall

/-- A stop of a worker that is stopped already changes nothing, once the flag is set. -/
theorem make_stop_of_stopped
    {line : Line ρ ο}
    (stopped : line.queue.worker = .stopped) (awake : line.queue.wake = true) :
    line.make endpoint .stop = (line, []) := by
  rcases line with ⟨queue, script, now⟩
  cases queue
  cases stopped
  cases awake
  rfl

/-- A start of a worker that runs changes nothing. -/
theorem make_start_of_running
    {line : Line ρ ο}
    (running : line.queue.isRunning = true) :
    line.make endpoint .start = (line, []) := by
  have unchanged : line.queue.start = line.queue := by
    rw [Queue.start]
    split
    · next stopped =>
        rw [Queue.isRunning, stopped] at running
        cases running
    · rfl
  rw [Line.make, unchanged]

/-! ## Empty batches -/

/-- Nobody enqueues rows, gives notice, or stops the worker. -/
def History.Undisturbed (history : List (Entry ρ ο)) : Prop :=
  ∀ entry ∈ history, entry.rows = [] ∧ entry ≠ .move .notify ∧ entry ≠ .move .stop

theorem History.Undisturbed.enqueued_eq_nil
    {history : List (Entry ρ ο)}
    (undisturbed : Undisturbed history) :
    enqueued history = [] :=
  List.flatMap_eq_nil_iff.mpr fun entry member => (undisturbed entry member).1

theorem History.Undisturbed.stop_notMem
    {history : List (Entry ρ ο)}
    (undisturbed : Undisturbed history) :
    .move .stop ∉ history :=
  fun member => (undisturbed _ member).2.2 rfl

@[simp]
theorem judged_updateRequired
    (queue : Queue ρ) (now : Rat) (batch : List ρ) (verdict : Verdict) :
    (queue.judged now batch verdict).updateRequired = queue.updateRequired := by
  cases verdict <;> rfl

/-- What an undisturbed history says of empty batches.  It is enough to know the line before it,
since the flag for an update does not come back once a batch has been taken. -/
structure Sparing (line : Line ρ ο) (history : List (Entry ρ ο)) (last : Line ρ ο) : Prop where
  empty : [] ∈ batches history → line.queue.pending = [] ∧ line.queue.updateRequired = true
  update : last.queue.updateRequired = true →
    line.queue.updateRequired = true ∧ batches history = []
  pending : batches history = [] → last.queue.pending = line.queue.pending

namespace Sparing

/-- Where no batch is taken, it is enough that rows and flag stay. -/
theorem of_untaken
    {line last : Line ρ ο} {history : List (Entry ρ ο)}
    (untaken : batches history = [])
    (update : last.queue.updateRequired = line.queue.updateRequired)
    (pending : last.queue.pending = line.queue.pending) :
    Sparing line history last where
  empty := by
    simp [untaken]
  update := fun required => ⟨update ▸ required, untaken⟩
  pending := fun _ => pending

theorem trans
    {line middle last : Line ρ ο} {earlier later : List (Entry ρ ο)}
    (first : Sparing line earlier middle)
    (second : Sparing middle later last) :
    Sparing line (earlier ++ later) last where
  empty := by
    intro member
    rw [batches_append, List.mem_append] at member
    rcases member with member | member
    · exact first.empty member
    · -- an update was still required in the middle, so nothing had been taken before
      rcases second.empty member with ⟨none, required⟩
      rcases first.update required with ⟨requiredFirst, untaken⟩
      exact ⟨(first.pending untaken).symm.trans none, requiredFirst⟩
  update := by
    intro required
    rcases second.update required with ⟨requiredMiddle, untakenLater⟩
    rcases first.update requiredMiddle with ⟨requiredFirst, untaken⟩
    exact ⟨requiredFirst, by rw [batches_append, untaken, untakenLater]; rfl⟩
  pending := by
    intro untaken
    rw [batches_append, List.append_eq_nil_iff] at untaken
    exact (second.pending untaken.2).trans (first.pending untaken.1)

theorem of_stepped
    {line next : Line ρ ο} {events : List (Event ρ ο)}
    (step : Stepped endpoint line next events) :
    Sparing line (events.map .event) next := by
  cases step with
  | takes waiting awake work =>
      have untaken := (push_untaken endpoint { line with queue := line.queue.takeBatch }
        line.queue.nextBatch).1
      have taken : batches
          ((.taken line.queue.nextBatch ::
            (deliver endpoint { line with queue := line.queue.takeBatch }
              line.queue.nextBatch).2).map .event : List (Entry ρ ο)) =
            [line.queue.nextBatch] := by
        rw [List.map_cons, batches_cons, deliver_events, untaken]
        rfl
      constructor
      case empty =>
        intro member
        rw [taken, List.mem_singleton, eq_comm, Queue.nextBatch, List.take_eq_nil_iff] at member
        have size := line.queue.batchSize_pos
        have none : line.queue.pending = [] := member.resolve_left (by omega)
        rw [Queue.hasWork, none] at work
        exact ⟨none, by simpa using work⟩
      case update =>
        intro required
        rw [deliver_queue, judged_updateRequired] at required
        cases required
      case pending =>
        intro untaken
        rw [taken] at untaken
        cases untaken
  | looksAway =>
      exact of_untaken rfl rfl rfl
  | judges =>
      exact of_untaken rfl (judged_updateRequired _ _ _ _) (Queue.judged_pending _ _ _ _)
  | @pushesAgain batch =>
      have untaken := (push_untaken endpoint line batch).1
      exact of_untaken untaken (judged_updateRequired _ _ _ _) (Queue.judged_pending _ _ _ _)

end Sparing

theorem sparing_kept (endpoint : Endpoint ρ ο) :
    Kept endpoint (fun _ _ => True) fun line history last =>
      Undisturbed history → Sparing line history last where
  forward := fun _ => trivial
  refl := fun _ _ => .of_untaken rfl rfl rfl
  trans := by
    intro line middle last earlier later first second undisturbed
    rw [Undisturbed, List.forall_mem_append] at undisturbed
    exact (first undisturbed.1).trans (second undisturbed.2)
  step := fun step _ => .of_stepped step
  clock := fun _ _ => .of_untaken rfl rfl rfl
  postpone := fun _ _ _ _ => .of_untaken rfl rfl rfl
  call := by
    intro line move isCall undisturbed
    rw [Undisturbed, List.forall_mem_cons] at undisturbed
    cases move with
    | enqueue rows =>
        have none : rows = [] := undisturbed.1.1
        exact .of_untaken rfl rfl (by rw [none]; exact List.append_nil _)
    | notify =>
        exact absurd rfl undisturbed.1.2.1
    | stop =>
        exact absurd rfl undisturbed.1.2.2
    | start =>
        simp only [Line.make, Queue.start]
        split <;> exact .of_untaken rfl rfl rfl
    | release outcome =>
        simp only [Line.make, release]
        split
        · next batch pushing =>
            simp only [Queue.answer, pushing]
            exact .of_untaken rfl rfl rfl
        · exact .of_untaken rfl rfl rfl
    | extend outcomes =>
        exact .of_untaken rfl rfl rfl
    | _ =>
        cases isCall
  note := fun _ _ _ _ => .of_untaken rfl rfl rfl

/-! ## Resuming -/

/-- Only starts and stops decide whether the worker runs. -/
theorem running_kept (endpoint : Endpoint ρ ο) :
    Kept endpoint (fun _ _ => True) fun line history last =>
      last.queue.isRunning = runs line.queue.isRunning history where
  forward := fun _ => trivial
  refl := fun _ => rfl
  trans := by
    intro line middle last earlier later first second
    rw [runs_append, ← first]
    exact second
  step := fun step => (Conduct.of_stepped step).running
  clock := fun _ => rfl
  postpone := by
    intro line batch due again resting _ _
    simp [Queue.isRunning, resting, Worker.isRunning]
  call := by
    intro line move isCall
    cases move with
    | start =>
        have conduct : Conduct endpoint line [.move .start] { line with queue := line.queue.start } :=
          Conduct.of_start line
        exact conduct.running
    | release outcome =>
        exact (Conduct.of_release line outcome).running
    | enqueue | notify | stop | extend =>
        rfl
    | _ =>
        cases isCall
  note := by
    intro line move noCall
    cases move with
    | pass | work | settle | advance =>
        rfl
    | _ =>
        cases noCall

theorem runs_of_unstopped
    {history : List (Entry ρ ο)}
    (unstopped : .move .stop ∉ history) :
    runs true history = true := by
  induction history with
  | nil =>
      rfl
  | cons entry rest induction =>
      rw [List.mem_cons, not_or] at unstopped
      rw [runs_cons, Entry.runs.eq_def]
      split
      · exact induction unstopped.2
      · exact absurd rfl unstopped.1
      · exact induction unstopped.2

theorem batch?_phase_of_idle
    {worker : Worker ρ}
    (idle : worker.inFlight = none) :
    worker.phase.batch? = none := by
  cases worker with
  | stopped | waiting =>
      rfl
  | _ =>
      cases idle

/-- What an undisturbed history does for the rows that were pending before it. -/
structure Resumed
    (endpoint : Endpoint ρ ο) (line : Line ρ ο) (history : List (Entry ρ ο)) (last : Line ρ ο) :
    Prop where
  /-- An empty batch is pushed only where nothing was pending and an update was required. -/
  empty : ∀ time outcome, .event (.pushed time [] outcome) ∈ history →
    line.queue.pending = [] ∧ line.queue.updateRequired = true
  /-- At rest without a batch in hand, the pending rows have been accepted, in order. -/
  drained : last.Settled endpoint → last.queue.worker.inFlight = none →
    (accepted endpoint none history).flatten = line.queue.pending ∧ last.queue.pending = []
  /-- A further start changes nothing. -/
  startAgain : last.make endpoint .start = (last, [])

/-- A worker that waits with the flag set takes up what is pending. -/
theorem resumed_of_undisturbed
    {line : Line ρ ο} (moves : List (Move ρ ο))
    (waiting : line.queue.worker = .waiting) (awake : line.queue.wake = true)
    (undisturbed : Undisturbed (line.play endpoint moves).2) :
    Resumed endpoint line (line.play endpoint moves).2 (line.play endpoint moves).1 := by
  have keep : ∀ move ∈ moves, move.Keeps fun _ _ => True := fun move _ => move.keeps_any
  have unstopped := undisturbed.stop_notMem
  have account := Accounted.of_play endpoint line moves
  have heeds := (heeds_kept endpoint).of_play line moves keep [] (Queue.heeds_of_awake awake [])
  have running : (line.play endpoint moves).1.queue.isRunning = true := by
    rw [(running_kept endpoint).of_play line moves keep, Queue.isRunning, waiting]
    exact runs_of_unstopped unstopped
  constructor
  case empty =>
    intro time outcome pushed
    have path := account.path
    rw [waiting] at path
    apply ((sparing_kept endpoint).of_play line moves keep undisturbed).empty
    rcases List.append_of_mem pushed with ⟨before, after, same⟩
    rw [same] at path ⊢
    rw [batches_append]
    exact List.mem_append_left _ (List.mem_of_getLast? path.push_carries_latest)
  case drained =>
    intro settled idle
    have asleep := settled.asleep running idle
    -- what could be pending still was enqueued since the start, and nothing was
    have newest := newest_suffix [] (line.play endpoint moves).2
    rw [undisturbed.enqueued_eq_nil] at newest
    have nothing := List.suffix_nil.mp (((heeds asleep).2 idle).trans newest)
    have rows := account.rows
    rw [undisturbed.enqueued_eq_nil, nothing, List.append_nil, List.append_nil] at rows
    have path := account.path
    rw [waiting] at path
    have taken := path.batches_of_unstopped none unstopped (by intro _ held; cases held)
    rw [batch?_phase_of_idle idle] at taken
    simp only [Worker.phase, Phase.batch?_free, Option.toList_none, List.nil_append,
      List.append_nil] at taken
    exact ⟨by rw [← taken, ← rows], nothing⟩
  case startAgain =>
    exact make_start_of_running running

/-! ## Settling with successful pushes -/

/-- A batch that is taken can be sent, and a push is accepted. -/
def Event.Succeeds (endpoint : Endpoint ρ ο) : Event ρ ο → Prop
  | .taken batch => endpoint.canSend batch = true
  | .pushed _ _ outcome | .released _ outcome => endpoint.verdict outcome = .accepted

/-- After a successful step the worker waits again. -/
theorem waiting_of_stepped
    {line next : Line ρ ο} {events : List (Event ρ ο)}
    (step : Stepped endpoint line next events)
    (waiting : line.queue.worker = .waiting)
    (succeed : ∀ event ∈ events, event.Succeeds endpoint) :
    next.queue.worker = .waiting := by
  cases step with
  | takes =>
      rw [List.forall_mem_cons] at succeed
      have sendable : endpoint.canSend line.queue.nextBatch = true := succeed.1
      have accepted := succeed.2 (.pushed line.now line.queue.nextBatch
        (line.script.headD endpoint.success))
      rw [deliver_events, push, if_pos sendable] at accepted
      have verdict : endpoint.verdict (line.script.headD endpoint.success) = .accepted :=
        accepted (List.mem_singleton.mpr rfl)
      rw [deliver_queue, push, if_pos sendable]
      simp only [verdict]
      rfl
  | looksAway =>
      exact waiting
  | judges answered =>
      rw [waiting] at answered
      cases answered
  | pushesAgain resting =>
      rw [waiting] at resting
      cases resting

theorem waiting_of_run
    {steps : Nat} {line : Line ρ ο}
    (waiting : line.queue.worker = .waiting)
    (succeed : ∀ event ∈ (run endpoint steps line).2, event.Succeeds endpoint) :
    (run endpoint steps line).1.queue.worker = .waiting := by
  induction steps generalizing line with
  | zero =>
      exact waiting
  | succ steps induction =>
      rw [run] at succeed ⊢
      split at succeed
      · exact waiting
      · next next events step =>
          rw [List.forall_mem_append] at succeed
          exact induction (waiting_of_stepped (stepped_of_step? step) waiting succeed.1) succeed.2

/-! ## Stops and starts -/

/-- What a stop does to a line with a history.  Of the rows that were enqueued, the batches before
the one in flight have been dealt with, this one is given up, and all others are pending. -/
structure Stops
    (endpoint : Endpoint ρ ο) (history : List (Entry ρ ο)) (line stopped : Line ρ ο) : Prop where
  pending : stopped.queue.pending = line.queue.pending
  update : stopped.queue.updateRequired = line.queue.updateRequired
  running : stopped.queue.isRunning = false
  givenUp : ∃ earlier, batches history = earlier ++ line.queue.worker.inFlight.toList ∧
    enqueued history =
      earlier.flatten ++ (line.queue.worker.inFlight.getD [] ++ stopped.queue.pending)
  /-- What is offered from then on are the pending rows and those that are enqueued later. -/
  offered : ∀ moves,
    stopped.queue.pending ++ enqueued (stopped.play endpoint moves).2 =
      (batches (stopped.play endpoint moves).2).flatten ++
        (stopped.play endpoint moves).1.queue.pending
  /-- A push carries a batch that was taken after the stop. -/
  pushes : ∀ moves before time batch outcome after,
    (stopped.play endpoint moves).2 = before ++ .event (.pushed time batch outcome) :: after →
      (batches before).getLast? = some batch

/-- What a start does to a line whose worker was stopped. -/
structure Restarts (endpoint : Endpoint ρ ο) (idle started : Line ρ ο) : Prop where
  running : started.queue.isRunning = true
  pending : started.queue.pending = idle.queue.pending
  update : started.queue.updateRequired = idle.queue.updateRequired
  resumes : ∀ moves, Undisturbed (started.play endpoint moves).2 →
    Resumed endpoint started (started.play endpoint moves).2 (started.play endpoint moves).1
  /-- If every push succeeds, settling is enough for the pending rows to be accepted. -/
  settles : (∀ event ∈ (settle endpoint started).2, event.Succeeds endpoint) →
    (settle endpoint started).1.Settled endpoint ∧
      (settle endpoint started).1.queue.worker = .waiting ∧
      (settle endpoint started).1.queue.pending = [] ∧
      (accepted endpoint none ((settle endpoint started).2.map .event)).flatten =
        idle.queue.pending

theorem batches_of_inFlight
    {history : List (Entry ρ ο)} {inFlight : Option (List ρ)}
    (latest : ∀ batch, inFlight = some batch → (batches history).getLast? = some batch) :
    ∃ earlier, batches history = earlier ++ inFlight.toList := by
  cases inFlight with
  | none =>
      exact ⟨batches history, (List.append_nil _).symm⟩
  | some batch =>
      exact List.getLast?_eq_some_iff.mp (latest batch rfl)

theorem stops_of_play
    (endpoint : Endpoint ρ ο) {line last : Line ρ ο} {history : List (Entry ρ ο)}
    (account : Accounted endpoint line history last)
    (fresh : line.queue.pending = [] ∧ line.queue.worker = .stopped) :
    Stops endpoint history last (last.make endpoint .stop).1 := by
  have rows := account.rows
  have latest := account.latest
  rw [fresh.1, List.nil_append] at rows
  rw [fresh.2] at latest
  rcases batches_of_inFlight latest with ⟨earlier, taken⟩
  refine ⟨rfl, rfl, rfl, ⟨earlier, taken, ?_⟩, ?_, ?_⟩
  · rw [rows, taken, List.flatten_append, List.append_assoc]
    cases last.queue.worker.inFlight <;> simp [Line.make, Queue.stop]
  · intro moves
    exact (Accounted.of_play endpoint (last.make endpoint .stop).1 moves).rows
  · intro moves before time batch outcome after same
    have path := (Accounted.of_play endpoint (last.make endpoint .stop).1 moves).path
    rw [same] at path
    exact path.push_carries_latest

theorem play_settle (endpoint : Endpoint ρ ο) (line : Line ρ ο) :
    line.play endpoint [.settle] =
      ((settle endpoint line).1, .move .settle :: (settle endpoint line).2.map .event) := by
  simp [Line.play, Line.make]

theorem restarts_of_stopped
    (endpoint : Endpoint ρ ο) {line : Line ρ ο}
    (stopped : line.queue.worker = .stopped) (awake : line.queue.wake = true) :
    Restarts endpoint line (line.make endpoint .start).1 := by
  have queue : (line.make endpoint .start).1.queue = { line.queue with worker := .waiting } := by
    rw [Line.make, Queue.start, stopped]
  have waiting : (line.make endpoint .start).1.queue.worker = .waiting := by
    rw [queue]
  have stillAwake : (line.make endpoint .start).1.queue.wake = true := by
    rw [queue]
    exact awake
  have resumes :
      ∀ moves, Undisturbed ((line.make endpoint .start).1.play endpoint moves).2 →
        Resumed endpoint (line.make endpoint .start).1
          ((line.make endpoint .start).1.play endpoint moves).2
          ((line.make endpoint .start).1.play endpoint moves).1 :=
    fun moves => resumed_of_undisturbed moves waiting stillAwake
  refine ⟨by rw [queue]; rfl, by rw [queue], by rw [queue], resumes, fun succeed => ?_⟩
  have settled := settle_settled endpoint (line.make endpoint .start).1
  have waits : (settle endpoint (line.make endpoint .start).1).1.queue.worker = .waiting :=
    waiting_of_run waiting succeed
  have resumed := resumes [.settle]
  rw [play_settle] at resumed
  have drained := (resumed (by simp [Undisturbed])).drained settled (by rw [waits]; rfl)
  rw [queue] at drained
  exact ⟨settled, waits, drained.2, drained.1⟩

theorem start_notMem_play
    {moves : List (Move ρ ο)}
    (unstarted : .start ∉ moves) (line : Line ρ ο) :
    .move .start ∉ (line.play endpoint moves).2 := by
  induction moves generalizing line with
  | nil =>
      exact List.not_mem_nil
  | cons move rest induction =>
      rw [List.mem_cons, not_or] at unstarted
      have later := induction unstarted.2 (line.make endpoint move).1
      simpa [Line.play, unstarted.1] using later

/-- Whatever a run has come to, a stop gives up the batch in flight and no other row.  Until the
next start nothing is pushed, whatever else is done, and then the worker takes up what is pending.
Stops and starts that are repeated change nothing. -/
theorem Line.stop_gives_up_only_inFlight
    (endpoint : Endpoint ρ ο)
    (batchSize : Nat) (batchSize_pos : 0 < batchSize)
    (retryDelay : Rat) (script : List ο) (now : Rat)
    (moves between : List (Move ρ ο)) (unstarted : .start ∉ between) :
    let line : Line ρ ο := Line.fresh batchSize batchSize_pos retryDelay script now
    let last := (line.play endpoint moves).1
    let stopped := (last.make endpoint .stop).1
    let idle := (stopped.play endpoint between).1
    let started := (idle.make endpoint .start).1
    Stops endpoint (line.play endpoint moves).2 last stopped ∧
      Halted stopped (stopped.play endpoint between).2 idle ∧
      Restarts endpoint idle started ∧
      stopped.make endpoint .stop = (stopped, []) ∧
      idle.make endpoint .stop = (idle, []) ∧
      started.make endpoint .start = (started, []) := by
  intro line last stopped idle started
  have stops : Stops endpoint (line.play endpoint moves).2 last stopped :=
    stops_of_play endpoint (Accounted.of_play endpoint line moves) ⟨rfl, rfl⟩
  have halted : Halted stopped (stopped.play endpoint between).2 idle :=
    (halted_kept endpoint).of_play stopped between (fun move _ => move.keeps_any) rfl
      (start_notMem_play unstarted stopped)
  have awake : idle.queue.wake = true := halted.awake rfl
  have restarts : Restarts endpoint idle started :=
    restarts_of_stopped endpoint halted.stopped awake
  exact ⟨stops, halted, restarts, make_stop_of_stopped rfl rfl,
    make_stop_of_stopped halted.stopped awake, make_start_of_running restarts.running⟩

/-- A stop while a push is open, whose answer comes too late, and rows and a notice before the next
start. -/
theorem Line.stop_gives_up_only_inFlight_while_pushing :
    let line : Line Nat Verdict := Line.fresh 2 (by decide) 5 [.held] 0
    let moves : List (Move Nat Verdict) := [.start, .enqueue [1, 2, 3], .notify, .settle]
    let between : List (Move Nat Verdict) :=
      [.enqueue [4], .release .accepted, .advance 7, .notify]
    let last := (line.play (Endpoint.plain Nat) moves).1
    let stopped := (last.make (Endpoint.plain Nat) .stop).1
    let idle := (stopped.play (Endpoint.plain Nat) between).1
    let started := (idle.make (Endpoint.plain Nat) .start).1
    .start ∉ between ∧ last.queue.worker.inFlight = some [1, 2] ∧ idle.queue.pending = [3, 4] ∧
      accepted (Endpoint.plain Nat) none
        ((settle (Endpoint.plain Nat) started).2.map .event) = [[3, 4]] ∧
      Stops (Endpoint.plain Nat) (line.play (Endpoint.plain Nat) moves).2 last stopped ∧
      Halted stopped (stopped.play (Endpoint.plain Nat) between).2 idle ∧
      Restarts (Endpoint.plain Nat) idle started := by
  intro line moves between last stopped idle started
  have unstarted : .start ∉ between := by simp [between]
  rcases Line.stop_gives_up_only_inFlight (Endpoint.plain Nat) 2 (by decide) 5 [.held] 0 moves
    between unstarted with ⟨stops, halted, restarts, -⟩
  exact ⟨unstarted, by decide +kernel, by decide +kernel, by decide +kernel, stops, halted,
    restarts⟩

end TableSource.Replication
