import TableSource.Proofs.Replication.Conservation
import TableSource.Proofs.Replication.Runs

/-!
# The pace of pushes

What the worker does can be checked entry by entry along a history: a batch that was taken and can
be sent is pushed at once, only batches that can be sent are pushed, and no push comes before the
delay after a refusal is over.  Whether the worker runs can be read off the starts and stops alone,
so nothing else ends it.

To check the delay, a history is read together with the earliest time of the next push, which
refusals set and taking a batch clears.
-/

namespace TableSource.Replication

variable {ρ ο : Type}

open History

/-! ## Starts and stops -/

/-- Whether the worker runs after an entry, when it is known whether it ran before. -/
@[simp]
def Entry.runs (running : Bool) : Entry ρ ο → Bool
  | .move .start => true
  | .move .stop => false
  | _ => running

/-- Whether the worker runs after a history: the last start or stop decides, whatever else
happened. -/
def History.runs (running : Bool) (history : List (Entry ρ ο)) : Bool :=
  history.foldl Entry.runs running

@[simp]
theorem runs_nil (running : Bool) :
    runs running ([] : List (Entry ρ ο)) = running := rfl

@[simp]
theorem runs_cons (running : Bool) (entry : Entry ρ ο) (rest : List (Entry ρ ο)) :
    runs running (entry :: rest) = runs (entry.runs running) rest := rfl

@[simp]
theorem runs_append (running : Bool) (earlier later : List (Entry ρ ο)) :
    runs running (earlier ++ later) = runs (runs running earlier) later :=
  List.foldl_append

@[simp]
theorem runs_events (running : Bool) (events : List (Event ρ ο)) :
    runs running (events.map .event) = running := by
  induction events with
  | nil =>
      rfl
  | cons event rest induction =>
      exact induction

/-! ## The delay -/

/-- The earliest time of a push after an entry, if there is one to wait for; `before` is that
before the entry. -/
@[simp]
def Entry.earliest (endpoint : Endpoint ρ ο) (delay : Rat) (before : Option Rat) :
    Entry ρ ο → Option Rat
  | .event (.taken _) => none
  | .event (.pushed time _ outcome) =>
    if endpoint.verdict outcome = .refused then some (time + delay) else none
  | .event (.released time outcome) =>
    if endpoint.verdict outcome = .accepted then none else some (time + delay)
  | .move _ => before

/-- The earliest time of a push after a history. -/
def History.earliest (endpoint : Endpoint ρ ο) (delay : Rat) (before : Option Rat)
    (history : List (Entry ρ ο)) : Option Rat :=
  history.foldl (Entry.earliest endpoint delay) before

/-- A push is of a batch that can be sent, and not too early. -/
@[simp]
def Entry.InTime (endpoint : Endpoint ρ ο) (earliest : Option Rat) : Entry ρ ο → Prop
  | .event (.pushed time batch _) =>
    endpoint.canSend batch = true ∧ ∀ bound ∈ earliest, bound ≤ time
  | _ => True

/-- A batch that was taken and can be sent is pushed at once. -/
def Entry.Offers (endpoint : Endpoint ρ ο) (entry : Entry ρ ο) (rest : List (Entry ρ ο)) : Prop :=
  ∀ batch, entry.batch? = some batch → endpoint.canSend batch = true →
    ∃ time outcome, rest.head? = some (.event (.pushed time batch outcome))

/-- A history that keeps the pace, after one that demands no push before `earliest`. -/
def History.Paced (endpoint : Endpoint ρ ο) (delay : Rat) :
    (earliest : Option Rat) → List (Entry ρ ο) → Prop
  | _, [] => True
  | earliest, entry :: rest =>
    entry.InTime endpoint earliest ∧ entry.Offers endpoint rest ∧
      Paced endpoint delay (entry.earliest endpoint delay earliest) rest

variable {endpoint : Endpoint ρ ο} {delay : Rat}

@[simp]
theorem earliest_nil (before : Option Rat) :
    earliest endpoint delay before [] = before := rfl

@[simp]
theorem earliest_cons (before : Option Rat) (entry : Entry ρ ο) (rest : List (Entry ρ ο)) :
    earliest endpoint delay before (entry :: rest) =
      earliest endpoint delay (entry.earliest endpoint delay before) rest := rfl

theorem earliest_append (before : Option Rat) (earlier later : List (Entry ρ ο)) :
    earliest endpoint delay before (earlier ++ later) =
      earliest endpoint delay (earliest endpoint delay before earlier) later :=
  List.foldl_append

theorem Entry.Offers.append
    {entry : Entry ρ ο} {rest : List (Entry ρ ο)}
    (offers : entry.Offers endpoint rest) (later : List (Entry ρ ο)) :
    entry.Offers endpoint (rest ++ later) := by
  intro batch taken sendable
  rcases offers batch taken sendable with ⟨time, outcome, first⟩
  exact ⟨time, outcome, by rw [List.head?_append, first, Option.some_or]⟩

theorem Entry.offers_of_untaken
    {entry : Entry ρ ο}
    (untaken : entry.batch? = none) (rest : List (Entry ρ ο)) :
    entry.Offers endpoint rest := by
  intro batch taken
  rw [untaken] at taken
  cases taken

theorem paced_append
    {before : Option Rat} {earlier later : List (Entry ρ ο)}
    (first : Paced endpoint delay before earlier)
    (second : Paced endpoint delay (earliest endpoint delay before earlier) later) :
    Paced endpoint delay before (earlier ++ later) := by
  induction earlier generalizing before with
  | nil =>
      exact second
  | cons entry rest induction =>
      exact ⟨first.1, first.2.1.append later, induction first.2.2 second⟩

theorem paced_of_append
    {before : Option Rat} {earlier later : List (Entry ρ ο)}
    (paced : Paced endpoint delay before (earlier ++ later)) :
    Paced endpoint delay (earliest endpoint delay before earlier) later := by
  induction earlier generalizing before with
  | nil =>
      exact paced
  | cons entry rest induction =>
      exact induction paced.2.2

/-! ## What a line waits for -/

namespace Queue

@[simp]
theorem judged_retryDelay
    (queue : Queue ρ) (now : Rat) (batch : List ρ) (verdict : Verdict) :
    (queue.judged now batch verdict).retryDelay = queue.retryDelay := by
  cases verdict <;> rfl

/-- No verdict ends the worker. -/
theorem judged_isRunning
    (queue : Queue ρ) (now : Rat) (batch : List ρ) (verdict : Verdict) :
    (queue.judged now batch verdict).worker.isRunning = true := by
  cases verdict <;> rfl

end Queue

/-- The worker will not push before a time. -/
def Line.Awaits (line : Line ρ ο) (earliest : Option Rat) : Prop :=
  match line.queue.worker with
  | .resting _ due => ∀ bound ∈ earliest, bound ≤ due
  | .answered _ false => ∀ bound ∈ earliest, bound ≤ line.now + line.queue.retryDelay
  | _ => True

/-- A push keeps the pace and makes the worker wait for the delay after a refusal. -/
theorem pace_deliver
    (endpoint : Endpoint ρ ο) (line : Line ρ ο) (batch : List ρ) {before : Option Rat}
    (inTime : ∀ bound ∈ before, bound ≤ line.now)
    (inTimeLater : endpoint.canSend batch = false →
      ∀ bound ∈ before, bound ≤ line.now + line.queue.retryDelay) :
    Paced endpoint line.queue.retryDelay before ((deliver endpoint line batch).2.map .event) ∧
      (deliver endpoint line batch).1.Awaits
        (earliest endpoint line.queue.retryDelay before
          ((deliver endpoint line batch).2.map .event)) := by
  cases sendable : endpoint.canSend batch with
  | false =>
      have events : (deliver endpoint line batch).2 = [] := by
        rw [deliver_events, push_of_unsendable sendable]
      have worker : (deliver endpoint line batch).1.queue.worker =
          .resting batch (line.now + line.queue.retryDelay) := by
        rw [deliver_queue, push_of_unsendable sendable]
        rfl
      rw [events, Line.Awaits, worker]
      exact ⟨trivial, inTimeLater sendable⟩
  | true =>
      let outcome := line.script.headD endpoint.success
      have events : (deliver endpoint line batch).2 = [.pushed line.now batch outcome] := by
        rw [deliver_events, push, if_pos sendable]
      have queue : (deliver endpoint line batch).1.queue =
          line.queue.judged line.now batch (endpoint.verdict outcome) := by
        rw [deliver_queue, push, if_pos sendable]
      rw [events, Line.Awaits, queue]
      refine ⟨⟨⟨sendable, inTime⟩, Entry.offers_of_untaken rfl _, trivial⟩, ?_⟩
      cases verdict : endpoint.verdict outcome with
      | accepted =>
          trivial
      | held =>
          trivial
      | refused =>
          have waits : earliest endpoint line.queue.retryDelay before
              [.event (.pushed line.now batch outcome)] =
                some (line.now + line.queue.retryDelay) := by
            simp [verdict]
          intro bound later
          rw [List.map_singleton, waits] at later
          cases later
          exact le_refl _

theorem pace_of_stepped
    {line next : Line ρ ο} {events : List (Event ρ ο)} {before : Option Rat}
    (step : Stepped endpoint line next events)
    (awaits : line.Awaits before) :
    Paced endpoint line.queue.retryDelay before (events.map .event) ∧
      next.Awaits (earliest endpoint line.queue.retryDelay before (events.map .event)) := by
  cases step with
  | takes =>
      -- taking a batch clears what was to be waited for
      have pushed := @pace_deliver _ _ endpoint { line with queue := line.queue.takeBatch }
        line.queue.nextBatch none (by simp) (by simp)
      refine ⟨⟨trivial, ?_, pushed.1⟩, pushed.2⟩
      intro batch taken sendable
      cases taken
      rw [deliver_events, push, if_pos sendable]
      exact ⟨_, _, rfl⟩
  | looksAway waiting =>
      refine ⟨trivial, ?_⟩
      rw [Line.Awaits, show line.queue.lookAway.worker = .waiting from waiting]
      trivial
  | @judges batch accepted answered =>
      refine ⟨trivial, ?_⟩
      rw [Line.Awaits, answered] at awaits
      cases accepted with
      | true =>
          trivial
      | false =>
          exact awaits
  | @pushesAgain batch due resting isDue unstuck =>
      rw [Line.Awaits, resting] at awaits
      apply pace_deliver
      · intro bound waits
        exact le_trans (awaits bound waits) isDue
      · intro unsendable bound waits
        have delayed : 0 < line.queue.retryDelay := by
          simpa [isStuck, unsendable] using unstuck
        linarith [awaits bound waits]

/-! ## Whole runs -/

/-- How the worker conducts itself in a history that leads from one line to another. -/
structure Conduct
    (endpoint : Endpoint ρ ο)
    (line : Line ρ ο) (history : List (Entry ρ ο)) (last : Line ρ ο) : Prop where
  running : last.queue.isRunning = runs line.queue.isRunning history
  delay : last.queue.retryDelay = line.queue.retryDelay
  pace : ∀ before, line.Awaits before →
    Paced endpoint line.queue.retryDelay before history ∧
      last.Awaits (earliest endpoint line.queue.retryDelay before history)

namespace Conduct

/-- Conduct where nothing happens at the endpoint. -/
theorem of_silent
    {line last : Line ρ ο} {move : Move ρ ο}
    (running : last.queue.isRunning = (Entry.move move : Entry ρ ο).runs line.queue.isRunning)
    (delay : last.queue.retryDelay = line.queue.retryDelay)
    (awaits : ∀ before, line.Awaits before → last.Awaits before) :
    Conduct endpoint line [.move move] last where
  running := running
  delay := delay
  pace := by
    intro before waits
    exact ⟨⟨trivial, Entry.offers_of_untaken rfl _, trivial⟩, awaits before waits⟩

theorem trans
    {line middle last : Line ρ ο} {earlier later : List (Entry ρ ο)}
    (first : Conduct endpoint line earlier middle)
    (second : Conduct endpoint middle later last) :
    Conduct endpoint line (earlier ++ later) last where
  running := by
    rw [runs_append, ← first.running]
    exact second.running
  delay := second.delay.trans first.delay
  pace := by
    intro before waits
    rcases first.pace before waits with ⟨pacedFirst, waitsMiddle⟩
    have pacedSecond := second.pace _ waitsMiddle
    rw [first.delay] at pacedSecond
    rw [earliest_append]
    exact ⟨paced_append pacedFirst pacedSecond.1, pacedSecond.2⟩

theorem of_stepped
    {line next : Line ρ ο} {events : List (Event ρ ο)}
    (step : Stepped endpoint line next events) :
    Conduct endpoint line (events.map .event) next where
  running := by
    rw [runs_events]
    cases step with
    | takes waiting =>
        rw [deliver_queue, Queue.isRunning, Queue.isRunning, waiting]
        exact Queue.judged_isRunning _ _ _ _
    | looksAway =>
        rfl
    | judges answered =>
        rw [Queue.isRunning, Queue.isRunning, answered]
        exact Queue.judged_isRunning _ _ _ _
    | pushesAgain resting =>
        rw [deliver_queue, Queue.isRunning, Queue.isRunning, resting]
        exact Queue.judged_isRunning _ _ _ _
  delay := by
    cases step with
    | takes =>
        exact Queue.judged_retryDelay _ _ _ _
    | looksAway =>
        rfl
    | judges =>
        exact Queue.judged_retryDelay _ _ _ _
    | pushesAgain =>
        exact Queue.judged_retryDelay _ _ _ _
  pace := fun _ awaits => pace_of_stepped step awaits

theorem of_start (line : Line ρ ο) :
    Conduct endpoint line [.move .start] { line with queue := line.queue.start } := by
  rw [Queue.start]
  split
  case h_1 =>
    exact of_silent rfl rfl fun _ _ => trivial
  case h_2 notStopped =>
    apply of_silent _ rfl fun _ waits => waits
    cases worker : line.queue.worker with
    | stopped =>
        exact absurd worker notStopped
    | _ =>
        simp [Queue.isRunning, worker, Worker.isRunning]

theorem of_release (line : Line ρ ο) (outcome : ο) :
    Conduct endpoint line
      (.move (.release outcome) :: (release endpoint line outcome).2.map .event)
      (release endpoint line outcome).1 := by
  rw [release]
  split
  case h_1 batch pushing =>
    constructor
    case running =>
      simp [Queue.isRunning, Queue.answer, pushing, Worker.isRunning]
    case delay =>
      simp [Queue.answer, pushing]
    case pace =>
      intro before _
      refine ⟨⟨trivial, Entry.offers_of_untaken rfl _, trivial, Entry.offers_of_untaken rfl _,
        trivial⟩, ?_⟩
      by_cases verdict : endpoint.verdict outcome = .accepted
      · simp [Line.Awaits, Queue.answer, pushing, verdict]
      · have waits : earliest endpoint line.queue.retryDelay before
            [.move (.release outcome), .event (.released line.now outcome)] =
              some (line.now + line.queue.retryDelay) := by
          simp [verdict]
        have refused : (endpoint.verdict outcome == .accepted) = false := by
          simpa using verdict
        rw [List.map_singleton, waits]
        simp [Line.Awaits, Queue.answer, pushing, refused]
  case h_2 =>
    exact of_silent rfl rfl fun _ waits => waits

end Conduct

/-- The worker keeps the pace through every run in which time does not go back. -/
theorem conduct_kept (endpoint : Endpoint ρ ο) :
    Kept endpoint (· ≤ ·) (Conduct endpoint) where
  forward := fun later => later
  refl := by
    intro line
    exact ⟨rfl, rfl, fun _ waits => ⟨trivial, waits⟩⟩
  trans := Conduct.trans
  step := Conduct.of_stepped
  clock := by
    intro line now later
    refine ⟨rfl, rfl, fun before waits => ⟨trivial, ?_⟩⟩
    simp only [Line.Awaits, earliest_nil] at waits ⊢
    split at waits
    · exact waits
    · intro bound member
      linarith [waits bound member]
    · exact trivial
  postpone := by
    intro line batch due again resting _ later
    refine ⟨?_, rfl, fun before waits => ⟨trivial, ?_⟩⟩
    · simp [Queue.isRunning, resting, Worker.isRunning]
    · rw [Line.Awaits, resting] at waits
      intro bound member
      exact le_trans (waits bound member) later
  call := by
    intro line move isCall
    cases move with
    | release outcome =>
        exact Conduct.of_release line outcome
    | start =>
        exact Conduct.of_start line
    | stop =>
        exact Conduct.of_silent rfl rfl fun _ _ => trivial
    | enqueue | notify | extend =>
        exact Conduct.of_silent rfl rfl fun _ waits => waits
    | _ =>
        cases isCall
  note := by
    intro line move noCall
    cases move with
    | pass | work | settle | advance =>
        exact Conduct.of_silent rfl rfl fun _ waits => waits
    | _ =>
        cases noCall

end TableSource.Replication
