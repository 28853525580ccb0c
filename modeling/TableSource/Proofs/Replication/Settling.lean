import Mathlib.Algebra.Order.Field.Rat
import Mathlib.Tactic.Linarith
import TableSource.Replication.Delivery

/-!
# Settling

A line is settled when its worker can do nothing without time passing.  Settling a line leaves it
settled, because every step of the worker uses up something that is limited: an outcome of the
script, a pending row, or a reason to look at the flag.

In a settled line a refused batch that can be sent is due later than now.  So the clock never goes
back when a timer goes off at its time.
-/

namespace TableSource.Replication

variable {ρ ο : Type} {endpoint : Endpoint ρ ο}

/-- The worker can do nothing without time passing or somebody calling. -/
def Line.Settled (endpoint : Endpoint ρ ο) (line : Line ρ ο) : Prop :=
  step? endpoint line = none

/-! ## What a step can be -/

/-- The steps that the worker of a line can take, each with the line after it and with what
happens. -/
inductive Stepped (endpoint : Endpoint ρ ο) (line : Line ρ ο) :
    Line ρ ο → List (Event ρ ο) → Prop where
  | takes
      (waiting : line.queue.worker = .waiting)
      (awake : line.queue.wake = true)
      (work : line.queue.hasWork = true) :
      Stepped endpoint line
        (deliver endpoint { line with queue := line.queue.takeBatch } line.queue.nextBatch).1
        (.taken line.queue.nextBatch ::
          (deliver endpoint { line with queue := line.queue.takeBatch } line.queue.nextBatch).2)
  | looksAway
      (waiting : line.queue.worker = .waiting)
      (awake : line.queue.wake = true)
      (noWork : line.queue.hasWork = false) :
      Stepped endpoint line { line with queue := line.queue.lookAway } []
  | judges {batch : List ρ} {accepted : Bool}
      (answered : line.queue.worker = .answered batch accepted) :
      Stepped endpoint line
        { line with
          queue := line.queue.judged line.now batch (if accepted then .accepted else .refused) }
        []
  | pushesAgain {batch : List ρ} {due : Rat}
      (resting : line.queue.worker = .resting batch due)
      (isDue : due ≤ line.now)
      (unstuck : isStuck endpoint line batch = false) :
      Stepped endpoint line (deliver endpoint line batch).1 (deliver endpoint line batch).2

theorem stepped_of_step?
    {line next : Line ρ ο} {events : List (Event ρ ο)}
    (step : step? endpoint line = some (next, events)) :
    Stepped endpoint line next events := by
  rw [step?] at step
  split at step
  case h_1 waiting =>
    split at step
    case isTrue awake =>
      split at step
      case isTrue work =>
        rcases Prod.mk.inj (Option.some.inj step) with ⟨rfl, rfl⟩
        exact .takes waiting awake work
      case isFalse noWork =>
        rcases Prod.mk.inj (Option.some.inj step) with ⟨rfl, rfl⟩
        exact .looksAway waiting awake (by simpa using noWork)
    case isFalse =>
      cases step
  case h_2 batch accepted answered =>
    rcases Prod.mk.inj (Option.some.inj step) with ⟨rfl, rfl⟩
    exact .judges answered
  case h_3 batch due resting =>
    split at step
    case isTrue =>
      cases step
    case isFalse again =>
      have stepped := Option.some.inj step
      rw [Bool.or_eq_true, not_or, decide_eq_true_eq, not_lt, Bool.not_eq_true] at again
      rw [show next = (deliver endpoint line batch).1 from congrArg Prod.fst stepped.symm,
        show events = (deliver endpoint line batch).2 from congrArg Prod.snd stepped.symm]
      exact .pushesAgain resting again.1 again.2
  case h_4 =>
    cases step

theorem step?_now
    {line next : Line ρ ο} {events : List (Event ρ ο)}
    (step : step? endpoint line = some (next, events)) :
    next.now = line.now := by
  cases stepped_of_step? step <;> rfl

/-! ## What a push uses up -/

theorem push_of_unsendable
    {line : Line ρ ο} {batch : List ρ}
    (unsendable : endpoint.canSend batch = false) :
    push endpoint line batch =
      { verdict := .refused, script := line.script, events := [] } := by
  simp [push, unsendable]

theorem push_script_le (endpoint : Endpoint ρ ο) (line : Line ρ ο) (batch : List ρ) :
    (push endpoint line batch).script.length ≤ line.script.length := by
  rw [push]
  split
  · simp
  · exact Nat.le_refl _

/-- After the script every push is accepted, so a push that is refused was announced. -/
theorem push_script_lt
    {line : Line ρ ο} {batch : List ρ}
    (sendable : endpoint.canSend batch = true)
    (refused : (push endpoint line batch).verdict = .refused) :
    (push endpoint line batch).script.length < line.script.length := by
  simp only [push, sendable, if_true] at refused ⊢
  cases script : line.script with
  | nil =>
      rw [script, List.headD_nil, endpoint.success_accepted] at refused
      cases refused
  | cons outcome rest =>
      simp

/-! ## The steps that are left -/

/-- How often a waiting worker can still look at the flag: once for each pending row, and once
when there is no work. -/
def Queue.looks (queue : Queue ρ) : Nat :=
  if queue.wake then queue.pending.length + 1 else 0

/-- A bound on the steps that the worker can take without time passing. -/
def Line.remaining (endpoint : Endpoint ρ ο) (line : Line ρ ο) : Nat :=
  match line.queue.worker with
  | .stopped | .pushing _ => 0
  | .waiting => if line.queue.wake then line.script.length + line.queue.looks else 0
  | .answered _ _ => line.script.length + line.queue.delivered.looks + 2
  | .resting batch due =>
    if line.now < due ∨ isStuck endpoint line batch = true then 0
    else line.script.length + line.queue.delivered.looks + 1

theorem Queue.looks_le (queue : Queue ρ) :
    queue.looks ≤ queue.pending.length + 1 := by
  rw [looks]
  split <;> omega

theorem Line.remaining_le_effort (line : Line ρ ο) :
    line.remaining endpoint ≤ line.effort := by
  have looks := line.queue.looks_le
  have looksLater : line.queue.delivered.looks ≤ line.queue.pending.length + 1 :=
    line.queue.delivered.looks_le
  rw [Line.remaining, Line.effort]
  split
  · omega
  · omega
  · split <;> omega
  · omega
  · split <;> omega

theorem Line.remaining_le_of_waiting
    {line : Line ρ ο}
    (waiting : line.queue.worker = .waiting) :
    line.remaining endpoint ≤ line.script.length + line.queue.looks := by
  rw [Line.remaining, waiting]
  show (if line.queue.wake = true then _ else 0) ≤ _
  split <;> omega

theorem Line.remaining_le_of_resting
    {line : Line ρ ο} {batch : List ρ} {due : Rat}
    (resting : line.queue.worker = .resting batch due) :
    line.remaining endpoint ≤ line.script.length + line.queue.delivered.looks + 1 := by
  rw [Line.remaining, resting]
  show (if line.now < due ∨ isStuck endpoint line batch = true then 0 else _) ≤ _
  split <;> omega

theorem Line.remaining_eq_zero_of_resting
    {line : Line ρ ο} {batch : List ρ} {due : Rat}
    (resting : line.queue.worker = .resting batch due)
    (idle : line.now < due ∨ isStuck endpoint line batch = true) :
    line.remaining endpoint = 0 := by
  rw [Line.remaining, resting]
  exact if_pos idle

/-- A push leaves at most the outcomes of the script and the looks after its delivery. -/
theorem remaining_deliver (endpoint : Endpoint ρ ο) (line : Line ρ ο) (batch : List ρ) :
    (deliver endpoint line batch).1.remaining endpoint ≤
      line.script.length + line.queue.delivered.looks := by
  have spent := push_script_le endpoint line batch
  let pushed := { line with script := (push endpoint line batch).script }
  cases verdict : (push endpoint line batch).verdict with
  | accepted =>
      have left : Line.remaining endpoint { pushed with queue := pushed.queue.delivered } ≤ _ :=
        Line.remaining_le_of_waiting rfl
      simp only [deliver, verdict, Queue.judged]
      exact Nat.le_trans left (Nat.add_le_add_right spent _)
  | held =>
      simp [deliver, verdict, Queue.judged, Line.remaining]
  | refused =>
      simp only [deliver, verdict, Queue.judged]
      by_cases sendable : endpoint.canSend batch = true
      · have fewer := push_script_lt sendable verdict
        have left : Line.remaining endpoint
            { pushed with queue := pushed.queue.refused pushed.now batch } ≤
              (push endpoint line batch).script.length + line.queue.delivered.looks + 1 :=
          Line.remaining_le_of_resting rfl
        exact Nat.le_trans left (by omega)
      · -- it cannot be sent, so nothing happens before the delay, or nothing at all without one
        have noSteps : pushed.now < pushed.now + pushed.queue.retryDelay ∨
            isStuck endpoint pushed batch = true := by
          by_cases delay : pushed.queue.retryDelay ≤ 0
          · right
            simp [isStuck, delay, sendable]
          · left
            linarith
        have none : Line.remaining endpoint
            { pushed with queue := pushed.queue.refused pushed.now batch } = 0 :=
          Line.remaining_eq_zero_of_resting rfl noSteps
        exact Nat.le_trans (Nat.le_of_eq none) (Nat.zero_le _)

/-- Taking a batch takes a row, or else is the last look. -/
theorem Queue.looks_takeBatch_lt
    {queue : Queue ρ}
    (awake : queue.wake = true) :
    queue.takeBatch.delivered.looks < queue.looks := by
  have size := queue.batchSize_pos
  simp only [looks, awake, if_true, delivered, takeBatch, Bool.false_or, List.length_drop]
  split
  · next left =>
      have filled : queue.pending.drop queue.batchSize ≠ [] := by
        simpa using left
      have long := List.length_pos_iff.mpr filled
      rw [List.length_drop] at long
      omega
  · omega

/-- Every step leaves fewer steps. -/
theorem remaining_step
    {line next : Line ρ ο} {events : List (Event ρ ο)}
    (step : step? endpoint line = some (next, events)) :
    next.remaining endpoint < line.remaining endpoint := by
  cases stepped_of_step? step with
  | takes waiting awake work =>
      have before : line.remaining endpoint = line.script.length + line.queue.looks := by
        simp [Line.remaining, waiting, awake]
      have after := remaining_deliver endpoint
        { line with queue := line.queue.takeBatch } line.queue.nextBatch
      have fewer := Queue.looks_takeBatch_lt awake
      rw [before]
      exact Nat.lt_of_le_of_lt after (Nat.add_lt_add_left fewer _)
  | looksAway waiting awake noWork =>
      have before : line.remaining endpoint = line.script.length + line.queue.looks := by
        simp [Line.remaining, waiting, awake]
      have looks : line.queue.looks = line.queue.pending.length + 1 := by
        simp [Queue.looks, awake]
      have after : Line.remaining endpoint { line with queue := line.queue.lookAway } = 0 := by
        simp [Line.remaining, Queue.lookAway, waiting]
      omega
  | @judges batch accepted answered =>
      have before : line.remaining endpoint =
          line.script.length + line.queue.delivered.looks + 2 := by
        rw [Line.remaining, answered]
      rw [before]
      cases accepted with
      | true =>
          have after : Line.remaining endpoint { line with queue := line.queue.delivered } ≤
              line.script.length + line.queue.delivered.looks :=
            Line.remaining_le_of_waiting rfl
          exact Nat.lt_of_le_of_lt after (by omega)
      | false =>
          have after : Line.remaining endpoint
              { line with queue := line.queue.refused line.now batch } ≤
                line.script.length + line.queue.delivered.looks + 1 :=
            Line.remaining_le_of_resting rfl
          exact Nat.lt_of_le_of_lt after (by omega)
  | @pushesAgain batch due resting isDue unstuck =>
      have before : line.remaining endpoint =
          line.script.length + line.queue.delivered.looks + 1 := by
        rw [Line.remaining, resting]
        simp [isDue, unstuck]
      have after := remaining_deliver endpoint line batch
      omega

/-! ## Settled lines -/

theorem run_settled
    {steps : Nat} {line : Line ρ ο}
    (enough : line.remaining endpoint ≤ steps) :
    (run endpoint steps line).1.Settled endpoint := by
  induction steps generalizing line with
  | zero =>
      rw [run, Line.Settled]
      cases step : step? endpoint line with
      | none =>
          rfl
      | some result =>
          rcases result with ⟨next, events⟩
          have fewer := remaining_step step
          omega
  | succ steps induction =>
      rw [run]
      split
      · next step =>
          exact step
      · next next events step =>
          have fewer := remaining_step step
          exact induction (by omega)

/-- Settling a line leaves it settled. -/
theorem settle_settled (endpoint : Endpoint ρ ο) (line : Line ρ ο) :
    (settle endpoint line).1.Settled endpoint :=
  run_settled line.remaining_le_effort

theorem run_now (steps : Nat) (line : Line ρ ο) :
    (run endpoint steps line).1.now = line.now := by
  induction steps generalizing line with
  | zero =>
      rfl
  | succ steps induction =>
      rw [run]
      split
      · rfl
      · next next events step =>
          exact (induction next).trans (step?_now step)

/-- In a settled line a refused batch that can be sent is due later. -/
theorem Line.Settled.lt_due
    {line : Line ρ ο} {batch : List ρ} {due : Rat}
    (settled : line.Settled endpoint)
    (resting : line.queue.worker = .resting batch due)
    (sendable : endpoint.canSend batch = true) :
    line.now < due := by
  rw [Line.Settled, step?, resting] at settled
  by_contra late
  simp [isStuck, sendable, late] at settled

end TableSource.Replication
