import TableSource.Proofs.Replication.History
import TableSource.Proofs.Replication.Settling

/-!
# What every run keeps

A run is made of single steps of the worker, of calls, and of changes of the clock.  A relation
between the line before, the entries of a history and the line after holds of every run as soon as
it holds of these, of nothing at all, and of two runs one after the other.

How the clock may go on is left open, since some relations need it to go forward and others do not
look at it.
-/

namespace TableSource.Replication

variable {ρ ο : Type}

/-! ## Moves -/

/-- Whether somebody calls the queue, announces outcomes, or releases a push. -/
def Move.isCall : Move ρ ο → Bool
  | .enqueue _ | .notify | .start | .stop | .release _ | .extend _ => true
  | .pass _ | .work | .settle | .advance _ => false

/-- A move lets the clock go on only as it may. -/
def Move.Keeps (goesOn : Rat → Rat → Prop) : Move ρ ο → Prop
  | .pass seconds | .advance seconds => ∀ now, goesOn now (now + seconds)
  | _ => True

theorem Move.keeps_any (move : Move ρ ο) :
    move.Keeps fun _ _ => True := by
  cases move with
  | pass seconds =>
      exact fun _ => trivial
  | advance seconds =>
      exact fun _ => trivial
  | _ =>
      exact trivial

theorem Move.keeps_advance
    {seconds : Rat}
    (positive : 0 ≤ seconds) :
    (advance seconds : Move ρ ο).Keeps (· ≤ ·) :=
  fun _ => le_add_of_nonneg_right positive

/-! ## The clock in an advance -/

/-- A batch that cannot be sent is due again no earlier than before. -/
theorem le_nextDue
    {due target : Rat} (delay : Rat)
    (past : due ≤ target) :
    due ≤ nextDue due delay target := by
  rw [nextDue]
  split
  · exact le_refl due
  · next positive =>
      have delayed : 0 ≤ delay := le_of_lt (not_le.mp positive)
      have quotient : 0 ≤ (target - due) / delay := div_nonneg (sub_nonneg.mpr past) delayed
      have whole : (0 : Rat) ≤ ((target - due) / delay).floor :=
        Int.cast_nonneg (Rat.le_floor_iff.mpr quotient)
      have times : 0 ≤ (((target - due) / delay).floor + 1 : Rat) := by
        linarith
      linarith [mul_nonneg times delayed]

/-- Ringing until a target does not take the clock beyond it. -/
theorem ring_now
    (endpoint : Endpoint ρ ο) (target : Rat) (times : Nat) (line : Line ρ ο) :
    (ring endpoint target times line).1.now = line.now ∨
      (ring endpoint target times line).1.now ≤ target := by
  induction times generalizing line with
  | zero =>
      exact .inl rfl
  | succ times induction =>
      rw [ring]
      split
      · next batch due resting =>
          split
          · exact .inl rfl
          · next reached =>
              split
              · -- the timer goes off at its time, and later ones do not take it beyond the target
                have settledNow : (settle endpoint { line with now := due }).1.now = due :=
                  run_now _ _
                right
                rcases induction (settle endpoint { line with now := due }).1 with same | within
                · exact le_of_eq_of_le (same.trans settledNow) (not_lt.mp reached)
                · exact within
              · exact .inl rfl
      · exact .inl rfl

/-! ## Relations -/

/-- A relation that holds of everything that happens at once, and of what is made of it. -/
structure Kept
    (endpoint : Endpoint ρ ο) (goesOn : Rat → Rat → Prop)
    (kept : Line ρ ο → List (Entry ρ ο) → Line ρ ο → Prop) : Prop where
  forward : ∀ {earlier later : Rat}, earlier ≤ later → goesOn earlier later
  refl : ∀ line, kept line [] line
  trans : ∀ {line middle last earlier later},
    kept line earlier middle → kept middle later last → kept line (earlier ++ later) last
  step : ∀ {line next events},
    Stepped endpoint line next events → kept line (events.map .event) next
  clock : ∀ {line : Line ρ ο} {now}, goesOn line.now now → kept line [] { line with now }
  /-- A batch that cannot be sent is due again later. -/
  postpone : ∀ {line : Line ρ ο} {batch due again},
    line.queue.worker = .resting batch due → endpoint.canSend batch = false → due ≤ again →
      kept line [] { line with queue := { line.queue with worker := .resting batch again } }
  call : ∀ line move, move.isCall = true →
    kept line (.move move :: (line.make endpoint move).2.map .event) (line.make endpoint move).1
  note : ∀ line move, move.isCall = false → kept line [.move move] line

namespace Kept

variable {endpoint : Endpoint ρ ο} {goesOn : Rat → Rat → Prop}
variable {kept : Line ρ ο → List (Entry ρ ο) → Line ρ ο → Prop}

theorem of_run
    (all : Kept endpoint goesOn kept)
    (steps : Nat) (line : Line ρ ο) :
    kept line ((run endpoint steps line).2.map .event) (run endpoint steps line).1 := by
  induction steps generalizing line with
  | zero =>
      exact all.refl line
  | succ steps induction =>
      rw [run]
      split
      · exact all.refl line
      · next next events step =>
          rw [List.map_append]
          exact all.trans (all.step (stepped_of_step? step)) (induction next)

theorem of_settle
    (all : Kept endpoint goesOn kept)
    (line : Line ρ ο) :
    kept line ((settle endpoint line).2.map .event) (settle endpoint line).1 :=
  all.of_run line.effort line

theorem of_ring
    (all : Kept endpoint goesOn kept)
    (target : Rat) (times : Nat) {line : Line ρ ο}
    (settled : line.Settled endpoint) :
    kept line ((ring endpoint target times line).2.map .event)
      (ring endpoint target times line).1 := by
  induction times generalizing line with
  | zero =>
      exact all.refl line
  | succ times induction =>
      rw [ring]
      split
      · next batch due resting =>
          split
          · exact all.refl line
          · next reached =>
              split
              · next sendable =>
                  -- the line is settled, so the clock goes forward to the time of the timer
                  have later := le_of_lt (settled.lt_due resting sendable)
                  have ticked := all.clock (all.forward later)
                  have settledLater := all.of_settle { line with now := due }
                  have rung := induction (settle_settled endpoint { line with now := due })
                  rw [List.map_append]
                  exact all.trans (all.trans ticked settledLater) rung
              · next unsendable =>
                  exact all.postpone resting (by simpa using unsendable)
                    (le_nextDue _ (not_lt.mp reached))
      · exact all.refl line

theorem of_advance
    (all : Kept endpoint goesOn kept)
    {seconds : Rat} (line : Line ρ ο)
    (goes : goesOn line.now (line.now + seconds)) :
    kept line ((advance endpoint line seconds).2.map .event)
      (advance endpoint line seconds).1 := by
  rw [advance]
  have settled := all.of_settle line
  have rung := all.of_ring (line.now + seconds) ((settle endpoint line).1.script.length + 2)
    (settle_settled endpoint line)
  have goesToTarget : goesOn
      (ring endpoint (line.now + seconds) ((settle endpoint line).1.script.length + 2)
        (settle endpoint line).1).1.now (line.now + seconds) := by
    rcases ring_now endpoint (line.now + seconds) ((settle endpoint line).1.script.length + 2)
      (settle endpoint line).1 with same | within
    · rw [same, show (settle endpoint line).1.now = line.now from run_now _ _]
      exact goes
    · exact all.forward within
  have both := all.trans (all.trans settled rung) (all.clock goesToTarget)
  rw [List.append_nil, ← List.map_append] at both
  exact both

theorem of_make
    (all : Kept endpoint goesOn kept)
    (line : Line ρ ο) {move : Move ρ ο}
    (keeps : move.Keeps goesOn) :
    kept line (.move move :: (line.make endpoint move).2.map .event)
      (line.make endpoint move).1 := by
  cases move with
  | pass seconds =>
      exact all.trans (all.note line (.pass seconds) rfl) (all.clock (keeps line.now))
  | work =>
      have noted := all.note line .work rfl
      simp only [Line.make]
      cases step : step? endpoint line with
      | none =>
          exact noted
      | some result =>
          exact all.trans noted (all.step (stepped_of_step? step))
  | settle =>
      exact all.trans (all.note line .settle rfl) (all.of_settle line)
  | advance seconds =>
      exact all.trans (all.note line (.advance seconds) rfl) (all.of_advance line (keeps line.now))
  | _ =>
      exact all.call line _ rfl

/-- A relation that is kept holds of every run. -/
theorem of_play
    (all : Kept endpoint goesOn kept)
    (line : Line ρ ο) (moves : List (Move ρ ο))
    (keep : ∀ move ∈ moves, move.Keeps goesOn) :
    kept line (line.play endpoint moves).2 (line.play endpoint moves).1 := by
  induction moves generalizing line with
  | nil =>
      exact all.refl line
  | cons move rest induction =>
      rw [List.forall_mem_cons] at keep
      exact all.trans (all.of_make line keep.1) (induction (line.make endpoint move).1 keep.2)

end Kept

end TableSource.Replication
