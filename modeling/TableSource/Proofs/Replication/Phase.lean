import TableSource.Proofs.Replication.History

/-!
# Phases of delivery

Seen from the endpoint, the worker is in one of three phases: it has no batch that still has to be
accepted, it holds such a batch, or it has asked the endpoint to accept one.  Which entries of a
history can occur in which phase is the whole discipline of delivery: a batch is taken only when
none is held, only the batch that is held is pushed, and only acceptance or a stop lets go of it.

The statements about histories follow from this discipline alone, without looking at queues.
-/

namespace TableSource.Replication

variable {ρ ο : Type}

open History

/-- What the worker still has to have accepted. -/
inductive Phase (ρ : Type) where
  | free
  /-- A batch that no open push carries. -/
  | holding (batch : List ρ)
  /-- A batch that an open push carries. -/
  | asking (batch : List ρ)

/-- The phase of a worker.  A batch whose acceptance the worker has not yet looked at is no longer
to be accepted. -/
def Worker.phase : Worker ρ → Phase ρ
  | .stopped | .waiting | .answered _ true => .free
  | .answered batch false | .resting batch _ => .holding batch
  | .pushing batch => .asking batch

namespace Phase

/-- The batch that still has to be accepted. -/
def batch? : Phase ρ → Option (List ρ)
  | .free => none
  | .holding batch | .asking batch => some batch

@[simp]
theorem batch?_free : (.free : Phase ρ).batch? = none := rfl

@[simp]
theorem batch?_holding (batch : List ρ) : (holding batch).batch? = some batch := rfl

@[simp]
theorem batch?_asking (batch : List ρ) : (asking batch).batch? = some batch := rfl

/-- The phase after a verdict on a push of a batch. -/
@[simp]
def judged (batch : List ρ) : Verdict → Phase ρ
  | .accepted => .free
  | .refused => .holding batch
  | .held => .asking batch

/-- A batch that is not accepted still has to be. -/
theorem batch?_judged_of_ne
    {verdict : Verdict}
    (batch : List ρ)
    (unaccepted : verdict ≠ .accepted) :
    (judged batch verdict).batch? = some batch := by
  cases verdict with
  | accepted =>
      exact absurd rfl unaccepted
  | refused =>
      rfl
  | held =>
      rfl

/-- The entries that can occur in a phase, and the phase after them. -/
inductive Step (endpoint : Endpoint ρ ο) : Phase ρ → Entry ρ ο → Phase ρ → Prop where
  | taken (batch : List ρ) :
      Step endpoint .free (.event (.taken batch)) (.holding batch)
  | pushed (time : Rat) (batch : List ρ) (outcome : ο) :
      Step endpoint (.holding batch) (.event (.pushed time batch outcome))
        (judged batch (endpoint.verdict outcome))
  | accepted (time : Rat) (batch : List ρ) (outcome : ο)
      (verdict : endpoint.verdict outcome = .accepted) :
      Step endpoint (.asking batch) (.event (.released time outcome)) .free
  | refused (time : Rat) (batch : List ρ) (outcome : ο)
      (verdict : endpoint.verdict outcome ≠ .accepted) :
      Step endpoint (.asking batch) (.event (.released time outcome)) (.holding batch)
  | stopped (phase : Phase ρ) :
      Step endpoint phase (.move .stop) .free
  | moved (phase : Phase ρ) (move : Move ρ ο) (other : move ≠ .stop) :
      Step endpoint phase (.move move) phase

/-- The histories that lead from one phase to another. -/
inductive Path (endpoint : Endpoint ρ ο) : Phase ρ → List (Entry ρ ο) → Phase ρ → Prop where
  | nil (phase : Phase ρ) :
      Path endpoint phase [] phase
  | cons {first next last : Phase ρ} {entry : Entry ρ ο} {rest : List (Entry ρ ο)}
      (step : Step endpoint first entry next)
      (later : Path endpoint next rest last) :
      Path endpoint first (entry :: rest) last

variable {endpoint : Endpoint ρ ο}

/-- A history leads to a phase exactly when each part of it leads on from the one before. -/
theorem path_append_iff
    {first last : Phase ρ}
    {earlier later : List (Entry ρ ο)} :
    Path endpoint first (earlier ++ later) last ↔
      ∃ middle, Path endpoint first earlier middle ∧ Path endpoint middle later last := by
  constructor
  · intro path
    induction earlier generalizing first with
    | nil =>
        exact ⟨first, .nil first, path⟩
    | cons entry rest induction =>
        cases path with
        | cons step others =>
            rcases induction others with ⟨middle, before, after⟩
            exact ⟨middle, .cons step before, after⟩
  · rintro ⟨middle, before, after⟩
    induction before with
    | nil =>
        exact after
    | cons step _ induction =>
        exact .cons step (induction after)

theorem path_single
    {first last : Phase ρ} {entry : Entry ρ ο}
    (step : Step endpoint first entry last) :
    Path endpoint first [entry] last :=
  .cons step (.nil last)

/-! ## The batch in hand -/

theorem getLast?_append_of_some
    {later : List (List ρ)} {batch : List ρ}
    (earlier : List (List ρ))
    (latest : later.getLast? = some batch) :
    (earlier ++ later).getLast? = some batch := by
  rw [List.getLast?_append, latest, Option.some_or]

/-- A batch that still has to be accepted is the one that was taken last. -/
theorem Path.latest
    {first last : Phase ρ}
    {history : List (Entry ρ ο)} {batch : List ρ}
    (path : Path endpoint first history last)
    (held : last.batch? = some batch) :
    (first.batch?.toList ++ batches history).getLast? = some batch := by
  induction path with
  | nil phase =>
      rw [held]
      rfl
  | cons step _ induction =>
      have latest := induction held
      cases step with
      | taken taken =>
          simpa using latest
      | pushed time pushed outcome =>
          by_cases verdict : endpoint.verdict outcome = .accepted
          · rw [verdict] at latest
            exact getLast?_append_of_some _ latest
          · rw [batch?_judged_of_ne pushed verdict] at latest
            exact latest
      | accepted =>
          exact getLast?_append_of_some _ latest
      | refused =>
          exact latest
      | stopped =>
          exact getLast?_append_of_some _ latest
      | moved =>
          exact latest

/-- Every push carries the batch that was taken last. -/
theorem Path.push_carries_latest
    {last : Phase ρ}
    {before after : List (Entry ρ ο)}
    {time : Rat} {batch : List ρ} {outcome : ο}
    (path : Path endpoint .free (before ++ .event (.pushed time batch outcome) :: after) last) :
    (batches before).getLast? = some batch := by
  rcases path_append_iff.mp path with ⟨middle, earlier, later⟩
  cases later with
  | cons step _ =>
      cases step with
      | pushed =>
          have held : (holding batch).batch? = some batch := rfl
          simpa using earlier.latest held

/-! ## How a batch is let go -/

/-- Without a batch nothing is accepted, and no batch comes into hand unless one is taken. -/
theorem Path.free_of_untaken
    {last : Phase ρ}
    {during : List (Entry ρ ο)}
    (path : Path endpoint .free during last)
    (untaken : batches during = []) :
    acceptances endpoint during = 0 ∧ last = .free := by
  induction during with
  | nil =>
      cases path
      exact ⟨rfl, rfl⟩
  | cons entry rest induction =>
      cases path with
      | cons step later =>
          cases step with
          | taken =>
              simp at untaken
          | stopped =>
              simpa [acceptances_cons] using induction later untaken
          | moved =>
              simpa [acceptances_cons] using induction later untaken

/-- A batch is let go either after exactly one accepted push, or by a stop before any. -/
theorem Path.acceptances_of_closed
    {first : Phase ρ}
    {during : List (Entry ρ ο)} {batch : List ρ}
    (path : Path endpoint first during .free)
    (held : first.batch? = some batch)
    (untaken : batches during = []) :
    acceptances endpoint during = 1 ∨
      (acceptances endpoint during = 0 ∧ .move .stop ∈ during) := by
  -- the phase may change from held to asked and back as long as nothing is accepted
  induction during generalizing first with
  | nil =>
      cases path
      simp [batch?] at held
  | cons entry rest induction =>
      cases path with
      | cons step later =>
          cases step with
          | taken =>
              simp at untaken
          | pushed time pushed outcome =>
              by_cases verdict : endpoint.verdict outcome = .accepted
              · rw [verdict] at later
                have none := later.free_of_untaken untaken
                simp [acceptances_cons, verdict, none.1]
              · have stillHeld : (judged pushed (endpoint.verdict outcome)).batch? = some batch :=
                  (batch?_judged_of_ne pushed verdict).trans held
                simpa [acceptances_cons, verdict] using
                  induction later stillHeld untaken
          | accepted time asked outcome verdict =>
              have none := later.free_of_untaken untaken
              simp [acceptances_cons, verdict, none.1]
          | refused time asked outcome verdict =>
              simpa [acceptances_cons, verdict] using
                induction later held untaken
          | stopped =>
              have none := later.free_of_untaken untaken
              simp [acceptances_cons, none.1]
          | moved _ move other =>
              simpa [acceptances_cons, Ne.symm other] using
                induction later held untaken

/-- Between two batches that are taken one after the other, the first is let go. -/
theorem Path.closed_before_next
    {last : Phase ρ}
    {before during after : List (Entry ρ ο)} {batch next : List ρ}
    (path : Path endpoint .free
      (before ++ .event (.taken batch) :: (during ++ .event (.taken next) :: after)) last)
    (untaken : batches during = []) :
    acceptances endpoint during = 1 ∨
      (acceptances endpoint during = 0 ∧ .move .stop ∈ during) := by
  rcases path_append_iff.mp path with ⟨_, _, fromTaken⟩
  cases fromTaken with
  | cons step rest =>
      cases step
      rcases path_append_iff.mp rest with ⟨_, between, fromNext⟩
      cases fromNext with
      | cons step _ =>
          cases step
          have held : (holding batch).batch? = some batch := rfl
          exact between.acceptances_of_closed held untaken

/-- Unless there is a stop, every batch is accepted once, except one that is still in hand. -/
theorem Path.batches_of_unstopped
    {first last : Phase ρ}
    {history : List (Entry ρ ο)}
    (latest : Option (List ρ))
    (path : Path endpoint first history last)
    (unstopped : .move .stop ∉ history)
    (agrees : ∀ batch, first.batch? = some batch → latest = some batch) :
    first.batch?.toList ++ batches history =
      accepted endpoint latest history ++ last.batch?.toList := by
  induction path generalizing latest with
  | nil phase =>
      simp [accepted]
  | cons step _ induction =>
      rw [List.mem_cons, not_or] at unstopped
      cases step with
      | taken taken =>
          have rest := induction (some taken) unstopped.2 fun _ same => same
          simpa [accepted] using rest
      | pushed time pushed outcome =>
          obtain rfl := agrees pushed rfl
          by_cases verdict : endpoint.verdict outcome = .accepted
          · rw [verdict] at induction
            have rest := induction (some pushed) unstopped.2 (by simp)
            simpa [accepted, verdict] using rest
          · rw [batch?_judged_of_ne pushed verdict] at induction
            have rest := induction (some pushed) unstopped.2 agrees
            simpa [accepted, verdict] using rest
      | accepted time asked outcome verdict =>
          obtain rfl := agrees asked rfl
          have rest := induction (some asked) unstopped.2 (by simp)
          simpa [accepted, verdict] using rest
      | refused time asked outcome verdict =>
          have rest := induction latest unstopped.2 agrees
          simpa [accepted, verdict] using rest
      | stopped =>
          simp at unstopped
      | moved =>
          have rest := induction latest unstopped.2 agrees
          simpa [accepted] using rest

end Phase

end TableSource.Replication
