import TableSource.Replication.Queue

/-!
# Delivering batches

The endpoint answers pushes by a script of outcomes, one for each push; when the script is used up
every push succeeds.  An outcome accepts the batch, refuses it, or leaves the push open until
somebody releases it.  Time passes only where it is advanced: everything that can happen at one
time happens before the clock goes on, which is what settling means.

A batch that cannot be sent at all counts as refused; no outcome is used up by it.
-/

namespace TableSource.Replication

/-- What an outcome does to a push. -/
inductive Verdict where
  | accepted
  | refused
  | held
  deriving DecidableEq, Repr

/-- How the endpoint reads outcomes, and what can be sent to it. -/
structure Endpoint (ρ ο : Type) where
  verdict : ο → Verdict
  /-- The outcome of every push after the script. -/
  success : ο
  success_accepted : verdict success = .accepted
  canSend : List ρ → Bool

/-- Something that happened between the worker and the endpoint. -/
inductive Event (ρ ο : Type) where
  | taken (batch : List ρ)
  | pushed (time : Rat) (batch : List ρ) (outcome : ο)
  /-- A push that was left open was released. -/
  | released (time : Rat) (outcome : ο)
  deriving Repr

/-- A queue with its endpoint's script and the clock. -/
structure Line (ρ ο : Type) where
  queue : Queue ρ
  script : List ο
  now : Rat

variable {ρ ο : Type}

/-! ## One attempt -/

/-- What pushing a batch came to. -/
structure Attempt (ρ ο : Type) where
  verdict : Verdict
  /-- What is left of the script. -/
  script : List ο
  events : List (Event ρ ο)

/-- Pushes a batch once, unless it cannot be sent. -/
def push (endpoint : Endpoint ρ ο) (line : Line ρ ο) (batch : List ρ) : Attempt ρ ο :=
  if endpoint.canSend batch then
    let outcome := line.script.headD endpoint.success
    { verdict := endpoint.verdict outcome
      script := line.script.tail
      events := [.pushed line.now batch outcome] }
  else { verdict := .refused, script := line.script, events := [] }

def Queue.judged (queue : Queue ρ) (now : Rat) (batch : List ρ) : Verdict → Queue ρ
  | .accepted => queue.delivered
  | .refused => queue.refused now batch
  | .held => { queue with worker := .pushing batch }

/-- Pushes a batch that the worker holds and goes on from the verdict. -/
def deliver (endpoint : Endpoint ρ ο) (line : Line ρ ο) (batch : List ρ) :
    Line ρ ο × List (Event ρ ο) :=
  let outcome := push endpoint line batch
  ({ line with
      queue := line.queue.judged line.now batch outcome.verdict
      script := outcome.script },
    outcome.events)

/-! ## Settling -/

/-- Whether pushing a batch again changes nothing: it cannot be sent, and there is no delay between
attempts. -/
def isStuck (endpoint : Endpoint ρ ο) (line : Line ρ ο) (batch : List ρ) : Bool :=
  decide (line.queue.retryDelay ≤ 0) && !endpoint.canSend batch

/-- The next thing that the worker does without time passing, if there is one. -/
def step? (endpoint : Endpoint ρ ο) (line : Line ρ ο) : Option (Line ρ ο × List (Event ρ ο)) :=
  match line.queue.worker with
  | .waiting =>
    if line.queue.wake then
      if line.queue.hasWork then
        let batch := line.queue.nextBatch
        let (next, events) := deliver endpoint { line with queue := line.queue.takeBatch } batch
        some (next, .taken batch :: events)
      else some ({ line with queue := line.queue.lookAway }, [])
    else none
  | .answered batch accepted =>
    some ({ line with
      queue := line.queue.judged line.now batch (if accepted then .accepted else .refused) }, [])
  | .resting batch due =>
    if line.now < due || isStuck endpoint line batch then none
    else some (deliver endpoint line batch)
  | _ => none

/-- Lets the worker take at most a number of steps. -/
def run (endpoint : Endpoint ρ ο) : Nat → Line ρ ο → Line ρ ο × List (Event ρ ο)
  | 0, line => (line, [])
  | steps + 1, line =>
    match step? endpoint line with
    | none => (line, [])
    | some (next, events) =>
      let (last, later) := run endpoint steps next
      (last, events ++ later)

/-- A number of steps after which the worker has nothing to do: one for each pending row and each
outcome of the script, and four for an answer, a last attempt and two looks at the flag. -/
def Line.effort (line : Line ρ ο) : Nat :=
  line.queue.pending.length + line.script.length + 4

/-- Lets the worker do everything that it can do without time passing. -/
def settle (endpoint : Endpoint ρ ο) (line : Line ρ ο) : Line ρ ο × List (Event ρ ο) :=
  run endpoint line.effort line

/-! ## Releasing and advancing -/

/-- Releases the push that is open, if there is one. -/
def release (endpoint : Endpoint ρ ο) (line : Line ρ ο) (outcome : ο) :
    Line ρ ο × List (Event ρ ο) :=
  match line.queue.worker with
  | .pushing _ =>
    ({ line with queue := line.queue.answer (endpoint.verdict outcome == .accepted) },
      [.released line.now outcome])
  | _ => (line, [])

/-- The first time after a target at which a batch that cannot be sent is tried again. -/
def nextDue (due delay target : Rat) : Rat :=
  if delay ≤ 0 then due else due + (((target - due) / delay).floor + 1) * delay

/-- Lets the timer of a refused batch go off as often as it is due until a target, but at most a
number of times.  For a batch that cannot be sent only the last time counts. -/
def ring (endpoint : Endpoint ρ ο) (target : Rat) :
    Nat → Line ρ ο → Line ρ ο × List (Event ρ ο)
  | 0, line => (line, [])
  | times + 1, line =>
    match line.queue.worker with
    | .resting batch due =>
      if target < due then (line, [])
      else if endpoint.canSend batch then
        let (settled, events) := settle endpoint { line with now := due }
        let (last, later) := ring endpoint target times settled
        (last, events ++ later)
      else
        let again := nextDue due line.queue.retryDelay target
        ({ line with queue := { line.queue with worker := .resting batch again } }, [])
    | _ => (line, [])

/-- Lets time pass: what can happen now happens first, then every timer that is due goes off at
its time, and at the end the clock shows the new time.  Each timer uses up an outcome of the script
or succeeds, so one more than the length of the script are enough. -/
def advance (endpoint : Endpoint ρ ο) (line : Line ρ ο) (seconds : Rat) :
    Line ρ ο × List (Event ρ ο) :=
  let target := line.now + seconds
  let (settled, events) := settle endpoint line
  let (rung, more) := ring endpoint target (settled.script.length + 2) settled
  ({ rung with now := target }, events ++ more)

end TableSource.Replication
