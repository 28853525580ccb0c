/-!
# The replication queue

Rows that were stored wait in a queue until a remote endpoint has accepted them.  Producers append
rows and give notice that the endpoint needs an update; one worker, while it is started, takes
batches from the head of the queue and pushes each until it is accepted.

The worker is woken by a flag.  Giving notice, stopping, and a delivery that leaves rows behind set
the flag, and the worker clears it when it looks for work, so notices given meanwhile coalesce.
-/

namespace TableSource.Replication

/-- What the worker of a queue is doing. -/
inductive Worker (ρ : Type) where
  | stopped
  | waiting
  /-- It has pushed a batch and waits for the answer. -/
  | pushing (batch : List ρ)
  /-- The answer to its push has come, and it has not yet looked at it. -/
  | answered (batch : List ρ) (accepted : Bool)
  /-- Its push was refused, and it pushes the batch again at a time. -/
  | resting (batch : List ρ) (due : Rat)
  deriving Repr, Inhabited

namespace Worker

def isRunning {ρ : Type} : Worker ρ → Bool
  | .stopped => false
  | _ => true

/-- The batch that a worker has taken and not yet delivered. -/
def inFlight {ρ : Type} : Worker ρ → Option (List ρ)
  | .stopped | .waiting => none
  | .pushing batch | .answered batch _ | .resting batch _ => some batch

end Worker

/-- A queue of rows with its worker. -/
structure Queue (ρ : Type) where
  /-- The largest number of rows in a batch. -/
  batchSize : Nat
  /-- A batch has room for a row. -/
  batchSize_pos : 0 < batchSize
  /-- The seconds from a refused push to the next attempt. -/
  retryDelay : Rat
  /-- The rows that no batch has taken, the oldest first. -/
  pending : List ρ
  /-- Whether notice was given since a batch was taken. -/
  updateRequired : Bool
  /-- The flag that wakes the worker. -/
  wake : Bool
  worker : Worker ρ

namespace Queue

/-- The usual number of rows in a batch. -/
def defaultBatchSize : Nat := 100

/-- The usual number of seconds between attempts. -/
def defaultRetryDelay : Rat := 5

/-- A queue without rows, whose worker has not been started. -/
def empty (ρ : Type) (batchSize : Nat) (batchSize_pos : 0 < batchSize) (retryDelay : Rat) :
    Queue ρ :=
  { batchSize, batchSize_pos, retryDelay, pending := [], updateRequired := false, wake := false
    worker := .stopped }

/-- The queue with the usual settings. -/
def standard (ρ : Type) : Queue ρ :=
  empty ρ defaultBatchSize (by decide) defaultRetryDelay

variable {ρ : Type}

def isRunning (queue : Queue ρ) : Bool :=
  queue.worker.isRunning

/-! ## What callers do -/

/-- Appends rows; the worker is not woken. -/
def enqueue (queue : Queue ρ) (rows : List ρ) : Queue ρ :=
  { queue with pending := queue.pending ++ rows }

/-- Gives notice that the endpoint needs an update. -/
def notify (queue : Queue ρ) : Queue ρ :=
  { queue with updateRequired := true, wake := true }

/-- Starts the worker, unless there is one. -/
def start (queue : Queue ρ) : Queue ρ :=
  match queue.worker with
  | .stopped => { queue with worker := .waiting }
  | _ => queue

/-- Stops the worker; a batch that it has taken is given up. -/
def stop (queue : Queue ρ) : Queue ρ :=
  { queue with wake := true, worker := .stopped }

/-- Answers the push that the worker waits for, if it waits for one. -/
def answer (queue : Queue ρ) (accepted : Bool) : Queue ρ :=
  match queue.worker with
  | .pushing batch => { queue with worker := .answered batch accepted }
  | _ => queue

/-! ## What the worker does -/

/-- The rows that the next batch takes. -/
def nextBatch (queue : Queue ρ) : List ρ :=
  queue.pending.take queue.batchSize

/-- The queue when its worker has looked at the flag and found no work. -/
def lookAway (queue : Queue ρ) : Queue ρ :=
  { queue with wake := false }

/-- The queue when its worker has taken the next batch. -/
def takeBatch (queue : Queue ρ) : Queue ρ :=
  { queue with
    pending := queue.pending.drop queue.batchSize
    updateRequired := false
    wake := false }

/-- Whether a woken worker has something to push. -/
def hasWork (queue : Queue ρ) : Bool :=
  queue.updateRequired || !queue.pending.isEmpty

/-- The queue when a batch has been delivered: the worker waits, and it is woken again while there
are rows left. -/
def delivered (queue : Queue ρ) : Queue ρ :=
  { queue with wake := queue.wake || !queue.pending.isEmpty, worker := .waiting }

/-- The queue when a batch has been refused at a time. -/
def refused (queue : Queue ρ) (now : Rat) (batch : List ρ) : Queue ρ :=
  { queue with worker := .resting batch (now + queue.retryDelay) }

end Queue

end TableSource.Replication
