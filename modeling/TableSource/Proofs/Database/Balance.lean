import Mathlib.Data.List.Induction
import TableSource.Proofs.Store.Insertion

/-!
# Balanced logs

Whoever holds a connection releases it before anyone acquires the next one, and whoever begins a
transaction ends it, by a commit or a rollback, before the connection is released.  A log in which
this is so at every place is balanced.

Every event leads from one stage of the use of a pool to the next, where a stage tells whether a
connection is held and which transaction is open.  A log that leads back to where nothing is held is
balanced.  Such logs can be put behind each other, and every operation on a database writes one.
-/

namespace TableSource

namespace PoolEvent

/-- Whether an event takes place on a connection that is held before and after it. -/
def isInner : DatabaseEvent → Bool
  | .createPool _ | .acquire | .release | .close => false
  | _ => true

/-- Whether an event is a statement or a cursor of a transaction; the former belong to those that
may write, the latter to those that may only read. -/
def isWork (readOnly : Bool) : DatabaseEvent → Bool
  | .execute _ => !readOnly
  | .openCursor _ => readOnly
  | _ => false

def isEnding : DatabaseEvent → Bool
  | .commit | .rollback => true
  | _ => false

/-- Whether an event is a statement that needs no transaction. -/
def isQuestion : DatabaseEvent → Bool
  | .fetch _ | .fetchValue _ => true
  | _ => false

variable {event : DatabaseEvent} {readOnly other : Bool}

theorem isInner_of_isQuestion
    (asks : event.isQuestion = true) :
    event.isInner = true := by
  cases event <;> first | rfl | cases asks

theorem isInner_of_isWork
    (works : event.isWork readOnly = true) :
    event.isInner = true := by
  cases event <;> first | rfl | cases works

theorem isInner_of_isEnding
    (ends : event.isEnding = true) :
    event.isInner = true := by
  cases event <;> first | rfl | cases ends

end PoolEvent

/-! ## Balance -/

/-- At the end of a log a connection is held. -/
def Held (log : List DatabaseEvent) : Prop :=
  ∃ earlier during, log = earlier ++ .acquire :: during ∧ ∀ event ∈ during, event.isInner = true

/-- At the end of a log a transaction is open. -/
def Begun (readOnly : Bool) (log : List DatabaseEvent) : Prop :=
  ∃ earlier during, log = earlier ++ .begin readOnly :: during ∧
    ∀ event ∈ during, event.isWork readOnly = true

/-- A log goes on until the transaction that is open ends, and then the connection is released. -/
def Ends (readOnly : Bool) (log : List DatabaseEvent) : Prop :=
  ∃ during ending later, log = during ++ ending :: .release :: later ∧ ending.isEnding = true ∧
    ∀ event ∈ during, event.isWork readOnly = true

/-- How far the use of a pool has come. -/
inductive Stage where
  /-- No connection is held. -/
  | free
  | held
  | within (readOnly : Bool)
  /-- A transaction has ended, and its connection is still held. -/
  | ended

/-- What may happen at a stage, and to which stage it leads. -/
inductive Happens : Stage → DatabaseEvent → Stage → Prop
  | create (settings : DatabaseSettings) : Happens .free (.createPool settings) .free
  | close : Happens .free .close .free
  | acquire : Happens .free .acquire .held
  | question {event : DatabaseEvent} (asks : event.isQuestion = true) : Happens .held event .held
  | begin (readOnly : Bool) : Happens .held (.begin readOnly) (.within readOnly)
  | work {readOnly : Bool} {event : DatabaseEvent} (works : event.isWork readOnly = true) :
      Happens (.within readOnly) event (.within readOnly)
  | ending {readOnly : Bool} {event : DatabaseEvent} (ends : event.isEnding = true) :
      Happens (.within readOnly) event .ended
  | release : Happens .held .release .free
  | releaseEnded : Happens .ended .release .free

/-- A log that leads from one stage to another. -/
inductive Leads : Stage → List DatabaseEvent → Stage → Prop
  | nil (stage : Stage) : Leads stage [] stage
  | cons {stage middle last : Stage} {event : DatabaseEvent} {log : List DatabaseEvent}
      (happens : Happens stage event middle) (leads : Leads middle log last) :
      Leads stage (event :: log) last

section Stages

variable {stage middle last : Stage} {event : DatabaseEvent} {log more : List DatabaseEvent}
  {readOnly : Bool}

theorem Leads.append
    (first : Leads stage log middle) (second : Leads middle more last) :
    Leads stage (log ++ more) last := by
  induction first with
  | nil stage =>
      exact second
  | cons happens leads induction =>
      exact .cons happens (induction second)

theorem Leads.split
    (leads : Leads stage (log ++ more) last) :
    ∃ middle, Leads stage log middle ∧ Leads middle more last := by
  induction log generalizing stage with
  | nil =>
      exact ⟨stage, .nil stage, leads⟩
  | cons event log induction =>
      cases leads with
      | cons happens rest =>
          rcases induction rest with ⟨middle, first, second⟩
          exact ⟨middle, .cons happens first, second⟩

/-- Every event of a log happens between what leads to it and what it leads to. -/
theorem Leads.at
    (leads : Leads stage (log ++ event :: more) last) :
    ∃ left right, Leads stage log left ∧ Happens left event right ∧ Leads right more last := by
  rcases leads.split with ⟨left, before, rest⟩
  cases rest with
  | @cons _ right _ _ _ happens after =>
      exact ⟨left, right, before, happens, after⟩

/-! ## What one event does -/

theorem Happens.to_busy
    (busy : last ≠ .free)
    (happens : Happens stage event last) :
    (stage = .free ∧ event = .acquire) ∨ (stage ≠ .free ∧ event.isInner = true) := by
  cases happens with
  | create | close | release | releaseEnded =>
      exact absurd rfl busy
  | acquire =>
      exact .inl ⟨rfl, rfl⟩
  | question asks =>
      exact .inr ⟨nofun, PoolEvent.isInner_of_isQuestion asks⟩
  | begin readOnly =>
      exact .inr ⟨nofun, rfl⟩
  | work works =>
      exact .inr ⟨nofun, PoolEvent.isInner_of_isWork works⟩
  | ending ends =>
      exact .inr ⟨nofun, PoolEvent.isInner_of_isEnding ends⟩

theorem Leads.held
    (leads : Leads .free log stage)
    (busy : stage ≠ .free) :
    Held log := by
  induction log using List.reverseRecOn generalizing stage with
  | nil =>
      cases leads
      exact absurd rfl busy
  | append_singleton rest event induction =>
      rcases leads.at with ⟨left, right, before, happens, ⟨⟩⟩
      rcases happens.to_busy busy with ⟨rfl, rfl⟩ | ⟨wasBusy, inner⟩
      · exact ⟨rest, [], rfl, by simp⟩
      · rcases induction before wasBusy with ⟨earlier, during, rfl, allInner⟩
        refine ⟨earlier, during ++ [event], by simp, ?_⟩
        simpa [or_imp, forall_and] using ⟨allInner, inner⟩

theorem Leads.ends
    (leads : Leads (.within readOnly) log .free) :
    Ends readOnly log := by
  induction log with
  | nil =>
      cases leads
  | cons event rest induction =>
      cases leads with
      | cons happens leads =>
          cases happens with
          | work works =>
              rcases induction leads with ⟨during, ending, later, rfl, ends, allWork⟩
              exact ⟨event :: during, ending, later, rfl, ends, by simpa using ⟨works, allWork⟩⟩
          | ending ends =>
              -- after its end a transaction leaves nothing to do but to release
              rcases leads with _ | ⟨⟨⟩, _⟩
              exact ⟨[], event, _, rfl, ends, by simp⟩

theorem Leads.begun
    (leads : Leads .free log (.within readOnly)) :
    Begun readOnly log := by
  induction log using List.reverseRecOn with
  | nil =>
      cases leads
  | append_singleton rest event induction =>
      rcases leads.at with ⟨left, right, before, happens, ⟨⟩⟩
      cases happens with
      | begin =>
          exact ⟨rest, [], rfl, by simp⟩
      | work works =>
          rcases induction before with ⟨earlier, during, rfl, allWork⟩
          refine ⟨earlier, during ++ [event], by simp, ?_⟩
          simpa [or_imp, forall_and] using ⟨allWork, works⟩

end Stages

/-- What one operation writes to the log: nothing, a change of the pool itself, or a visit to it,
whose transaction is committed if the operation was completed and rolled back otherwise. -/
inductive Visit (completed : Prop) : List DatabaseEvent → Prop
  | none : Visit completed []
  | created (settings : DatabaseSettings) : Visit completed [.createPool settings]
  | closed : Visit completed [.close]
  | question
      {event : DatabaseEvent}
      (asks : event.isQuestion = true) :
      Visit completed [.acquire, event, .release]
  | transaction
      (readOnly committed : Bool) {work : List DatabaseEvent}
      (works : ∀ event ∈ work, event.isWork readOnly = true)
      (decides : committed = true ↔ completed) :
      Visit completed
        ([.acquire, .begin readOnly] ++ work ++ [Database.closing committed, .release])

namespace Visit

variable {completed other : Prop} {log : List DatabaseEvent}

theorem congr
    (visit : Visit completed log)
    (same : completed ↔ other) :
    Visit other log := by
  rwa [propext same] at visit

theorem leads_of_work {readOnly : Bool} {work : List DatabaseEvent}
    (works : ∀ event ∈ work, event.isWork readOnly = true) :
    Leads (.within readOnly) work (.within readOnly) := by
  induction work with
  | nil =>
      exact .nil _
  | cons event rest induction =>
      rcases List.forall_mem_cons.mp works with ⟨first, later⟩
      exact .cons (.work first) (induction later)

theorem leads (visit : Visit completed log) :
    Leads .free log .free := by
  cases visit with
  | none =>
      exact .nil _
  | created settings =>
      exact .cons (.create settings) (.nil _)
  | closed =>
      exact .cons .close (.nil _)
  | question asks =>
      exact .cons .acquire (.cons (.question asks) (.cons .release (.nil _)))
  | @transaction readOnly committed work works decides =>
      have opening : Leads .free [.acquire, .begin readOnly] (.within readOnly) :=
        .cons .acquire (.cons (.begin readOnly) (.nil _))
      have ends : (Database.closing committed).isEnding = true := by
        cases committed <;> rfl
      exact (opening.append (leads_of_work works)).append
        (.cons (.ending ends) (.cons .releaseEnded (.nil _)))

end Visit

/-! ## Operations on a database -/

namespace Database

variable {completed : Prop} {database : Database}

theorem connect_visits (database : Database) :
    Visit completed database.connect.events := by
  rw [connect]
  split
  · exact .none
  · dsimp only
    split <;> exact .created _

theorem disconnect_visits (database : Database) :
    Visit completed database.disconnect.events := by
  rw [disconnect]
  split
  · exact .closed
  · exact .none

theorem ask_visits {α : Type} {event : DatabaseEvent} {answer : Pool → α}
    (asks : event.isQuestion = true) :
    Visit completed (database.ask event answer).events := by
  cases connected : database.connected with
  | false =>
      rw [ask, holding_of_disconnected connected]
      exact .none
  | true =>
      rw [events_ask connected]
      exact .question asks

/-- A use of a connection as one transaction is a visit, if the use ran to its end exactly when it
was completed. -/
theorem inTransaction_visits {α : Type} {readOnly : Bool} {use : Pool → Held α}
    (works : ∀ event ∈ (use database.pool).events, event.isWork readOnly = true)
    (decides : database.connected = true →
      ((use database.pool).ending.isFinished = true ↔ completed)) :
    Visit completed (database.holding fun pool => (use pool).inTransaction readOnly).events := by
  cases connected : database.connected with
  | false =>
      rw [holding_of_disconnected connected]
      exact .none
  | true =>
      rw [holding_of_connected connected, events_inTransaction]
      exact .transaction readOnly _ works (decides connected)

theorem check_visits (database : Database) :
    Visit completed database.check.events := by
  rw [check]
  exact ask_visits rfl

/-- A transaction that changes rows is committed exactly if all its statements succeed. -/
theorem transact_visits (database : Database) (statements : List (Statement Raw)) :
    Visit ((database.transact statements).result = .ok ()) (database.transact statements).events := by
  refine inTransaction_visits ?_ fun connected => ?_
  · intro event member
    have executed : event ∈ (database.pool.executed statements).map (.execute : _ → DatabaseEvent) :=
      (Pool.executeAll_spec statements database.pool).2 ▸ member
    rcases List.mem_map.mp executed with ⟨statement, -, rfl⟩
    rfl
  · rw [(transact_of_connected connected statements).1, Ending.result_eq_ok_iff]
    simp [executing]

end Database

/-! ## Cursors -/

/-- A reader that wants more is still going, and one that has enough is not. -/
structure Tells {σ ρ : Type} (step : σ → ρ → Step σ) (going : σ → Prop) : Prop where
  more : ∀ state row next, going state → step state row = .more next → going next
  enough : ∀ state row last, going state → step state row = .enough last → ¬ going last

section Reading

variable {σ : Type} {step : σ → Record → Step σ} {going : σ → Prop}

/-- Reading ends at the end of the rows exactly if nothing failed and the reader is still going. -/
theorem consume_isFinished_iff
    (tells : Tells step going)
    {state : σ} (start : going state) (rows : List Record) (fault : Option Fault) :
    (consume step state rows fault).2.isFinished = true ↔
      (consume step state rows fault).2.failure? = none ∧ going (consume step state rows fault).1 := by
  induction rows generalizing state with
  | nil =>
      cases fault <;> simp [consume, Ending.isFinished, Ending.failure?, start]
  | cons row rows induction =>
      rw [consume]
      cases told : step state row with
      | more next =>
          exact induction (tells.more _ _ _ start told)
      | enough last =>
          simp [Ending.isFinished, tells.enough _ _ _ start told]
      | failed last failure =>
          simp [Ending.isFinished, Ending.failure?]

/-- The transaction of a cursor is committed exactly if its rows were read to their end. -/
theorem Database.stream_visits
    (tells : Tells step going)
    {state : σ} (start : going state) (database : Database) (statement : Statement Raw) :
    Visit
      ((database.stream statement step state).1.result = .ok () ∧
        going (database.stream statement step state).2)
      (database.stream statement step state).1.events := by
  refine inTransaction_visits ?_ fun connected => ?_
  · intro event member
    rw [List.mem_singleton.mp member]
    rfl
  · rcases stream_of_connected connected statement step state with ⟨result, -, last⟩
    rw [result, last, Ending.result_eq_ok_iff, and_iff_left rfl]
    exact consume_isFinished_iff tells start _ _

end Reading

end TableSource
