import TableSource.Proofs.Statement.Lexing
import TableSource.Statement.Condition

/-!
# The grammar of conditions

A condition tests columns, joins tests by "and" and "or", and groups them by parentheses; "and"
binds more tightly than "or".  The "and" that belongs to "between" stands directly behind its lower
bound.

Derivation trees are data, and their tokens are read off them.  No two of them have the same tokens,
so what a sequence of tokens says is never in doubt.
-/

namespace TableSource.Sql

open Filter

/-! ## Derivation trees -/

inductive Operand where
  | column (name : String)
  | place (number : Nat)
  deriving DecidableEq, Repr

/-- What is asked of an operand. -/
inductive Question where
  | compare (comparison : Comparison) (other : Operand)
  | between (low high : Operand)
  | among (first : Operand) (others : List Operand)
  | alike (pattern : Operand)
  deriving DecidableEq, Repr

mutual

inductive Primary where
  | test (value : Operand) (question : Question)
  | grouped (inside : Disjunction)

inductive Conjunction where
  | single (only : Primary)
  | and (first : Primary) (rest : Conjunction)

inductive Disjunction where
  | single (only : Conjunction)
  | or (first : Conjunction) (rest : Disjunction)

end

/-! ## Tokens -/

def Operand.token : Operand → Token
  | .column name => .name name
  | .place number => .place number

/-- The end of a list of operands. -/
def Operand.listEnd : List Operand → List Token
  | [] => [.closing]
  | operand :: rest => .comma :: operand.token :: listEnd rest

def Question.tokens : Question → List Token
  | .compare comparison other => [.sign comparison.sign, other.token]
  | .between low high => [.word "BETWEEN", low.token, .word "AND", high.token]
  | .among first others => .word "IN" :: .opening :: first.token :: Operand.listEnd others
  | .alike pattern => [.word "ILIKE", pattern.token]

mutual

def Primary.tokens : Primary → List Token
  | .test value question => value.token :: question.tokens
  | .grouped inside => .opening :: (inside.tokens ++ [.closing])

def Conjunction.tokens : Conjunction → List Token
  | .single only => only.tokens
  | .and first rest => first.tokens ++ .word "AND" :: rest.tokens

def Disjunction.tokens : Disjunction → List Token
  | .single only => only.tokens
  | .or first rest => first.tokens ++ .word "OR" :: rest.tokens

end

/-! ## Unambiguity of tests -/

theorem Operand.token_inj {first second : Operand} :
    first.token = second.token ↔ first = second := by
  cases first <;> cases second <;> simp [token]

theorem Operand.token_ne_opening (operand : Operand) :
    operand.token ≠ .opening := by
  cases operand <;> simp [token]

theorem sign_inj {first second : Comparison} :
    first.sign = second.sign ↔ first = second := by
  cases first <;> cases second <;> decide

theorem Operand.listEnd_append_inj
    {first second : List Operand} {rest rest' : List Token}
    (same : listEnd first ++ rest = listEnd second ++ rest') :
    first = second ∧ rest = rest' := by
  induction first generalizing second with
  | nil =>
      cases second with
      | nil =>
          exact ⟨rfl, List.append_cancel_left same⟩
      | cons operand others =>
          cases same
  | cons operand others induction =>
      cases second with
      | nil =>
          cases same
      | cons operand' others' =>
          simp only [listEnd, List.cons_append, List.cons.injEq, token_inj, true_and] at same
          rcases induction same.2 with ⟨rfl, equal⟩
          exact ⟨by rw [same.1], equal⟩

/-- A question ends where its tokens say, whatever follows it. -/
theorem Question.tokens_append_inj
    {first second : Question} {rest rest' : List Token}
    (same : first.tokens ++ rest = second.tokens ++ rest') :
    first = second ∧ rest = rest' := by
  cases first with
  | compare comparison other =>
      cases second <;>
        simp_all [tokens, Operand.token_inj, sign_inj]
  | between low high =>
      cases second <;>
        simp_all [tokens, Operand.token_inj]
  | among first others =>
      cases second with
      | among first' others' =>
          simp only [tokens, List.cons_append, List.cons.injEq, Operand.token_inj, true_and] at same
          rcases same with ⟨rfl, ends⟩
          rcases Operand.listEnd_append_inj ends with ⟨rfl, equal⟩
          exact ⟨rfl, equal⟩
      | _ =>
          simp [tokens] at same
  | alike pattern =>
      cases second <;>
        simp_all [tokens, Operand.token_inj]

/-! ## Unambiguity of conditions -/

mutual

theorem Primary.tokens_append_inj
    {first second : Primary} {rest rest' : List Token}
    (same : first.tokens ++ rest = second.tokens ++ rest') :
    first = second ∧ rest = rest' := by
  cases first with
  | test value question =>
      cases second with
      | test value' question' =>
          rcases List.cons.inj same with ⟨values, questions⟩
          obtain rfl := Operand.token_inj.mp values
          rcases Question.tokens_append_inj questions with ⟨rfl, equal⟩
          exact ⟨rfl, equal⟩
      | grouped inside' =>
          exact absurd (List.cons.inj same).1 value.token_ne_opening
  | grouped inside =>
      cases second with
      | test value' question' =>
          exact absurd (List.cons.inj same).1.symm value'.token_ne_opening
      | grouped inside' =>
          simp only [Primary.tokens, List.cons_append, List.append_assoc, List.cons.injEq, true_and,
            List.nil_append] at same
          rcases Disjunction.tokens_append_inj same (by simp) (by simp) with ⟨rfl, equal⟩
          exact ⟨rfl, (List.cons.inj equal).2⟩

/-- A conjunction goes on as long as "and" follows. -/
theorem Conjunction.tokens_append_inj
    {first second : Conjunction} {rest rest' : List Token}
    (same : first.tokens ++ rest = second.tokens ++ rest')
    (ends : rest.head? ≠ some (.word "AND")) (ends' : rest'.head? ≠ some (.word "AND")) :
    first = second ∧ rest = rest' := by
  cases first with
  | single only =>
      cases second with
      | single only' =>
          rcases Primary.tokens_append_inj same with ⟨rfl, equal⟩
          exact ⟨rfl, equal⟩
      | and head tail =>
          -- the rest of the shorter one would begin with the "and" of the longer one
          simp only [Conjunction.tokens, List.append_assoc, List.cons_append] at same
          rcases Primary.tokens_append_inj same with ⟨_, rfl⟩
          exact absurd rfl ends
  | and head tail =>
      cases second with
      | single only' =>
          simp only [Conjunction.tokens, List.append_assoc, List.cons_append] at same
          rcases Primary.tokens_append_inj same with ⟨_, rfl⟩
          exact absurd rfl ends'
      | and head' tail' =>
          simp only [Conjunction.tokens, List.append_assoc, List.cons_append] at same
          rcases Primary.tokens_append_inj same with ⟨rfl, later⟩
          rcases Conjunction.tokens_append_inj (List.cons.inj later).2 ends ends' with ⟨rfl, equal⟩
          exact ⟨rfl, equal⟩

/-- A disjunction goes on as long as a word follows. -/
theorem Disjunction.tokens_append_inj
    {first second : Disjunction} {rest rest' : List Token}
    (same : first.tokens ++ rest = second.tokens ++ rest')
    (ends : ∀ word, rest.head? ≠ some (.word word))
    (ends' : ∀ word, rest'.head? ≠ some (.word word)) :
    first = second ∧ rest = rest' := by
  cases first with
  | single only =>
      cases second with
      | single only' =>
          rcases Conjunction.tokens_append_inj same (ends _) (ends' _) with ⟨rfl, equal⟩
          exact ⟨rfl, equal⟩
      | or head tail =>
          simp only [Disjunction.tokens, List.append_assoc, List.cons_append] at same
          rcases Conjunction.tokens_append_inj same (ends _) (by simp) with ⟨_, rfl⟩
          exact absurd rfl (ends _)
  | or head tail =>
      cases second with
      | single only' =>
          simp only [Disjunction.tokens, List.append_assoc, List.cons_append] at same
          rcases Conjunction.tokens_append_inj same (by simp) (ends' _) with ⟨_, rfl⟩
          exact absurd rfl (ends' _)
      | or head' tail' =>
          simp only [Disjunction.tokens, List.append_assoc, List.cons_append] at same
          rcases Conjunction.tokens_append_inj same (by simp) (by simp) with ⟨rfl, later⟩
          rcases Disjunction.tokens_append_inj (List.cons.inj later).2 ends ends' with ⟨rfl, equal⟩
          exact ⟨rfl, equal⟩

end

/-- Different derivation trees have different tokens. -/
theorem Disjunction.tokens_inj
    {first second : Disjunction} :
    first.tokens = second.tokens ↔ first = second := by
  constructor
  · intro same
    have padded : first.tokens ++ [] = second.tokens ++ [] := by
      rw [same]
    exact (tokens_append_inj padded (by simp) (by simp)).1
  · intro same
    rw [same]

end TableSource.Sql
