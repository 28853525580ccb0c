import TableSource.Proofs.Cell.RoundTrip
import TableSource.Proofs.Statement.Existence

/-!
# Filter texts never make a request fail

A filter comes with a request as a text that can hold anything.  Where it is no JSON there is no
filter.  Where it is, admission succeeds at each of its steps: reading a value can only fail to
write what was decoded, and so can the report of what is dropped.  Both have the bounds of the
decoder, on the digits of integers and on the nesting, and so they do not fail.
-/

namespace TableSource

namespace Filter

/-! ## Values -/

variable {value : Raw}

theorem refuse_of_decoded
    {β : Type}
    (decoded : value.Decoded) :
    ∃ left : Option β, refuse value = .ok left := by
  rcases decoded.exists_literal with ⟨words, made⟩
  exact ⟨none, by rw [refuse, made]; rfl⟩

theorem readScalar_of_decoded
    (type : FeatureType) (decoded : value.Decoded) :
    ∃ cell, readScalar type value = .ok cell := by
  rw [readScalar]
  split
  · exact ⟨none, rfl⟩
  · apply exists_ok_of_bind (Cell.read?_of_decoded type decoded)
    intro read
    cases read with
    | none =>
        exact refuse_of_decoded decoded
    | some cell =>
        exact ⟨some cell, rfl⟩

theorem readScalars_of_decoded
    {values : List Raw}
    (type : FeatureType) (decoded : ∀ value ∈ values, value.Decoded) :
    ∃ cells, readScalars type values = .ok cells := by
  induction values with
  | nil =>
      exact ⟨some [], rfl⟩
  | cons value rest induction =>
      rw [List.forall_mem_cons] at decoded
      apply exists_ok_of_bind (readScalar_of_decoded type decoded.1)
      intro first
      cases first with
      | none =>
          exact ⟨none, rfl⟩
      | some cell =>
          apply exists_ok_of_bind (induction decoded.2)
          intro others
          cases others <;> exact ⟨_, rfl⟩

theorem readPart_of_decoded
    (decoded : value.Decoded) :
    ∃ part, readPart value = .ok part := by
  rw [readPart]
  split
  · exact ⟨none, rfl⟩
  · apply exists_ok_of_bind (Cell.text?_of_decoded decoded)
    intro text
    cases text <;> exact ⟨_, rfl⟩

/-! ## Leaves -/

theorem readTest_of_decoded
    (type : FeatureType) (operator : Operator) (decoded : value.Decoded) :
    ∃ test, readTest type operator value = .ok test := by
  cases operator with
  | compare comparison =>
      apply exists_ok_of_bind (readScalar_of_decoded type decoded)
      intro cell
      cases cell <;> exact ⟨_, rfl⟩
  | between =>
      simp only [readTest]
      split
      · next low high listed =>
          have each := decoded.items listed
          apply exists_ok_of_bind (readScalar_of_decoded type (each low (by simp)))
          intro lowCell
          cases lowCell with
          | none =>
              exact ⟨none, rfl⟩
          | some lowCell =>
              apply exists_ok_of_bind (readScalar_of_decoded type (each high (by simp)))
              intro highCell
              cases highCell <;> exact ⟨_, rfl⟩
      · exact ⟨none, rfl⟩
  | among =>
      simp only [readTest]
      split
      · next items listed =>
          split
          · exact ⟨none, rfl⟩
          · apply exists_ok_of_bind (readScalars_of_decoded type (decoded.items listed))
            intro cells
            cases cells <;> exact ⟨_, rfl⟩
      · exact ⟨none, rfl⟩
  | contains | startsWith =>
      exact exists_ok_of_bind (readPart_of_decoded decoded) fun part => ⟨_, rfl⟩

theorem acceptLeaf_of_decoded
    {entries : List (Raw × Raw)}
    (schema : Schema) (decoded : (Raw.mapping entries).Decoded) :
    ∃ left, acceptLeaf schema entries = .ok left := by
  rw [acceptLeaf]
  split
  · exact refuse_of_decoded (decoded.valueUnder "feature")
  · next feature _ =>
      split
      · exact refuse_of_decoded (decoded.valueUnder "op")
      · next operator _ =>
          apply exists_ok_of_bind
            (readTest_of_decoded feature.type operator (decoded.valueUnder "value"))
          intro test
          cases test <;> exact ⟨_, rfl⟩

/-! ## Trees -/

theorem collect_of_each
    {accept : Raw → Except TextFailure (Option (Node Cell))} {values : List Raw}
    (each : ∀ value ∈ values, ∃ left, accept value = .ok left) :
    ∃ nodes, collect accept values = .ok nodes := by
  induction values with
  | nil =>
      exact ⟨[], rfl⟩
  | cons value rest induction =>
      rw [List.forall_mem_cons] at each
      apply exists_ok_of_bind each.1
      intro left
      cases left with
      | none =>
          exact induction each.2
      | some node =>
          exact exists_ok_of_bind (induction each.2) fun nodes => ⟨_, rfl⟩

/-- No decoded value is a typed filter, so it stands for itself. -/
theorem recordOf_of_decoded
    (decoded : value.Decoded) :
    recordOf value = .ok value := by
  cases value with
  | leaf _ _ _ | group _ _ =>
      cases decoded
  | _ =>
      rfl

theorem acceptWithin_of_decoded
    (schema : Schema) (levels : Nat) (decoded : value.Decoded) :
    ∃ left, acceptWithin schema levels value = .ok left := by
  induction levels generalizing value with
  | zero =>
      rw [acceptWithin, recordOf_of_decoded decoded]
      simp only [bind, Except.bind]
      split
      · split
        · exact acceptLeaf_of_decoded schema decoded
        · exact ⟨none, rfl⟩
      · exact ⟨none, rfl⟩
  | succ below induction =>
      rw [acceptWithin, recordOf_of_decoded decoded]
      simp only [bind, Except.bind]
      split
      · split
        · exact acceptLeaf_of_decoded schema decoded
        · next entries _ connective _ =>
            split
            · exact ⟨none, rfl⟩
            · next children listed =>
                have each := (decoded.valueUnder "children").items listed
                rcases collect_of_each fun child member => induction (each child member) with
                  ⟨nodes, collected⟩
                rw [collected]
                exact ⟨_, rfl⟩
      · exact ⟨none, rfl⟩

theorem accept_of_decoded
    (schema : Schema) (depth : Int) (decoded : value.Decoded) :
    ∃ left, accept schema value depth = .ok left :=
  acceptWithin_of_decoded schema (levelsAt depth) decoded

/-! ## Requests -/

/-- Whatever the text of a filter is, the request has a filter or none, which has a condition.
Reports can show any part of what the text holds. -/
theorem ofRequest_never_fails (schema : Schema) (written : String) :
    ∃ tree, ofRequest schema (.text written) = .ok tree ∧
      (∃ pieces, Node.conditionOf schema tree = .ok pieces) ∧
      ∀ value, Json.ofText? written = some value →
        ∀ part, Raw.Inside part value → ∃ words, part.literal = .ok words := by
  have reports : ∀ value, Json.ofText? written = some value →
      ∀ part, Raw.Inside part value → ∃ words, part.literal = .ok words := by
    intro value read part inside
    exact ((Json.decoded_of_ofText? read).of_inside inside).exists_literal
  cases read : Json.ofText? written with
  | none =>
      refine ⟨none, by rw [ofRequest, read], ⟨[], rfl⟩, ?_⟩
      intro value other
      cases other
  | some value =>
      rcases accept_of_decoded schema 0 (Json.decoded_of_ofText? read) with ⟨tree, accepted⟩
      refine ⟨tree, ?_, Node.conditionOf_of_admitted ⟨value, 0, accepted⟩, ?_⟩
      · rw [ofRequest, read]
        exact accepted
      · rw [← read]
        exact reports

end Filter

end TableSource
