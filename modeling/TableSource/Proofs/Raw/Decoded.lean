import TableSource.Proofs.Succeeds
import TableSource.Raw.JsonReading
import TableSource.Raw.JsonText

/-!
# Values that JSON texts hold

A value that is read from a JSON text is null, a truth value, a number, a text, or a list or a
mapping of such values.  The reader bounds the digits of integers and the nesting of containers, and
these are the bounds under which values have texts again.  So every part of a value that was read
has a literal text and a JSON text: whatever is reported or stored of it, writing it cannot fail.
-/

namespace TableSource

namespace Raw

/-! ## The values -/

/-- A value of the forms that JSON has, with at most a number of containers inside each other. -/
inductive JsonWithin : Nat → Raw → Prop where
  | null {depth : Nat} : JsonWithin depth .null
  | bool {depth : Nat} (value : Bool) : JsonWithin depth (.bool value)
  | int {depth : Nat} {value : Int} (short : Numeral.isOverlong value = false) :
      JsonWithin depth (.int value)
  | float {depth : Nat} (value : Floating) : JsonWithin depth (.float value)
  | text {depth : Nat} (value : String) : JsonWithin depth (.text value)
  | list {depth : Nat} {items : List Raw}
      (each : ∀ item ∈ items, JsonWithin depth item) :
      JsonWithin (depth + 1) (.list items)
  | mapping {depth : Nat} {entries : List (Raw × Raw)}
      (named : ∀ entry ∈ entries, ∃ name, entry.1 = .text name)
      (each : ∀ entry ∈ entries, JsonWithin depth entry.2) :
      JsonWithin (depth + 1) (.mapping entries)

/-- A value that a JSON text can hold. -/
def Decoded (value : Raw) : Prop :=
  JsonWithin Json.maxNesting value

/-- A value or a value at some depth inside of it. -/
inductive Inside (part : Raw) : Raw → Prop where
  | here : Inside part part
  | item {items : List Raw} {item : Raw}
      (member : item ∈ items) (inside : Inside part item) : Inside part (.list items)
  | entry {entries : List (Raw × Raw)} {entry : Raw × Raw}
      (member : entry ∈ entries) (inside : Inside part entry.2) : Inside part (.mapping entries)

theorem JsonWithin.mono
    {depth deeper : Nat} {value : Raw}
    (within : JsonWithin depth value) (most : depth ≤ deeper) :
    JsonWithin deeper value := by
  induction within generalizing deeper with
  | null =>
      exact .null
  | bool value =>
      exact .bool value
  | int short =>
      exact .int short
  | float value =>
      exact .float value
  | text value =>
      exact .text value
  | list each induction =>
      cases deeper with
      | zero =>
          exact absurd most (Nat.not_succ_le_zero _)
      | succ deeper =>
          exact .list fun item member =>
            induction item member (Nat.le_of_succ_le_succ most)
  | mapping named each induction =>
      cases deeper with
      | zero =>
          exact absurd most (Nat.not_succ_le_zero _)
      | succ deeper =>
          exact .mapping named fun entry member =>
            induction entry member (Nat.le_of_succ_le_succ most)

theorem JsonWithin.of_inside
    {depth : Nat} {value part : Raw}
    (within : JsonWithin depth value) (inside : Inside part value) :
    JsonWithin depth part := by
  induction inside generalizing depth with
  | here =>
      exact within
  | item member inside induction =>
      cases within with
      | list each =>
          exact (induction (each _ member)).mono (Nat.le_succ _)
  | entry member inside induction =>
      cases within with
      | mapping named each =>
          exact (induction (each _ member)).mono (Nat.le_succ _)

/-! ## Their texts -/

theorem integerText_of_short
    {value : Int}
    (short : Numeral.isOverlong value = false) :
    integerText value = .ok (toString value) := by
  rw [integerText, Numeral.wholeText?, short]
  rfl

/-- A value of the forms of JSON has a literal text. -/
theorem JsonWithin.exists_literal
    {depth : Nat} {value : Raw}
    (within : JsonWithin depth value) :
    ∃ words, literalWithin depth value = .ok words := by
  induction within with
  | int short =>
      rw [literalWithin, integerText_of_short short]
      exact ⟨_, rfl⟩
  | list each induction =>
      rcases exists_ok_of_mapM induction with ⟨texts, made⟩
      rw [literalWithin, made]
      exact ⟨_, rfl⟩
  | @mapping depth entries named each induction =>
      have shown : ∀ entry ∈ entries, ∃ words,
          (do
            let key ← literalWithin depth entry.1
            let value ← literalWithin depth entry.2
            return key ++ ": " ++ value) = .ok words := by
        intro entry member
        rcases named entry member with ⟨name, key⟩
        rcases induction entry member with ⟨words, made⟩
        rw [key, literalWithin, made]
        exact ⟨_, rfl⟩
      rcases exists_ok_of_mapM shown with ⟨texts, made⟩
      rw [literalWithin, made]
      exact ⟨_, rfl⟩
  | _ =>
      rw [literalWithin]
      exact ⟨_, rfl⟩

/-- A value of the forms of JSON has a JSON text, where numbers need not be finite. -/
theorem JsonWithin.exists_json
    {depth : Nat} {value : Raw}
    (within : JsonWithin depth value) :
    ∃ written, jsonWithin .spaced depth value = .ok written := by
  induction within with
  | int short =>
      rw [jsonWithin, integerText_of_short short]
      exact ⟨_, rfl⟩
  | float value =>
      rw [jsonWithin]
      cases value with
      | finite x =>
          exact ⟨_, rfl⟩
      | infinite negative =>
          exact ⟨_, rfl⟩
      | nan =>
          exact ⟨_, rfl⟩
  | list each induction =>
      rcases exists_ok_of_mapM induction with ⟨texts, made⟩
      rw [jsonWithin, made]
      exact ⟨_, rfl⟩
  | @mapping depth entries named each induction =>
      have shown : ∀ entry ∈ entries, ∃ words,
          (do
            let key ← jsonKey .spaced entry.1
            let value ← jsonWithin .spaced depth entry.2
            return jsonString JsonStyle.spaced.asciiOnly key ++ JsonStyle.spaced.keySeparator ++
              value) = .ok words := by
        intro entry member
        rcases named entry member with ⟨name, key⟩
        rcases induction entry member with ⟨words, made⟩
        rw [key, made]
        exact ⟨_, rfl⟩
      rcases exists_ok_of_mapM shown with ⟨texts, made⟩
      rw [jsonWithin, made]
      exact ⟨_, rfl⟩
  | _ =>
      rw [jsonWithin]
      exact ⟨_, rfl⟩

/-- The bounds of the reader are those of the two kinds of texts. -/
theorem Decoded.exists_literal
    {value : Raw}
    (decoded : value.Decoded) :
    ∃ words, value.literal = .ok words :=
  JsonWithin.exists_literal decoded

theorem Decoded.exists_json
    {value : Raw}
    (decoded : value.Decoded) :
    ∃ written, value.json .spaced = .ok written :=
  JsonWithin.exists_json decoded

theorem Decoded.of_inside
    {value part : Raw}
    (decoded : value.Decoded) (inside : Inside part value) :
    part.Decoded :=
  JsonWithin.of_inside decoded inside

/-! ## Parts -/

theorem Decoded.items
    {value : Raw} {items : List Raw}
    (decoded : value.Decoded) (listed : value.items? = some items) :
    ∀ item ∈ items, item.Decoded := by
  intro item member
  cases value with
  | list others =>
      cases listed
      exact decoded.of_inside (.item member .here)
  | tuple others =>
      cases decoded
  | _ =>
      cases listed

/-- What stands under a name is a part of the mapping, or null. -/
theorem inside_valueUnder (entries : List (Raw × Raw)) (name : String) :
    Inside (valueUnder entries name) (.mapping entries) ∨ valueUnder entries name = .null := by
  rw [valueUnder]
  split
  · next entry found =>
      exact .inl (.entry (List.mem_of_find?_eq_some found) .here)
  · exact .inr rfl

theorem Decoded.valueUnder
    {entries : List (Raw × Raw)}
    (decoded : (mapping entries).Decoded) (name : String) :
    (valueUnder entries name).Decoded := by
  rcases inside_valueUnder entries name with inside | absent
  · exact decoded.of_inside inside
  · rw [absent]
    exact .null

end Raw

/-! ## Integers -/

namespace Numeral

theorem ofDigits_lt
    {digits : List Nat}
    (each : ∀ digit ∈ digits, digit < 10) :
    ofDigits digits < Nat.pow 10 digits.length := by
  have behind : ∀ total, digits.foldl (fun total digit => 10 * total + digit) total <
      (total + 1) * Nat.pow 10 digits.length := by
    induction digits with
    | nil =>
        intro total
        simp
    | cons digit rest induction =>
        intro total
        rw [List.forall_mem_cons] at each
        calc (digit :: rest).foldl (fun total digit => 10 * total + digit) total
            < (10 * total + digit + 1) * Nat.pow 10 rest.length := induction each.2 _
          _ ≤ ((total + 1) * 10) * Nat.pow 10 rest.length := by
              apply Nat.mul_le_mul_right
              omega
          _ = (total + 1) * (Nat.pow 10 rest.length * 10) := by
              rw [Nat.mul_assoc, Nat.mul_comm 10]
          _ = (total + 1) * Nat.pow 10 (digit :: rest).length := rfl
  simpa [ofDigits] using behind 0

/-- The definition is opened without its equation, which would count the digits out. -/
theorem isOverlong_signed
    {digits : List Nat} (negative : Bool)
    (each : ∀ digit ∈ digits, digit < 10) (few : digits.length ≤ maxDigits) :
    isOverlong (signed negative (ofDigits digits)) = false := by
  have size : (signed negative (ofDigits digits)).natAbs = ofDigits digits := by
    cases negative <;> simp [signed]
  have grows : ∀ bound, digits.length ≤ bound → Nat.pow 10 digits.length ≤ Nat.pow 10 bound :=
    fun _ few => Nat.pow_le_pow_right (by decide) few
  delta isOverlong
  apply decide_eq_false
  rw [size]
  exact Nat.not_le_of_lt (Nat.lt_of_lt_of_le (ofDigits_lt each) (grows maxDigits few))

end Numeral

/-! ## Reading -/

namespace Json

open Raw

theorem asciiDigitValue_lt (c : Char) :
    Text.asciiDigitValue c < 10 := by
  rw [Text.asciiDigitValue]
  split
  · next isDigit =>
      simp only [Text.isAsciiDigit, Bool.and_eq_true, decide_eq_true_eq] at isDigit
      omega
  · decide

theorem within_of_number?
    {negative : Bool} {cs rest : List Char} {value : Raw} {depth : Nat}
    (read : number? negative cs = some (value, rest)) :
    JsonWithin depth value := by
  simp only [number?] at read
  split at read
  · cases read
  · split at read
    · split at read
      · cases read
      · next few =>
          cases read
          apply JsonWithin.int
          apply Numeral.isOverlong_signed
          · intro digit member
            rcases List.mem_map.mp member with ⟨c, -, rfl⟩
            exact asciiDigitValue_lt c
          · rw [List.length_map]
            exact Nat.le_of_not_lt few
    · cases read
      exact .float _

/-- What a word stands for is read where the word stands. -/
theorem eq_of_map_word?
    {word : String} {cs rest : List Char} {meant value : Raw}
    (read : (word? word cs).map (fun after => (meant, after)) = some (value, rest)) :
    value = meant := by
  rcases Option.map_eq_some_iff.mp read with ⟨after, -, same⟩
  cases same
  rfl

theorem within_of_scalar?
    {cs rest : List Char} {value : Raw} {depth : Nat}
    (read : scalar? cs = some (value, rest)) :
    JsonWithin depth value := by
  rw [scalar?.eq_def] at read
  split at read
  · rcases Option.map_eq_some_iff.mp read with ⟨text, -, same⟩
    cases same
    exact .text _
  · split at read
    · cases read
      exact .float _
    · exact within_of_number? read
  · rw [eq_of_map_word? read]
    exact .null
  · rw [eq_of_map_word? read]
    exact .bool true
  · rw [eq_of_map_word? read]
    exact .bool false
  · rw [eq_of_map_word? read]
    exact .float _
  · rw [eq_of_map_word? read]
    exact .float _
  · exact within_of_number? read

section Containers

variable {read? : List Char → Option (Raw × List Char)} {depth : Nat}

theorem within_of_items?
    (each : ∀ cs value rest, read? cs = some (value, rest) → JsonWithin depth value)
    {bound : Nat} {cs rest : List Char} {items : List Raw}
    (read : items? read? bound cs = some (items, rest)) :
    ∀ item ∈ items, JsonWithin depth item := by
  induction bound generalizing cs items with
  | zero =>
      cases read
  | succ bound induction =>
      rw [items?] at read
      split at read
      · cases read
      · next first afterFirst readFirst =>
          split at read
          · rcases Option.map_eq_some_iff.mp read with ⟨⟨others, after⟩, readOthers, same⟩
            cases same
            exact List.forall_mem_cons.mpr
              ⟨each _ _ _ readFirst, induction readOthers⟩
          · cases read
            exact List.forall_mem_singleton.mpr (each _ _ _ readFirst)
          · cases read

/-- A name and a value of the forms of JSON. -/
def MemberWithin (depth : Nat) (member : Raw × Raw) : Prop :=
  (∃ name, member.1 = .text name) ∧ JsonWithin depth member.2

theorem within_of_members?
    (each : ∀ cs value rest, read? cs = some (value, rest) → JsonWithin depth value)
    {bound : Nat} {cs rest : List Char} {members : List (Raw × Raw)}
    (read : members? read? bound cs = some (members, rest)) :
    ∀ member ∈ members, MemberWithin depth member := by
  induction bound generalizing cs members with
  | zero =>
      cases read
  | succ bound induction =>
      rw [members?] at read
      split at read
      · split at read
        · cases read
        · next name afterName readName =>
            split at read
            · split at read
              · cases read
              · next first afterFirst readFirst =>
                  have whole : MemberWithin depth (.text name, first) :=
                    ⟨⟨name, rfl⟩, each _ _ _ readFirst⟩
                  split at read
                  · rcases Option.map_eq_some_iff.mp read with
                      ⟨⟨others, after⟩, readOthers, same⟩
                    cases same
                    exact List.forall_mem_cons.mpr ⟨whole, induction readOthers⟩
                  · cases read
                    exact List.forall_mem_singleton.mpr whole
                  · cases read
            · cases read
      · cases read

theorem within_putMember
    {members : List (Raw × Raw)} {member : Raw × Raw}
    (earlier : ∀ other ∈ members, MemberWithin depth other)
    (later : MemberWithin depth member) :
    ∀ other ∈ putMember members member, MemberWithin depth other := by
  intro other present
  rw [putMember] at present
  split at present
  · rcases List.mem_map.mp present with ⟨before, standing, rfl⟩
    split
    · exact later
    · exact earlier before standing
  · rcases List.mem_append.mp present with standing | added
    · exact earlier other standing
    · rw [List.mem_singleton.mp added]
      exact later

theorem within_putMembers
    {members earlier : List (Raw × Raw)}
    (each : ∀ member ∈ members, MemberWithin depth member)
    (before : ∀ member ∈ earlier, MemberWithin depth member) :
    ∀ member ∈ members.foldl putMember earlier, MemberWithin depth member := by
  induction members generalizing earlier with
  | nil =>
      exact before
  | cons member rest induction =>
      rw [List.forall_mem_cons] at each
      exact induction each.2 (within_putMember before each.1)

end Containers

/-- One level of nesting is read at a time, so what is read has no more levels than were allowed. -/
theorem within_of_value?
    {bound depth : Nat} {cs rest : List Char} {value : Raw}
    (read : value? bound depth cs = some (value, rest)) :
    JsonWithin depth value := by
  induction depth generalizing cs value rest with
  | zero =>
      exact within_of_scalar? read
  | succ depth induction =>
      rw [value?.eq_def] at read
      dsimp only at read
      split at read
      · split at read
        · cases read
          exact .list (by simp)
        · rcases Option.map_eq_some_iff.mp read with ⟨⟨items, after⟩, readItems, same⟩
          cases same
          exact .list (within_of_items? (fun _ _ _ => induction) readItems)
      · split at read
        · cases read
          exact .mapping (by simp) (by simp)
        · rcases Option.map_eq_some_iff.mp read with ⟨⟨members, after⟩, readMembers, same⟩
          cases same
          have each : ∀ member ∈ members.foldl putMember [], MemberWithin depth member :=
            within_putMembers (within_of_members? (fun _ _ _ => induction) readMembers) (by simp)
          exact .mapping (fun member present => (each member present).1)
            (fun member present => (each member present).2)
      · exact within_of_scalar? read

theorem decoded_of_ofChars?
    {cs : List Char} {value : Raw}
    (read : ofChars? cs = some value) :
    value.Decoded := by
  rw [ofChars?] at read
  split at read
  · next found rest readValue =>
      split at read
      · cases read
        exact within_of_value? readValue
      · cases read
  · cases read

theorem decoded_of_ofText?
    {text : String} {value : Raw}
    (read : ofText? text = some value) :
    value.Decoded :=
  decoded_of_ofChars? read

end Json

end TableSource
