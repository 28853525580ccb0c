import Mathlib.Data.List.Forall2
import TableSource.Proofs.Raw.JsonTokens
import TableSource.Proofs.Succeeds

/-!
# JSON texts are read back

A value of the forms that JSON has is read from its text as the same value, in every style whose
separators are a comma and a colon with blanks.  The texts of containers are put together from the
texts of their parts, each of which is read as its part whatever follows it; this holds for texts
that are assembled by hand as well.

A text that breaks off inside of an array or an object is not read at all.
-/

namespace TableSource

/-! ## Values -/

namespace Raw

/-- A value of the forms that JSON has, where no name occurs twice in a mapping, with at most a
number of containers inside each other. -/
inductive Readable : ℕ → Raw → Prop where
  | null {depth : ℕ} : Readable depth .null
  | bool {depth : ℕ} (value : Bool) : Readable depth (.bool value)
  | int {depth : ℕ} {value : ℤ} (short : Numeral.isOverlong value = false) :
      Readable depth (.int value)
  | float {depth : ℕ} (value : Floating) : Readable depth (.float value)
  | text {depth : ℕ} (value : String) : Readable depth (.text value)
  | list {depth : ℕ} {items : List Raw}
      (each : ∀ item ∈ items, Readable depth item) :
      Readable (depth + 1) (.list items)
  | record {depth : ℕ} {fields : List (String × Raw)}
      (distinct : (fields.map (·.1)).Nodup)
      (each : ∀ field ∈ fields, Readable depth field.2) :
      Readable (depth + 1) (.record fields)

end Raw

namespace Json

open Raw

/-! ## Blanks -/

theorem skip_of_closes
    {rest : List Char} (closes : Closes rest) :
    skip rest = rest := by
  cases rest with
  | nil =>
      rfl
  | cons c others =>
      rcases closes c rfl with rfl | rfl | rfl <;> rfl

theorem skip_blanks
    {blanks : List Char} (blank : ∀ c ∈ blanks, isSpace c = true) (rest : List Char) :
    skip (blanks ++ rest) = skip rest := by
  rw [skip, List.dropWhile_append_of_pos blank]
  rfl

/-! ## Texts of parts -/

variable {read? : List Char → Option (Raw × List Char)}

/-- A text that is read as a value, whatever follows it. -/
structure Writes (read? : List Char → Option (Raw × List Char)) (text : List Char) (value : Raw) :
    Prop where
  begins : ∃ first others, text = first :: others ∧ isSpace first = false ∧ first ≠ ']'
  reads : ∀ rest, Closes rest → read? (text ++ rest) = some (value, rest)

theorem Writes.skip_append
    {text : List Char} {value : Raw} (writes : Writes read? text value) (rest : List Char) :
    skip (text ++ rest) = text ++ rest := by
  rcases writes.begins with ⟨first, others, rfl, shown, -⟩
  simp [skip, shown]

theorem Writes.ne_nil
    {text : List Char} {value : Raw} (writes : Writes read? text value) :
    text ≠ [] := by
  rcases writes.begins with ⟨first, others, rfl, -⟩
  exact List.cons_ne_nil _ _

/-! ## Arrays -/

section Arrays

variable {lead text : List Char} {item : Raw}

theorem items?_cons
    (blank : ∀ c ∈ lead, isSpace c = true) (writes : Writes read? text item)
    (bound : ℕ) (rest : List Char) :
    items? read? (bound + 1) (lead ++ text ++ ',' :: rest) =
      (items? read? bound rest).map fun read => (item :: read.1, read.2) := by
  have closes : Closes (',' :: rest) := by
    simp [Closes]
  rw [items?, List.append_assoc, skip_blanks blank, writes.skip_append, writes.reads _ closes]
  simp only [skip_of_closes closes]

theorem items?_last
    (blank : ∀ c ∈ lead, isSpace c = true) (writes : Writes read? text item)
    (bound : ℕ) (rest : List Char) :
    items? read? (bound + 1) (lead ++ text ++ ']' :: rest) = some ([item], rest) := by
  have closes : Closes (']' :: rest) := by
    simp [Closes]
  rw [items?, List.append_assoc, skip_blanks blank, writes.skip_append, writes.reads _ closes]
  simp only [skip_of_closes closes]

/-- An array that ends without its bracket is not read. -/
theorem items?_cut
    (blank : ∀ c ∈ lead, isSpace c = true) (writes : Writes read? text item)
    (bound : ℕ) :
    items? read? (bound + 1) (lead ++ text) = none := by
  have closes : Closes [] := by
    simp [Closes]
  have reads := writes.reads [] closes
  have noBlanks := writes.skip_append []
  rw [List.append_nil] at reads noBlanks
  rw [items?, skip_blanks blank, noBlanks, reads]
  rfl

/-- Items with commas between them are read up to the bracket. -/
theorem items?_joined
    (lead : List Char) {blanks : List Char} (blank : ∀ c ∈ blanks, isSpace c = true)
    {texts : List (List Char)} {items : List Raw}
    (each : List.Forall₂ (Writes read?) texts items) (nonempty : texts ≠ [])
    {bound : ℕ} (enough : texts.length ≤ bound)
    (leadBlank : ∀ c ∈ lead, isSpace c = true) (rest : List Char) :
    items? read? bound (lead ++ (',' :: blanks).intercalate texts ++ ']' :: rest) =
      some (items, rest) := by
  induction each generalizing bound lead with
  | nil =>
      exact absurd rfl nonempty
  | @cons text item texts items writes each induction =>
      cases bound with
      | zero =>
          cases enough
      | succ bound =>
          cases each with
          | nil =>
              rw [List.intercalate_singleton]
              exact items?_last leadBlank writes bound rest
          | cons next others =>
              have later := induction blanks (List.cons_ne_nil _ _)
                (Nat.le_of_succ_le_succ enough) blank
              rw [List.intercalate_cons_cons, List.append_assoc text, List.cons_append,
                ← List.append_assoc lead, List.append_assoc (lead ++ text), List.cons_append,
                items?_cons leadBlank writes, later]
              rfl

/-- Items with commas between them, but without a bracket, are not read. -/
theorem items?_joined_cut
    (lead : List Char) {blanks : List Char} (blank : ∀ c ∈ blanks, isSpace c = true)
    {texts : List (List Char)} {items : List Raw}
    (each : List.Forall₂ (Writes read?) texts items) (nonempty : texts ≠ [])
    (bound : ℕ) (leadBlank : ∀ c ∈ lead, isSpace c = true) :
    items? read? bound (lead ++ (',' :: blanks).intercalate texts) = none := by
  induction each generalizing bound lead with
  | nil =>
      exact absurd rfl nonempty
  | @cons text item texts items writes each induction =>
      cases bound with
      | zero =>
          rfl
      | succ bound =>
          cases each with
          | nil =>
              rw [List.intercalate_singleton]
              exact items?_cut leadBlank writes bound
          | cons next others =>
              have later := induction blanks (List.cons_ne_nil _ _) bound blank
              rw [List.intercalate_cons_cons, List.append_assoc text, List.cons_append,
                ← List.append_assoc lead, items?_cons leadBlank writes, later]
              rfl

end Arrays

/-! ## Objects -/

/-- A member of an object. -/
def memberText (asciiOnly : Bool) (blanks : List Char) (name : String) (text : List Char) :
    List Char :=
  '"' :: (name.toList.flatMap (jsonChar asciiOnly) ++ '"' :: ':' :: (blanks ++ text))

section Objects

variable {asciiOnly : Bool} {lead blanks text : List Char} {value : Raw}

/-- A member is read as its name and what its value is read as. -/
theorem members?_member
    (leadBlank : ∀ c ∈ lead, isSpace c = true) (blank : ∀ c ∈ blanks, isSpace c = true)
    (bound : ℕ) (name : String) (rest : List Char) :
    members? read? (bound + 1) (lead ++ memberText asciiOnly blanks name text ++ rest) =
      match read? (skip (text ++ rest)) with
      | none => none
      | some (member, after) =>
        match skip after with
        | ',' :: others =>
          (members? read? bound others).map fun read => ((.text name, member) :: read.1, read.2)
        | '\x7d' :: others => some ([(.text name, member)], others)
        | _ => none := by
  have begins (others : List Char) : skip ('"' :: others) = '"' :: others := rfl
  have colon (others : List Char) : skip (':' :: others) = ':' :: others := rfl
  rw [members?, List.append_assoc, skip_blanks leadBlank, memberText]
  simp only [List.cons_append, List.append_assoc, begins, string?_jsonChars, colon,
    skip_blanks blank, String.ofList_toList]
  -- The two sides match on the same values, possibly by different auxiliary functions.
  all_goals rfl

theorem members?_cons
    (leadBlank : ∀ c ∈ lead, isSpace c = true) (blank : ∀ c ∈ blanks, isSpace c = true)
    (writes : Writes read? text value) (bound : ℕ) (name : String) (rest : List Char) :
    members? read? (bound + 1) (lead ++ memberText asciiOnly blanks name text ++ ',' :: rest) =
      (members? read? bound rest).map fun read => ((.text name, value) :: read.1, read.2) := by
  have closes : Closes (',' :: rest) := by
    simp [Closes]
  rw [members?_member leadBlank blank, writes.skip_append, writes.reads _ closes]
  simp only [skip_of_closes closes]

theorem members?_last
    (leadBlank : ∀ c ∈ lead, isSpace c = true) (blank : ∀ c ∈ blanks, isSpace c = true)
    (writes : Writes read? text value) (bound : ℕ) (name : String) (rest : List Char) :
    members? read? (bound + 1) (lead ++ memberText asciiOnly blanks name text ++ '\x7d' :: rest) =
      some ([(.text name, value)], rest) := by
  have closes : Closes ('\x7d' :: rest) := by
    simp [Closes]
  rw [members?_member leadBlank blank, writes.skip_append, writes.reads _ closes]
  simp only [skip_of_closes closes]

/-- A member whose value is not read is not read either. -/
theorem members?_unread
    (leadBlank : ∀ c ∈ lead, isSpace c = true) (blank : ∀ c ∈ blanks, isSpace c = true)
    (unread : read? (skip text) = none) (bound : ℕ) (name : String) :
    members? read? bound (lead ++ memberText asciiOnly blanks name text) = none := by
  cases bound with
  | zero =>
      rfl
  | succ bound =>
      rw [← List.append_nil (lead ++ _), members?_member leadBlank blank, List.append_nil, unread]

/-- A text of a member that is read as a field. -/
def WritesField (read? : List Char → Option (Raw × List Char)) (asciiOnly : Bool)
    (blanks member : List Char) (field : String × Raw) : Prop :=
  ∃ text, member = memberText asciiOnly blanks field.1 text ∧ Writes read? text field.2

/-- Members with commas between them are read up to the brace. -/
theorem members?_joined
    (lead : List Char) {commaBlanks : List Char} (commaBlank : ∀ c ∈ commaBlanks, isSpace c = true)
    (blank : ∀ c ∈ blanks, isSpace c = true)
    {texts : List (List Char)} {fields : List (String × Raw)}
    (each : List.Forall₂ (WritesField read? asciiOnly blanks) texts fields)
    (nonempty : texts ≠ []) {bound : ℕ} (enough : texts.length ≤ bound)
    (leadBlank : ∀ c ∈ lead, isSpace c = true) (rest : List Char) :
    members? read? bound (lead ++ (',' :: commaBlanks).intercalate texts ++ '\x7d' :: rest) =
      some (fields.map fun field => (.text field.1, field.2), rest) := by
  induction each generalizing bound lead with
  | nil =>
      exact absurd rfl nonempty
  | @cons member field texts fields writes each induction =>
      rcases writes with ⟨text, rfl, writes⟩
      cases bound with
      | zero =>
          cases enough
      | succ bound =>
          cases each with
          | nil =>
              rw [List.intercalate_singleton]
              exact members?_last leadBlank blank writes bound _ rest
          | cons next others =>
              have later := induction commaBlanks (List.cons_ne_nil _ _)
                (Nat.le_of_succ_le_succ enough) commaBlank
              rw [List.intercalate_cons_cons, List.append_assoc (memberText _ _ _ _),
                List.cons_append, ← List.append_assoc lead, List.append_assoc (lead ++ _),
                List.cons_append, members?_cons leadBlank blank writes, later]
              rfl

end Objects

/-- Members with different names stay as they are. -/
theorem putMembers_of_distinct
    {earlier fields : List (String × Raw)} (distinct : ((earlier ++ fields).map (·.1)).Nodup) :
    (fields.map fun field => (Raw.text field.1, field.2)).foldl putMember
        (earlier.map fun field => (Raw.text field.1, field.2)) =
      (earlier ++ fields).map fun field => (Raw.text field.1, field.2) := by
  induction fields generalizing earlier with
  | nil =>
      simp
  | cons field rest induction =>
      have fresh : ∀ value, (field.1, value) ∉ earlier := by
        intro value member
        rw [List.map_append, List.nodup_append] at distinct
        exact distinct.2.2 _ (List.mem_map_of_mem member) field.1 (by simp) rfl
      have put : putMember (earlier.map fun field => (Raw.text field.1, field.2))
          (.text field.1, field.2) =
            (earlier ++ [field]).map fun field => (Raw.text field.1, field.2) := by
        rw [putMember, if_neg]
        · simp
        · simpa using fresh
      rw [List.map_cons, List.foldl_cons, put, induction (by simpa using distinct)]
      simp

/-! ## Readers of values -/

theorem value?_of_scalar?
    {cs : List Char} {value : Raw} {rest : List Char}
    (read : scalar? cs = some (value, rest)) (bound depth : ℕ) :
    value? bound depth cs = some (value, rest) := by
  cases depth with
  | zero =>
      exact read
  | succ depth =>
      rw [value?.eq_def]
      dsimp only
      split
      · cases read
      · cases read
      · exact read

/-- The text of a scalar is read as it by every reader of values. -/
theorem writes_scalar
    {text : List Char} {value : Raw}
    (begins : ∃ first others, text = first :: others ∧ isSpace first = false ∧ first ≠ ']')
    (reads : ∀ rest, Closes rest → scalar? (text ++ rest) = some (value, rest)) (bound depth : ℕ) :
    Writes (value? bound depth) text value :=
  ⟨begins, fun rest closes => value?_of_scalar? (reads rest closes) bound depth⟩

/-- The text of an array. -/
def arrayText (blanks : List Char) (texts : List (List Char)) : List Char :=
  '[' :: ((',' :: blanks).intercalate texts ++ [']'])

/-- The text of an object. -/
def objectText (blanks : List Char) (members : List (List Char)) : List Char :=
  '\x7b' :: ((',' :: blanks).intercalate members ++ ['\x7d'])

section Containers

variable {bound depth : ℕ} {blanks : List Char}

theorem exists_intercalate_cons (separator text : List Char) (texts : List (List Char)) :
    ∃ tail, separator.intercalate (text :: texts) = text ++ tail := by
  cases texts with
  | nil =>
      exact ⟨[], by simp⟩
  | cons next others =>
      exact ⟨_, by rw [List.intercalate_cons_cons, List.append_assoc]⟩

/-- What stands in an array is read up to the bracket, be it complete or not. -/
theorem value?_array
    {text : List Char} {item : Raw} (writes : Writes (value? bound depth) text item)
    (rest : List Char) :
    value? bound (depth + 1) ('[' :: (text ++ rest)) =
      (items? (value? bound depth) bound (text ++ rest)).map fun read => (.list read.1, read.2) := by
  rw [value?]
  simp only [writes.skip_append rest]
  rcases writes.begins with ⟨first, others, rfl, -, noBracket⟩
  split
  · next after same =>
      exact absurd (List.cons.inj same).1 noBracket
  · rfl

/-- An array without its bracket is not read. -/
theorem value?_array_cut
    (blank : ∀ c ∈ blanks, isSpace c = true)
    {texts : List (List Char)} {items : List Raw}
    (each : List.Forall₂ (Writes (value? bound depth)) texts items) (nonempty : texts ≠ []) :
    value? bound (depth + 1) ('[' :: (',' :: blanks).intercalate texts) = none := by
  have cut := items?_joined_cut [] blank each nonempty bound (by simp)
  cases each with
  | nil =>
      exact absurd rfl nonempty
  | @cons text item texts items writes each =>
      rcases exists_intercalate_cons (',' :: blanks) text texts with ⟨tail, joined⟩
      rw [List.nil_append, joined] at cut
      rw [joined, value?_array writes, cut]
      rfl

theorem writes_array
    (blank : ∀ c ∈ blanks, isSpace c = true)
    {texts : List (List Char)} {items : List Raw}
    (each : List.Forall₂ (Writes (value? bound depth)) texts items)
    (enough : texts.length ≤ bound) :
    Writes (value? bound (depth + 1)) (arrayText blanks texts) (.list items) := by
  refine ⟨⟨_, _, rfl, rfl, by decide⟩, fun rest closes => ?_⟩
  cases texts with
  | nil =>
      cases each
      rfl
  | cons text texts =>
      have read := items?_joined [] blank each (List.cons_ne_nil _ _) enough (by simp) rest
      rcases exists_intercalate_cons (',' :: blanks) text texts with ⟨tail, joined⟩
      rw [List.nil_append, joined, List.append_assoc] at read
      cases each with
      | cons writes each =>
          rw [arrayText, joined, List.cons_append, List.append_assoc, List.append_assoc,
            value?_array writes, List.singleton_append, read]
          rfl

/-- What stands in an object is read up to the brace, be it complete or not. -/
theorem value?_object (bound depth : ℕ) (asciiOnly : Bool) (blanks : List Char) (name : String)
    (text rest : List Char) :
    value? bound (depth + 1) ('\x7b' :: (memberText asciiOnly blanks name text ++ rest)) =
      (members? (value? bound depth) bound (memberText asciiOnly blanks name text ++ rest)).map
        fun read => (.mapping (read.1.foldl putMember []), read.2) := by
  rfl

theorem writes_object
    {asciiOnly : Bool} {commaBlanks : List Char} (commaBlank : ∀ c ∈ commaBlanks, isSpace c = true)
    (blank : ∀ c ∈ blanks, isSpace c = true)
    {members : List (List Char)} {fields : List (String × Raw)}
    (each : List.Forall₂ (WritesField (value? bound depth) asciiOnly blanks) members fields)
    (enough : members.length ≤ bound) (distinct : (fields.map (·.1)).Nodup) :
    Writes (value? bound (depth + 1)) (objectText commaBlanks members) (.record fields) := by
  refine ⟨⟨_, _, rfl, rfl, by decide⟩, fun rest closes => ?_⟩
  cases members with
  | nil =>
      cases each
      rfl
  | cons member members =>
      have read := members?_joined [] commaBlank blank each (List.cons_ne_nil _ _) enough
        (by simp) rest
      rcases exists_intercalate_cons (',' :: commaBlanks) member members with ⟨tail, joined⟩
      rw [List.nil_append, joined, List.append_assoc] at read
      have together := @putMembers_of_distinct [] fields distinct
      cases each with
      | cons writes each =>
          rcases writes with ⟨text, rfl, writes⟩
          rw [objectText, joined, List.cons_append, List.append_assoc, List.append_assoc,
            value?_object, List.singleton_append, read, Option.map_some]
          exact congrArg (fun entries => some (Raw.mapping entries, rest)) together

end Containers

/-! ## Bounds -/

section Bounds

theorem length_le_intercalate
    (separator : List Char) {text : List Char} {texts : List (List Char)} (member : text ∈ texts) :
    text.length ≤ (separator.intercalate texts).length := by
  induction texts with
  | nil =>
      cases member
  | cons first texts induction =>
      cases texts with
      | nil =>
          rw [List.mem_singleton.mp member, List.intercalate_singleton]
      | cons next others =>
          rw [List.intercalate_cons_cons, List.length_append, List.length_append]
          rcases List.mem_cons.mp member with rfl | later
          · omega
          · have fits := induction later
            omega

theorem length_texts_le_intercalate
    (separator : List Char) {texts : List (List Char)} (filled : ∀ text ∈ texts, text ≠ []) :
    texts.length ≤ (separator.intercalate texts).length := by
  induction texts with
  | nil =>
      simp
  | cons text texts induction =>
      rw [List.forall_mem_cons] at filled
      have first := List.length_pos_iff.mpr filled.1
      cases texts with
      | nil =>
          simpa [Nat.one_le_iff_ne_zero] using filled.1
      | cons next others =>
          have later := induction filled.2
          rw [List.intercalate_cons_cons, List.length_append, List.length_append]
          simp only [List.length_cons] at later ⊢
          omega

theorem exists_right_of_mem {α β : Type} {R : α → β → Prop} {xs : List α} {ys : List β}
    (each : List.Forall₂ R xs ys) {x : α} (member : x ∈ xs) :
    ∃ y, R x y := by
  induction each with
  | nil =>
      cases member
  | cons first rest induction =>
      rcases List.mem_cons.mp member with rfl | later
      · exact ⟨_, first⟩
      · exact induction later

theorem forall₂_imp_of_mem {α β : Type} {R S : α → β → Prop} {xs : List α} {ys : List β}
    (each : List.Forall₂ R xs ys) (imp : ∀ x ∈ xs, ∀ y ∈ ys, R x y → S x y) :
    List.Forall₂ S xs ys := by
  rw [List.forall₂_iff_zip] at each ⊢
  refine ⟨each.1, fun {x y} member => ?_⟩
  rcases List.of_mem_zip member with ⟨left, right⟩
  exact imp x left y right (each.2 member)

variable {bound depth : ℕ}

/-- An array is read whose items are read within the bound that the whole text keeps. -/
theorem writes_array_within
    {blanks : List Char} (blank : ∀ c ∈ blanks, isSpace c = true)
    (made : List Char → Raw → Prop) {texts : List (List Char)} {items : List Raw}
    (each : List.Forall₂ made texts items)
    (writes : ∀ text, ∀ item ∈ items, made text item → text.length ≤ bound →
      Writes (value? bound depth) text item)
    (enough : (arrayText blanks texts).length ≤ bound) :
    Writes (value? bound (depth + 1)) (arrayText blanks texts) (.list items) := by
  have fits : ((',' :: blanks).intercalate texts).length ≤ bound := by
    simp only [arrayText, List.length_cons, List.length_append] at enough
    omega
  have reads : List.Forall₂ (Writes (value? bound depth)) texts items :=
    forall₂_imp_of_mem each fun text member item itemMember isMade =>
      writes text item itemMember isMade ((length_le_intercalate _ member).trans fits)
  refine writes_array blank reads ((length_texts_le_intercalate _ ?_).trans fits)
  intro text member
  rcases exists_right_of_mem reads member with ⟨item, isRead⟩
  exact isRead.ne_nil

/-- An object is read whose values are read within the bound that the whole text keeps. -/
theorem writes_object_within
    {asciiOnly : Bool} {commaBlanks : List Char} (commaBlank : ∀ c ∈ commaBlanks, isSpace c = true)
    {blanks : List Char} (blank : ∀ c ∈ blanks, isSpace c = true)
    (made : List Char → Raw → Prop) {members : List (List Char)} {fields : List (String × Raw)}
    (each : List.Forall₂
      (fun member (field : String × Raw) =>
        ∃ text, member = memberText asciiOnly blanks field.1 text ∧ made text field.2)
      members fields)
    (writes : ∀ text, ∀ field ∈ fields, made text field.2 → text.length ≤ bound →
      Writes (value? bound depth) text field.2)
    (distinct : (fields.map (·.1)).Nodup)
    (enough : (objectText commaBlanks members).length ≤ bound) :
    Writes (value? bound (depth + 1)) (objectText commaBlanks members) (.record fields) := by
  have fits : ((',' :: commaBlanks).intercalate members).length ≤ bound := by
    simp only [objectText, List.length_cons, List.length_append] at enough
    omega
  have reads : List.Forall₂ (WritesField (value? bound depth) asciiOnly blanks) members fields := by
    refine forall₂_imp_of_mem each fun member present field fieldPresent isMade => ?_
    rcases isMade with ⟨text, rfl, isMade⟩
    have short := (length_le_intercalate (',' :: commaBlanks) present).trans fits
    simp only [memberText, List.length_cons, List.length_append] at short
    exact ⟨text, rfl, writes text field fieldPresent isMade (by omega)⟩
  refine writes_object commaBlank blank reads ((length_texts_le_intercalate _ ?_).trans fits) distinct
  intro member present
  rcases exists_right_of_mem reads present with ⟨field, text, rfl, -⟩
  exact List.cons_ne_nil _ _

end Bounds

/-- A text that is read as a value is read as a whole. -/
theorem ofChars?_of_writes
    {cs : List Char} {value : Raw}
    (writes : Writes (value? (cs.length + 1) maxNesting) cs value) :
    ofChars? cs = some value := by
  have noBlanks := writes.skip_append []
  have reads := writes.reads [] (by simp [Closes])
  rw [List.append_nil] at noBlanks reads
  rw [ofChars?, noBlanks, reads]
  rfl

/-! ## The texts of values -/

section Styles

/-- A style whose separators are a comma and a colon with blanks behind them. -/
structure Separates (style : JsonStyle) (commaBlanks colonBlanks : List Char) : Prop where
  comma : style.itemSeparator.toList = ',' :: commaBlanks
  colon : style.keySeparator.toList = ':' :: colonBlanks
  commaBlank : ∀ c ∈ commaBlanks, isSpace c = true
  colonBlank : ∀ c ∈ colonBlanks, isSpace c = true

theorem separates_spaced : Separates .spaced [' '] [' '] :=
  ⟨rfl, rfl, List.forall_mem_singleton.mpr rfl, List.forall_mem_singleton.mpr rfl⟩

theorem separates_compact : Separates .compact [] [] :=
  ⟨rfl, rfl, by simp, by simp⟩

theorem begins_signed
    {negative : Bool} {chars : List Char} (begins : Numeral.startsWithDigit chars = true) :
    ∃ first others, (if negative then '-' :: chars else chars) = first :: others ∧
      isSpace first = false ∧ first ≠ ']' := by
  cases negative with
  | true =>
      exact ⟨_, _, rfl, rfl, by decide⟩
  | false =>
      cases chars with
      | nil =>
          cases begins
      | cons first others =>
          have digit : Text.isAsciiDigit first = true := begins
          refine ⟨first, others, rfl, ?_, ?_⟩
          · by_contra space
            simp only [isSpace, Bool.not_eq_false, Bool.or_eq_true, beq_iff_eq] at space
            rcases space with ((rfl | rfl) | rfl) | rfl <;> cases digit
          · rintro rfl
            cases digit

/-- A word is read as what it means. -/
theorem writes_word
    (word : String) (meant : Raw)
    (begins : ∃ first others, word.toList = first :: others ∧ isSpace first = false ∧ first ≠ ']')
    (reads : ∀ rest, scalar? (word.toList ++ rest) =
      (word? word (word.toList ++ rest)).map fun after => (meant, after))
    (bound depth : ℕ) :
    Writes (value? bound depth) word.toList meant := by
  refine writes_scalar begins (fun rest _ => ?_) bound depth
  rw [reads, word?_append]
  rfl

theorem writes_float
    {style : JsonStyle} {value : Floating} {text : String}
    (made : jsonFloat style value = .ok text) (bound depth : ℕ) :
    Writes (value? bound depth) text.toList (.float value) := by
  cases value with
  | finite x =>
      cases made
      rcases x.textChars_eq_parts with ⟨parts, wellFormed, chars, -⟩
      rw [Binary64.text, String.toList_ofList]
      refine writes_scalar ?_ (fun rest closes => scalar?_float x closes) bound depth
      rw [chars]
      exact begins_signed (startsWithDigit_chars wellFormed)
  | infinite negative =>
      rw [jsonFloat] at made
      split at made
      · cases made
        cases negative with
        | false =>
            exact writes_word "Infinity" _ ⟨_, _, rfl, rfl, by decide⟩ (fun _ => rfl) bound depth
        | true =>
            refine writes_scalar ⟨_, _, rfl, rfl, by decide⟩ (fun rest _ => ?_) bound depth
            have word : word? "Infinity" ("Infinity".toList ++ rest) = some rest :=
              word?_append "Infinity" rest
            show scalar? ('-' :: ("Infinity".toList ++ rest)) = _
            rw [scalar?, word]
      · cases made
  | nan =>
      rw [jsonFloat] at made
      split at made
      · cases made
        exact writes_word "NaN" _ ⟨_, _, rfl, rfl, by decide⟩ (fun _ => rfl) bound depth
      · cases made

theorem toList_jsonString (asciiOnly : Bool) (value : String) :
    (jsonString asciiOnly value).toList =
      '"' :: (value.toList.flatMap (jsonChar asciiOnly) ++ ['"']) :=
  String.toList_ofList

/-- A text that a style has for a value. -/
def WrittenAs (style : JsonStyle) (depth : ℕ) (text : List Char) (value : Raw) : Prop :=
  ∃ written : String, text = written.toList ∧ jsonWithin style depth value = .ok written

/-- The text of a list is an array of texts that the style has for the items. -/
theorem exists_texts_of_list
    {style : JsonStyle} {commaBlanks colonBlanks : List Char}
    (separates : Separates style commaBlanks colonBlanks)
    {depth : ℕ} {items : List Raw} {text : String}
    (made : jsonWithin style depth (.list items) = .ok text) :
    ∃ below texts, text.toList = arrayText commaBlanks texts ∧
      List.Forall₂ (WrittenAs style below) texts items := by
  cases depth with
  | zero =>
      cases made
  | succ depth =>
      rw [jsonWithin] at made
      simp only [bind_eq_ok_iff, pure_eq_ok_iff, mapM_eq_ok_iff] at made
      rcases made with ⟨texts, written, rfl⟩
      refine ⟨depth, texts.map String.toList, ?_, ?_⟩
      · simp [String.toList_intercalate, separates.comma, arrayText]
      · rw [List.forall₂_map_left_iff]
        exact written.flip.imp fun text item made => ⟨text, rfl, made⟩

/-- The text of a record is an object of members that the style has for the fields. -/
theorem exists_texts_of_record
    {style : JsonStyle} {commaBlanks colonBlanks : List Char}
    (separates : Separates style commaBlanks colonBlanks)
    {depth : ℕ} {fields : List (String × Raw)} {text : String}
    (made : jsonWithin style depth (.record fields) = .ok text) :
    ∃ below members, text.toList = objectText commaBlanks members ∧
      List.Forall₂
        (fun member (field : String × Raw) =>
          ∃ text, member = memberText style.asciiOnly colonBlanks field.1 text ∧
            WrittenAs style below text field.2)
        members fields := by
  cases depth with
  | zero =>
      cases made
  | succ depth =>
      rw [Raw.record, jsonWithin] at made
      simp only [bind_eq_ok_iff, pure_eq_ok_iff, mapM_eq_ok_iff, List.forall₂_map_left_iff] at made
      rcases made with ⟨texts, written, rfl⟩
      refine ⟨depth, texts.map String.toList, ?_, ?_⟩
      · simp [String.toList_intercalate, separates.comma, objectText]
      · rw [List.forall₂_map_left_iff]
        refine written.flip.imp fun text field made => ?_
        rcases made with ⟨key, ⟨⟩, value, made, rfl⟩
        refine ⟨value.toList, ?_, value, rfl, made⟩
        simp [toList_jsonString, separates.colon, memberText]

/-- The text of a value is read as the value, where the bound of the reader is at least its
length. -/
theorem writes_json
    {style : JsonStyle} {commaBlanks colonBlanks : List Char}
    (separates : Separates style commaBlanks colonBlanks)
    {depth writerDepth : ℕ} {value : Raw} {text : String}
    (readable : Readable depth value) (made : jsonWithin style writerDepth value = .ok text)
    {bound : ℕ} (enough : text.toList.length ≤ bound) :
    Writes (value? bound depth) text.toList value := by
  induction readable generalizing writerDepth text with
  | null =>
      rw [jsonWithin] at made
      cases made
      exact writes_word _ _ ⟨_, _, rfl, rfl, by decide⟩ (fun _ => rfl) bound _
  | bool value =>
      rw [jsonWithin] at made
      cases made
      cases value with
      | false =>
          exact writes_word _ _ ⟨_, _, rfl, rfl, by decide⟩ (fun _ => rfl) bound _
      | true =>
          exact writes_word _ _ ⟨_, _, rfl, rfl, by decide⟩ (fun _ => rfl) bound _
  | int short =>
      rw [jsonWithin, integerText_of_short short] at made
      cases made
      refine writes_scalar ?_ (fun rest closes => scalar?_int short closes) bound _
      rw [Numeral.toList_toString]
      exact begins_signed (startsWithDigit_toDigits _)
  | float value =>
      rw [jsonWithin] at made
      exact writes_float made bound _
  | text value =>
      rw [jsonWithin] at made
      cases made
      rw [toList_jsonString]
      refine writes_scalar ⟨_, _, rfl, rfl, by decide⟩ (fun rest closes => ?_) bound _
      have read := string?_jsonChars style.asciiOnly value.toList rest
      rw [String.ofList_toList] at read
      simp only [List.cons_append, List.append_assoc, List.nil_append, scalar?, read]
      rfl
  | list each induction =>
      rcases exists_texts_of_list separates made with ⟨below, texts, whole, written⟩
      rw [whole] at enough ⊢
      refine writes_array_within separates.commaBlank _ written ?_ enough
      rintro _ item member ⟨text, rfl, made⟩ short
      exact induction item member made short
  | record distinct each induction =>
      rcases exists_texts_of_record separates made with ⟨below, members, whole, written⟩
      rw [whole] at enough ⊢
      refine writes_object_within separates.commaBlank separates.colonBlank _ written ?_ distinct
        enough
      rintro _ field member ⟨text, rfl, made⟩ short
      exact induction field member made short

end Styles

end Json

end TableSource
