import Mathlib.Data.List.Infix
import TableSource.Text.Lowercase

/-!
# Lower-casing one by one

The simple case mapping gives one small letter for one letter, and a small letter stays what it is.
Full lower-casing gives the same letters, up to this mapping, except in two places: a dotted capital
I becomes two characters, and a capital sigma that ends a word becomes a small letter of its own.

That small letters stay is a fact about the table.  It is checked for pairs of runs: no run maps its
letters into another one.
-/

namespace TableSource.Text

/-! ## The table -/

/-- A run of the table: its first and its last code point, its stride and its offset. -/
abbrev Run := ℕ × ℕ × ℕ × ℤ

/-- Whether a run maps a code point. -/
def covers (run : Run) (code : ℕ) : Bool :=
  run.1 ≤ code && code ≤ run.2.1 && (code - run.1) % run.2.2.1 == 0

/-- What a run maps a code point to. -/
def imageOf (run : Run) (code : ℕ) : ℕ :=
  ((code : ℤ) + run.2.2.2).toNat

/-- Whether all code points that a run maps to lie on one side of another run. -/
def isBeside (run other : Run) : Bool :=
  Nat.blt (imageOf run run.2.1) other.1 || Nat.blt other.2.1 (imageOf run run.1)

/-- Whether the code points that a run maps to lie between those of another run. -/
def isBetween (run other : Run) : Bool :=
  Nat.blt 0 (imageOf run run.1) && Nat.ble other.1 (imageOf run run.1) &&
    (Nat.beq run.1 run.2.1 || Nat.beq (run.2.2.1 % other.2.2.1) 0) &&
    !Nat.beq ((imageOf run run.1 - other.1) % other.2.2.1) 0

theorem covers_iff
    {run : Run} {code : ℕ} :
    covers run code = true ↔
      run.1 ≤ code ∧ code ≤ run.2.1 ∧ (code - run.1) % run.2.2.1 = 0 := by
  simp [covers, and_assoc]

theorem covers_imageOf
    {run other : Run} {code : ℕ}
    (apart : (isBeside run other || isBetween run other) = true)
    (covered : covers run code = true) :
    covers other (imageOf run code) = false := by
  rw [Bool.eq_false_iff]
  intro again
  rw [covers_iff] at covered again
  rcases covered with ⟨first, last, stride⟩
  rcases again with ⟨firstAgain, lastAgain, strideAgain⟩
  rcases Bool.or_eq_true_iff.mp apart with beside | between
  · simp only [isBeside, Bool.or_eq_true, Nat.blt_eq] at beside
    simp only [imageOf] at beside firstAgain lastAgain
    omega
  · simp only [isBetween, Bool.and_eq_true, Bool.or_eq_true, Bool.not_eq_true', Nat.blt_eq,
      Nat.ble_eq, Nat.beq_eq, Bool.eq_false_iff, ne_eq] at between
    rcases between with ⟨⟨⟨positive, begun⟩, steps⟩, off⟩
    -- a code point lies whole strides behind the first one, and so does what it is mapped to
    have whole : other.2.2.1 ∣ code - run.1 := by
      rcases steps with single | strides
      · rw [show code - run.1 = 0 by omega]
        exact Nat.dvd_zero _
      · exact Nat.dvd_trans (Nat.dvd_of_mod_eq_zero strides) (Nat.dvd_of_mod_eq_zero stride)
    have image : imageOf run code - other.1 =
        (imageOf run run.1 - other.1) + (code - run.1) := by
      simp only [imageOf] at positive begun ⊢
      omega
    rw [image, ← Nat.dvd_iff_mod_eq_zero, Nat.dvd_add_left whole] at strideAgain
    exact off (Nat.mod_eq_zero_of_dvd strideAgain)

/-- Code points that no letter is mapped to: the special characters of patterns, and the dotted
capital I. -/
def unmapped : List ℕ :=
  [0x25, 0x5C, 0x5F, 0x130]

/-- The runs that others stay off. -/
def barred : List Run :=
  unmapped.map (fun code => (code, code, 1, 0)) ++ lowerRuns

theorem runs_apart :
    (lowerRuns.all fun run => barred.all fun other =>
      isBeside run other || isBetween run other) = true := by
  decide +kernel

/-! ## The simple mapping -/

/-- The ASCII letters have a run of their own. -/
def asciiRun : Run :=
  (0x41, 0x5A, 1, 32)

theorem toLower_of_ascii
    {c : Char}
    (ascii : c.toNat < 0x80) :
    c.toLower = if covers asciiRun c.toNat then Char.ofNat (imageOf asciiRun c.toNat) else c := by
  have each : ∀ code < 0x80, (Char.ofNat code).toLower =
      if covers asciiRun (Char.ofNat code).toNat
        then Char.ofNat (imageOf asciiRun (Char.ofNat code).toNat) else Char.ofNat code := by
    decide +kernel
  simpa only [Char.ofNat_toNat] using each c.toNat ascii

theorem asciiRun_mem : asciiRun ∈ lowerRuns :=
  List.mem_cons_self

theorem lowerChar_eq (c : Char) :
    lowerChar c =
      if c.toNat < 0x80 then c.toLower
      else
        match lowerRuns.find? fun run => covers run c.toNat with
        | some run => Char.ofNat (imageOf run c.toNat)
        | none => c := rfl

/-- A character that is not kept is mapped by a run that covers it. -/
theorem lowerChar_cases (c : Char) :
    lowerChar c = c ∨
      ∃ run ∈ lowerRuns, covers run c.toNat = true ∧
        lowerChar c = Char.ofNat (imageOf run c.toNat) := by
  rw [lowerChar_eq]
  split
  · next ascii =>
      rw [toLower_of_ascii ascii]
      split
      · next covered =>
          exact .inr ⟨asciiRun, asciiRun_mem, covered, rfl⟩
      · exact .inl rfl
  · split
    · next run found =>
        have covered := List.find?_some found
        exact .inr ⟨run, List.mem_of_find?_eq_some found, covered, rfl⟩
    · exact .inl rfl

theorem lowerChar_of_uncovered
    {c : Char}
    (uncovered : ∀ run ∈ lowerRuns, covers run c.toNat = false) :
    lowerChar c = c := by
  rw [lowerChar_eq]
  split
  · next ascii =>
      rw [toLower_of_ascii ascii, uncovered asciiRun asciiRun_mem]
      rfl
  · split
    · next run found =>
        have covered := List.find?_some found
        rw [uncovered run (List.mem_of_find?_eq_some found)] at covered
        cases covered
    · rfl

/-- No run covers the character, and it is none of those that no letter is mapped to. -/
def IsSmall (c : Char) : Prop :=
  ∀ other ∈ barred, covers other c.toNat = false

/-- A number that is no code point counts as the character zero. -/
theorem toNat_ofNat_cases (code : ℕ) :
    (Char.ofNat code).toNat = code ∨ (Char.ofNat code).toNat = 0 := by
  by_cases valid : code.isValidChar
  · left
    rw [Char.ofNat, dif_pos valid]
    rfl
  · right
    rw [Char.ofNat, dif_neg valid]
    rfl

theorem isSmall_image
    {run : Run} {code : ℕ}
    (listed : run ∈ lowerRuns) (covered : covers run code = true) :
    IsSmall (Char.ofNat (imageOf run code)) := by
  intro other barring
  rcases toNat_ofNat_cases (imageOf run code) with same | zero
  · have apart := List.all_eq_true.mp (List.all_eq_true.mp runs_apart run listed) other barring
    rw [same]
    exact covers_imageOf apart covered
  · have beyond : ∀ other ∈ barred, covers other 0 = false := by
      decide +kernel
    rw [zero]
    exact beyond other barring

theorem lowerChar_eq_or_isSmall (c : Char) :
    lowerChar c = c ∨ IsSmall (lowerChar c) := by
  rcases lowerChar_cases c with kept | ⟨run, listed, covered, mapped⟩
  · exact .inl kept
  · rw [mapped]
    exact .inr (isSmall_image listed covered)

theorem IsSmall.lowerChar
    {c : Char}
    (small : IsSmall c) :
    lowerChar c = c :=
  lowerChar_of_uncovered fun run listed => small run (List.mem_append_right _ listed)

theorem IsSmall.toNat_ne
    {c : Char}
    (small : IsSmall c) (code : ℕ) (listed : code ∈ unmapped) :
    c.toNat ≠ code := by
  rintro rfl
  have uncovered := small (c.toNat, c.toNat, 1, 0)
    (List.mem_append_left _ (List.mem_map_of_mem listed))
  simp [covers] at uncovered

/-! ## One character for one -/

/-- The simple case mapping, one character for one.  It gives the plain letter for the dotted
capital I. -/
def foldChar (c : Char) : Char :=
  if c = '\u0130' then 'i' else lowerChar c

theorem foldChar_of_ne
    {c : Char}
    (plain : c ≠ '\u0130') :
    foldChar c = lowerChar c :=
  if_neg plain

/-- What was mapped once stays. -/
theorem foldChar_lowerChar (c : Char) :
    foldChar (lowerChar c) = foldChar c := by
  rcases lowerChar_eq_or_isSmall c with kept | small
  · rw [kept]
  · have plain : lowerChar c ≠ '\u0130' := by
      intro dotted
      exact small.toNat_ne 0x130 (by decide) (congrArg Char.toNat dotted)
    have before : c ≠ '\u0130' := by
      rintro rfl
      exact plain (by decide +kernel)
    rw [foldChar_of_ne plain, foldChar_of_ne before, small.lowerChar]

/-! ## Whole texts -/

/-- Behind what precedes it, nearest first, a text is lower-cased one by one: it has no dotted
capital I, and no capital sigma that ends a word. -/
structure LowersSingly (before text : List Char) : Prop where
  noDottedI : '\u0130' ∉ text
  /-- Where letters precede a capital sigma, letters follow it. -/
  noFinalSigma : ∀ earlier later, text = earlier ++ '\u03a3' :: later →
    meetsCased (earlier.reverse ++ before) = true → meetsCased later = true

theorem lowersSingly_nil (before : List Char) :
    LowersSingly before [] where
  noDottedI := List.not_mem_nil
  noFinalSigma := by
    intro earlier later split
    simp at split

theorem lowersSingly_cons_iff
    {before rest : List Char} {c : Char} :
    LowersSingly before (c :: rest) ↔
      c ≠ '\u0130' ∧ (c = '\u03a3' → meetsCased before = true → meetsCased rest = true) ∧
        LowersSingly (c :: before) rest := by
  constructor
  · rintro ⟨noDottedI, noFinalSigma⟩
    rw [List.mem_cons, not_or] at noDottedI
    refine ⟨fun same => noDottedI.1 same.symm, ?_, noDottedI.2, ?_⟩
    · rintro rfl
      exact noFinalSigma [] rest rfl
    · rintro earlier later rfl
      simpa using noFinalSigma (c :: earlier) later rfl
  · rintro ⟨plain, here, noDottedI, noFinalSigma⟩
    refine ⟨?_, ?_⟩
    · rw [List.mem_cons, not_or]
      exact ⟨fun same => plain same.symm, noDottedI⟩
    · intro earlier later split
      cases earlier with
      | nil =>
          rcases List.cons.inj split with ⟨same, rfl⟩
          exact here same
      | cons first earlier =>
          rcases List.cons.inj split with ⟨rfl, rfl⟩
          simpa using noFinalSigma earlier later rfl

theorem lowerFrom_sigma (before rest : List Char) :
    lowerFrom before ('\u03a3' :: rest) =
      (if meetsCased before && !meetsCased rest then '\u03c2' else '\u03c3') ::
        lowerFrom ('\u03a3' :: before) rest := by
  have sigma : '\u03a3'.toNat = 0x3A3 := rfl
  rw [lowerFrom, if_pos sigma]
  split <;> rfl

theorem lowerFrom_dottedI (before rest : List Char) :
    lowerFrom before ('\u0130' :: rest) =
      'i' :: '\u0307' :: lowerFrom ('\u0130' :: before) rest := rfl

theorem lowerFrom_plain
    {c : Char}
    (noSigma : c ≠ '\u03a3') (noDottedI : c ≠ '\u0130') (before rest : List Char) :
    lowerFrom before (c :: rest) = lowerChar c :: lowerFrom (c :: before) rest := by
  have sigma : c.toNat ≠ 0x3A3 := fun same => noSigma (Char.toNat_inj.mp same)
  have dotted : c.toNat ≠ 0x130 := fun same => noDottedI (Char.toNat_inj.mp same)
  rw [lowerFrom, if_neg sigma, if_neg dotted]
  rfl

theorem length_le_lowerFrom (before text : List Char) :
    text.length ≤ (lowerFrom before text).length := by
  induction text generalizing before with
  | nil =>
      exact Nat.le_refl 0
  | cons c rest induction =>
      have later := induction (c :: before)
      by_cases sigma : c = '\u03a3'
      · subst sigma
        rw [lowerFrom_sigma]
        simpa using later
      · by_cases dotted : c = '\u0130'
        · subst dotted
          rw [lowerFrom_dottedI]
          simp only [List.length_cons]
          omega
        · rw [lowerFrom_plain sigma dotted]
          simpa using later

/-- Full lower-casing agrees with the simple mapping where it goes one by one, and only there. -/
theorem map_lowerFrom_eq_iff
    {before text : List Char} :
    (lowerFrom before text).map foldChar = text.map foldChar ↔ LowersSingly before text := by
  induction text generalizing before with
  | nil =>
      exact iff_of_true rfl (lowersSingly_nil before)
  | cons c rest induction =>
      rw [lowersSingly_cons_iff, ← induction]
      by_cases sigma : c = '\u03a3'
      · subst sigma
        rw [lowerFrom_sigma, List.map_cons, List.map_cons, List.cons.injEq]
        have apart : foldChar '\u03c2' ≠ foldChar '\u03a3' := by decide +kernel
        have same : foldChar '\u03c3' = foldChar '\u03a3' := by decide +kernel
        cases meetsCased before <;> cases meetsCased rest <;> simp [apart, same]
      · by_cases dotted : c = '\u0130'
        · subst dotted
          rw [lowerFrom_dottedI]
          refine iff_of_false ?_ (fun singly => singly.1 rfl)
          intro same
          have lengths := congrArg List.length same
          have longer := length_le_lowerFrom ('\u0130' :: before) rest
          simp only [List.map_cons, List.length_cons, List.length_map] at lengths
          omega
        · rw [lowerFrom_plain sigma dotted]
          simp [foldChar_lowerChar, sigma, dotted]

end TableSource.Text
