import Mathlib.Data.List.TakeWhile
import TableSource.Credentials
import TableSource.Proofs.Succeeds

/-!
# Accepted keys

A key has bytes exactly when it is a text, and different texts have different bytes, so comparing
the bytes of keys that are texts compares the keys.  What becomes of given keys is settled by three
conditions: whether they match, whether both keys are configured, and whether all of them are texts.
-/

namespace TableSource

/-! ## Bytes of keys -/

/-- A run of surrogates is the first one among code points: only characters stand before it, and it
goes on to the next character. -/
def SurrogateRun.FirstIn (run : SurrogateRun) (points : List CodePoint) : Prop :=
  ∃ (before : List Char) (more after : List CodePoint),
    points = before.map .char ++ .surrogate run.first :: (more ++ after) ∧
    run.place = before.length ∧
    run.length = more.length + 1 ∧
    (∀ point ∈ more, point.isSurrogate = true) ∧
    ∀ point ∈ after.head?, point.isSurrogate = false

namespace Key

variable {key : Key}

/-- A key that is a text can be encoded. -/
def Encodable (key : Key) : Prop :=
  ∃ text : String, key = text

theorem encodable_ofText (text : String) : Encodable text :=
  ⟨text, rfl⟩

theorem firstRun?_eq_none_iff
    {place : ℕ} {points : List CodePoint} :
    firstRun? place points = none ↔ ∃ cs : List Char, points = cs.map .char := by
  induction points generalizing place with
  | nil =>
      exact ⟨fun _ => ⟨[], rfl⟩, fun _ => rfl⟩
  | cons point rest induction =>
      cases point with
      | char c =>
          rw [firstRun?, induction]
          constructor
          · rintro ⟨cs, rfl⟩
            exact ⟨c :: cs, rfl⟩
          · rintro ⟨cs, same⟩
            rcases List.map_eq_cons_iff.mp same.symm with ⟨_, others, -, -, same⟩
            exact ⟨others, same.symm⟩
      | surrogate first =>
          constructor
          · intro none
            cases none
          · rintro ⟨cs, same⟩
            rcases List.map_eq_cons_iff.mp same.symm with ⟨_, _, -, other, -⟩
            cases other

/-- Behind characters, a run of surrogates up to the next character is the first one. -/
theorem firstRun?_append
    {place : ℕ} {before : List Char} {first : Fin 0x800} {more after : List CodePoint}
    (inside : ∀ point ∈ more, point.isSurrogate = true)
    (behind : ∀ point ∈ after.head?, point.isSurrogate = false) :
    firstRun? place (before.map .char ++ .surrogate first :: (more ++ after)) =
      some { place := place + before.length, first, length := more.length + 1 } := by
  induction before generalizing place with
  | nil =>
      have stopped : after.takeWhile CodePoint.isSurrogate = [] := by
        cases after with
        | nil =>
            rfl
        | cons point rest =>
            rw [List.takeWhile_cons, behind point rfl]
            rfl
      have run : (more ++ after).takeWhile CodePoint.isSurrogate = more := by
        rw [List.takeWhile_append_of_pos inside, stopped, List.append_nil]
      rw [List.map_nil, List.nil_append, firstRun?, run]
      rfl
  | cons c rest induction =>
      rw [List.map_cons, List.cons_append, firstRun?, induction, List.length_cons,
        Nat.add_right_comm, Nat.add_assoc]

/-- What is found is the first run of surrogates, from its first one to the next character. -/
theorem firstRun?_eq_some_iff
    {place : ℕ} {points : List CodePoint} {run : SurrogateRun} :
    firstRun? place points = some run ↔
      ∃ (before : List Char) (more after : List CodePoint),
        points = before.map .char ++ .surrogate run.first :: (more ++ after) ∧
        run.place = place + before.length ∧
        run.length = more.length + 1 ∧
        (∀ point ∈ more, point.isSurrogate = true) ∧
        ∀ point ∈ after.head?, point.isSurrogate = false := by
  constructor
  case mp =>
    intro found
    induction points generalizing place with
    | nil =>
        cases found
    | cons point rest induction =>
        cases point with
        | char c =>
            rcases induction found with ⟨before, more, after, rfl, placed, long, inside, behind⟩
            refine ⟨c :: before, more, after, rfl, ?_, long, inside, behind⟩
            rw [placed, List.length_cons]
            omega
        | surrogate first =>
            cases found
            refine ⟨[], rest.takeWhile CodePoint.isSurrogate, rest.dropWhile CodePoint.isSurrogate,
              ?_, rfl, rfl, fun point => List.mem_takeWhile_imp, fun point next => ?_⟩
            · rw [List.takeWhile_append_dropWhile]
              rfl
            · have stopped := List.head?_dropWhile_not CodePoint.isSurrogate rest
              rw [Option.mem_def.mp next] at stopped
              simpa using stopped
  case mpr =>
    rcases run with ⟨start, first, length⟩
    rintro ⟨before, more, after, rfl, placed, long, inside, behind⟩
    dsimp only at placed long
    rw [firstRun?_append inside behind, placed, long]

theorem ofText_ofList (cs : List Char) :
    ofText (String.ofList cs) = { points := cs.map .char } := by
  rw [ofText, String.toList_ofList]

theorem encodable_iff : key.Encodable ↔ firstRun? 0 key.points = none := by
  rw [firstRun?_eq_none_iff]
  constructor
  · rintro ⟨text, rfl⟩
    exact ⟨text.toList, rfl⟩
  · rintro ⟨cs, same⟩
    refine ⟨String.ofList cs, ?_⟩
    rw [ofText_ofList, ← same]

@[simp]
theorem text_ofText (text : String) : (ofText text).text = text := by
  have chars : (text.toList.map CodePoint.char).filterMap CodePoint.char? = text.toList := by
    rw [List.filterMap_map]
    exact List.filterMap_some
  rw [Key.text, ofText, chars, String.ofList_toList]

@[simp]
theorem utf8_ofText (text : String) : (ofText text).utf8 = .ok text.toUTF8 := by
  have none := encodable_iff.mp (encodable_ofText text)
  rw [utf8, none, text_ofText]

theorem utf8_eq_error_iff {run : SurrogateRun} :
    key.utf8 = .error run ↔ run.FirstIn key.points := by
  have found : firstRun? 0 key.points = some run ↔ run.FirstIn key.points := by
    simp only [firstRun?_eq_some_iff, SurrogateRun.FirstIn, Nat.zero_add]
  rw [← found, utf8]
  cases firstRun? 0 key.points with
  | none =>
      simp
  | some other =>
      simp

theorem exists_utf8_error_iff : (∃ run, key.utf8 = .error run) ↔ ¬ key.Encodable := by
  rw [encodable_iff, utf8]
  cases firstRun? 0 key.points with
  | none =>
      simp
  | some run =>
      simp

/-- The bytes of a key are those of the text that it is. -/
theorem utf8_eq_ok_iff {bytes : ByteArray} :
    key.utf8 = .ok bytes ↔ ∃ text : String, key = text ∧ text.toUTF8 = bytes := by
  constructor
  · intro made
    have encodable : key.Encodable := by
      by_contra unencodable
      rcases exists_utf8_error_iff.mpr unencodable with ⟨run, failed⟩
      rw [failed] at made
      cases made
    rcases encodable with ⟨text, rfl⟩
    rw [utf8_ofText] at made
    exact ⟨text, rfl, Except.ok.inj made⟩
  · rintro ⟨text, rfl, rfl⟩
    exact utf8_ofText text

theorem ofText_inj {text other : String} : ofText text = ofText other ↔ text = other := by
  constructor
  · intro same
    rw [← text_ofText text, same, text_ofText]
  · exact congrArg ofText

end Key

namespace Credentials

/-! ## Single keys -/

/-- Different texts have different bytes, so keys that are texts are compared as such. -/
theorem sameKey_of_encodable
    {expected given : Option Key}
    (wanted : (expected.getD "").Encodable) (found : (given.getD "").Encodable) :
    sameKey expected given = .ok (decide (expected.getD "" = given.getD "")) := by
  rcases wanted with ⟨text, wanted⟩
  rcases found with ⟨other, found⟩
  rw [sameKey, wanted, found, Key.utf8_ofText, Key.utf8_ofText]
  have same : decide (text.toUTF8.data = other.toUTF8.data) =
      decide (Key.ofText text = Key.ofText other) := by
    rw [decide_eq_decide, Key.ofText_inj, ← ByteArray.ext_iff]
    exact String.toByteArray_inj
  exact congrArg Except.ok same

theorem exists_sameKey_error
    {expected given : Option Key}
    (unencodable : ¬ ((expected.getD "").Encodable ∧ (given.getD "").Encodable)) :
    ∃ run, sameKey expected given = .error run := by
  rw [sameKey]
  by_cases wanted : (expected.getD "").Encodable
  case pos =>
    rcases wanted with ⟨text, wanted⟩
    have found : ¬ (given.getD "").Encodable := fun found => unencodable ⟨⟨text, wanted⟩, found⟩
    rcases Key.exists_utf8_error_iff.mpr found with ⟨run, failed⟩
    rw [wanted, Key.utf8_ofText, failed]
    exact ⟨run, rfl⟩
  case neg =>
    rcases Key.exists_utf8_error_iff.mpr wanted with ⟨run, failed⟩
    rw [failed]
    exact ⟨run, rfl⟩

/-! ## Pairs of keys -/

/-- Both keys can be encoded. -/
structure Encodable (keys : Credentials) : Prop where
  publicKey : (keys.publicKey.getD "").Encodable
  secretKey : (keys.secretKey.getD "").Encodable

/-- Both keys are configured. -/
structure Configured (keys : Credentials) : Prop where
  publicKey : keys.publicKey.getD "" ≠ ""
  secretKey : keys.secretKey.getD "" ≠ ""

/-- Both keys are configured, and the given ones equal them; an absent key counts as empty. -/
structure Matches (expected given : Credentials) : Prop where
  hasPublic : expected.publicKey.getD "" ≠ ""
  hasSecret : expected.secretKey.getD "" ≠ ""
  samePublic : given.publicKey.getD "" = expected.publicKey.getD ""
  sameSecret : given.secretKey.getD "" = expected.secretKey.getD ""

variable {expected given : Credentials}

theorem Matches.configured (same : expected.Matches given) : expected.Configured :=
  ⟨same.hasPublic, same.hasSecret⟩

theorem Matches.encodable (same : expected.Matches given) :
    expected.Encodable ↔ given.Encodable := by
  constructor
  · rintro ⟨publicKey, secretKey⟩
    exact ⟨same.samePublic ▸ publicKey, same.sameSecret ▸ secretKey⟩
  · rintro ⟨publicKey, secretKey⟩
    exact ⟨same.samePublic ▸ publicKey, same.sameSecret ▸ secretKey⟩

theorem isConfigured_iff {key : Option Key} :
    isConfigured key = true ↔ key.getD "" ≠ "" := by
  rw [isConfigured]
  rcases key.getD "" with ⟨points⟩
  cases points with
  | nil =>
      exact ⟨fun empty => absurd empty (by decide), fun other => absurd rfl other⟩
  | cons point rest =>
      exact ⟨fun _ => nofun, fun _ => rfl⟩

theorem accept_of_not_configured (missing : ¬ expected.Configured) :
    expected.accept given = .ok false := by
  rw [accept, if_neg]
  · rfl
  · rw [Bool.and_eq_true, isConfigured_iff, isConfigured_iff]
    exact fun configured => missing ⟨configured.1, configured.2⟩

theorem accept_of_configured (configured : expected.Configured) :
    expected.accept given = (do
      let samePublic ← sameKey expected.publicKey given.publicKey
      let sameSecret ← sameKey expected.secretKey given.secretKey
      return samePublic && sameSecret) := by
  rw [accept, if_pos]
  rw [Bool.and_eq_true, isConfigured_iff, isConfigured_iff]
  exact ⟨configured.publicKey, configured.secretKey⟩

/-- Configured keys that are texts accept exactly what matches. -/
theorem accept_of_encodable
    (configured : expected.Configured)
    (wanted : expected.Encodable) (found : given.Encodable) :
    ∃ passes, expected.accept given = .ok passes ∧
      (passes = true ↔ expected.Matches given) := by
  rw [accept_of_configured configured,
    sameKey_of_encodable wanted.publicKey found.publicKey,
    sameKey_of_encodable wanted.secretKey found.secretKey]
  refine ⟨_, rfl, ?_⟩
  rw [Bool.and_eq_true, decide_eq_true_iff, decide_eq_true_iff]
  constructor
  · rintro ⟨samePublic, sameSecret⟩
    exact ⟨configured.publicKey, configured.secretKey, samePublic.symm, sameSecret.symm⟩
  · intro same
    exact ⟨same.samePublic.symm, same.sameSecret.symm⟩

theorem exists_accept_error
    (configured : expected.Configured)
    (unencodable : ¬ (expected.Encodable ∧ given.Encodable)) :
    ∃ run, expected.accept given = .error run := by
  rw [accept_of_configured configured]
  by_cases publicKeys :
      (expected.publicKey.getD "").Encodable ∧ (given.publicKey.getD "").Encodable
  case pos =>
    have secretKeys :
        ¬ ((expected.secretKey.getD "").Encodable ∧ (given.secretKey.getD "").Encodable) :=
      fun secretKeys => unencodable
        ⟨⟨publicKeys.1, secretKeys.1⟩, ⟨publicKeys.2, secretKeys.2⟩⟩
    rcases exists_sameKey_error secretKeys with ⟨run, failed⟩
    rw [sameKey_of_encodable publicKeys.1 publicKeys.2, failed]
    exact ⟨run, rfl⟩
  case neg =>
    rcases exists_sameKey_error publicKeys with ⟨run, failed⟩
    rw [failed]
    exact ⟨run, rfl⟩

/-- What becomes of given keys. -/
theorem accept_cases (expected given : Credentials) :
    (expected.accept given = .ok true ∧ expected.Matches given ∧ expected.Encodable) ∨
    (expected.accept given = .ok false ∧ ¬ expected.Matches given ∧
      (expected.Configured → expected.Encodable ∧ given.Encodable)) ∨
    ((∃ run, expected.accept given = .error run) ∧ expected.Configured ∧
      ¬ (expected.Encodable ∧ given.Encodable)) := by
  by_cases configured : expected.Configured
  case neg =>
    exact .inr (.inl ⟨accept_of_not_configured configured,
      fun same => configured same.configured, fun other => absurd other configured⟩)
  case pos =>
    by_cases encodable : expected.Encodable ∧ given.Encodable
    case neg =>
      exact .inr (.inr ⟨exists_accept_error configured encodable, configured, encodable⟩)
    case pos =>
      rcases accept_of_encodable configured encodable.1 encodable.2 with ⟨passes, made, exact⟩
      cases passes with
      | true =>
          exact .inl ⟨made, exact.mp rfl, encodable.1⟩
      | false =>
          exact .inr (.inl ⟨made, fun same => absurd (exact.mpr same) (by decide),
            fun _ => encodable⟩)

/-- Keys are accepted exactly when they match and can be encoded. -/
theorem accept_eq_ok_true_iff (expected given : Credentials) :
    expected.accept given = .ok true ↔ expected.Matches given ∧ expected.Encodable := by
  rcases accept_cases expected given with
    ⟨made, same, wanted⟩ | ⟨made, differ, -⟩ | ⟨⟨run, made⟩, -, unencodable⟩
  · simp [made, same, wanted]
  · simp [made, differ]
  · rw [made]
    constructor
    · intro accepted
      cases accepted
    · rintro ⟨same, wanted⟩
      exact absurd ⟨wanted, same.encodable.mp wanted⟩ unencodable

/-- The comparison fails exactly when both keys are configured and not all four can be encoded. -/
theorem exists_accept_error_iff (expected given : Credentials) :
    (∃ run, expected.accept given = .error run) ↔
      expected.Configured ∧ ¬ (expected.Encodable ∧ given.Encodable) := by
  constructor
  · rintro ⟨run, failed⟩
    rcases accept_cases expected given with ⟨made, -⟩ | ⟨made, -⟩ | ⟨-, failing⟩
    · rw [made] at failed
      cases failed
    · rw [made] at failed
      cases failed
    · exact failing
  · rintro ⟨configured, unencodable⟩
    exact exists_accept_error configured unencodable

end Credentials

end TableSource
