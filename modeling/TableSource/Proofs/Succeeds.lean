import Mathlib.Data.List.Forall2

/-!
# Steps that succeed

Results of several steps are opened from the outside: a chain of steps succeeds exactly when each
step succeeds on what the one before it gave, and it fails as the first of its steps that fails.
-/

namespace TableSource

variable {ε α β : Type}

@[simp]
theorem bind_eq_ok_iff
    {first : Except ε α} {next : α → Except ε β} {result : β} :
    (first >>= next) = .ok result ↔
      ∃ value, first = .ok value ∧ next value = .ok result := by
  cases first with
  | error failure =>
      simp [bind, Except.bind]
  | ok value =>
      simp [bind, Except.bind]

@[simp]
theorem map_eq_ok_iff
    {first : Except ε α} {f : α → β} {result : β} :
    first.map f = .ok result ↔ ∃ value, first = .ok value ∧ f value = result := by
  cases first with
  | error failure =>
      simp [Except.map]
  | ok value =>
      simp [Except.map]

@[simp]
theorem pure_eq_ok_iff
    {value result : α} :
    (pure value : Except ε α) = .ok result ↔ value = result := by
  simp [pure, Except.pure]

/-- A chain succeeds when its first step does, and the next on whatever the first gives. -/
theorem exists_ok_of_bind
    {first : Except ε α} {next : α → Except ε β}
    (begun : ∃ value, first = .ok value) (continued : ∀ value, ∃ result, next value = .ok result) :
    ∃ result, (first >>= next) = .ok result := by
  rcases begun with ⟨value, made⟩
  rw [made]
  exact continued value

/-- Steps for each value of a list succeed together when each of them does. -/
theorem exists_ok_of_mapM
    {f : α → Except ε β} {values : List α}
    (each : ∀ value ∈ values, ∃ result, f value = .ok result) :
    ∃ results, values.mapM f = .ok results := by
  induction values with
  | nil =>
      exact ⟨[], rfl⟩
  | cons value rest induction =>
      rw [List.forall_mem_cons] at each
      rcases each.1 with ⟨first, made⟩
      rcases induction each.2 with ⟨others, madeOthers⟩
      refine ⟨first :: others, ?_⟩
      rw [List.mapM_cons, made, madeOthers]
      rfl

/-- Steps for each value of a list succeed together with one result for each value. -/
theorem mapM_eq_ok_iff
    {f : α → Except ε β} {values : List α} {results : List β} :
    values.mapM f = .ok results ↔
      List.Forall₂ (fun value result => f value = .ok result) values results := by
  induction values generalizing results with
  | nil =>
      rw [List.mapM_nil, pure_eq_ok_iff, List.forall₂_nil_left_iff, eq_comm]
  | cons value rest induction =>
      simp only [List.mapM_cons, bind_eq_ok_iff, pure_eq_ok_iff, induction,
        List.forall₂_cons_left_iff]
      constructor
      · rintro ⟨first, made, others, each, rfl⟩
        exact ⟨first, others, made, each, rfl⟩
      · rintro ⟨first, others, made, each, rfl⟩
        exact ⟨first, made, others, each, rfl⟩

/-- Where steps succeed together, the step for each of the values does. -/
theorem exists_ok_of_mem
    {f : α → Except ε β} {values : List α} {results : List β} {value : α}
    (made : values.mapM f = .ok results) (member : value ∈ values) :
    ∃ result, f value = .ok result := by
  induction mapM_eq_ok_iff.mp made with
  | nil =>
      cases member
  | cons first later induction =>
      rcases List.mem_cons.mp member with rfl | present
      · exact ⟨_, first⟩
      · exact induction (mapM_eq_ok_iff.mpr later) present

/-- Where steps succeed together, each result is that of the step for one of the values. -/
theorem exists_of_mem_results
    {f : α → Except ε β} {values : List α} {results : List β} {result : β}
    (made : values.mapM f = .ok results) (member : result ∈ results) :
    ∃ value ∈ values, f value = .ok result := by
  induction mapM_eq_ok_iff.mp made with
  | nil =>
      cases member
  | cons first later induction =>
      rcases List.mem_cons.mp member with rfl | present
      · exact ⟨_, List.mem_cons_self, first⟩
      · rcases induction (mapM_eq_ok_iff.mpr later) present with ⟨value, inside, given⟩
        exact ⟨value, List.mem_cons_of_mem _ inside, given⟩

/-- A chain that gives something only where its first step does. -/
theorem exists_some_of_bind
    {first : Except ε (Option α)} {next : Option α → Except ε (Option β)} {result : β}
    (chain : (first >>= next) = .ok (some result))
    (absent : next none ≠ .ok (some result)) :
    ∃ value, first = .ok (some value) ∧ next (some value) = .ok (some result) := by
  rcases bind_eq_ok_iff.mp chain with ⟨found, made, same⟩
  cases found with
  | none =>
      exact absurd same absent
  | some value =>
      exact ⟨value, made, same⟩

theorem mapM_cons_eq_some_iff
    {f : α → Option β} {value : α} {rest : List α} {results : List β} :
    (value :: rest).mapM f = some results ↔
      ∃ first others, f value = some first ∧ rest.mapM f = some others ∧
        first :: others = results := by
  simp [List.mapM_cons, Option.bind_eq_some_iff]

theorem pure_none_ne_some
    {result : β} :
    (pure none : Except ε (Option β)) ≠ .ok (some result) := by
  intro same
  cases same

/-! ## Failures -/

theorem bind_eq_error_iff
    {first : Except ε α} {next : α → Except ε β} {failure : ε} :
    (first >>= next) = .error failure ↔
      first = .error failure ∨ ∃ value, first = .ok value ∧ next value = .error failure := by
  cases first with
  | error other =>
      simp [bind, Except.bind]
  | ok value =>
      simp [bind, Except.bind]

theorem map_eq_error_iff
    {first : Except ε α} {f : α → β} {failure : ε} :
    first.map f = .error failure ↔ first = .error failure := by
  cases first with
  | error other =>
      simp [Except.map]
  | ok value =>
      simp [Except.map]

/-- A chain whose later steps never fail can only fail as its first step. -/
theorem error_of_bind_ok
    {first : Except ε α} {next : α → Except ε β} {failure : ε}
    (chain : (first >>= next) = .error failure)
    (harmless : ∀ value, ∃ result, next value = .ok result) :
    first = .error failure := by
  rcases bind_eq_error_iff.mp chain with failed | ⟨value, -, failed⟩
  · exact failed
  · rcases harmless value with ⟨result, made⟩
    rw [made] at failed
    cases failed

/-- Steps for the values of a list fail as one of them does. -/
theorem exists_error_of_mapM
    {f : α → Except ε β} {values : List α} {failure : ε}
    (failed : values.mapM f = .error failure) :
    ∃ value ∈ values, f value = .error failure := by
  induction values with
  | nil =>
      cases failed
  | cons value rest induction =>
      rw [List.mapM_cons] at failed
      rcases bind_eq_error_iff.mp failed with here | ⟨first, -, later⟩
      · exact ⟨value, List.mem_cons_self, here⟩
      · rcases induction (error_of_bind_ok later fun others => ⟨_, rfl⟩) with
          ⟨other, member, failedOther⟩
        exact ⟨other, List.mem_cons_of_mem _ member, failedOther⟩

end TableSource
