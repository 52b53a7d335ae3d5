import Mathlib.Data.List.Forall2

/-! # Fallible computations

When a computation that may fail succeeds, step by step. -/

namespace WalletEngine

variable {ε δ α β : Type}
variable {value : α} {result : Except ε α} {read : α → Except ε β} {items : List α}
  {values : List β}

theorem except_ok_bind (value : α) (next : α → Except ε β) :
    (Except.ok value >>= next) = next value := rfl

/-- A sequence of fallible steps succeeds when each of them does. -/
theorem except_bind_eq_ok {first : Except ε α} {next : α → Except ε β} {value : β} :
    (first >>= next) = .ok value ↔ ∃ middle, first = .ok middle ∧ next middle = .ok value := by
  cases first with
  | error error =>
    constructor
    · intro impossible
      cases impossible
    · rintro ⟨_, impossible, _⟩
      cases impossible
  | ok middle =>
    constructor
    · exact fun ran => ⟨middle, rfl, ran⟩
    · rintro ⟨_, same, ran⟩
      cases same
      exact ran

theorem except_map_eq_ok {change : α → β} {value : β} :
    result.map change = .ok value ↔ ∃ found, result = .ok found ∧ change found = value := by
  cases result with
  | error error => simp [Except.map]
  | ok found => simp [Except.map]

theorem except_toOption_eq_some : result.toOption = some value ↔ result = .ok value := by
  cases result <;> simp [Except.toOption]

/-- A traversal succeeds when it does at every element. -/
theorem except_mapM_eq_ok :
    items.mapM read = .ok values ↔
      List.Forall₂ (fun item value => read item = .ok value) items values := by
  induction items generalizing values with
  | nil =>
    simp only [List.mapM_nil, List.forall₂_nil_left_iff]
    constructor
    · intro same
      exact (Except.ok.inj same).symm
    · rintro rfl
      rfl
  | cons item items ih =>
    rw [List.mapM_cons, except_bind_eq_ok, List.forall₂_cons_left_iff]
    constructor
    · rintro ⟨value, found, rest⟩
      obtain ⟨others, read, same⟩ := except_bind_eq_ok.mp rest
      cases same
      exact ⟨value, others, found, ih.mp read, rfl⟩
    · rintro ⟨value, others, found, read, rfl⟩
      exact ⟨value, found, except_bind_eq_ok.mpr ⟨others, ih.mpr read, rfl⟩⟩

/-- Every element of a traversal was read. -/
theorem exists_of_mapM_mem (ran : items.mapM read = .ok values) {item : α} (member : item ∈ items) :
    ∃ value ∈ values, read item = .ok value := by
  have related := except_mapM_eq_ok.mp ran
  induction related with
  | nil => cases member
  | cons found _ ih =>
    rcases List.mem_cons.mp member with rfl | later
    · exact ⟨_, List.mem_cons_self, found⟩
    · obtain ⟨value, listed, read⟩ := ih (except_mapM_eq_ok.mpr ‹_›) later
      exact ⟨value, List.mem_cons_of_mem _ listed, read⟩

theorem exists_except_mapM_iff :
    (∃ values, items.mapM read = .ok values) ↔ ∀ item ∈ items, ∃ value, read item = .ok value := by
  constructor
  · rintro ⟨values, ran⟩ item member
    obtain ⟨value, -, read⟩ := exists_of_mapM_mem ran member
    exact ⟨value, read⟩
  · intro reads
    induction items with
    | nil => exact ⟨[], rfl⟩
    | cons item items ih =>
      obtain ⟨value, read⟩ := reads item List.mem_cons_self
      obtain ⟨values, ran⟩ := ih fun other member => reads other (List.mem_cons_of_mem _ member)
      rw [List.mapM_cons]
      exact ⟨value :: values,
        except_bind_eq_ok.mpr ⟨value, read, except_bind_eq_ok.mpr ⟨values, ran, rfl⟩⟩⟩

/-- A traversal by a reader whose results are known. -/
theorem except_mapM_eq_ok_iff {accepts : α → Prop} {value : α → β}
    (reads : ∀ item ∈ items, ∀ found, read item = .ok found ↔ accepts item ∧ found = value item) :
    items.mapM read = .ok values ↔ (∀ item ∈ items, accepts item) ∧ values = items.map value := by
  rw [except_mapM_eq_ok]
  constructor
  · intro related
    induction related with
    | nil => exact ⟨nofun, rfl⟩
    | cons found _ ih =>
      obtain ⟨accepted, rfl⟩ := (reads _ List.mem_cons_self _).mp found
      obtain ⟨others, rfl⟩ := ih fun item member => reads item (List.mem_cons_of_mem _ member)
      exact ⟨List.forall_mem_cons.mpr ⟨accepted, others⟩, rfl⟩
  · rintro ⟨accepted, rfl⟩
    rw [List.forall₂_map_right_iff]
    exact List.forall₂_same.mpr fun item member =>
      (reads item member _).mpr ⟨accepted item member, rfl⟩

/-- Reading back a written list. -/
theorem except_mapM_map_eq_ok {γ : Type} {write : γ → α} {value : γ → β} {items : List γ}
    (reads : ∀ item ∈ items, read (write item) = .ok (value item)) :
    (items.map write).mapM read = .ok (items.map value) := by
  rw [except_mapM_eq_ok, List.forall₂_map_left_iff, List.forall₂_map_right_iff]
  exact List.forall₂_same.mpr reads

/-- An absent value that counts as a failure. -/
theorem option_elim_eq_ok {found : Option α} {error : ε}
    (ok : found.elim (.error error) .ok = Except.ok value) : found = some value := by
  cases found with
  | none => cases ok
  | some found => rw [Except.ok.inj ok]

theorem except_mapError_eq_ok {change : ε → δ} :
    result.mapError change = .ok value ↔ result = .ok value := by
  cases result <;> simp [Except.mapError]

/-- A guard that throws lets the computation go on only if it does not hold. -/
theorem except_guard_eq_ok {condition : Prop} [Decidable condition] {error : ε}
    {rest : Except ε α} :
    (if condition then throw error else rest) = .ok value ↔ ¬ condition ∧ rest = .ok value := by
  by_cases holds : condition
  · simp [holds, throw, throwThe, MonadExceptOf.throw]
  · simp [holds]

end WalletEngine
