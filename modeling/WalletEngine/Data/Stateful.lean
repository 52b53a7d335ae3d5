import Mathlib.Logic.Basic

/-! # Calls on a mutable state

A call returns or fails, and either way leaves a state behind. What a failed call has
changed before it failed stays changed, so that it changes nothing is a property to prove:
the rules below derive it from the order of reads, failures and writes. -/

namespace WalletEngine

namespace Call

variable {ε δ σ τ α β : Type}

/-- The value of a computation without state, or its failure under another name. -/
def check (error : δ → ε) (result : Except δ α) : EStateM ε σ α :=
  match result with
  | .ok value => pure value
  | .error reason => throw (error reason)

/-- The value that must be there. -/
def require (error : ε) (value : Option α) : EStateM ε σ α :=
  match value with
  | some value => pure value
  | none => throw error

/-- Fail unless a condition holds. -/
def ensure (error : ε) (condition : Prop) [Decidable condition] : EStateM ε σ Unit :=
  if condition then pure () else throw error

/-- A call on one part of the state. -/
def within (part : σ → τ) (replace : τ → σ → σ) (error : δ → ε) (call : EStateM δ τ α) :
    EStateM ε σ α := fun state =>
  match call.run (part state) with
  | .ok value inner => .ok value (replace inner state)
  | .error reason inner => .error (error reason) (replace inner state)

section Runs

variable {call : EStateM ε σ α} {next : α → EStateM ε σ β} {before after : σ}
variable {value : β} {error : ε}

theorem bind_returns :
    (call >>= next).run before = .ok value after ↔
      ∃ middle between, call.run before = .ok middle between ∧
        (next middle).run between = .ok value after := by
  change (match call.run before with
    | .ok middle between => (next middle).run between
    | .error error between => .error error between) = _ ↔ _
  cases call.run before with
  | ok middle between =>
    constructor
    · exact fun rest => ⟨middle, between, rfl, rest⟩
    · rintro ⟨_, _, ⟨⟩, rest⟩
      exact rest
  | error reason between => simp

theorem bind_fails :
    (call >>= next).run before = .error error after ↔
      call.run before = .error error after ∨
        ∃ middle between, call.run before = .ok middle between ∧
          (next middle).run between = .error error after := by
  change (match call.run before with
    | .ok middle between => (next middle).run between
    | .error error between => .error error between) = _ ↔ _
  cases call.run before with
  | ok middle between =>
    constructor
    · exact fun rest => .inr ⟨middle, between, rfl, rest⟩
    · rintro (⟨⟨⟩⟩ | ⟨_, _, ⟨⟩, rest⟩)
      exact rest
  | error reason between => simp

@[simp] theorem check_returns {error : δ → ε} {result : Except δ α} {value : α} :
    (check error result).run before = .ok value after ↔ result = .ok value ∧ after = before := by
  cases result with
  | ok found =>
    change EStateM.Result.ok found before = _ ↔ _
    simp [eq_comm]
  | error reason =>
    change EStateM.Result.error (error reason) before = _ ↔ _
    simp

@[simp] theorem require_returns {found : Option α} {value : α} :
    (require error found).run before = .ok value after ↔ found = some value ∧ after = before := by
  cases found with
  | some found =>
    change EStateM.Result.ok found before = _ ↔ _
    simp [eq_comm]
  | none =>
    change EStateM.Result.error error before = _ ↔ _
    simp

@[simp] theorem ensure_returns {condition : Prop} [Decidable condition] {value : Unit} :
    (ensure error condition).run before = .ok value after ↔ condition ∧ after = before := by
  by_cases holds : condition
  · rw [ensure, if_pos holds]
    change EStateM.Result.ok () before = _ ↔ _
    simp [holds, eq_comm]
  · rw [ensure, if_neg holds]
    change EStateM.Result.error error before = _ ↔ _
    simp [holds]

@[simp] theorem get_returns {value : σ} :
    (get : EStateM ε σ σ).run before = .ok value after ↔ value = before ∧ after = before := by
  change EStateM.Result.ok before before = _ ↔ _
  simp [eq_comm]

@[simp] theorem pure_returns {found value : α} :
    (pure found : EStateM ε σ α).run before = .ok value after ↔ value = found ∧ after = before := by
  change EStateM.Result.ok found before = _ ↔ _
  simp [eq_comm]

/-! What comes after a step, by the step. -/

theorem get_bind_returns {next : σ → EStateM ε σ β} :
    (get >>= next).run before = .ok value after ↔ (next before).run before = .ok value after :=
  Iff.rfl

theorem modify_bind_returns {change : σ → σ} {next : PUnit → EStateM ε σ β} :
    (modify change >>= next).run before = .ok value after ↔
      (next ⟨⟩).run (change before) = .ok value after :=
  Iff.rfl

theorem check_bind_returns {error : δ → ε} {result : Except δ α} :
    (check error result >>= next).run before = .ok value after ↔
      ∃ found, result = .ok found ∧ (next found).run before = .ok value after := by
  rw [bind_returns]
  constructor
  · rintro ⟨found, between, checked, rest⟩
    obtain ⟨ok, rfl⟩ := check_returns.mp checked
    exact ⟨found, ok, rest⟩
  · rintro ⟨found, ok, rest⟩
    exact ⟨found, before, check_returns.mpr ⟨ok, rfl⟩, rest⟩

theorem require_bind_returns {found : Option α} :
    (require error found >>= next).run before = .ok value after ↔
      ∃ present, found = some present ∧ (next present).run before = .ok value after := by
  rw [bind_returns]
  constructor
  · rintro ⟨present, between, required, rest⟩
    obtain ⟨there, rfl⟩ := require_returns.mp required
    exact ⟨present, there, rest⟩
  · rintro ⟨present, there, rest⟩
    exact ⟨present, before, require_returns.mpr ⟨there, rfl⟩, rest⟩

theorem ensure_bind_returns {condition : Prop} [Decidable condition] {next : Unit → EStateM ε σ β} :
    (ensure error condition >>= next).run before = .ok value after ↔
      condition ∧ (next ()).run before = .ok value after := by
  rw [bind_returns]
  constructor
  · rintro ⟨_, between, ensured, rest⟩
    obtain ⟨holds, rfl⟩ := ensure_returns.mp ensured
    exact ⟨holds, rest⟩
  · rintro ⟨holds, rest⟩
    exact ⟨(), before, ensure_returns.mpr ⟨holds, rfl⟩, rest⟩

end Runs

/-- The call changes nothing, whether it returns or fails. -/
structure ReadOnly (call : EStateM ε σ α) : Prop where
  returns : ∀ {before value after}, call.run before = .ok value after → after = before
  fails : ∀ {before error after}, call.run before = .error error after → after = before

/-- The call changes nothing when it fails. -/
def Atomic (call : EStateM ε σ α) : Prop :=
  ∀ before error after, call.run before = .error error after → after = before

/-- The call returns from every state. -/
def Infallible (call : EStateM ε σ α) : Prop :=
  ∀ before error after, call.run before ≠ .error error after

section Atomic

variable {call : EStateM ε σ α} {next : α → EStateM ε σ β}

theorem readOnly_pure (value : α) : ReadOnly (pure value : EStateM ε σ α) := by
  constructor
  · intro before found after ran
    exact (pure_returns.mp ran).2
  · rintro before error after ⟨⟩

theorem readOnly_get : ReadOnly (get : EStateM ε σ σ) := by
  constructor
  · intro before found after ran
    exact (get_returns.mp ran).2
  · rintro before error after ⟨⟩

theorem readOnly_throw (error : ε) : ReadOnly (throw error : EStateM ε σ α) := by
  constructor
  · rintro before found after ⟨⟩
  · rintro before reason after ⟨⟩
    rfl

theorem readOnly_check (error : δ → ε) (result : Except δ α) :
    ReadOnly (check error result : EStateM ε σ α) := by
  cases result with
  | ok value => exact readOnly_pure value
  | error reason => exact readOnly_throw (error reason)

theorem readOnly_ensure (error : ε) (condition : Prop) [Decidable condition] :
    ReadOnly (ensure error condition : EStateM ε σ Unit) := by
  unfold ensure
  split
  · exact readOnly_pure ()
  · exact readOnly_throw error

theorem readOnly_require (error : ε) (value : Option α) :
    ReadOnly (require error value : EStateM ε σ α) := by
  cases value with
  | some value => exact readOnly_pure value
  | none => exact readOnly_throw error

theorem ReadOnly.bind (first : ReadOnly call) (second : ∀ value, ReadOnly (next value)) :
    ReadOnly (call >>= next) := by
  constructor
  · intro before value after ran
    obtain ⟨middle, between, early, late⟩ := bind_returns.mp ran
    rw [(second middle).returns late, first.returns early]
  · intro before error after ran
    rcases bind_fails.mp ran with early | ⟨middle, between, early, late⟩
    · exact first.fails early
    · rw [(second middle).fails late, first.returns early]

theorem ReadOnly.atomic (readOnly : ReadOnly call) : Atomic call :=
  fun _ _ _ => readOnly.fails

/-- What only reads may come before. -/
theorem ReadOnly.bind_atomic (first : ReadOnly call) (second : ∀ value, Atomic (next value)) :
    Atomic (call >>= next) := by
  intro before error after ran
  rcases bind_fails.mp ran with early | ⟨middle, between, early, late⟩
  · exact first.fails early
  · rw [second middle _ _ _ late, first.returns early]

/-- What cannot fail may come afterwards. -/
theorem Atomic.bind_infallible (first : Atomic call) (second : ∀ value, Infallible (next value)) :
    Atomic (call >>= next) := by
  intro before error after ran
  rcases bind_fails.mp ran with early | ⟨middle, between, -, late⟩
  · exact first _ _ _ early
  · exact absurd late (second middle _ _ _)

theorem infallible_pure (value : α) : Infallible (pure value : EStateM ε σ α) := by
  rintro before error after ⟨⟩

theorem infallible_modify (change : σ → σ) : Infallible (modify change : EStateM ε σ PUnit) := by
  rintro before error after ⟨⟩

theorem Infallible.bind (first : Infallible call) (second : ∀ value, Infallible (next value)) :
    Infallible (call >>= next) := by
  intro before error after ran
  rcases bind_fails.mp ran with early | ⟨middle, between, -, late⟩
  · exact first _ _ _ early
  · exact second middle _ _ _ late

end Atomic

section Related

variable {related : σ → σ → Prop} {call : EStateM ε σ α} {next : α → EStateM ε σ β}

/-- However the call ends, it leaves a state that is related to the one before. -/
structure Relates (related : σ → σ → Prop) (call : EStateM ε σ α) : Prop where
  returns : ∀ {before value after}, call.run before = .ok value after → related before after
  fails : ∀ {before error after}, call.run before = .error error after → related before after

theorem Relates.bind (trans : ∀ {first second third}, related first second →
      related second third → related first third)
    (first : Relates related call) (second : ∀ value, Relates related (next value)) :
    Relates related (call >>= next) := by
  constructor
  · intro before value after ran
    obtain ⟨middle, between, early, late⟩ := bind_returns.mp ran
    exact trans (first.returns early) ((second middle).returns late)
  · intro before error after ran
    rcases bind_fails.mp ran with early | ⟨middle, between, early, late⟩
    · exact first.fails early
    · exact trans (first.returns early) ((second middle).fails late)

end Related

section Recorded

variable {γ : Type}

/-- What a call adds to a record: something about its value, nothing when it fails. -/
def record (entries : α → List γ) : EStateM.Result ε σ α → List γ × σ
  | .ok value after => (entries value, after)
  | .error _ after => ([], after)

theorem record_eq {entries : α → List γ} {result : EStateM.Result ε σ α} {more : List γ} {after : σ}
    (recorded : record entries result = (more, after)) :
    (∃ value, result = .ok value after ∧ more = entries value) ∨
      ∃ error, result = .error error after ∧ more = [] := by
  cases result with
  | ok value state =>
    cases recorded
    exact .inl ⟨value, rfl, rfl⟩
  | error error state =>
    cases recorded
    exact .inr ⟨error, rfl, rfl⟩

end Recorded

end Call

end WalletEngine
