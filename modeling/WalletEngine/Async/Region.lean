import WalletEngine.Async.Basic
import WalletEngine.Data.Except

/-! # Evaluation of regions

A region is a function from a state to an outcome and a new state. The lemmas
below evaluate its monadic operations, so that proofs about a region never
unfold the transformer stack. -/

namespace WalletEngine.Region

variable {State ε α β : Type}
variable {region : Region State ε α} {next : α → Region State ε β} {state after : State} {value : α}
  {error : ε} {post : Except ε α → State → Prop}

@[simp] theorem pure_apply (value : α) (state : State) :
    (pure value : Region State ε α) state = (.ok value, state) := rfl

@[simp] theorem throw_apply (error : ε) (state : State) :
    (throw error : Region State ε α) state = (.error error, state) := rfl

@[simp] theorem get_apply (state : State) :
    (get : Region State ε State) state = (.ok state, state) := rfl

@[simp] theorem set_apply (next state : State) :
    (set next : Region State ε PUnit) state = (.ok ⟨⟩, next) := rfl

@[simp] theorem modify_apply (change : State → State) (state : State) :
    (modify change : Region State ε PUnit) state = (.ok ⟨⟩, change state) := rfl

@[simp] theorem lift_apply (result : Except ε α) (state : State) :
    (liftM result : Region State ε α) state = (result, state) := rfl

@[simp] theorem ite_apply (condition : Prop) [Decidable condition] (left right : Region State ε α)
    (state : State) :
    (if condition then left else right) state =
      if condition then left state else right state := by
  split <;> rfl

theorem bind_apply (region : Region State ε α) (next : α → Region State ε β) (state : State) :
    (region >>= next) state =
      match region state with
      | (.ok value, after) => next value after
      | (.error error, after) => (.error error, after) := by
  change (match region state with
    | (result, after) => ExceptT.bindCont next result after) = _
  rcases region state with ⟨_ | _, after⟩ <;> rfl

theorem bind_of_ok (ran : region state = (.ok value, after)) :
    (region >>= next) state = next value after := by
  rw [bind_apply, ran]

theorem bind_of_error (ran : region state = (.error error, after)) :
    (region >>= next) state = (.error error, after) := by
  rw [bind_apply, ran]

theorem bind_eq_ok {value : β} :
    (region >>= next) state = (.ok value, after) ↔
      ∃ middle between, region state = (.ok middle, between) ∧
        next middle between = (.ok value, after) := by
  rw [bind_apply]
  rcases region state with ⟨_ | middle, between⟩
  · constructor
    · intro impossible
      cases impossible
    · rintro ⟨_, _, impossible, _⟩
      cases impossible
  · constructor
    · exact fun ran => ⟨middle, between, rfl, ran⟩
    · rintro ⟨_, _, same, ran⟩
      cases same
      exact ran

@[simp] theorem get_bind (next : State → Region State ε β) (state : State) :
    (get >>= next) state = next state state := rfl

@[simp] theorem set_bind (first state : State) (next : PUnit → Region State ε β) :
    (set first >>= next) state = next ⟨⟩ first := rfl

@[simp] theorem modify_bind (change : State → State) (next : PUnit → Region State ε β)
    (state : State) : (modify change >>= next) state = next ⟨⟩ (change state) := rfl

/-- A guard that throws lets the region go on only if it does not hold. -/
theorem guard_eq_ok {condition : Prop} [Decidable condition] {rest : Region State ε α} :
    (if condition then throw error else rest) state = (.ok value, after) ↔
      ¬ condition ∧ rest state = (.ok value, after) := by
  by_cases holds : condition
  · rw [if_pos holds]
    exact ⟨nofun, fun both => absurd holds both.1⟩
  · simp [holds]

theorem lift_eq_ok {result : Except ε α} :
    (liftM result : Region State ε α) state = (.ok value, after) ↔
      result = .ok value ∧ state = after := by
  rw [lift_apply, Prod.mk.injEq]

theorem map_apply (change : α → β) (region : Region State ε α) (state : State) :
    (change <$> region) state = ((region state).1.map change, (region state).2) := by
  rw [map_eq_pure_bind, bind_apply]
  rcases region state with ⟨_ | _, after⟩ <;> rfl

@[simp] theorem bind_pure_state (region : Region State ε α) (result : α → β) (state : State) :
    ((region >>= fun value => pure (result value)) state).2 = (region state).2 := by
  rw [bind_apply]
  rcases region state with ⟨_ | _, after⟩ <;> rfl

/-- How a region ends, as a condition on its outcome and on the state it leaves. -/
def Ends (region : Region State ε α) (state : State) (post : Except ε α → State → Prop) : Prop :=
  post (region state).1 (region state).2

theorem Ends.mono {weaker : Except ε α → State → Prop} (ends : Ends region state post)
    (implies : ∀ result after, post result after → weaker result after) :
    Ends region state weaker :=
  implies _ _ ends

theorem ends_bind {post : Except ε β → State → Prop} (first : Ends region state fun result after =>
      match result with
      | .ok value => Ends (next value) after post
      | .error error => post (.error error) after) : Ends (region >>= next) state post := by
  unfold Ends at first ⊢
  rw [bind_apply]
  rcases ran : region state with ⟨_ | _, after⟩ <;> simpa only [ran] using first

theorem ends_get {next : State → Region State ε α} (rest : Ends (next state) state post) :
    Ends (get >>= next) state post := rest

theorem ends_set {next : PUnit → Region State ε α} {first : State}
    (rest : Ends (next ⟨⟩) first post) : Ends (set first >>= next) state post := rest

theorem ends_modify {change : State → State} {next : PUnit → Region State ε α}
    (rest : Ends (next ⟨⟩) (change state) post) : Ends (modify change >>= next) state post := rest

theorem ends_ite {condition : Prop} [Decidable condition] {left right : Region State ε α}
    (holds : condition → Ends left state post) (fails : ¬ condition → Ends right state post) :
    Ends (if condition then left else right) state post := by
  split
  · exact holds ‹_›
  · exact fails ‹_›

/-- A guard that throws. -/
theorem ends_guard {condition : Prop} [Decidable condition] {rest : Region State ε α}
    (fails : condition → post (.error error) state) (goesOn : ¬ condition → Ends rest state post) :
    Ends (if condition then throw error else rest) state post :=
  ends_ite fails goesOn

end WalletEngine.Region
