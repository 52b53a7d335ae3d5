import Mathlib.Data.List.Basic

/-! # Heights in a graph whose edges point forward

The nodes are numbered, and every edge leads to a larger number. Then one pass over the nodes
in their order finds for each the length of the longest walk that leads to it. -/

namespace WalletEngine

/-- A walk along edges, by its length. -/
inductive Walk (children : List (List Nat)) : Nat → Nat → Nat → Prop
  | nil (node : Nat) : Walk children 0 node node
  | snoc {length first last next : Nat} {targets : List Nat} :
      Walk children length first last → children[last]? = some targets → next ∈ targets →
        Walk children (length + 1) first next

/-- Every edge leads to a later node. -/
def Forward (children : List (List Nat)) : Prop :=
  ∀ node targets, children[node]? = some targets →
    ∀ next ∈ targets, node < next ∧ next < children.length

/-- The targets of a node are at least as high as the given height. -/
def raise (height : Nat) (targets : List Nat) (heights : List Nat) : List Nat :=
  targets.foldl (fun heights target => heights.modify target (max · height)) heights

/-- Pass over the nodes from a given one on; no node may be higher than the bound. -/
def passHeights (bound : Nat) : List (List Nat) → Nat → List Nat → Option (List Nat)
  | [], _, heights => some heights
  | targets :: later, node, heights =>
    heights[node]?.bind fun height =>
      if targets ≠ [] ∧ bound < height + 1 then none
      else passHeights bound later (node + 1) (raise (height + 1) targets heights)

theorem passHeights_cons_isSome {bound node : Nat} {targets heights : List Nat}
    {later : List (List Nat)} :
    (passHeights bound (targets :: later) node heights).isSome = true ↔
      ∃ height, heights[node]? = some height ∧ (targets ≠ [] → height + 1 ≤ bound) ∧
        (passHeights bound later (node + 1) (raise (height + 1) targets heights)).isSome = true := by
  rw [passHeights]
  cases heights[node]? with
  | none => simp
  | some height =>
    rw [Option.bind_some]
    by_cases high : targets ≠ [] ∧ bound < height + 1
    · rw [if_pos high]
      constructor
      · exact fun absent => absurd absent (by simp)
      · rintro ⟨_, ⟨⟩, low, -⟩
        exact absurd (low high.1) (Nat.not_le.mpr high.2)
    · rw [if_neg high]
      have low : targets ≠ [] → height + 1 ≤ bound := fun some =>
        Nat.not_lt.mp fun beyond => high ⟨some, beyond⟩
      constructor
      · exact fun passed => ⟨height, rfl, low, passed⟩
      · rintro ⟨_, ⟨⟩, -, passed⟩
        exact passed

section Raise

variable {height : Nat} {targets heights : List Nat}

@[simp] theorem length_raise : (raise height targets heights).length = heights.length := by
  induction targets generalizing heights with
  | nil => rfl
  | cons target targets ih => exact (ih).trans (List.length_modify _ _ _)

/-- Targets are raised, and everything else stays. -/
theorem getElem?_raise (node : Nat) :
    (raise height targets heights)[node]? =
      heights[node]?.map fun old => if node ∈ targets then max old height else old := by
  induction targets generalizing heights with
  | nil => simp [raise]
  | cons target targets ih =>
    have step : raise height (target :: targets) heights =
        raise height targets (heights.modify target (max · height)) := rfl
    rw [step, ih, List.getElem?_modify]
    cases heights[node]? with
    | none => rfl
    | some old =>
      by_cases here : target = node
      · subst here
        by_cases there : target ∈ targets <;> simp [there]
      · have other : node ≠ target := Ne.symm here
        by_cases there : node ∈ targets <;> simp [here, there, other]

end Raise

section Pass

variable {children : List (List Nat)} {bound : Nat}

/-- What the heights say once the nodes before a given one are passed: they bound every walk
that ends with an edge of such a node, and there is a walk of each height. -/
structure Measures (children : List (List Nat)) (bound node : Nat) (heights : List Nat) : Prop where
  length_eq : heights.length = children.length
  bounded : ∀ height ∈ heights, height ≤ bound
  above : ∀ {length first last next targets height}, Walk children length first last → last < node →
    children[last]? = some targets → next ∈ targets → heights[next]? = some height →
      length + 1 ≤ height
  attained : ∀ {last height}, heights[last]? = some height →
    ∃ first, Walk children height first last

theorem measures_zero :
    Measures children bound 0 (List.replicate children.length 0) where
  length_eq := List.length_replicate
  bounded height member := by
    rw [(List.mem_replicate.mp member).2]
    exact Nat.zero_le _
  above _ before := absurd before (Nat.not_lt_zero _)
  attained {last height} found := by
    have zero : height = 0 := by
      obtain ⟨_, rfl⟩ := List.getElem?_eq_some_iff.mp found
      exact List.getElem_replicate _
    rw [zero]
    exact ⟨last, .nil last⟩

/-- A walk to the next node ends with an edge of an earlier one, so its length is known. -/
theorem Measures.le_height {node height length first : Nat} {heights : List Nat}
    (measures : Measures children bound node heights) (forward : Forward children)
    (found : heights[node]? = some height) (walk : Walk children length first node) :
    length ≤ height := by
  cases walk with
  | nil => exact Nat.zero_le _
  | snoc walk edges member =>
    exact measures.above walk (forward _ _ edges _ member).1 edges member found

theorem Measures.raise {node height : Nat} {targets heights : List Nat}
    (measures : Measures children bound node heights) (forward : Forward children)
    (edges : children[node]? = some targets) (found : heights[node]? = some height)
    (low : targets ≠ [] → height + 1 ≤ bound) :
    Measures children bound (node + 1) (raise (height + 1) targets heights) where
  length_eq := length_raise.trans measures.length_eq
  bounded raised member := by
    obtain ⟨index, there⟩ := List.mem_iff_getElem?.mp member
    rw [getElem?_raise] at there
    obtain ⟨old, was, rfl⟩ := Option.map_eq_some_iff.mp there
    have before := measures.bounded old (List.mem_of_getElem? was)
    split
    · next target =>
        have := low (List.ne_nil_of_mem target)
        omega
    · exact before
  above {length first last next others raised} walk before edge member there := by
    rw [getElem?_raise] at there
    obtain ⟨old, was, rfl⟩ := Option.map_eq_some_iff.mp there
    rcases Nat.lt_succ_iff_lt_or_eq.mp before with earlier | rfl
    · have known := measures.above walk earlier edge member was
      split <;> omega
    · have same : others = targets := Option.some.inj (edge.symm.trans edges)
      have known := measures.le_height forward found walk
      rw [if_pos (same ▸ member)]
      omega
  attained {last raised} there := by
    rw [getElem?_raise] at there
    obtain ⟨old, was, rfl⟩ := Option.map_eq_some_iff.mp there
    split
    · next target =>
        rcases Nat.le_total old (height + 1) with le | ge
        · rw [Nat.max_eq_right le]
          obtain ⟨first, walk⟩ := measures.attained found
          exact ⟨first, walk.snoc edges target⟩
        · rw [Nat.max_eq_left ge]
          exact measures.attained was
    · exact measures.attained was

theorem Measures.passHeights_isSome_iff (forward : Forward children) {later : List (List Nat)}
    {node : Nat} {heights : List Nat} (measures : Measures children bound node heights)
    (rest : children.drop node = later) :
    (passHeights bound later node heights).isSome = true ↔
      ∀ length first last, Walk children length first last → length ≤ bound := by
  induction later generalizing node heights with
  | nil =>
    -- all nodes are passed, so the heights bound all walks
    simp only [passHeights, Option.isSome_some, true_iff]
    intro length first last walk
    cases walk with
    | nil => exact Nat.zero_le _
    | @snoc length _ last next targets walk edges member =>
      have inside := (forward _ _ edges _ member).2
      have passed : last < node := by
        have short := List.drop_eq_nil_iff.mp rest
        have known := (List.getElem?_eq_some_iff.mp edges).1
        omega
      rw [← measures.length_eq] at inside
      have found := List.getElem?_eq_getElem inside
      exact Nat.le_trans (measures.above walk passed edges member found)
        (measures.bounded _ (List.getElem_mem inside))
  | cons targets later ih =>
    have edges : children[node]? = some targets := by
      rw [← List.head?_drop, rest, List.head?_cons]
    have inside : node < heights.length := by
      rw [measures.length_eq]
      exact (List.getElem?_eq_some_iff.mp edges).1
    have found := List.getElem?_eq_getElem inside
    have low : (∀ length first last, Walk children length first last → length ≤ bound) →
        targets ≠ [] → heights[node] + 1 ≤ bound := by
      intro short some
      obtain ⟨target, member⟩ := List.exists_mem_of_ne_nil _ some
      obtain ⟨first, walk⟩ := measures.attained found
      exact short _ _ _ (walk.snoc edges member)
    have next : children.drop (node + 1) = later := by
      rw [← List.tail_drop, rest, List.tail_cons]
    rw [passHeights_cons_isSome]
    constructor
    · rintro ⟨height, there, low, passed⟩
      exact (ih (measures.raise forward edges there low) next).mp passed
    · intro short
      exact ⟨_, found, low short,
        (ih (measures.raise forward edges found (low short)) next).mpr short⟩

/-- The pass succeeds exactly when no walk is longer than the bound. -/
theorem passHeights_isSome_iff (bound : Nat) (forward : Forward children) :
    (passHeights bound children 0 (List.replicate children.length 0)).isSome = true ↔
      ∀ length first last, Walk children length first last → length ≤ bound :=
  measures_zero.passHeights_isSome_iff forward rfl

end Pass

end WalletEngine
