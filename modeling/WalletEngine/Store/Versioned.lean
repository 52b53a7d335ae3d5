import Mathlib.Data.List.Basic
import Mathlib.Logic.Function.Basic
import Mathlib.Order.Nat

/-! # Versioned slots

A slot is written as the list of all values ever stored in it, newest first. A
compare-exchange puts a value in front if the newest one has the version the
writer expects. As long as every write raises the version, a version names one
value of the slot, so a writer that once saw the expected version knows exactly
what it replaces. -/

namespace Versioned

variable {Key Value : Type} (version : Value → Nat)

/-- Versions strictly decrease from the newest value on. -/
def Ordered (slot : List Value) : Prop :=
  slot.Pairwise fun newer older => version older < version newer

variable {version} {slot : List Value} {value : Value}

@[simp] theorem ordered_nil : Ordered version ([] : List Value) := List.Pairwise.nil

theorem Ordered.le_head (ordered : Ordered version slot) {newest : Value}
    (head : slot.head? = some newest) (member : value ∈ slot) : version value ≤ version newest := by
  obtain ⟨rest, rfl⟩ := List.head?_eq_some_iff.mp head
  rcases List.mem_cons.mp member with rfl | older
  · exact le_rfl
  · exact (List.rel_of_pairwise_cons ordered older).le

/-- A value of the slot that has the newest version is the newest value. -/
theorem Ordered.head?_eq (ordered : Ordered version slot) (member : value ∈ slot)
    (current : slot.head?.map version = some (version value)) : slot.head? = some value := by
  obtain ⟨newest, head, same⟩ := Option.map_eq_some_iff.mp current
  obtain ⟨rest, rfl⟩ := List.head?_eq_some_iff.mp head
  rcases List.mem_cons.mp member with rfl | older
  · rfl
  · exact absurd same (List.rel_of_pairwise_cons ordered older).ne'

/-- A value whose version exceeds the newest one may be put in front. -/
theorem Ordered.push (ordered : Ordered version slot)
    (exceeds : ∀ newest ∈ slot.head?, version newest < version value) :
    Ordered version (value :: slot) := by
  refine List.pairwise_cons.mpr ⟨fun older member => ?_, ordered⟩
  obtain ⟨newest, head⟩ := Option.isSome_iff_exists.mp
    (List.isSome_head?.mpr (List.ne_nil_of_mem member))
  exact (ordered.le_head head member).trans_lt (exceeds newest head)

section Slots

variable (version) [DecidableEq Key]

/-- What one compare-exchange does to the slots. -/
inductive Exchange (before : Key → List Value) (key : Key) (expected : Option Nat)
    (value : Value) : (Key → List Value) → Prop
  | kept : Exchange before key expected value before
  | stored (current : (before key).head?.map version = expected) :
      Exchange before key expected value (Function.update before key (value :: before key))

variable {version} {before after : Key → List Value} {key : Key} {expected : Option Nat}

/-- Nothing is ever removed from a slot. -/
theorem Exchange.suffix (exchange : Exchange version before key expected value after)
    (other : Key) : before other <:+ after other := by
  cases exchange with
  | kept => exact List.suffix_refl _
  | stored current =>
    by_cases same : other = key
    · subst same
      rw [Function.update_self]
      exact List.suffix_cons _ _
    · simp [Function.update_of_ne same]

/-- Slots stay ordered if the stored value has a higher version than expected. -/
theorem Exchange.ordered (exchange : Exchange version before key expected value after)
    (ordered : ∀ key, Ordered version (before key)) (raises : ∀ old ∈ expected, old < version value)
    (other : Key) : Ordered version (after other) := by
  cases exchange with
  | kept => exact ordered other
  | stored current =>
    by_cases same : other = key
    · subst same
      rw [Function.update_self]
      refine (ordered other).push fun newest head => raises _ ?_
      rw [← current, Option.mem_def.mp head]
      rfl
    · rw [Function.update_of_ne same]
      exact ordered other

end Slots

end Versioned
