import WalletEngine.Data.Stateful
import Mathlib.Data.List.Basic

/-! # Reading from the front of a list

A cursor stands somewhere in a list that a machine can address, and moves over words. What a
reading program accepts is told by the words that it moves over. -/

namespace WalletEngine

/-- The sum, if it is below the limit of the machine. -/
def checkedAdd (limit first second : Nat) : Option Nat :=
  if first + second < limit then some (first + second) else none

/-- The product, if it is below the limit of the machine. -/
def checkedMul (limit first second : Nat) : Option Nat :=
  if first * second < limit then some (first * second) else none

@[simp] theorem checkedAdd_eq_some {limit first second sum : Nat} :
    checkedAdd limit first second = some sum ↔ first + second < limit ∧ sum = first + second := by
  simp [checkedAdd, eq_comm]

@[simp] theorem checkedMul_eq_some {limit first second product : Nat} :
    checkedMul limit first second = some product ↔
      first * second < limit ∧ product = first * second := by
  simp [checkedMul, eq_comm]

/-- A position in a list that is shorter than a limit. -/
@[ext]
structure Cursor (β : Type) (limit : Nat) where
  items : List β
  position : Nat
  addressable : items.length < limit
  bounded : position ≤ items.length

namespace Cursor

variable {β ε : Type} {limit : Nat}

/-- What has not been read. -/
def rest (cursor : Cursor β limit) : List β :=
  cursor.items.drop cursor.position

theorem length_rest (cursor : Cursor β limit) :
    cursor.position + cursor.rest.length = cursor.items.length := by
  have bounded := cursor.bounded
  rw [rest, List.length_drop]
  omega

/-- The cursor moves over a word. -/
structure Moves (before : Cursor β limit) (word : List β) (after : Cursor β limit) : Prop where
  items_eq : after.items = before.items
  rest_eq : before.rest = word ++ after.rest

namespace Moves

variable {before between after : Cursor β limit} {word first second : List β}

theorem position_eq (moves : Moves before word after) :
    after.position = before.position + word.length := by
  have here := before.length_rest
  have there := after.length_rest
  rw [moves.rest_eq, List.length_append] at here
  rw [moves.items_eq] at there
  omega

/-- A word that was read is addressable. -/
theorem length_lt (moves : Moves before word after) : word.length < limit := by
  have addressable := after.addressable
  have bounded := after.bounded
  rw [moves.position_eq] at bounded
  omega

theorem nil (cursor : Cursor β limit) : Moves cursor [] cursor :=
  ⟨rfl, rfl⟩

theorem eq_of_nil (moves : Moves before [] after) : after = before :=
  Cursor.ext moves.items_eq moves.position_eq

theorem trans (early : Moves before first between) (late : Moves between second after) :
    Moves before (first ++ second) after where
  items_eq := late.items_eq.trans early.items_eq
  rest_eq := by rw [early.rest_eq, late.rest_eq, List.append_assoc]

end Moves

/-- Behind the next items. -/
def skip (cursor : Cursor β limit) (count : Nat)
    (enough : cursor.position + count ≤ cursor.items.length) : Cursor β limit :=
  { cursor with position := cursor.position + count, bounded := enough }

theorem moves_skip {cursor : Cursor β limit} {count : Nat}
    (enough : cursor.position + count ≤ cursor.items.length) :
    cursor.Moves (cursor.rest.take count) (cursor.skip count enough) where
  items_eq := rfl
  rest_eq := by
    change _ = _ ++ cursor.items.drop (cursor.position + count)
    rw [← List.drop_drop]
    exact (List.take_append_drop count cursor.rest).symm

/-- A cursor can stop anywhere on its way. -/
theorem Moves.split {before after : Cursor β limit} {first second : List β}
    (moves : Moves before (first ++ second) after) :
    ∃ between, Moves before first between ∧ Moves between second after := by
  have enough : before.position + first.length ≤ before.items.length := by
    have whole := before.length_rest
    rw [moves.rest_eq, List.length_append, List.length_append] at whole
    omega
  have stop := moves_skip enough
  have taken : before.rest.take first.length = first := by
    rw [moves.rest_eq, List.append_assoc, List.take_left]
  rw [taken] at stop
  refine ⟨before.skip first.length enough, stop, moves.items_eq, ?_⟩
  have rests := stop.rest_eq.symm.trans moves.rest_eq
  rw [List.append_assoc] at rests
  exact List.append_cancel_left rests

/-- A word that is there can be read. -/
theorem exists_moves {before : Cursor β limit} {word rest : List β}
    (there : before.rest = word ++ rest) : ∃ after, Moves before word after := by
  have enough : before.position + word.length ≤ before.items.length := by
    have whole := before.length_rest
    rw [there, List.length_append] at whole
    omega
  have moves := moves_skip enough
  rw [there, List.take_left] at moves
  exact ⟨_, moves⟩

section Start

/-- In front of a whole list. -/
def start (items : List β) (addressable : items.length < limit) : Cursor β limit :=
  ⟨items, 0, addressable, Nat.zero_le _⟩

@[simp] theorem rest_start (items : List β) (addressable : items.length < limit) :
    (start items addressable).rest = items :=
  rfl

/-- What lies before the cursor is what it has read. -/
theorem Moves.take_position {items word : List β} {addressable : items.length < limit}
    {after : Cursor β limit} (moves : Moves (start items addressable) word after) :
    after.items.take after.position = word := by
  have whole := moves.rest_eq
  rw [rest_start] at whole
  rw [moves.items_eq, moves.position_eq]
  change items.take (0 + word.length) = word
  rw [Nat.zero_add, whole, List.take_left]

/-- Behind the last item. -/
def AtEnd (cursor : Cursor β limit) : Prop :=
  cursor.position = cursor.items.length

instance (cursor : Cursor β limit) : Decidable cursor.AtEnd :=
  inferInstanceAs (Decidable (_ = _))

theorem atEnd_iff {cursor : Cursor β limit} : cursor.AtEnd ↔ cursor.rest = [] := by
  have whole := cursor.length_rest
  rw [← List.length_eq_zero_iff, AtEnd]
  omega

/-- A list is read to its end exactly by itself. -/
theorem moves_start_atEnd {items word : List β} {addressable : items.length < limit} :
    (∃ after, Moves (start items addressable) word after ∧ after.AtEnd) ↔ items = word := by
  constructor
  · rintro ⟨after, moves, ended⟩
    have whole := moves.rest_eq
    rwa [atEnd_iff.mp ended, List.append_nil, rest_start] at whole
  · rintro rfl
    have there : (start items addressable).rest = items ++ [] := by
      rw [rest_start, List.append_nil]
    obtain ⟨after, moves⟩ := exists_moves there
    have whole := moves.rest_eq
    rw [rest_start] at whole
    exact ⟨after, moves, atEnd_iff.mpr (List.self_eq_append_right.mp whole)⟩

end Start

end Cursor

end WalletEngine
