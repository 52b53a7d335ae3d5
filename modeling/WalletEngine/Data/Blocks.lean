import Mathlib.Data.List.Basic

/-! # Blocks of a sequence

A sequence cut into pieces, and the chaining mode that ciphers a sequence of whole blocks. The
cut is the inverse of concatenation, so a mode that is inverted block by block is inverted on the
whole sequence. -/

namespace WalletEngine

section Chunks

variable {α : Type*} (size : Nat)

/-- Pieces of a given size, the last one possibly shorter; `fuel` bounds their number. -/
def chunksWithin : (fuel : Nat) → List α → List (List α)
  | fuel + 1, item :: items =>
    (item :: items).take size :: chunksWithin fuel ((item :: items).drop size)
  | _, _ => []

/-- The pieces of a sequence. -/
def chunks (items : List α) : List (List α) :=
  chunksWithin size items.length items

variable {size}

theorem flatten_chunksWithin (positive : 0 < size) {fuel : Nat} {items : List α}
    (enough : items.length ≤ fuel) : (chunksWithin size fuel items).flatten = items := by
  induction fuel generalizing items with
  | zero =>
    rw [List.eq_nil_of_length_eq_zero (Nat.le_zero.mp enough)]
    rfl
  | succ fuel ih =>
    cases items with
    | nil => simp [chunksWithin]
    | cons item items =>
      rw [chunksWithin, List.flatten_cons, ih, List.take_append_drop]
      simp only [List.length_drop, List.length_cons] at enough ⊢
      omega

/-- The pieces make up the sequence. -/
theorem flatten_chunks (positive : 0 < size) (items : List α) :
    (chunks size items).flatten = items :=
  flatten_chunksWithin positive (Nat.le_refl _)

theorem length_le_of_mem_chunks {items chunk : List α} (member : chunk ∈ chunks size items) :
    chunk.length ≤ size := by
  have within : ∀ fuel (items : List α), chunk ∈ chunksWithin size fuel items →
      chunk.length ≤ size := by
    intro fuel
    induction fuel with
    | zero => intro items member; simp [chunksWithin] at member
    | succ fuel ih =>
      intro items member
      cases items with
      | nil => simp [chunksWithin] at member
      | cons item items =>
        rw [chunksWithin, List.mem_cons] at member
        obtain rfl | member := member
        · exact List.length_take_le _ _
        · exact ih _ member
  exact within _ _ member

/-- A sequence that fits into some pieces is cut into no more. -/
theorem length_chunks_le {items : List α} {count : Nat} (fits : items.length ≤ count * size) :
    (chunks size items).length ≤ count := by
  have within : ∀ fuel count (items : List α), items.length ≤ count * size →
      (chunksWithin size fuel items).length ≤ count := by
    intro fuel
    induction fuel with
    | zero =>
      intro count items _
      simp [chunksWithin]
    | succ fuel ih =>
      intro count items fits
      match items, count with
      | [], _ => simp [chunksWithin]
      | item :: items, 0 => simp at fits
      | item :: items, count + 1 =>
        rw [chunksWithin, List.length_cons]
        refine Nat.succ_le_succ (ih count _ ?_)
        rw [List.length_drop]
        rw [Nat.succ_mul] at fits
        omega
  exact within _ _ _ fits

end Chunks

section Blocks

variable {α : Type*} (size : Nat)

/-- Whole blocks of a given size; a shorter rest is left out. -/
def blocksWithin : (fuel : Nat) → List α → List (Vector α size)
  | 0, _ => []
  | fuel + 1, items =>
    if fits : size ≤ items.length then
      ⟨(items.take size).toArray, by simp [fits]⟩ :: blocksWithin fuel (items.drop size)
    else []

/-- The whole blocks of a sequence. -/
def chunksExact (items : List α) : List (Vector α size) :=
  blocksWithin size (items.length / size) items

/-- The sequence that blocks make up. -/
def unblock {size : Nat} (blocks : List (Vector α size)) : List α :=
  blocks.flatMap Vector.toList

variable {size}

@[simp] theorem length_unblock (blocks : List (Vector α size)) :
    (unblock blocks).length = blocks.length * size := by
  induction blocks with
  | nil => simp [unblock]
  | cons block blocks ih =>
    rw [unblock] at ih ⊢
    rw [List.flatMap_cons, List.length_append, ih, List.length_cons, Nat.succ_mul,
      Vector.length_toList, Nat.add_comm]

/-- A sequence of whole blocks is made up of them. -/
theorem unblock_chunksExact (positive : 0 < size) {items : List α}
    (whole : size ∣ items.length) : unblock (chunksExact size items) = items := by
  have within : ∀ count (items : List α), items.length = size * count →
      unblock (blocksWithin size count items) = items := by
    intro count
    induction count with
    | zero =>
      intro items sized
      rw [List.eq_nil_of_length_eq_zero sized]
      rfl
    | succ count ih =>
      intro items sized
      rw [Nat.mul_succ] at sized
      have rest := ih (items.drop size) (by rw [List.length_drop]; omega)
      have fits : size ≤ items.length := by omega
      rw [unblock] at rest ⊢
      rw [blocksWithin, dif_pos fits, List.flatMap_cons, rest, Vector.toList_mk,
        List.take_append_drop]
  obtain ⟨count, sized⟩ := whole
  rw [chunksExact, sized, Nat.mul_div_cancel_left _ positive, within count items sized]

/-- Blocks are cut out of what they make up. -/
theorem chunksExact_unblock (positive : 0 < size) (blocks : List (Vector α size)) :
    chunksExact size (unblock blocks) = blocks := by
  have within : blocksWithin size blocks.length (unblock blocks) = blocks := by
    induction blocks with
    | nil => rfl
    | cons block blocks ih =>
      have split : unblock (block :: blocks) = block.toList ++ unblock blocks := by
        rw [unblock, List.flatMap_cons, unblock]
      have first : (unblock (block :: blocks)).take size = block.toList := by
        rw [split, List.take_left' Vector.length_toList]
      have rest : (unblock (block :: blocks)).drop size = unblock blocks := by
        rw [split, List.drop_left' Vector.length_toList]
      have fits : size ≤ (unblock (block :: blocks)).length := by
        rw [length_unblock, List.length_cons, Nat.succ_mul]
        omega
      have whole : (⟨((unblock (block :: blocks)).take size).toArray, by simp [first]⟩ :
          Vector α size) = block := by
        apply Vector.toList_inj.mp
        rw [Vector.toList_mk, first]
      rw [List.length_cons, blocksWithin, dif_pos fits, rest, ih, whole]
  rw [chunksExact, length_unblock, Nat.mul_div_cancel _ positive, within]

end Blocks

section Chaining

variable {Block : Type*} (mix : Block → Block → Block)

/-- Every block is mixed with the ciphered block before it. -/
def cbcEncrypt (encrypt : Block → Block) : (previous : Block) → List Block → List Block
  | _, [] => []
  | previous, block :: blocks =>
    encrypt (mix block previous) ::
      cbcEncrypt encrypt (encrypt (mix block previous)) blocks

def cbcDecrypt (decrypt : Block → Block) : (previous : Block) → List Block → List Block
  | _, [] => []
  | previous, block :: blocks => mix (decrypt block) previous :: cbcDecrypt decrypt block blocks

@[simp] theorem length_cbcEncrypt (encrypt : Block → Block) (previous : Block)
    (blocks : List Block) : (cbcEncrypt mix encrypt previous blocks).length = blocks.length := by
  induction blocks generalizing previous with
  | nil => rfl
  | cons block blocks ih => rw [cbcEncrypt, List.length_cons, ih, List.length_cons]

/-- A chain of blocks is deciphered by the inverse of the block cipher. -/
theorem cbcDecrypt_cbcEncrypt {mix : Block → Block → Block} {encrypt decrypt : Block → Block}
    (cancel : ∀ block mask, mix (mix block mask) mask = block)
    (inverse : Function.LeftInverse decrypt encrypt) (previous : Block) (blocks : List Block) :
    cbcDecrypt mix decrypt previous (cbcEncrypt mix encrypt previous blocks) = blocks := by
  induction blocks generalizing previous with
  | nil => rfl
  | cons block blocks ih => rw [cbcEncrypt, cbcDecrypt, inverse, cancel, ih]

end Chaining

end WalletEngine
