import Mathlib.Algebra.Group.Nat.Defs
import Mathlib.Data.List.Basic

/-! # Bit fields of a byte buffer

Fields of a fixed width, most significant bit first, that lie anywhere in a buffer. What
a write leaves is stated bit by bit, so that packing fields and reading them back needs
no arithmetic of shifts and masks. -/

namespace WalletEngine

/-- One bit of a buffer; bits beyond its end are clear. -/
def bitAt (buffer : List UInt8) (position : Nat) : Bool :=
  (buffer.getD (position / 8) 0).toNat.testBit (7 - position % 8)

/-- Set one bit of a buffer; a position beyond its end is ignored. -/
def setBitAt (buffer : List UInt8) (position : Nat) : List UInt8 :=
  buffer.modify (position / 8) (· ||| UInt8.ofNat (2 ^ (7 - position % 8)))

/-- The number in a field of a given width. -/
def readField (buffer : List UInt8) (offset : Nat) : (width : Nat) → Nat
  | 0 => 0
  | width + 1 =>
    2 * readField buffer offset width + (bitAt buffer (offset + width)).toNat

/-- Set the bits of a number in a field that is still clear. -/
def writeField (buffer : List UInt8) (offset width value : Nat) : List UInt8 :=
  (List.range width).foldl (fun buffer bit =>
    if value.testBit (width - 1 - bit) then setBitAt buffer (offset + bit) else buffer) buffer

/-- Write consecutive fields of one width. -/
def writeFields (buffer : List UInt8) (offset width : Nat) : List Nat → List UInt8
  | [] => buffer
  | value :: values =>
    writeFields (writeField buffer offset width value) (offset + width) width values

section Bits

variable {buffer : List UInt8} {position other : Nat}

@[simp] theorem length_setBitAt : (setBitAt buffer position).length = buffer.length := by
  simp [setBitAt]

theorem bitAt_setBitAt (inside : position / 8 < buffer.length) :
    bitAt (setBitAt buffer position) other = (bitAt buffer other || other == position) := by
  unfold bitAt setBitAt
  rw [List.getD_eq_getElem?_getD, List.getD_eq_getElem?_getD, List.getElem?_modify]
  by_cases sameByte : position / 8 = other / 8
  · rw [← sameByte, List.getElem?_eq_getElem inside]
    have small : 2 ^ (7 - position % 8) < 256 :=
      (Nat.pow_lt_pow_right (by omega) (by omega : 7 - position % 8 < 8))
    have index : (7 - position % 8 = 7 - other % 8) ↔ other = position := by omega
    simp only [Option.map_eq_map, Option.map_some, Option.getD_some, if_true, UInt8.toNat_or,
      Nat.testBit_or, UInt8.toNat_ofNat', Nat.mod_eq_of_lt small, Nat.testBit_two_pow, index]
    rfl
  · have different : (other == position) = false := by
      rw [beq_eq_false_iff_ne]
      rintro rfl
      exact sameByte rfl
    simp [sameByte, different]

/-- A buffer before its last byte. -/
theorem take_append_getD {length : Nat} (sized : buffer.length = length + 1) :
    buffer.take length ++ [buffer.getD length 0] = buffer := by
  have inside : length < buffer.length := by omega
  rw [List.getD_eq_getElem?_getD, List.getElem?_eq_getElem inside, Option.getD_some,
    List.take_append_getElem, ← sized, List.take_length]

/-- Buffers of one length with the same bits are equal. -/
theorem eq_of_bitAt {first second : List UInt8} (sized : first.length = second.length)
    (same : ∀ position < 8 * first.length, bitAt first position = bitAt second position) :
    first = second := by
  apply List.ext_getElem sized
  intro index firstInside secondInside
  rw [← UInt8.toNat_inj]
  apply Nat.eq_of_testBit_eq
  intro bit
  by_cases low : bit < 8
  · have agree := same (8 * index + (7 - bit)) (by omega)
    have byte : (8 * index + (7 - bit)) / 8 = index := by omega
    have place : 7 - (8 * index + (7 - bit)) % 8 = bit := by omega
    simp only [bitAt, byte, place] at agree
    simpa [firstInside, secondInside] using agree
  · have large (byte : UInt8) : byte.toNat.testBit bit = false := by
      apply Nat.testBit_lt_two_pow
      calc byte.toNat < 2 ^ 8 := byte.toNat_lt
        _ ≤ 2 ^ bit := Nat.pow_le_pow_right (by omega) (by omega)
    rw [large, large]

end Bits

section Fields

variable {buffer : List UInt8} {offset width : Nat}

theorem readField_lt : readField buffer offset width < 2 ^ width := by
  induction width with
  | zero => simp [readField]
  | succ width ih =>
    have bit : (bitAt buffer (offset + width)).toNat ≤ 1 := Bool.toNat_le _
    simp only [readField, Nat.pow_succ]
    omega

theorem testBit_readField {bit : Nat} (inside : bit < width) :
    (readField buffer offset width).testBit bit = bitAt buffer (offset + (width - 1 - bit)) := by
  induction width generalizing bit with
  | zero => omega
  | succ width ih =>
    have low : (bitAt buffer (offset + width)).toNat ≤ 1 := Bool.toNat_le _
    cases bit with
    | zero =>
      rw [readField, Nat.testBit_zero, Nat.mul_add_mod]
      cases set : bitAt buffer (offset + width) <;> simp [set]
    | succ bit =>
      have half : (2 * readField buffer offset width +
          (bitAt buffer (offset + width)).toNat) / 2 = readField buffer offset width := by
        omega
      rw [readField, Nat.testBit_succ, half, ih (by omega)]
      congr 2
      omega

/-- What the first steps of a write leave: the old bits, and those of the number in the
part of the field that was reached. -/
theorem foldl_setBitAt (value width : Nat) {count : Nat}
    (fits : offset + count ≤ 8 * buffer.length) :
    let written := (List.range count).foldl (fun buffer bit =>
      if value.testBit (width - 1 - bit) then setBitAt buffer (offset + bit) else buffer) buffer
    written.length = buffer.length ∧ ∀ position, bitAt written position =
      (bitAt buffer position || (decide (offset ≤ position ∧ position < offset + count) &&
        value.testBit (width - 1 - (position - offset)))) := by
  induction count with
  | zero =>
    refine ⟨rfl, fun position => ?_⟩
    have outside : ¬ (offset ≤ position ∧ position < offset + 0) := by omega
    rw [decide_eq_false outside]
    simp
  | succ count ih =>
    obtain ⟨sized, bits⟩ := ih (by omega)
    simp only [List.range_succ, List.foldl_append, List.foldl_cons, List.foldl_nil]
    generalize (List.range count).foldl _ buffer = written at sized bits
    by_cases set : value.testBit (width - 1 - count) = true
    · rw [if_pos set]
      refine ⟨by simpa using sized, fun position => ?_⟩
      rw [bitAt_setBitAt (by omega), bits]
      by_cases here : position = offset + count
      · subst here
        simp [set]
      · have reached : (offset ≤ position ∧ position < offset + (count + 1)) ↔
            offset ≤ position ∧ position < offset + count := by omega
        simp [here, reached]
    · rw [if_neg set]
      refine ⟨sized, fun position => ?_⟩
      rw [bits]
      by_cases here : position = offset + count
      · subst here
        simp [set]
      · have reached : (offset ≤ position ∧ position < offset + (count + 1)) ↔
            offset ≤ position ∧ position < offset + count := by omega
        simp [reached]

@[simp] theorem length_writeField {value : Nat} (fits : offset + width ≤ 8 * buffer.length) :
    (writeField buffer offset width value).length = buffer.length :=
  (foldl_setBitAt value width fits).1

/-- A write leaves the old bits and sets those of the number in its field. -/
theorem bitAt_writeField {value : Nat} (fits : offset + width ≤ 8 * buffer.length)
    (position : Nat) :
    bitAt (writeField buffer offset width value) position =
      (bitAt buffer position || (decide (offset ≤ position ∧ position < offset + width) &&
        value.testBit (width - 1 - (position - offset)))) :=
  (foldl_setBitAt value width fits).2 position

/-- Consecutive writes set the bits of each number in its own field. -/
theorem writeFields_spec {values : List Nat} (positive : 0 < width)
    (fits : offset + width * values.length ≤ 8 * buffer.length) :
    (writeFields buffer offset width values).length = buffer.length ∧
      ∀ position, bitAt (writeFields buffer offset width values) position =
        (bitAt buffer position ||
          (decide (offset ≤ position ∧ position < offset + width * values.length) &&
            (values.getD ((position - offset) / width) 0).testBit
              (width - 1 - (position - offset) % width))) := by
  induction values generalizing buffer offset with
  | nil =>
    refine ⟨rfl, fun position => ?_⟩
    have outside : ¬ (offset ≤ position ∧ position < offset + width * 0) := by omega
    rw [List.length_nil, decide_eq_false outside, writeFields]
    simp
  | cons value values ih =>
    rw [List.length_cons, Nat.mul_succ] at fits
    have first : offset + width ≤ 8 * buffer.length := by omega
    have sized : (writeField buffer offset width value).length = buffer.length :=
      length_writeField first
    have rest : offset + width + width * values.length ≤
        8 * (writeField buffer offset width value).length := by omega
    obtain ⟨length, bits⟩ := ih rest
    refine ⟨length.trans sized, fun position => ?_⟩
    rw [writeFields, bits, bitAt_writeField first, List.length_cons, Nat.mul_succ]
    by_cases before : position < offset
    · have left : ¬ offset ≤ position := by omega
      have right : ¬ offset + width ≤ position := by omega
      simp [left, right]
    by_cases here : position < offset + width
    · have index : (position - offset) / width = 0 := Nat.div_eq_of_lt (by omega)
      have place : (position - offset) % width = position - offset :=
        Nat.mod_eq_of_lt (by omega)
      have left : offset ≤ position ∧ position < offset + (width * values.length + width) := by
        omega
      have right : ¬ offset + width ≤ position := by omega
      simp [index, place, left, right, here]
    · -- Further fields lie one field behind those of the recursive call.
      have shift : position - offset = position - (offset + width) + width := by omega
      have index : (position - offset) / width = (position - (offset + width)) / width + 1 := by
        rw [shift, Nat.add_div_right _ positive]
      have place : (position - offset) % width = (position - (offset + width)) % width := by
        rw [shift, Nat.add_mod_right]
      have inside : (offset ≤ position ∧
          position < offset + (width * values.length + width)) ↔
            offset + width ≤ position ∧
              position < offset + width + width * values.length := by omega
      simp [index, place, inside, here]

theorem bitAt_replicate_zero (length position : Nat) :
    bitAt (List.replicate length 0) position = false := by
  unfold bitAt
  rw [List.getD_eq_getElem?_getD, List.getElem?_replicate]
  split <;> simp

/-- The bits of fields that are packed into a clear buffer. -/
theorem writeFields_clear {values : List Nat} {length : Nat} (positive : 0 < width)
    (fits : width * values.length ≤ 8 * length) :
    (writeFields (List.replicate length 0) 0 width values).length = length ∧ ∀ position,
      bitAt (writeFields (List.replicate length 0) 0 width values) position =
        (decide (position < width * values.length) &&
          (values.getD (position / width) 0).testBit (width - 1 - position % width)) := by
  have room : 0 + width * values.length ≤ 8 * (List.replicate length (0 : UInt8)).length := by
    simpa using fits
  obtain ⟨sized, bits⟩ := writeFields_spec positive room
  refine ⟨by simpa using sized, fun position => ?_⟩
  rw [bits, bitAt_replicate_zero]
  simp only [Nat.zero_le, Nat.zero_add, true_and, Nat.sub_zero, Bool.false_or]

/-- Packing the fields that were read from a buffer gives the buffer back, if its bits
beyond the fields are clear. -/
theorem writeFields_readField {count : Nat} (positive : 0 < width)
    (fits : width * count ≤ 8 * buffer.length)
    (clear : ∀ position, width * count ≤ position → bitAt buffer position = false) :
    writeFields (List.replicate buffer.length 0) 0 width
      ((List.range count).map fun index => readField buffer (index * width) width) = buffer := by
  have room : width * ((List.range count).map fun index =>
      readField buffer (index * width) width).length ≤ 8 * buffer.length := by simpa using fits
  obtain ⟨sized, bits⟩ := writeFields_clear positive room
  refine eq_of_bitAt sized fun position _ => ?_
  rw [bits, List.length_map, List.length_range]
  by_cases packed : position < width * count
  · have index : position / width < count :=
      (Nat.div_lt_iff_lt_mul positive).mpr (by rwa [Nat.mul_comm] at packed)
    have place := Nat.mod_lt position positive
    have whole := Nat.div_add_mod position width
    rw [decide_eq_true packed, List.getD_eq_getElem?_getD]
    simp only [List.getElem?_map, List.getElem?_range index, Option.map_some, Option.getD_some,
      Bool.true_and]
    rw [testBit_readField (by omega)]
    congr 1
    rw [Nat.mul_comm]
    omega
  · rw [decide_eq_false packed, clear position (by omega), Bool.false_and]

/-- Reading packed fields back gives the numbers, if each fits its field. -/
theorem readField_writeFields {values : List Nat} {length : Nat} (positive : 0 < width)
    (fits : width * values.length ≤ 8 * length) (small : ∀ value ∈ values, value < 2 ^ width) :
    ((List.range values.length).map fun index => readField
      (writeFields (List.replicate length 0) 0 width values) (index * width) width) = values := by
  refine List.ext_getElem (by simp) fun index _ inside => ?_
  rw [List.getElem_map, List.getElem_range]
  refine Nat.eq_of_testBit_eq fun bit => ?_
  by_cases low : bit < width
  · have field : (index * width + (width - 1 - bit)) / width = index := by
      rw [Nat.mul_comm, Nat.mul_add_div positive, Nat.div_eq_of_lt (by omega), Nat.add_zero]
    have place : (index * width + (width - 1 - bit)) % width = width - 1 - bit := by
      rw [Nat.mul_comm, Nat.mul_add_mod, Nat.mod_eq_of_lt (by omega)]
    have reached : index * width + (width - 1 - bit) < width * values.length := by
      have := Nat.mul_le_mul_left width (Nat.succ_le_of_lt inside)
      rw [Nat.mul_succ, Nat.mul_comm] at this
      omega
    rw [testBit_readField low, (writeFields_clear positive fits).2, decide_eq_true reached, field,
      place, List.getD_eq_getElem?_getD, List.getElem?_eq_getElem inside, Bool.true_and]
    congr 1
    omega
  · have beyond : 2 ^ width ≤ 2 ^ bit := Nat.pow_le_pow_right (by omega) (by omega)
    rw [Nat.testBit_lt_two_pow (Nat.lt_of_lt_of_le readField_lt beyond),
      Nat.testBit_lt_two_pow (Nat.lt_of_lt_of_le (small _ (List.getElem_mem inside)) beyond)]

end Fields

end WalletEngine
