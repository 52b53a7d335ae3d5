import WalletEngine.Data.Json

/-! # Hexadecimal texts

Byte strings spelt with two lowercase digits a byte, and reading such a spelling back. -/

namespace WalletEngine

def hexEncode (bytes : List UInt8) : List Char :=
  bytes.flatMap fun byte => [Nat.digitChar (byte.toNat / 16), Nat.digitChar (byte.toNat % 16)]

def hexDecode : List Char → Option (List UInt8)
  | [] => some []
  | high :: low :: rest =>
    (hexDigit high).bind fun upper => (hexDigit low).bind fun lower =>
      (hexDecode rest).map fun bytes => UInt8.ofNat (16 * upper + lower) :: bytes
  | [_] => none

/-- The digits `0` to `9` and `a` to `f`. -/
def isLowerHex (c : Char) : Bool :=
  c.isDigit || ('a' ≤ c && c ≤ 'f')

/-- A byte array of a fixed size. -/
def hexVector (size : Nat) (chars : List Char) : Option (Vector UInt8 size) :=
  (hexDecode chars).bind fun bytes =>
    if fits : bytes.length = size then some ⟨bytes.toArray, by simpa using fits⟩ else none

theorem hexDigit_digitChar : ∀ digit < 16, hexDigit (Nat.digitChar digit) = some digit := by
  decide

theorem isLowerHex_digitChar : ∀ digit < 16, isLowerHex (Nat.digitChar digit) = true := by
  decide

@[simp] theorem length_hexEncode (bytes : List UInt8) :
    (hexEncode bytes).length = 2 * bytes.length := by
  induction bytes with
  | nil => rfl
  | cons byte bytes ih =>
    rw [hexEncode] at ih ⊢
    rw [List.flatMap_cons, List.length_append, ih, List.length_cons]
    simp only [List.length_cons, List.length_nil]
    omega

/-- What holds of the sixteen digits holds throughout a spelling. -/
theorem forall_mem_hexEncode (holds : Char → Bool)
    (digits : ∀ digit < 16, holds (Nat.digitChar digit) = true) {bytes : List UInt8} {c : Char}
    (member : c ∈ hexEncode bytes) : holds c = true := by
  obtain ⟨byte, -, digit⟩ := List.mem_flatMap.mp member
  have small := byte.toNat_lt
  rcases List.mem_pair.mp digit with rfl | rfl
  · exact digits _ (by omega)
  · exact digits _ (by omega)

theorem isLowerHex_of_mem_hexEncode {bytes : List UInt8} {c : Char} (member : c ∈ hexEncode bytes) :
    isLowerHex c = true :=
  forall_mem_hexEncode isLowerHex isLowerHex_digitChar member

theorem hexDecode_hexEncode (bytes : List UInt8) : hexDecode (hexEncode bytes) = some bytes := by
  induction bytes with
  | nil => rfl
  | cons byte bytes ih =>
    have small := byte.toNat_lt
    have whole : 16 * (byte.toNat / 16) + byte.toNat % 16 = byte.toNat := Nat.div_add_mod _ 16
    rw [hexEncode] at ih ⊢
    rw [List.flatMap_cons, List.cons_append, List.cons_append, List.nil_append, hexDecode,
      hexDigit_digitChar _ (by omega), hexDigit_digitChar _ (by omega), ih]
    simp only [Option.bind_some, Option.map_some, whole, UInt8.ofNat_toNat]

/-- The lowercase digits are the sixteen that are written. -/
theorem exists_digitChar_of_isLowerHex {c : Char} (digit : isLowerHex c = true) :
    ∃ value < 16, c = Nat.digitChar value := by
  have range : (48 ≤ c.toNat ∧ c.toNat ≤ 57) ∨ (97 ≤ c.toNat ∧ c.toNat ≤ 102) := by
    simpa [isLowerHex, Char.isDigit, Char.le_def, UInt32.le_iff_toNat_le] using digit
  have listed : ∀ code < 128, (48 ≤ code ∧ code ≤ 57) ∨ (97 ≤ code ∧ code ≤ 102) →
      ∃ value < 16, Char.ofNat code = Nat.digitChar value := by
    decide
  rw [← Char.ofNat_toNat c]
  exact listed _ (by omega) range

/-- Bytes are written as they were read exactly when they were read from lowercase digits. -/
theorem hexEncode_of_hexDecode {chars : List Char} {bytes : List UInt8}
    (read : hexDecode chars = some bytes) :
    hexEncode bytes = chars ↔ ∀ c ∈ chars, isLowerHex c = true := by
  constructor
  · rintro rfl c member
    exact isLowerHex_of_mem_hexEncode member
  · intro lower
    induction chars using hexDecode.induct generalizing bytes with
    | case1 =>
      cases read
      rfl
    | case2 high low rest ih =>
      obtain ⟨upperDigit, upperSmall, rfl⟩ := exists_digitChar_of_isLowerHex (lower high (by simp))
      obtain ⟨lowerDigit, lowerSmall, rfl⟩ := exists_digitChar_of_isLowerHex (lower low (by simp))
      rw [hexDecode, hexDigit_digitChar _ upperSmall, hexDigit_digitChar _ lowerSmall] at read
      obtain ⟨others, later, rfl⟩ := Option.map_eq_some_iff.mp read
      have spelt := ih later fun c member => lower c (by simp [member])
      have value : (UInt8.ofNat (16 * upperDigit + lowerDigit)).toNat =
          16 * upperDigit + lowerDigit := by
        rw [UInt8.toNat_ofNat', Nat.mod_eq_of_lt (by omega)]
      rw [hexEncode] at spelt ⊢
      rw [List.flatMap_cons, spelt, value, Nat.mul_add_div (by decide), Nat.mul_add_mod,
        Nat.div_eq_of_lt lowerSmall, Nat.mod_eq_of_lt lowerSmall]
      rfl
    | case3 => cases read

theorem hexVector_hexEncode {size : Nat} (bytes : Vector UInt8 size) :
    hexVector size (hexEncode bytes.toList) = some bytes := by
  rw [hexVector, hexDecode_hexEncode]
  simp [Vector.toList]

end WalletEngine
