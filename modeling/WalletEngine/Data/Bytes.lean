import Mathlib.Algebra.Group.Nat.Defs
import Mathlib.Data.List.Basic

/-! # Byte strings

Integers of a fixed width, texts and length-prefixed fields as lists of bytes and
bits, with the facts that make a framing injective. -/

namespace WalletEngine

/-- What holds of all numbers below 256 holds of every byte. -/
theorem forall_byte {holds : UInt8 → Prop} (all : ∀ value : Fin 256, holds (UInt8.ofNat value))
    (byte : UInt8) : holds byte := by
  have this := all ⟨byte.toNat, byte.toNat_lt⟩
  rwa [UInt8.ofNat_toNat] at this

section Integers

/-- The bytes of a number, least significant first. -/
def leBytes : (width value : Nat) → List UInt8
  | 0, _ => []
  | width + 1, value => UInt8.ofNat value :: leBytes width (value / 256)

/-- The bytes of a number, most significant first. -/
def beBytes (width value : Nat) : List UInt8 :=
  (leBytes width value).reverse

@[simp] theorem length_leBytes (width value : Nat) : (leBytes width value).length = width := by
  induction width generalizing value with
  | zero => rfl
  | succ width ih => simp [leBytes, ih]

@[simp] theorem length_beBytes (width value : Nat) : (beBytes width value).length = width := by
  simp [beBytes]

theorem leBytes_inj {width first second : Nat} (firstFits : first < 256 ^ width)
    (secondFits : second < 256 ^ width) (same : leBytes width first = leBytes width second) :
    first = second := by
  induction width generalizing first second with
  | zero => omega
  | succ width ih =>
    obtain ⟨low, high⟩ := List.cons.inj same
    have low : first % 256 = second % 256 := by
      simpa using congrArg UInt8.toNat low
    rw [Nat.pow_succ] at firstFits secondFits
    have high := ih (by omega) (by omega) high
    omega

theorem beBytes_inj {width first second : Nat} (firstFits : first < 256 ^ width)
    (secondFits : second < 256 ^ width) (same : beBytes width first = beBytes width second) :
    first = second :=
  leBytes_inj firstFits secondFits (List.reverse_injective same)

/-- The number that bytes denote, least significant first. -/
def leValue : List UInt8 → Nat
  | [] => 0
  | byte :: bytes => byte.toNat + 256 * leValue bytes

/-- The number that bytes denote, most significant first. -/
def beValue (bytes : List UInt8) : Nat :=
  leValue bytes.reverse

theorem leValue_lt (bytes : List UInt8) : leValue bytes < 256 ^ bytes.length := by
  induction bytes with
  | nil => exact Nat.one_pos
  | cons byte bytes ih =>
    have small := byte.toNat_lt
    rw [leValue, List.length_cons, Nat.pow_succ]
    omega

theorem leBytes_leValue (bytes : List UInt8) : leBytes bytes.length (leValue bytes) = bytes := by
  induction bytes with
  | nil => rfl
  | cons byte bytes ih =>
    have small := byte.toNat_lt
    have high : (byte.toNat + 256 * leValue bytes) / 256 = leValue bytes := by omega
    have low : UInt8.ofNat (byte.toNat + 256 * leValue bytes) = byte := by
      refine UInt8.toNat_inj.mp ?_
      rw [UInt8.toNat_ofNat']
      omega
    rw [List.length_cons, leValue, leBytes, high, low, ih]

theorem leValue_leBytes {width value : Nat} (fits : value < 256 ^ width) :
    leValue (leBytes width value) = value := by
  have small := leValue_lt (leBytes width value)
  rw [length_leBytes] at small
  refine leBytes_inj small fits ?_
  have same := leBytes_leValue (leBytes width value)
  rwa [length_leBytes] at same

theorem beValue_lt (bytes : List UInt8) : beValue bytes < 256 ^ bytes.length := by
  rw [← List.length_reverse]
  exact leValue_lt bytes.reverse

theorem beBytes_beValue (bytes : List UInt8) : beBytes bytes.length (beValue bytes) = bytes := by
  have same := leBytes_leValue bytes.reverse
  rw [List.length_reverse] at same
  rw [beBytes, beValue, same, List.reverse_reverse]

theorem beValue_beBytes {width value : Nat} (fits : value < 256 ^ width) :
    beValue (beBytes width value) = value := by
  rw [beValue, beBytes, List.reverse_reverse, leValue_leBytes fits]

theorem beValue_append_singleton (bytes : List UInt8) (byte : UInt8) :
    beValue (bytes ++ [byte]) = beValue bytes * 256 + byte.toNat := by
  rw [beValue, List.reverse_append, List.reverse_singleton, List.singleton_append, leValue, beValue]
  omega

/-- The bits of a number, most significant first. -/
def natBits (width value : Nat) : List Bool :=
  (List.range width).map fun index => value.testBit (width - 1 - index)

@[simp] theorem length_natBits (width value : Nat) : (natBits width value).length = width := by
  simp [natBits]

/-- The bits of a byte string, each byte most significant bit first. -/
def byteBits (bytes : List UInt8) : List Bool :=
  bytes.flatMap fun byte => natBits 8 byte.toNat

@[simp] theorem length_byteBits (bytes : List UInt8) :
    (byteBits bytes).length = 8 * bytes.length := by
  induction bytes with
  | nil => rfl
  | cons byte bytes ih =>
    rw [byteBits] at ih ⊢
    rw [List.flatMap_cons, List.length_append, length_natBits, ih, List.length_cons]
    omega

end Integers

section Masks

/-- Byte-wise exclusive or, as long as the shorter argument. -/
def xorBytes (first second : List UInt8) : List UInt8 :=
  List.zipWith (· ^^^ ·) first second

@[simp] theorem length_xorBytes (first second : List UInt8) :
    (xorBytes first second).length = min first.length second.length := by
  simp [xorBytes]

theorem xorBytes_comm (first second : List UInt8) :
    xorBytes first second = xorBytes second first := by
  rw [xorBytes, List.zipWith_comm, xorBytes]
  simp only [UInt8.xor_comm]

/-- A mask that is applied twice is gone. -/
theorem xorBytes_cancel {mask bytes : List UInt8} (sized : bytes.length = mask.length) :
    xorBytes mask (xorBytes mask bytes) = bytes := by
  apply List.ext_getElem
  · simp [sized]
  · intro index _ _
    simp [xorBytes, ← UInt8.xor_assoc]

end Masks

/-- A field behind its length is read back whatever follows it. -/
theorem lengthPrefixed_inj {encode : Nat → List UInt8} {width : Nat}
    {first second firstRest secondRest : List UInt8}
    (sized : ∀ length, (encode length).length = width)
    (injective : encode first.length = encode second.length → first.length = second.length)
    (same : encode first.length ++ (first ++ firstRest) =
      encode second.length ++ (second ++ secondRest)) :
    first = second ∧ firstRest = secondRest := by
  obtain ⟨lengths, rest⟩ := List.append_inj same (by rw [sized, sized])
  exact List.append_inj rest (injective lengths)

section Texts

/-- The UTF-8 encoding of a text. -/
def utf8 (text : String) : List UInt8 :=
  text.toByteArray.data.toList

theorem utf8_inj {first second : String} (same : utf8 first = utf8 second) : first = second :=
  String.toByteArray_inj.mp (ByteArray.ext (Array.toList_inj.mp same))

theorem fromUTF8_utf8 (text : String) : String.fromUTF8? ⟨(utf8 text).toArray⟩ = some text := by
  have valid : (ByteArray.mk (utf8 text).toArray).IsValidUTF8 := text.isValidUTF8
  rw [String.fromUTF8?, dif_pos valid]
  rfl

theorem utf8_of_fromUTF8 {bytes : List UInt8} {text : String}
    (read : String.fromUTF8? ⟨bytes.toArray⟩ = some text) : utf8 text = bytes := by
  unfold String.fromUTF8? at read
  split at read
  · cases read
    simp [utf8, String.fromUTF8]
  · cases read

theorem length_utf8 (text : String) : (utf8 text).length = text.utf8ByteSize := by
  simp [utf8]

end Texts

end WalletEngine
