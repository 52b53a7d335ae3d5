import WalletEngine.Data.Bytes
import WalletEngine.Data.Hex
import WalletEngine.Data.Text

/-! # Form-encoded queries

A query lists pairs of texts. Letters, digits and four marks stand for themselves, a space is
written as a plus sign and every other byte by its hexadecimal value, so that the separators
cannot occur inside a name or a value. Reading a written query back gives the same pairs. -/

namespace WalletEngine

section Bytes

/-- The bytes that stand for themselves. -/
def formKept (byte : UInt8) : Bool :=
  let c := Char.ofNat byte.toNat
  c.isAlphanum || ['*', '-', '.', '_'].contains c

def upperDigit (digit : Nat) : Char :=
  (Nat.digitChar digit).toUpper

def percentByte (byte : UInt8) : List Char :=
  ['%', upperDigit (byte.toNat / 16), upperDigit (byte.toNat % 16)]

def formByte (byte : UInt8) : List Char :=
  if formKept byte then [Char.ofNat byte.toNat]
  else if byte = 0x20 then ['+']
  else percentByte byte

/-- The bytes that a name or a value of a query denotes. -/
def formBytes : List Char → List UInt8
  | [] => []
  | '%' :: high :: low :: rest =>
    match hexDigit high, hexDigit low with
    | some upper, some lower => UInt8.ofNat (16 * upper + lower) :: formBytes rest
    | _, _ => 0x25 :: formBytes (high :: low :: rest)
  | '+' :: rest => 0x20 :: formBytes rest
  | c :: rest => utf8 (String.singleton c) ++ formBytes rest

theorem hexDigit_upperDigit : ∀ digit < 16, hexDigit (upperDigit digit) = some digit := by
  decide

theorem formBytes_percentByte (byte : UInt8) (rest : List Char) :
    formBytes (percentByte byte ++ rest) = byte :: formBytes rest := by
  have small := byte.toNat_lt
  have whole : 16 * (byte.toNat / 16) + byte.toNat % 16 = byte.toNat := Nat.div_add_mod _ 16
  rw [percentByte, List.cons_append, List.cons_append, List.cons_append, List.nil_append,
    formBytes, hexDigit_upperDigit _ (by omega), hexDigit_upperDigit _ (by omega)]
  simp only [whole, UInt8.ofNat_toNat]

theorem utf8_of_formKept : ∀ byte, formKept byte = true →
    utf8 (String.singleton (Char.ofNat byte.toNat)) = [byte] ∧
      Char.ofNat byte.toNat ≠ '%' ∧ Char.ofNat byte.toNat ≠ '+' :=
  forall_byte (by decide +kernel)

theorem formBytes_formByte (byte : UInt8) (rest : List Char) :
    formBytes (formByte byte ++ rest) = byte :: formBytes rest := by
  by_cases kept : formKept byte = true
  · obtain ⟨bytes, percent, plus⟩ := utf8_of_formKept byte kept
    rw [formByte, if_pos kept, List.singleton_append, formBytes, bytes, List.singleton_append]
    · exact fun _ _ _ same => absurd same percent
    · exact fun same => absurd same plus
  · rw [formByte, if_neg kept]
    by_cases space : byte = 0x20
    · subst space
      rfl
    · rw [if_neg space, formBytes_percentByte]

theorem formBytes_flatMap (bytes : List UInt8) : formBytes (bytes.flatMap formByte) = bytes := by
  induction bytes with
  | nil => rfl
  | cons byte bytes ih => rw [List.flatMap_cons, formBytes_formByte, ih]

/-- No byte is spelt with a separator. -/
theorem formByte_free :
    ∀ byte, ∀ separator ∈ ['&', '=', '#'], separator ∉ formByte byte := by
  have all : ∀ byte, ['&', '=', '#'].all (· ∉ formByte byte) = true :=
    forall_byte (by decide +kernel)
  simpa only [List.all_eq_true, decide_eq_true_eq] using all

end Bytes

section Queries

def formText (text : String) : List Char :=
  (utf8 text).flatMap formByte

def formPair (pair : String × String) : List Char :=
  formText pair.1 ++ '=' :: formText pair.2

def formQuery (pairs : List (String × String)) : List Char :=
  ['&'].intercalate (pairs.map formPair)

/-- The pairs of a query. Bytes that are no text are read by `lossy`. -/
def formPairs (lossy : List UInt8 → String) (query : List Char) : List (String × String) :=
  ((query.splitOn '&').filter (!·.isEmpty)).map fun sequence =>
    match splitOnce '=' sequence with
    | some (name, value) => (lossy (formBytes name), lossy (formBytes value))
    | none => (lossy (formBytes sequence), lossy [])

theorem formText_free (text : String) {separator : Char} (listed : separator ∈ ['&', '=', '#']) :
    separator ∉ formText text := by
  intro member
  obtain ⟨byte, -, spelt⟩ := List.mem_flatMap.mp member
  exact formByte_free byte separator listed spelt

theorem formPair_free (pair : String × String) {separator : Char}
    (listed : separator ∈ ['&', '#']) : separator ∉ formPair pair := by
  have other : separator ≠ '=' := by
    rintro rfl
    exact absurd listed (by decide)
  have either : separator ∈ ['&', '=', '#'] := by simp_all
  simp only [formPair, List.mem_append, List.mem_cons, not_or]
  exact ⟨formText_free pair.1 either, other, formText_free pair.2 either⟩

/-- **A written query is read back.** -/
theorem formPairs_formQuery {lossy : List UInt8 → String} (exact : ∀ text, lossy (utf8 text) = text)
    (pairs : List (String × String)) :
    formPairs lossy (formQuery pairs) = pairs := by
  have read : ∀ pair : String × String, (match splitOnce '=' (formPair pair) with
      | some (name, value) => (lossy (formBytes name), lossy (formBytes value))
      | none => (lossy (formBytes (formPair pair)), lossy [])) = pair := by
    rintro ⟨name, value⟩
    have split : splitOnce '=' (formPair (name, value)) = some (formText name, formText value) := by
      refine splitOnce_append ?_
      rintro c member rfl
      exact formText_free name (by decide) member
    simp only [split, formText, formBytes_flatMap, exact]
  have full : (pairs.map formPair).filter (!·.isEmpty) = pairs.map formPair := by
    rw [List.filter_eq_self]
    intro sequence member
    obtain ⟨pair, -, rfl⟩ := List.mem_map.mp member
    simp [formPair]
  cases pairs with
  | nil => rfl
  | cons pair pairs =>
    have separated : (formQuery (pair :: pairs)).splitOn '&' = (pair :: pairs).map formPair := by
      refine List.splitOn_intercalate _ ?_ (by simp)
      intro sequence member
      obtain ⟨pair, -, rfl⟩ := List.mem_map.mp member
      exact formPair_free pair (by decide)
    rw [formPairs, separated, full, List.map_map]
    exact List.map_id'' read (pair :: pairs)

end Queries

end WalletEngine
