import WalletEngine.Data.Bytes
import WalletEngine.Wallet.MnemonicScheme

/-! # Words and their entropy

The words of a half and its entropy determine each other, and the check of a phrase of 24
words is the one its packed bits suggest. -/

namespace WalletEngine

section Halves

variable {services : MnemonicServices}

/-- The index of a listed word fits its field and names the word. -/
theorem wordAt_of_wordValue {word : String} {value : Nat}
    (found : wordValue services word = .ok value) :
    value < 2 ^ bitsPerWord ∧ wordAt services value = .ok word := by
  obtain ⟨inside, same, -⟩ := List.idxOf?_eq_some_iff.mp (option_elim_eq_ok found)
  refine ⟨inside.trans_le (services.sized.le.trans (by decide)), ?_⟩
  rw [wordAt, List.getElem?_eq_getElem inside, same]
  rfl

/-- A byte whose last four bits are clear is its own checksum part. -/
theorem and_checksumMask {byte : UInt8} (clear : ∀ bit < 4, byte.toNat.testBit bit = false) :
    byte &&& checksumMask = byte := by
  have all : ∀ value : Fin 256, (∀ bit < 4, (UInt8.ofNat value).toNat.testBit bit = false) →
      UInt8.ofNat value &&& checksumMask = UInt8.ofNat value := by decide +kernel
  exact @forall_byte (fun byte => (∀ bit < 4, byte.toNat.testBit bit = false) →
    byte &&& checksumMask = byte) all byte clear

/-- Twelve words that decode are those that encode their entropy. -/
theorem entropyWords_of_toEntropy {words : List String} {entropy : List UInt8}
    (counted : words.length = halfWordCount) (decoded : toEntropy services words = .ok entropy) :
    ∃ bytes : Vector UInt8 16, bytes.toList = entropy ∧
      entropyWords services bytes = .ok words := by
  obtain ⟨values, read, decoded⟩ := except_bind_eq_ok.mp decoded
  obtain ⟨checked, ⟨⟩⟩ := except_guard_eq_ok.mp decoded
  have found := (except_mapM_eq_ok.mp read).flip.imp fun _ _ found => wordAt_of_wordValue found
  obtain ⟨small, found⟩ := (List.forall₂_and_left _ _).mp found
  have length : values.length = 12 := found.length_eq.trans counted
  have fits : bitsPerWord * values.length ≤ 8 * (entropyLen + 1) := by rw [length]; decide
  obtain ⟨sized, bits⟩ := writeFields_clear (by decide) fits
  have again := readField_writeFields (by decide) fits small
  rw [length] at bits again
  generalize writeFields (List.replicate (entropyLen + 1) 0) 0 bitsPerWord values = packed
    at checked sized bits again ⊢
  -- The twelve words leave the last four bits of the buffer clear.
  have masked : packed.getD entropyLen 0 &&& checksumMask = packed.getD entropyLen 0 := by
    refine and_checksumMask fun bit low => ?_
    have behind : ¬ 8 * entropyLen + (7 - bit) < bitsPerWord * 12 := by
      unfold entropyLen bitsPerWord
      omega
    have byte : (8 * entropyLen + (7 - bit)) / 8 = entropyLen := by omega
    have place : 7 - (8 * entropyLen + (7 - bit)) % 8 = bit := by omega
    have clear := bits (8 * entropyLen + (7 - bit))
    rwa [decide_eq_false behind, Bool.false_and, bitAt, byte, place] at clear
  rw [masked, not_ne_iff] at checked
  refine ⟨⟨(packed.take entropyLen).toArray, by simp [sized, entropyLen]⟩, rfl, ?_⟩
  have packs : packEntropy services ⟨(packed.take entropyLen).toArray,
      by simp [sized, entropyLen]⟩ = packed := by
    conv_rhs => rw [← take_append_getD sized, checked]
    rfl
  rw [entropyWords, entropyValues, packs, halfWordCount, again]
  exact except_mapM_eq_ok.mpr found

theorem Bip39Half.fromEntropy_eq_ok {entropy : Vector UInt8 16} {half : Bip39Half services} :
    fromEntropy services entropy = .ok half ↔ entropyWords services entropy = .ok half.words := by
  unfold fromEntropy
  split
  · next words encoded =>
      constructor
      · rintro ⟨⟩
        exact encoded
      · exact fun same => congrArg _ (Bip39Half.ext (Except.ok.inj (encoded.symm.trans same)))
  · next error failed => simp [failed]

theorem Bip39Half.words_of_new {words : List (List Char)} {half : Bip39Half services}
    (valid : new services words = .ok half) : half.words = words.map (normalizeWord services) := by
  rw [new, ofWords] at valid
  split at valid
  · split at valid
    · split at valid
      · cases valid
        rfl
      · cases valid
    · cases valid
  · cases valid

end Halves

section Phrases

theorem length_of_mapM {α β : Type} {read : α → Option β} {items : List α} {values : List β}
    (found : items.mapM read = some values) : values.length = items.length := by
  induction items generalizing values with
  | nil =>
    cases found
    rfl
  | cons item items ih =>
    rw [List.mapM_cons] at found
    obtain ⟨_, _, found⟩ := Option.bind_eq_some_iff.mp found
    obtain ⟨rest, ran, ⟨⟩⟩ := Option.bind_eq_some_iff.mp found
    simp [ih ran]

/-- One of the bits that a phrase packs, eleven for each word. -/
def phraseBit (values : List Nat) (position : Nat) : Bool :=
  (values.getD (position / bitsPerWord) 0).testBit (bitsPerWord - 1 - position % bitsPerWord)

/-- A buffer of 33 bytes ends with the checksum of the rest exactly if its bits are those of
some entropy with its checksum. -/
theorem checksum_iff {services : MnemonicServices} {packed : List UInt8}
    (sized : packed.length = bip3924EntropyLen + 1) :
    packed.getD bip3924EntropyLen 0 = checksumByte services (packed.take bip3924EntropyLen) ↔
      ∃ entropy : Vector UInt8 32, ∀ position < 264, bitAt packed position =
        bitAt (entropy.toList ++ [checksumByte services entropy.toList]) position := by
  constructor
  · intro checked
    refine ⟨⟨(packed.take bip3924EntropyLen).toArray, by simp [sized, bip3924EntropyLen]⟩, ?_⟩
    intro position _
    conv_lhs => rw [← take_append_getD sized, checked]
    rfl
  · rintro ⟨entropy, same⟩
    have length : packed.length = (entropy.toList ++ [checksumByte services entropy.toList]).length
        := by simp [sized, bip3924EntropyLen]
    have whole := eq_of_bitAt length fun position inside => same position (by
      rw [sized, bip3924EntropyLen] at inside
      omega)
    simp [whole, bip3924EntropyLen]

theorem isBip3924Phrase_iff {services : SchemeServices} {words : List String} :
    isBip3924Phrase services words = true ↔ words.length = 24 ∧ ∃ values,
      words.mapM (fun word => wordIndex services.toMnemonicServices
        (normalizeWord services.toMnemonicServices word.toList)) = some values ∧
      ∃ entropy : Vector UInt8 32, ∀ position < 264, phraseBit values position = bitAt
        (entropy.toList ++ [checksumByte services.toMnemonicServices entropy.toList]) position := by
  rw [isBip3924Phrase, Bool.and_eq_true, beq_iff_eq, bip3924WordCount]
  refine and_congr_right fun counted => ?_
  cases found : words.mapM fun word => wordIndex services.toMnemonicServices
      (normalizeWord services.toMnemonicServices word.toList) with
  | none => simp
  | some values =>
    have length : values.length = 24 := (length_of_mapM found).trans counted
    have fits : bitsPerWord * values.length ≤ 8 * (bip3924EntropyLen + 1) := by
      rw [length]; decide
    obtain ⟨sized, bits⟩ := writeFields_clear (by decide) fits
    rw [length] at bits
    simp only [Option.some.injEq, exists_eq_left', beq_iff_eq]
    rw [checksum_iff sized]
    refine exists_congr fun entropy => forall₂_congr fun position inside => ?_
    rw [bits, decide_eq_true (by exact inside), Bool.true_and]
    rfl

end Phrases

/-- **Words and entropy.** Encoding and decoding are inverse to each other; so accepted phrases
have the same entropy exactly if their normalized words are equal. A phrase of 24 words is
accepted exactly if its bits are 256 bits and the first byte of their hash. -/
theorem entropy_words_bijective (services : SchemeServices) :
    let given := services.toMnemonicServices
    (∀ entropy : Vector UInt8 16, ∃ half, Bip39Half.fromEntropy given entropy = .ok half ∧
      toEntropy given half.words = .ok entropy.toList) ∧
    (∀ words half, Bip39Half.new given words = .ok half →
      half.words = words.map (normalizeWord given) ∧ ∃ entropy : Vector UInt8 16,
        toEntropy given half.words = .ok entropy.toList ∧
          Bip39Half.fromEntropy given entropy = .ok half) ∧
    (∀ first second one two, Bip39Half.new given first = .ok one →
      Bip39Half.new given second = .ok two →
      (toEntropy given one.words = toEntropy given two.words ↔
        first.map (normalizeWord given) = second.map (normalizeWord given))) ∧
    ∀ words : List String, isBip3924Phrase services words = true ↔
      words.length = 24 ∧ ∃ values,
        words.mapM (fun word => wordIndex given (normalizeWord given word.toList)) = some values ∧
        ∃ entropy : Vector UInt8 32, ∀ position < 264, phraseBit values position =
          bitAt (entropy.toList ++ [checksumByte given entropy.toList]) position := by
  intro given
  have encodes (half : Bip39Half given) : ∃ entropy : Vector UInt8 16,
      toEntropy given half.words = .ok entropy.toList ∧
        entropyWords given entropy = .ok half.words := by
    obtain ⟨_, decoded⟩ := half.checked
    obtain ⟨bytes, rfl, encoded⟩ := entropyWords_of_toEntropy half.counted decoded
    exact ⟨bytes, decoded, encoded⟩
  refine ⟨fun entropy => ?_, fun words half valid => ?_, ?_, fun words => isBip3924Phrase_iff⟩
  · obtain ⟨half, encoded⟩ : ∃ half, Bip39Half.fromEntropy given entropy = .ok half :=
      Bip39Half.fromEntropy_ok entropy
    exact ⟨half, encoded,
      (toEntropy_of_entropyWords (Bip39Half.fromEntropy_eq_ok.mp encoded)).1⟩
  · obtain ⟨entropy, decoded, encoded⟩ := encodes half
    exact ⟨Bip39Half.words_of_new valid, entropy, decoded,
      Bip39Half.fromEntropy_eq_ok.mpr encoded⟩
  · intro first second one two firstValid secondValid
    rw [← Bip39Half.words_of_new firstValid, ← Bip39Half.words_of_new secondValid]
    refine ⟨fun same => ?_, fun same => congrArg _ same⟩
    obtain ⟨entropy, decoded, encoded⟩ := encodes one
    obtain ⟨other, decodedOther, encodedOther⟩ := encodes two
    rw [decoded, decodedOther, Except.ok.injEq, Vector.toList_inj] at same
    rw [same, encodedOther] at encoded
    exact (Except.ok.inj encoded).symm

end WalletEngine
