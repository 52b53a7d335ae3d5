import Mathlib.Data.List.Nodup
import WalletEngine.Data.Bits
import WalletEngine.Data.Except
import WalletEngine.Domain.Basic

/-! # Rotation mnemonics

The two halves of a recovery phrase, each a checksummed phrase of twelve words. A half
carries the proof that it passed the checks, so a phrase that was written from halves
parses again. -/

namespace WalletEngine

def halfWordCount : Nat := 12
def rotationWordCount : Nat := 2 * halfWordCount
def entropyLen : Nat := 16
def wordlistLen : Nat := 2048
def bitsPerWord : Nat := 11
def checksumMask : UInt8 := 0xf0

inductive MnemonicError where
  | wordCount (expected got : Nat)
  | unknownWord
  | checksum
  | rotationWordCount (got : Nat)
  | wordList
  deriving DecidableEq

/-- The word list in index order, the lower-casing of the standard library and the hash. The
words are distinct, lower case and without white space. -/
structure MnemonicServices where
  words : List String
  sized : words.length = wordlistLen
  distinct : words.Nodup
  solid : ∀ word ∈ words, word.toList ≠ [] ∧ ∀ c ∈ word.toList, isWhiteSpace c = false
  toLowercase : String → String
  lowercased : ∀ word ∈ words, toLowercase word = word
  sha256 : List UInt8 → Vector UInt8 32

variable (services : MnemonicServices)

/-- The place of a word in the sorted list, where the source searches by halves. -/
def wordIndex (word : String) : Option Nat :=
  services.words.idxOf? word

/-- The first byte of the hash of the entropy, which holds the checksum. -/
def checksumByte (entropy : List UInt8) : UInt8 :=
  (services.sha256 entropy)[0]

section Words

def wordValue (word : String) : Except MnemonicError Nat :=
  (wordIndex services word).elim (.error .unknownWord) .ok

/-- Decode words into the entropy, verifying the checksum. -/
def toEntropy (words : List String) : Except MnemonicError (List UInt8) := do
  let values ← words.mapM (wordValue services)
  let packed := writeFields (List.replicate (entropyLen + 1) 0) 0 bitsPerWord values
  let entropy := packed.take entropyLen
  let actual := packed.getD entropyLen 0
  if actual &&& checksumMask ≠ checksumByte services entropy &&& checksumMask then
    throw .checksum
  return entropy

/-- The entropy followed by its checksum bits. -/
def packEntropy (entropy : Vector UInt8 16) : List UInt8 :=
  entropy.toList ++ [checksumByte services entropy.toList &&& checksumMask]

def entropyValues (entropy : Vector UInt8 16) : List Nat :=
  (List.range halfWordCount).map fun index =>
    readField (packEntropy services entropy) (index * bitsPerWord) bitsPerWord

def wordAt (value : Nat) : Except MnemonicError String :=
  services.words[value]?.elim (.error .wordList) .ok

/-- The words that encode an entropy. -/
def entropyWords (entropy : Vector UInt8 16) : Except MnemonicError (List String) :=
  (entropyValues services entropy).mapM (wordAt services)

variable {services}

theorem wordIndex_getElem {value : Nat} {word : String} (found : services.words[value]? = some word) :
    wordIndex services word = some value := by
  obtain ⟨inside, rfl⟩ := List.getElem?_eq_some_iff.mp found
  refine List.idxOf?_eq_some_iff.mpr ⟨inside, rfl, fun earlier before same => ?_⟩
  have := (List.Nodup.getElem_inj_iff services.distinct).mp same
  omega

theorem mem_of_wordIndex {word : String} {value : Nat}
    (found : wordIndex services word = some value) : word ∈ services.words := by
  obtain ⟨inside, same, _⟩ := List.idxOf?_eq_some_iff.mp found
  exact same ▸ List.getElem_mem inside

theorem length_packEntropy (entropy : Vector UInt8 16) :
    (packEntropy services entropy).length = entropyLen + 1 := by
  simp [packEntropy, entropyLen]

/-- Behind the twelve words the packed entropy is clear. -/
theorem packEntropy_clear (entropy : Vector UInt8 16) {position : Nat}
    (behind : bitsPerWord * halfWordCount ≤ position) :
    bitAt (packEntropy services entropy) position = false := by
  have masked : ∀ (checksum : UInt8) (bit : Fin 4),
      (checksum &&& checksumMask).toNat.testBit bit = false := by
    intro checksum bit
    have mask : checksumMask.toNat.testBit bit = false := by revert bit; decide
    simp [UInt8.toNat_and, Nat.testBit_and, mask]
  have start : 132 ≤ position := behind
  unfold bitAt
  by_cases last : position / 8 = 16
  · have byte : (packEntropy services entropy).getD 16 0 =
        checksumByte services entropy.toList &&& checksumMask := by
      simp [packEntropy]
    rw [last, byte]
    exact masked _ ⟨7 - position % 8, by omega⟩
  · have beyond : (packEntropy services entropy).length ≤ position / 8 := by
      rw [length_packEntropy, entropyLen]
      omega
    rw [List.getD_eq_getElem?_getD, List.getElem?_eq_none beyond]
    simp

theorem writeFields_entropyValues (entropy : Vector UInt8 16) :
    writeFields (List.replicate (entropyLen + 1) 0) 0 bitsPerWord
      (entropyValues services entropy) = packEntropy services entropy := by
  have sized : (packEntropy services entropy).length = entropyLen + 1 := length_packEntropy entropy
  rw [← sized]
  refine writeFields_readField (by decide) ?_ fun position behind => packEntropy_clear _ behind
  rw [sized]
  decide

theorem wordValue_of_wordAt {value : Nat} {word : String}
    (found : wordAt services value = .ok word) :
    word ∈ services.words ∧ wordValue services word = .ok value := by
  have index := wordIndex_getElem (option_elim_eq_ok found)
  refine ⟨mem_of_wordIndex index, ?_⟩
  rw [wordValue, index]
  rfl

/-- The words that encode an entropy decode to it. -/
theorem toEntropy_of_entropyWords {entropy : Vector UInt8 16} {words : List String}
    (encoded : entropyWords services entropy = .ok words) :
    toEntropy services words = .ok entropy.toList ∧ words.length = halfWordCount ∧
      ∀ word ∈ words, word ∈ services.words := by
  have found := (except_mapM_eq_ok.mp encoded).flip.imp fun _ _ found => wordValue_of_wordAt found
  obtain ⟨listed, found⟩ := (List.forall₂_and_left _ _).mp found
  have entropyPart : (packEntropy services entropy).take entropyLen = entropy.toList := by
    simp [packEntropy, entropyLen]
  have checksumPart : (packEntropy services entropy).getD entropyLen 0 =
      checksumByte services entropy.toList &&& checksumMask := by
    simp [packEntropy, entropyLen]
  refine ⟨?_, ?_, listed⟩
  · simp only [toEntropy, except_mapM_eq_ok.mpr found, bind, Except.bind,
      writeFields_entropyValues, entropyPart, checksumPart, UInt8.and_assoc, UInt8.and_self, ne_eq,
      not_true_eq_false, if_false]
    rfl
  · rw [found.length_eq]
    simp [entropyValues]

/-- Every entropy has its words. -/
theorem entropyWords_ok (entropy : Vector UInt8 16) :
    ∃ words, entropyWords services entropy = .ok words := by
  refine ⟨(entropyValues services entropy).map fun value => services.words.getD value "",
    except_mapM_eq_ok.mpr ?_⟩
  rw [List.forall₂_map_right_iff, List.forall₂_same]
  intro value member
  obtain ⟨index, _, rfl⟩ := List.mem_map.mp member
  have inside : readField (packEntropy services entropy) (index * bitsPerWord) bitsPerWord <
      services.words.length := by
    rw [services.sized]
    exact readField_lt
  simp [wordAt, inside]

end Words

section Phrases

/-- The parts of a text between white space. -/
def splitWhitespace (text : List Char) : List (List Char) :=
  (text.splitOnP isWhiteSpace).filter (!·.isEmpty)

/-- The words joined by single spaces. -/
def joinWords : List String → List Char
  | [] => []
  | [word] => word.toList
  | word :: next :: words => word.toList ++ ' ' :: joinWords (next :: words)

/-- A word that white space does not divide. -/
def Solid (word : String) : Prop :=
  word.toList ≠ [] ∧ ∀ c ∈ word.toList, isWhiteSpace c = false

theorem splitWhitespace_append (first second : List Char) :
    splitWhitespace (first ++ ' ' :: second) = splitWhitespace first ++ splitWhitespace second := by
  have space : isWhiteSpace ' ' = true := by decide
  rw [splitWhitespace, List.splitOnP_append_cons first second space, List.filter_append]
  rfl

/-- The words of joined texts are the words of the texts. -/
theorem splitWhitespace_joinWords (words : List String) :
    splitWhitespace (joinWords words) = words.flatMap fun word => splitWhitespace word.toList := by
  induction words with
  | nil => rfl
  | cons word words ih =>
    cases words with
    | nil => simp [joinWords]
    | cons next words =>
      rw [joinWords, splitWhitespace_append, ih]
      rfl

theorem splitWhitespace_toList {word : String} (solid : Solid word) :
    splitWhitespace word.toList = [word.toList] := by
  rw [splitWhitespace, List.splitOnP_eq_singleton solid.2]
  simp [solid.1]

/-- Joined words split where they were joined. -/
theorem splitWhitespace_join {words : List String} (solid : ∀ word ∈ words, Solid word) :
    splitWhitespace (joinWords words) = words.map String.toList := by
  rw [splitWhitespace_joinWords, List.map_eq_flatMap]
  exact List.flatMap_congr fun word member => splitWhitespace_toList (solid word member)

theorem trim_of_solid {word : String} (solid : Solid word) : trim word.toList = word.toList := by
  have kept : ∀ text : List Char, (∀ c ∈ text, isWhiteSpace c = false) →
      text.dropWhile isWhiteSpace = text := by
    intro text plain
    cases text with
    | nil => rfl
    | cons c text => simp [List.dropWhile, plain c List.mem_cons_self]
  rw [trim, kept _ solid.2, kept _ fun c member => solid.2 c (List.mem_reverse.mp member),
    List.reverse_reverse]

end Phrases

section Halves

def normalizeWord (word : List Char) : String :=
  services.toLowercase (String.ofList (trim word))

/-- One checksummed phrase of twelve words. -/
@[ext] structure Bip39Half where
  words : List String
  counted : words.length = halfWordCount
  listed : ∀ word ∈ words, word ∈ services.words
  checked : ∃ entropy, toEntropy services words = .ok entropy

namespace Bip39Half

/-- Validate twelve normalized words against the list and the checksum. -/
def ofWords (words : List String) : Except MnemonicError (Bip39Half services) :=
  if counted : words.length = halfWordCount then
    if listed : ∀ word ∈ words, word ∈ services.words then
      match checked : toEntropy services words with
      | .ok entropy => .ok ⟨words, counted, listed, entropy, checked⟩
      | .error error => .error error
    else .error .unknownWord
  else .error (.wordCount halfWordCount words.length)

def new (words : List (List Char)) : Except MnemonicError (Bip39Half services) :=
  ofWords services (words.map (normalizeWord services))

/-- Encode entropy into a phrase. -/
def fromEntropy (entropy : Vector UInt8 16) : Except MnemonicError (Bip39Half services) :=
  match encoded : entropyWords services entropy with
  | .ok words =>
    have decoded := toEntropy_of_entropyWords encoded
    .ok ⟨words, decoded.2.1, decoded.2.2, _, decoded.1⟩
  | .error error => .error error

variable {services}

/-- The words joined into a single phrase. -/
def toPhrase (half : Bip39Half services) : List Char :=
  joinWords half.words

theorem solid (half : Bip39Half services) : ∀ word ∈ half.words, Solid word :=
  fun word member => services.solid word (half.listed word member)

theorem normalizeWord_listed {word : String} (listed : word ∈ services.words) :
    normalizeWord services word.toList = word := by
  rw [normalizeWord, trim_of_solid (services.solid word listed), String.ofList_toList,
    services.lowercased word listed]

/-- The words of a half make up that half. -/
theorem new_words (half : Bip39Half services) :
    new services (half.words.map String.toList) = .ok half := by
  have normalized : (half.words.map String.toList).map (normalizeWord services) = half.words := by
    rw [List.map_map]
    conv_rhs => rw [← List.map_id half.words]
    exact List.map_congr_left fun word member => normalizeWord_listed (half.listed word member)
  obtain ⟨entropy, checked⟩ := half.checked
  rw [new, normalized, ofWords, dif_pos half.counted, dif_pos half.listed]
  split
  · rfl
  · rename_i failed
    rw [checked] at failed
    cases failed

/-- Every entropy makes a half. -/
theorem fromEntropy_ok (entropy : Vector UInt8 16) :
    ∃ half : Bip39Half services, fromEntropy services entropy = .ok half := by
  obtain ⟨words, encoded⟩ : ∃ words, entropyWords services entropy = .ok words :=
    entropyWords_ok entropy
  unfold fromEntropy
  split
  · exact ⟨_, rfl⟩
  · rename_i failed
    rw [encoded] at failed
    cases failed

end Bip39Half

end Halves

section Rotation

/-- A phrase of two independent halves. -/
@[ext] structure RotationMnemonic where
  anchor : Bip39Half services
  signing : Bip39Half services

namespace RotationMnemonic

/-- Validate a rotation phrase. Before the first rotation its single half is both. -/
def new (words : List (List Char)) : Except MnemonicError (RotationMnemonic services) := do
  if words.length = halfWordCount then
    let half ← Bip39Half.new services words
    return ⟨half, half⟩
  else if words.length = rotationWordCount then
    let anchor ← Bip39Half.new services (words.take halfWordCount)
    let signing ← Bip39Half.new services (words.drop halfWordCount)
    return ⟨anchor, signing⟩
  else throw (.rotationWordCount words.length)

def parse (phrase : String) : Except MnemonicError (RotationMnemonic services) :=
  new services (splitWhitespace phrase.toList)

variable {services}

/-- The phrase of a single half serves as both. -/
theorem parse_half (half : Bip39Half services) :
    parse services (String.ofList half.toPhrase) = .ok ⟨half, half⟩ := by
  have counted : (half.words.map String.toList).length = halfWordCount := by
    rw [List.length_map, half.counted]
  rw [parse, String.toList_ofList, Bip39Half.toPhrase,
    splitWhitespace_join half.solid, new, if_pos counted, half.new_words]
  rfl

/-- A phrase written from two halves parses into them. -/
theorem parse_halves (anchor signing : Bip39Half services) :
    parse services (String.ofList (anchor.toPhrase ++ ' ' :: signing.toPhrase)) =
      .ok ⟨anchor, signing⟩ := by
  have split : splitWhitespace (anchor.toPhrase ++ ' ' :: signing.toPhrase) =
      anchor.words.map String.toList ++ signing.words.map String.toList := by
    rw [Bip39Half.toPhrase, Bip39Half.toPhrase, splitWhitespace_append,
      splitWhitespace_join anchor.solid, splitWhitespace_join signing.solid]
  have anchorCount : (anchor.words.map String.toList).length = halfWordCount := by
    rw [List.length_map, anchor.counted]
  have whole : (anchor.words.map String.toList ++ signing.words.map String.toList).length =
      rotationWordCount := by
    rw [List.length_append, List.length_map, List.length_map, anchor.counted, signing.counted]
    rfl
  have notHalf : rotationWordCount ≠ halfWordCount := by decide
  rw [parse, String.toList_ofList, split, new, whole, if_neg notHalf, if_pos rfl,
    ← anchorCount, List.take_left, List.drop_left, anchor.new_words, signing.new_words]
  rfl

end RotationMnemonic

end Rotation

section Plain

/-- Three letters that spell out a number below 2048. -/
def plainWord (value : Nat) : String :=
  String.ofList ([value / 256, value / 16 % 16, value % 16].map fun digit => Char.ofNat (97 + digit))

theorem plainWord_inj {first second : Nat} (firstSmall : first < 2048) (secondSmall : second < 2048)
    (same : plainWord first = plainWord second) : first = second := by
  have letters : ∀ left right : Fin 16,
      Char.ofNat (97 + left) = Char.ofNat (97 + right) → left = right := by decide
  have digits := String.ofList_injective same
  simp only [List.map_cons, List.map_nil, List.cons.injEq, and_true] at digits
  have high := letters ⟨first / 256, by omega⟩ ⟨second / 256, by omega⟩ digits.1
  have middle := letters ⟨first / 16 % 16, by omega⟩ ⟨second / 16 % 16, by omega⟩ digits.2.1
  have low := letters ⟨first % 16, by omega⟩ ⟨second % 16, by omega⟩ digits.2.2
  simp only [Fin.mk.injEq] at high middle low
  omega

theorem plainWord_solid {value : Nat} (small : value < 2048) : Solid (plainWord value) := by
  have letters : ∀ digit : Fin 16, isWhiteSpace (Char.ofNat (97 + digit)) = false := by decide
  constructor
  · simp [plainWord]
  · intro c member
    simp only [plainWord, String.toList_ofList, List.mem_map, List.mem_cons, List.not_mem_nil,
      or_false] at member
    obtain ⟨digit, place, rfl⟩ := member
    exact letters ⟨digit, by omega⟩

def plainWords : List String := (List.range 2048).map plainWord

theorem mem_plainWords {word : String} :
    word ∈ plainWords ↔ ∃ value < 2048, plainWord value = word := by
  simp [plainWords]

/-- A word list of three-letter words and a hash that is always zero. -/
def plainMnemonic : MnemonicServices where
  words := plainWords
  sized := by simp [plainWords, wordlistLen]
  distinct := List.Nodup.map_on (fun first firstIn second secondIn => plainWord_inj
    (List.mem_range.mp firstIn) (List.mem_range.mp secondIn)) List.nodup_range
  solid := by
    intro word member
    obtain ⟨value, small, rfl⟩ := mem_plainWords.mp member
    exact plainWord_solid small
  toLowercase := id
  lowercased := fun _ _ => rfl
  sha256 := fun _ => Vector.replicate 32 0

end Plain

end WalletEngine
