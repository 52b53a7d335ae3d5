import Mathlib.Data.List.TakeWhile
import WalletEngine.Wallet.Mnemonic

/-! # Recovery phrases that are entered

A phrase is entered as a list of texts. Import joins them and splits the whole at white space;
the detection of schemes takes every text for one word. -/

namespace WalletEngine

def bip3924WordCount : Nat := 24
def bip3924EntropyLen : Nat := 32

/-- What detection needs besides the word list. Lower-casing changes no white space and leaves
no text empty that was not. -/
structure SchemeServices extends MnemonicServices where
  /-- The check of a legacy phrase without a password. -/
  isTonMnemonic : List String → Bool
  lowercase_solid : ∀ {word}, (toLowercase word).toList ≠ [] ∧
    (∀ c ∈ (toLowercase word).toList, isWhiteSpace c = false) →
      word.toList ≠ [] ∧ ∀ c ∈ word.toList, isWhiteSpace c = false

section Detection

variable (services : SchemeServices)

/-- A phrase of 24 words with its eight checksum bits. -/
def isBip3924Phrase (words : List String) : Bool :=
  words.length == bip3924WordCount &&
    match words.mapM fun word => wordIndex services.toMnemonicServices
        (normalizeWord services.toMnemonicServices word.toList) with
    | none => false
    | some values =>
      let packed := writeFields (List.replicate (bip3924EntropyLen + 1) 0) 0 bitsPerWord values
      packed.getD bip3924EntropyLen 0 ==
        checksumByte services.toMnemonicServices (packed.take bip3924EntropyLen)

end Detection

section Import

variable (services : MnemonicServices)

variable {services}

end Import

section Words

variable {services : MnemonicServices}

end Words

section Agreement

variable {services : SchemeServices}

end Agreement

end WalletEngine
