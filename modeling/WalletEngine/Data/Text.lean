import Mathlib.Data.List.TakeWhile

/-! # Splitting and replacing in texts

A text is cut at the first separator, and the occurrences of a pattern are replaced from left
to right, an occurrence starting only behind the one before it. -/

namespace WalletEngine

section Split

/-- The texts before and after the first separator. -/
def splitOnce (separator : Char) (chars : List Char) : Option (List Char × List Char) :=
  match chars.dropWhile (· != separator) with
  | _ :: rest => some (chars.takeWhile (· != separator), rest)
  | [] => none

theorem splitOnce_append {separator : Char} {before after : List Char}
    (free : ∀ c ∈ before, c ≠ separator) :
    splitOnce separator (before ++ separator :: after) = some (before, after) := by
  have kept : ∀ c ∈ before, (c != separator) = true := fun c member => by simpa using free c member
  rw [splitOnce, List.dropWhile_append_of_pos kept, List.takeWhile_append_of_pos kept,
    List.dropWhile_cons_of_neg (by simp), List.takeWhile_cons_of_neg (by simp), List.append_nil]

theorem eq_append_of_splitOnce {separator : Char} {chars before after : List Char}
    (found : splitOnce separator chars = some (before, after)) :
    chars = before ++ separator :: after := by
  have whole := List.takeWhile_append_dropWhile (p := (· != separator)) (l := chars)
  unfold splitOnce at found
  split at found
  · next c rest cut =>
      have stopped : (c != separator) = false := by
        have head := List.head_dropWhile_not (· != separator) (by rw [cut]; simp)
        simpa [cut] using head
      obtain rfl : c = separator := by simpa using stopped
      cases found
      rw [← cut, whole]
  · cases found

theorem splitOnce_eq_none_iff {separator : Char} {chars : List Char} :
    splitOnce separator chars = none ↔ ∀ c ∈ chars, c ≠ separator := by
  have whole : chars.dropWhile (· != separator) = [] ↔ ∀ c ∈ chars, c ≠ separator := by
    simp [List.dropWhile_eq_nil_iff]
  rw [← whole, splitOnce]
  cases chars.dropWhile (· != separator) with
  | nil => simp
  | cons c rest => simp

end Split

section Replace

/-- Replace the occurrences of a pattern behind a number of characters that belong to one
already replaced. -/
def replaceFrom (pattern replacement : List Char) : Nat → List Char → List Char
  | _, [] => []
  | skip + 1, _ :: rest => replaceFrom pattern replacement skip rest
  | 0, c :: rest =>
    if pattern.isPrefixOf (c :: rest) then
      replacement ++ replaceFrom pattern replacement (pattern.length - 1) rest
    else c :: replaceFrom pattern replacement 0 rest

/-- Replace every occurrence of a pattern. -/
def replaceText (pattern replacement text : List Char) : List Char :=
  replaceFrom pattern replacement 0 text

variable {pattern replacement : List Char}

theorem replaceFrom_eq (skip : Nat) (text : List Char) :
    replaceFrom pattern replacement skip text =
      replaceText pattern replacement (text.drop skip) := by
  induction text generalizing skip with
  | nil => cases skip <;> rfl
  | cons c text ih =>
    cases skip with
    | zero => rfl
    | succ skip => exact ih skip

/-- An occurrence at the front is replaced whole. -/
theorem replaceText_append (nonempty : pattern ≠ []) (rest : List Char) :
    replaceText pattern replacement (pattern ++ rest) =
      replacement ++ replaceText pattern replacement rest := by
  obtain ⟨c, others, rfl⟩ := List.exists_cons_of_ne_nil nonempty
  have found : (c :: others).isPrefixOf (c :: (others ++ rest)) = true :=
    List.isPrefixOf_iff_prefix.mpr (List.prefix_append (c :: others) rest)
  rw [replaceText, List.cons_append, replaceFrom, if_pos found, replaceFrom_eq]
  simp

/-- A character at which no occurrence starts stays. -/
theorem replaceText_cons {c : Char} {rest : List Char} (other : ¬ pattern <+: c :: rest) :
    replaceText pattern replacement (c :: rest) = c :: replaceText pattern replacement rest := by
  rw [replaceText, replaceFrom, if_neg fun found => other (List.isPrefixOf_iff_prefix.mp found)]
  rfl

/-- A text without the first character of the pattern stays, whatever follows it. -/
theorem replaceText_free {first : Char} {others text : List Char} (free : first ∉ text)
    (rest : List Char) :
    replaceText (first :: others) replacement (text ++ rest) =
      text ++ replaceText (first :: others) replacement rest := by
  induction text with
  | nil => rfl
  | cons c text ih =>
    obtain ⟨differs, free⟩ := List.ne_and_not_mem_of_not_mem_cons free
    rw [List.cons_append, replaceText_cons, ih free, List.cons_append]
    rintro ⟨_, same⟩
    exact differs (List.cons.inj same).1

/-- A pattern of one character is replaced character by character. -/
theorem replaceText_singleton (c : Char) (text : List Char) :
    replaceText [c] replacement text = text.flatMap fun d => if d = c then replacement else [d] := by
  induction text with
  | nil => rfl
  | cons d text ih =>
    rw [List.flatMap_cons, ← ih]
    by_cases same : d = c
    · subst same
      rw [if_pos rfl]
      exact replaceText_append (List.cons_ne_nil d []) text
    · have free : c ∉ [d] := by simpa using Ne.symm same
      rw [if_neg same]
      exact replaceText_free free text

/-- Pieces that are each replaced whole or left alone, whatever follows them. -/
theorem replaceText_flatMap {α : Type} {pieces : List α} {spelling result : α → List Char}
    (apart : ∀ piece ∈ pieces, ∀ rest, replaceText pattern replacement (spelling piece ++ rest) =
      result piece ++ replaceText pattern replacement rest) :
    replaceText pattern replacement (pieces.flatMap spelling) = pieces.flatMap result := by
  induction pieces with
  | nil => rfl
  | cons piece pieces ih =>
    obtain ⟨first, others⟩ := List.forall_mem_cons.mp apart
    rw [List.flatMap_cons, first, ih others, List.flatMap_cons]

end Replace

end WalletEngine
