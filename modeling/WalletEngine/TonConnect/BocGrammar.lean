import WalletEngine.TonConnect.CellBoc
import Mathlib.Data.List.Induction

/-! # The form of a bag of cells

The parts of a file as they are written one after the other, and what the validator's readers
take for its smallest parts. -/

namespace WalletEngine

variable {word : Nat}

section Readers

variable {before after : BocReader word}

theorem BocReader.take_returns {length : Nat} {slice : Slice word} :
    (BocReader.take length).run before = .ok slice after ↔
      slice.bytes.length = length ∧ before.Moves slice.bytes after := by
  have addressable := before.addressable
  have bounded := before.bounded
  have stop : checkedAdd word before.position length = if before.position + length < word then
      some (before.position + length) else none := rfl
  change BocReader.take length before = _ ↔ _
  unfold BocReader.take
  by_cases enough : before.position + length ≤ before.items.length
  · have cut : (before.upTo (before.position + length)).bytes = before.rest.take length := by
      change (before.items.take _).drop _ = (before.items.drop _).take _
      rw [List.drop_take, Nat.add_sub_cancel_left]
    have moves := Cursor.moves_skip enough
    rw [stop, if_pos (by omega)]
    simp only [dif_pos enough]
    constructor
    · rintro ⟨⟩
      rw [cut]
      refine ⟨?_, moves⟩
      rw [List.length_take, Cursor.rest, List.length_drop]
      omega
    · rintro ⟨rfl, other⟩
      have same : before.rest.take slice.bytes.length = slice.bytes := by
        rw [other.rest_eq, List.take_left]
      obtain ⟨bytes, short⟩ := slice
      congr 1
      · rw [BocReader.upTo, Slice.mk.injEq]
        exact cut.trans same
      · exact Cursor.ext other.items_eq.symm other.position_eq.symm
  · constructor
    · intro ran
      split at ran
      · cases ran
      · next found =>
          obtain ⟨-, rfl⟩ := checkedAdd_eq_some.mp found
          rw [dif_neg enough] at ran
          cases ran
    · rintro ⟨rfl, other⟩
      have inside := after.bounded
      rw [other.position_eq, other.items_eq] at inside
      exact absurd inside enough

theorem BocReader.byte_returns {byte : UInt8} :
    BocReader.byte.run before = .ok byte after ↔ before.Moves [byte] after := by
  unfold BocReader.byte
  simp only [Call.bind_returns, BocReader.take_returns, Call.require_returns]
  constructor
  · rintro ⟨⟨bytes, _⟩, between, ⟨one, moves⟩, first, rfl⟩
    obtain ⟨only, rfl⟩ := List.length_eq_one_iff.mp one
    cases first
    exact moves
  · intro moves
    have short := after.addressable
    have inside := after.bounded
    rw [moves.position_eq, List.length_singleton] at inside
    exact ⟨⟨[byte], by rw [List.length_singleton]; omega⟩, after, ⟨rfl, moves⟩, rfl, rfl⟩

/-- Folding with checks gives the number that the bytes denote if that is an index. -/
theorem foldlM_unsigned (bytes : List UInt8) (positive : 0 < word) :
    bytes.foldlM (fun value byte => (checkedMul word value 256).bind fun shifted =>
      checkedAdd word shifted byte.toNat) 0 =
    if beValue bytes < word then some (beValue bytes) else none := by
  induction bytes using List.reverseRecOn with
  | nil => exact (if_pos positive).symm
  | append_singleton bytes byte ih =>
    rw [List.foldlM_append, ih, beValue_append_singleton]
    by_cases fits : beValue bytes < word
    · rw [if_pos fits]
      change ((checkedMul word (beValue bytes) 256).bind fun shifted =>
        checkedAdd word shifted byte.toNat).bind pure = _
      unfold checkedMul checkedAdd
      by_cases shifted : beValue bytes * 256 < word
      · rw [if_pos shifted, Option.bind_some]
        exact Option.bind_fun_some _
      · have beyond : ¬ beValue bytes * 256 + byte.toNat < word :=
          fun small => shifted (Nat.lt_of_le_of_lt (Nat.le_add_right _ _) small)
        rw [if_neg shifted, if_neg beyond]
        rfl
    · have beyond : ¬ beValue bytes * 256 + byte.toNat < word := by omega
      rw [if_neg fits, if_neg beyond]
      rfl

theorem BocReader.unsigned_returns {width value : Nat} :
    (BocReader.unsigned width).run before = .ok value after ↔
      (value < 256 ^ width ∧ value < word) ∧ before.Moves (beBytes width value) after := by
  have positive : 0 < word := Nat.lt_of_le_of_lt (Nat.zero_le _) before.addressable
  unfold BocReader.unsigned
  simp only [Call.bind_returns, BocReader.take_returns, Call.require_returns,
    foldlM_unsigned _ positive]
  constructor
  · rintro ⟨⟨bytes, _⟩, between, ⟨rfl, moves⟩, found, rfl⟩
    split at found
    · next fits =>
        cases found
        exact ⟨⟨beValue_lt bytes, fits⟩, (beBytes_beValue bytes).symm ▸ moves⟩
    · cases found
  · rintro ⟨⟨small, fits⟩, moves⟩
    have short : (beBytes width value).length < word := by
      have addressable := after.addressable
      have inside := after.bounded
      rw [moves.position_eq] at inside
      omega
    refine ⟨⟨beBytes width value, short⟩, after, ⟨length_beBytes _ _, moves⟩, ?_, rfl⟩
    rw [beValue_beBytes small, if_pos fits]

theorem BocReader.ensureEmpty_returns :
    BocReader.ensureEmpty.run before = .ok () after ↔ before.AtEnd ∧ after = before := by
  rw [BocReader.ensureEmpty, Call.get_bind_returns, Call.ensure_returns]

section Sequences

variable {β : Type} {value : β}

theorem BocReader.take_bind_returns {length : Nat} {next : Slice word → Reading word β} :
    (BocReader.take length >>= next).run before = .ok value after ↔
      ∃ slice between, (slice.bytes.length = length ∧ before.Moves slice.bytes between) ∧
        (next slice).run between = .ok value after := by
  simp only [Call.bind_returns, BocReader.take_returns]

theorem BocReader.byte_bind_returns {next : UInt8 → Reading word β} :
    (BocReader.byte >>= next).run before = .ok value after ↔
      ∃ byte between, before.Moves [byte] between ∧
        (next byte).run between = .ok value after := by
  simp only [Call.bind_returns, BocReader.byte_returns]

theorem BocReader.unsigned_bind_returns {width : Nat} {next : Nat → Reading word β} :
    (BocReader.unsigned width >>= next).run before = .ok value after ↔
      ∃ number between, ((number < 256 ^ width ∧ number < word) ∧
        before.Moves (beBytes width number) between) ∧
        (next number).run between = .ok value after := by
  simp only [Call.bind_returns, BocReader.unsigned_returns]

end Sequences

end Readers

section Bytes

/-- The first byte of a cell. -/
def packDescriptor (references : Nat) (exotic hashes : Bool) (levelMask : Fin 8) : UInt8 :=
  UInt8.ofNat (references + 8 * exotic.toNat + 16 * hashes.toNat + 32 * levelMask.val)

theorem packDescriptor_fields {references : Nat} (few : references < 8) (exotic hashes : Bool)
    (levelMask : Fin 8) :
    (packDescriptor references exotic hashes levelMask &&& 0x07).toNat = references ∧
      (packDescriptor references exotic hashes levelMask &&& 0x08 ≠ 0 ↔ exotic = true) ∧
      (packDescriptor references exotic hashes levelMask &&& 0x10 ≠ 0 ↔ hashes = true) ∧
      packDescriptor references exotic hashes levelMask >>> 5 = UInt8.ofNat levelMask := by
  revert levelMask hashes exotic
  obtain ⟨references, rfl⟩ : ∃ small : Fin 8, references = small.val := ⟨⟨references, few⟩, rfl⟩
  revert references
  decide +kernel

theorem exists_packDescriptor (byte : UInt8) : ∃ references < 8, ∃ exotic hashes levelMask,
    byte = packDescriptor references exotic hashes levelMask := by
  refine ⟨(byte &&& 0x07).toNat, ?_, byte &&& 0x08 != 0, byte &&& 0x10 != 0,
    Fin.ofNat 8 (byte >>> 5).toNat, ?_⟩ <;>
  · revert byte
    exact forall_byte (by decide +kernel)

/-- The second byte of a cell: twice the number of data bytes, less one if the last of them is
not whole. -/
def packBits (length : Nat) (whole : Bool) : UInt8 :=
  UInt8.ofNat (2 * length - (!whole).toNat)

theorem packBits_fields {length : Nat} {whole : Bool} (short : 2 * length - (!whole).toNat < 256)
    (nonempty : whole = false → 0 < length) :
    (packBits length whole >>> 1).toNat + (packBits length whole &&& 1).toNat = length ∧
      (packBits length whole &&& 1 ≠ 0 ↔ whole = false) := by
  have small : length < 129 := by
    have bit := (!whole).toNat_le
    omega
  revert whole
  obtain ⟨length, rfl⟩ : ∃ value : Fin 129, length = value.val := ⟨⟨length, small⟩, rfl⟩
  clear small
  revert length
  decide +kernel

theorem exists_packBits (byte : UInt8) : ∃ length whole,
    2 * length - (!whole).toNat < 256 ∧ (whole = false → 0 < length) ∧
      byte = packBits length whole := by
  refine ⟨(byte >>> 1).toNat + (byte &&& 1).toNat, byte &&& 1 == 0, ?_⟩
  revert byte
  exact forall_byte (by decide +kernel)

/-- The flags and the width of references. -/
def packHeader (hasIndex hasCrc32c hasCacheBits : Bool) (referenceBytes : Nat) : UInt8 :=
  UInt8.ofNat (128 * hasIndex.toNat + 64 * hasCrc32c.toNat + 32 * hasCacheBits.toNat +
    referenceBytes)

theorem packHeader_fields {referenceBytes : Nat} (narrow : referenceBytes < 8)
    (hasIndex hasCrc32c hasCacheBits : Bool) :
    (packHeader hasIndex hasCrc32c hasCacheBits referenceBytes &&& 0x80 != 0) = hasIndex ∧
      (packHeader hasIndex hasCrc32c hasCacheBits referenceBytes &&& 0x40 != 0) = hasCrc32c ∧
      packHeader hasIndex hasCrc32c hasCacheBits referenceBytes &&& 0x18 = 0 ∧
      (packHeader hasIndex hasCrc32c hasCacheBits referenceBytes &&& 0x07).toNat =
        referenceBytes := by
  revert hasIndex hasCrc32c hasCacheBits
  obtain ⟨width, rfl⟩ : ∃ small : Fin 8, referenceBytes = small.val := ⟨⟨_, narrow⟩, rfl⟩
  revert width
  decide +kernel

theorem packHeader_eq (byte : UInt8) (reserved : byte &&& 0x18 = 0) :
    byte = packHeader (byte &&& 0x80 != 0) (byte &&& 0x40 != 0) (byte &&& 0x20 != 0)
      (byte &&& 0x07).toNat := by
  revert byte
  exact forall_byte (by decide +kernel)

end Bytes

section Grammar

/-- The layouts of exotic cells: their data and the number of their references. -/
inductive ExoticLayout (levelMask : Fin 8) : List UInt8 → Nat → Prop
  | prunedBranch (hashes : List UInt8) (depths : List Nat) :
      levelMask ≠ 0 → hashes.length = countOnes (UInt8.ofNat levelMask) * 32 →
      depths.length = countOnes (UInt8.ofNat levelMask) → (∀ depth ∈ depths, depth ≤ 1024) →
        ExoticLayout levelMask
          (1 :: UInt8.ofNat levelMask :: (hashes ++ depths.flatMap (beBytes 2))) 0
  | library (hash : List UInt8) : hash.length = 32 → ExoticLayout levelMask (2 :: hash) 0
  | merkleProof (proof : List UInt8) : proof.length = 34 → ExoticLayout levelMask (3 :: proof) 1
  | merkleUpdate (update : List UInt8) : update.length = 68 →
      ExoticLayout levelMask (4 :: update) 2

/-- A cell with its parts in the order in which they are written. -/
structure SerializedCell where
  levelMask : Fin 8
  exotic : Bool
  hashes : Option (List UInt8)
  whole : Bool
  data : List UInt8
  references : List Nat

namespace SerializedCell

variable (cell : SerializedCell)

def write (referenceBytes : Nat) : List UInt8 :=
  [packDescriptor cell.references.length cell.exotic cell.hashes.isSome cell.levelMask] ++
    ([packBits cell.data.length cell.whole] ++ (cell.hashes.getD [] ++ (cell.data ++
      cell.references.flatMap (beBytes referenceBytes))))

/-- What is asked of the cell with the given index among so many. -/
structure WellFormed (cells index : Nat) : Prop where
  few : cell.references.length ≤ 4
  forward : ∀ reference ∈ cell.references, index < reference ∧ reference < cells
  hashed : ∀ hashes ∈ cell.hashes,
    hashes.length = (countOnes (UInt8.ofNat cell.levelMask) + 1) * 34
  short : 2 * cell.data.length - (!cell.whole).toNat < 256
  tagged : cell.whole = false → ∃ tag ∈ cell.data.getLast?, tag ≠ 0
  layout : cell.exotic = true →
    cell.whole = true ∧ ExoticLayout cell.levelMask cell.data cell.references.length

end SerializedCell

/-- Where words end that are written one after the other. -/
def ends (start : Nat) : List (List UInt8) → List Nat
  | [] => []
  | first :: later => (start + first.length) :: ends (start + first.length) later

/-- A whole file. -/
structure SerializedBoc where
  hasIndex : Bool
  hasCrc32c : Bool
  hasCacheBits : Bool
  referenceBytes : Nat
  offsetBytes : Nat
  root : Nat
  cells : List SerializedCell

namespace SerializedBoc

variable (boc : SerializedBoc)

def words : List (List UInt8) :=
  boc.cells.map (SerializedCell.write · boc.referenceBytes)

/-- The size of all cells. -/
def cellBytes : Nat :=
  boc.words.flatten.length

def writeHeader : List UInt8 :=
  [0xb5, 0xee, 0x9c, 0x72] ++
    ([packHeader boc.hasIndex boc.hasCrc32c boc.hasCacheBits boc.referenceBytes] ++
    ([UInt8.ofNat boc.offsetBytes] ++ (beBytes boc.referenceBytes boc.cells.length ++
    (beBytes boc.referenceBytes 1 ++ (beBytes boc.referenceBytes 0 ++
    (beBytes boc.offsetBytes boc.cellBytes ++ beBytes boc.referenceBytes boc.root))))))

def writeIndex : List UInt8 :=
  if boc.hasIndex then (ends 0 boc.words).flatMap (beBytes boc.offsetBytes) else []

/-- Everything but the checksum. -/
def covered : List UInt8 :=
  boc.writeHeader ++ (boc.writeIndex ++ boc.words.flatten)

def write (crc32c : List UInt8 → UInt32) : List UInt8 :=
  boc.covered ++ if boc.hasCrc32c then leBytes 4 (crc32c boc.covered).toNat else []

/-- A file for a machine with so many indices. The longest path over all cells, under the root
or not, has at most 1024 references. -/
structure WellFormed (word : Nat) : Prop where
  referenceBytes : 1 ≤ boc.referenceBytes ∧ boc.referenceBytes ≤ 4
  offsetBytes : 1 ≤ boc.offsetBytes ∧ boc.offsetBytes ≤ 8
  counted : boc.cells.length < 256 ^ boc.referenceBytes
  sized : boc.cellBytes < 256 ^ boc.offsetBytes
  fits : boc.cellBytes < word
  root : boc.root < boc.cells.length
  cells : ∀ entry ∈ boc.cells.zipIdx, entry.1.WellFormed boc.cells.length entry.2
  shallow : ∀ length first last,
    Walk (boc.cells.map SerializedCell.references) length first last → length ≤ 1024

end SerializedBoc

end Grammar

section Exotic

theorem depthsAreValid_iff {bytes : List UInt8} {count : Nat} :
    bytes.length = count * depthBytes ∧ depthsAreValid bytes = true ↔
      ∃ depths : List Nat, depths.length = count ∧ (∀ depth ∈ depths, depth ≤ 1024) ∧
        bytes = depths.flatMap (beBytes 2) := by
  induction count generalizing bytes with
  | zero =>
    rw [Nat.zero_mul, List.length_eq_zero_iff]
    constructor
    · rintro ⟨rfl, -⟩
      exact ⟨[], rfl, nofun, rfl⟩
    · rintro ⟨depths, none, -, rfl⟩
      rw [List.length_eq_zero_iff.mp none]
      exact ⟨rfl, rfl⟩
  | succ count ih =>
    constructor
    · rintro ⟨length, valid⟩
      match bytes, length, valid with
      | [], length, _ => simp [depthBytes] at length
      | [only], length, _ => simp only [List.length_singleton, depthBytes] at length; omega
      | high :: low :: rest, length, valid =>
        rw [depthsAreValid, Bool.and_eq_true, decide_eq_true_iff] at valid
        have others : rest.length = count * depthBytes := by
          simp only [List.length_cons, depthBytes] at length ⊢
          omega
        obtain ⟨depths, counted, small, rfl⟩ := ih.mp ⟨others, valid.2⟩
        refine ⟨beValue [high, low] :: depths, ?_, ?_, ?_⟩
        · rw [List.length_cons, counted]
        · exact List.forall_mem_cons.mpr ⟨valid.1, small⟩
        · rw [List.flatMap_cons]
          have pair := beBytes_beValue [high, low]
          rw [show [high, low].length = 2 from rfl] at pair
          rw [pair]
          rfl
    · rintro ⟨depths, counted, small, rfl⟩
      obtain ⟨depth, depths, rfl⟩ := List.exists_cons_of_length_eq_add_one counted
      obtain ⟨first, others⟩ := List.forall_mem_cons.mp small
      obtain ⟨length, valid⟩ := ih.mpr ⟨depths, Nat.succ.inj counted, others, rfl⟩
      have pair : beBytes 2 depth = [UInt8.ofNat (depth / 256), UInt8.ofNat depth] := rfl
      have value : beValue (beBytes 2 depth) = depth := beValue_beBytes (by omega)
      rw [pair] at value
      rw [List.flatMap_cons, pair]
      refine ⟨?_, ?_⟩
      · simp only [depthBytes] at length ⊢
        rw [List.length_append, length]
        simp only [List.length_cons, List.length_nil]
        omega
      · change (decide _ && _) = true
        rw [value, Bool.and_eq_true, decide_eq_true_iff]
        exact ⟨first, valid⟩

/-- The hashes of a pruned branch come first, and its depths are the rest. -/
theorem prunedBranchIsValid_cons {kind mask levelMask : UInt8} {rest : List UInt8}
    (addressable : rest.length + 2 < word) :
    prunedBranchIsValid word levelMask (kind :: mask :: rest) = true ↔
      (mask ≠ 0 ∧ mask = levelMask) ∧ countOnes mask * 32 ≤ rest.length ∧
        (rest.drop (countOnes mask * 32)).length = countOnes mask * depthBytes ∧
        depthsAreValid (rest.drop (countOnes mask * 32)) = true := by
  rw [prunedBranchIsValid]
  simp only [typeBytes, List.getElem?_cons_succ, List.getElem?_cons_zero]
  by_cases agrees : mask ≠ 0 ∧ mask = levelMask
  · rw [if_neg (by rw [not_or, not_not]; exact agrees), and_iff_right agrees]
    by_cases inside : countOnes mask * 32 ≤ rest.length
    · have start : ((checkedMul word (countOnes mask) hashBytes).bind fun hashes =>
          checkedAdd word hashes prunedBranchHeaderBytes) = some (countOnes mask * 32 + 2) := by
        refine Option.bind_eq_some_iff.mpr ⟨countOnes mask * 32, ?_, ?_⟩
        · exact checkedMul_eq_some.mpr ⟨by simp only [hashBytes]; omega, rfl⟩
        · exact checkedAdd_eq_some.mpr
            ⟨by simp only [prunedBranchHeaderBytes, typeBytes]; omega, rfl⟩
      have cut : countOnes mask * 32 + 2 ≤ (kind :: mask :: rest).length := by
        simp only [List.length_cons]
        omega
      rw [start, Option.bind_some, if_pos cut, and_iff_right inside]
      simp only [List.drop_succ_cons, Bool.and_eq_true, decide_eq_true_iff, checkedMul_eq_some]
      refine and_congr_left fun _ => and_iff_right_of_imp fun length => ?_
      rw [← length, List.length_drop]
      omega
    · rw [Option.bind_eq_none_iff.mpr]
      · simp [inside]
      · intro start started
        obtain ⟨hashes, multiplied, added⟩ := Option.bind_eq_some_iff.mp started
        obtain ⟨-, rfl⟩ := checkedMul_eq_some.mp multiplied
        obtain ⟨-, rfl⟩ := checkedAdd_eq_some.mp added
        refine if_neg ?_
        simp only [List.length_cons, hashBytes, prunedBranchHeaderBytes, typeBytes]
        omega
  · rw [if_pos ((not_and_or.mp agrees).imp_left not_not.mp)]
    simp [agrees]

theorem prunedBranchIsValid_iff {levelMask : Fin 8} {data : List UInt8}
    (addressable : data.length < word) :
    data.head? = some prunedBranch ∧
        prunedBranchIsValid word (UInt8.ofNat levelMask) data = true ↔
      ∃ (hashes : List UInt8) (depths : List Nat), levelMask ≠ 0 ∧
        hashes.length = countOnes (UInt8.ofNat levelMask) * 32 ∧
        depths.length = countOnes (UInt8.ofNat levelMask) ∧ (∀ depth ∈ depths, depth ≤ 1024) ∧
        data = 1 :: UInt8.ofNat levelMask :: (hashes ++ depths.flatMap (beBytes 2)) := by
  have zero : ∀ mask : Fin 8, UInt8.ofNat mask ≠ 0 ↔ mask ≠ 0 := by decide
  constructor
  · rintro ⟨type, valid⟩
    match data, type, valid with
    | kind :: [], _, valid => simp [prunedBranchIsValid, typeBytes] at valid
    | kind :: mask :: rest, type, valid =>
      cases type
      obtain ⟨⟨present, rfl⟩, inside, length, valid⟩ :=
        (prunedBranchIsValid_cons addressable).mp valid
      obtain ⟨depths, counted, small, same⟩ := depthsAreValid_iff.mp ⟨length, valid⟩
      refine ⟨rest.take (countOnes (UInt8.ofNat levelMask) * 32), depths,
        (zero levelMask).mp present, List.length_take_of_le inside, counted, small, ?_⟩
      rw [← same, List.take_append_drop]
      rfl
  · rintro ⟨hashes, depths, present, hashed, counted, small, rfl⟩
    obtain ⟨length, valid⟩ := depthsAreValid_iff.mpr ⟨depths, counted, small, rfl⟩
    refine ⟨rfl, (prunedBranchIsValid_cons addressable).mpr
      ⟨⟨(zero levelMask).mpr present, rfl⟩, ?_⟩⟩
    rw [← hashed, List.drop_left, List.length_append]
    exact ⟨Nat.le_add_right _ _, length, valid⟩

/-- A list behind its first element. -/
theorem head?_and_length_iff {first : UInt8} {data : List UInt8} {length : Nat} :
    data.head? = some first ∧ data.length = 1 + length ↔
      ∃ rest, rest.length = length ∧ data = first :: rest := by
  constructor
  · rintro ⟨head, counted⟩
    obtain ⟨rest, rfl⟩ := List.head?_eq_some_iff.mp head
    exact ⟨rest, by rw [List.length_cons] at counted; omega, rfl⟩
  · rintro ⟨rest, rfl, rfl⟩
    exact ⟨rfl, by rw [List.length_cons, Nat.add_comm]⟩

theorem exoticLayoutIsValid_iff {levelMask : Fin 8} {bitsDescriptor : UInt8} {data : List UInt8}
    {references : Nat} (addressable : data.length < word) :
    exoticLayoutIsValid word (UInt8.ofNat levelMask) bitsDescriptor data references = true ↔
      bitsDescriptor &&& 1 = 0 ∧ ExoticLayout levelMask data references := by
  rw [exoticLayoutIsValid]
  by_cases whole : bitsDescriptor &&& 1 = 0
  · rw [if_neg (not_not.mpr whole)]
    simp only [whole, true_and]
    constructor
    · intro valid
      split at valid
      · next pruned =>
          obtain ⟨hashes, depths, present, hashed, counted, small, rfl⟩ :=
            (prunedBranchIsValid_iff addressable).mp ⟨pruned.1, valid⟩
          rw [pruned.2]
          exact .prunedBranch hashes depths present hashed counted small
      split at valid
      · next kind =>
          obtain ⟨hash, counted, rfl⟩ := head?_and_length_iff.mp ⟨kind.1, of_decide_eq_true valid⟩
          rw [kind.2]
          exact .library hash counted
      split at valid
      · next kind =>
          obtain ⟨proof, counted, rfl⟩ := head?_and_length_iff.mp
            ⟨kind.1, (of_decide_eq_true valid : data.length = 1 + 34)⟩
          rw [kind.2]
          exact .merkleProof proof counted
      split at valid
      · next kind =>
          obtain ⟨update, counted, rfl⟩ := head?_and_length_iff.mp
            ⟨kind.1, (of_decide_eq_true valid : data.length = 1 + 68)⟩
          rw [kind.2]
          exact .merkleUpdate update counted
      · cases valid
    · intro layout
      cases layout with
      | prunedBranch hashes depths present hashed counted small =>
        obtain ⟨kind, valid⟩ := (prunedBranchIsValid_iff addressable).mpr
          ⟨hashes, depths, present, hashed, counted, small, rfl⟩
        rw [if_pos ⟨kind, rfl⟩, valid]
      | library hash counted =>
        rw [if_neg (by simp [prunedBranch]), if_pos ⟨rfl, rfl⟩]
        simp [counted, libraryBytes, typeBytes, hashBytes]
      | merkleProof proof counted =>
        rw [if_neg (by simp), if_neg (by simp), if_pos ⟨rfl, rfl⟩]
        simp [counted, merkleProofBytes, typeBytes, hashBytes, depthBytes]
      | merkleUpdate update counted =>
        rw [if_neg (by simp), if_neg (by simp), if_neg (by simp), if_pos ⟨rfl, rfl⟩]
        simp [counted, merkleUpdateBytes, typeBytes, hashBytes, depthBytes]
  · rw [if_pos whole]
    simp [whole]

end Exotic

end WalletEngine
