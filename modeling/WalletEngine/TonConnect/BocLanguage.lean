import WalletEngine.TonConnect.BocGrammar

/-! # The language of the validator

Each reader of the validator takes exactly the words of one part of the grammar, and so the
validator accepts exactly the files that the grammar writes. -/

namespace WalletEngine

variable {word : Nat}

section Cells

variable {before after : BocReader word} {cells referenceBytes : Nat}
variable {cellIndex : Nat} {heights : List Nat} {expectedOffsets : Option (List Nat)}

theorem filter_checkedAdd_eq_some {height child : Nat} :
    (checkedAdd (2 ^ 16) height 1).filter (· ≤ maxCellDepth) = some child ↔
      height + 1 ≤ maxCellDepth ∧ child = height + 1 := by
  rw [Option.filter_eq_some_iff, checkedAdd_eq_some, decide_eq_true_iff]
  constructor
  · rintro ⟨⟨-, rfl⟩, low⟩
    exact ⟨low, rfl⟩
  · rintro ⟨low, rfl⟩
    have bound : maxCellDepth < 2 ^ 16 := by decide
    exact ⟨⟨by omega, rfl⟩, low⟩

/-- The references of a cell are read one after the other; the cell may only have some if it
is not too deep itself. -/
theorem validateReferences_returns (counted : cells < 256 ^ referenceBytes) (indexed : cells < word)
    {height count : Nat} {raised : List Nat} (measured : heights.length = cells) :
    (validateReferences cells referenceBytes cellIndex height count heights).run before =
        .ok raised after ↔
      ∃ references : List Nat, references.length = count ∧
        (∀ reference ∈ references, cellIndex < reference ∧ reference < cells) ∧
        (references ≠ [] → height + 1 ≤ maxCellDepth) ∧
        raised = raise (height + 1) references heights ∧
        before.Moves (references.flatMap (beBytes referenceBytes)) after := by
  induction count generalizing heights before with
  | zero =>
    rw [validateReferences, Call.pure_returns]
    constructor
    · rintro ⟨rfl, rfl⟩
      exact ⟨[], rfl, nofun, fun some => absurd rfl some, rfl, .nil _⟩
    · rintro ⟨references, none, -, -, rfl, moves⟩
      cases List.length_eq_zero_iff.mp none
      exact ⟨rfl, moves.eq_of_nil⟩
  | succ count ih =>
    have slot : ∀ reference, reference < cells → heights[reference]? =
        some (heights[reference]?.getD 0) := by
      intro reference inside
      rw [← measured] at inside
      rw [List.getElem?_eq_getElem inside, Option.getD_some]
    have step : ∀ reference child, reference < cells →
        heights.set reference (max (heights[reference]?.getD 0) child) =
          heights.modify reference (max · child) := by
      intro reference child inside
      rw [List.modify_eq_set_getElem?, slot reference inside]
      rfl
    simp only [validateReferences, Call.bind_returns, BocReader.unsigned_returns,
      Call.ensure_returns, Call.require_returns, filter_checkedAdd_eq_some]
    constructor
    · rintro ⟨reference, between, ⟨-, moves⟩, _, _, ⟨⟨later, inside⟩, rfl⟩, child, _,
        ⟨⟨low, rfl⟩, rfl⟩, old, _, ⟨found, rfl⟩, ran⟩
      rw [slot reference inside, Option.some.injEq] at found
      rw [← found, step reference _ inside] at ran
      obtain ⟨references, length, forward, -, rfl, rest⟩ :=
        (ih (by rw [List.length_modify, measured])).mp ran
      refine ⟨reference :: references, by rw [List.length_cons, length],
        List.forall_mem_cons.mpr ⟨⟨later, inside⟩, forward⟩, fun _ => low, rfl, ?_⟩
      rw [List.flatMap_cons]
      exact moves.trans rest
    · rintro ⟨references, length, forward, low, rfl, moves⟩
      obtain ⟨reference, references, rfl⟩ := List.exists_cons_of_length_eq_add_one length
      obtain ⟨⟨later, inside⟩, others⟩ := List.forall_mem_cons.mp forward
      rw [List.flatMap_cons] at moves
      obtain ⟨between, first, rest⟩ := moves.split
      have low := low (List.cons_ne_nil _ _)
      refine ⟨reference, between, ⟨⟨by omega, by omega⟩, first⟩, (), between,
        ⟨⟨later, inside⟩, rfl⟩, height + 1, between, ⟨⟨low, rfl⟩, rfl⟩,
        heights[reference]?.getD 0, between, ⟨slot reference inside, rfl⟩, ?_⟩
      rw [step reference _ inside]
      exact (ih (by rw [List.length_modify, measured])).mpr
        ⟨references, Nat.succ.inj length, others, fun _ => low, rfl, rest⟩

theorem takeHashes_returns {references : Nat} (few : references < 8) (exotic : Bool)
    {stored : Bool} {levelMask : Fin 8} :
    (takeHashes (packDescriptor references exotic stored levelMask)).run before = .ok () after ↔
      ∃ hashes : Option (List UInt8), hashes.isSome = stored ∧
        (∀ bytes ∈ hashes, bytes.length = (countOnes (UInt8.ofNat levelMask) + 1) * 34) ∧
        before.Moves (hashes.getD []) after := by
  obtain ⟨-, -, flag, level⟩ := packDescriptor_fields few exotic stored levelMask
  rw [takeHashes, level]
  cases stored with
  | false =>
    rw [if_neg (by rw [flag]; exact Bool.false_ne_true), Call.pure_returns]
    constructor
    · rintro ⟨-, rfl⟩
      exact ⟨none, rfl, nofun, .nil _⟩
    · rintro ⟨hashes, absent, -, moves⟩
      cases hashes with
      | none => exact ⟨rfl, moves.eq_of_nil⟩
      | some bytes => cases absent
  | true =>
    rw [if_pos (flag.mpr rfl)]
    simp only [Call.bind_returns, Call.require_returns, BocReader.take_returns,
      Call.pure_returns, checkedAdd_eq_some, checkedMul_eq_some]
    constructor
    · rintro ⟨_, _, ⟨⟨-, rfl⟩, rfl⟩, _, _, ⟨⟨-, rfl⟩, rfl⟩, slice, _, ⟨length, moves⟩, -, rfl⟩
      exact ⟨some slice.bytes, rfl, by rintro _ ⟨⟩; exact length, moves⟩
    · rintro ⟨hashes, present, length, moves⟩
      obtain ⟨bytes, rfl⟩ := Option.isSome_iff_exists.mp present
      have length := length bytes rfl
      have short := moves.length_lt
      rw [Option.getD_some] at short moves
      exact ⟨_, _, ⟨⟨by omega, rfl⟩, rfl⟩, _, _, ⟨⟨by omega, rfl⟩, rfl⟩, ⟨bytes, short⟩, after,
        ⟨length, moves⟩, trivial, rfl⟩

/-- The last byte is there and is a completion tag. -/
theorem all_zero_eq_false_iff {last : Option UInt8} :
    ¬(last.all (· = 0) = true) ↔ ∃ tag ∈ last, tag ≠ 0 := by
  cases last <;> simp

theorem any_ne_eq_false_iff {found : Option Nat} {position : Nat} :
    ¬((found.any (· ≠ position)) = true) ↔ ∀ offset ∈ found, offset = position := by
  cases found <;> simp

/-- Reading a cell is reading one that is well formed, that stands where the index says and
that is not too deep for its references. -/
theorem validateCell_returns (counted : cells < 256 ^ referenceBytes) (indexed : cells < word)
    {raised : List Nat} (measured : heights.length = cells) :
    (validateCell cells referenceBytes expectedOffsets cellIndex heights).run before =
        .ok raised after ↔
      ∃ (cell : SerializedCell) (height : Nat), cell.WellFormed cells cellIndex ∧
        heights[cellIndex]? = some height ∧
        (cell.references ≠ [] → height + 1 ≤ maxCellDepth) ∧
        raised = raise (height + 1) cell.references heights ∧
        before.Moves (cell.write referenceBytes) after ∧
        ∀ offset ∈ expectedOffsets.bind (·[cellIndex]?), offset = after.position := by
  constructor
  · intro ran
    obtain ⟨descriptor, r₁, m₁, ran⟩ := BocReader.byte_bind_returns.mp ran
    obtain ⟨bits, r₂, m₂, ran⟩ := BocReader.byte_bind_returns.mp ran
    obtain ⟨few, ran⟩ := Call.ensure_bind_returns.mp ran
    obtain ⟨height, found, ran⟩ := Call.require_bind_returns.mp ran
    obtain ⟨_, r₃, skipped, ran⟩ := Call.bind_returns.mp ran
    obtain ⟨dataBytes, added, ran⟩ := Call.require_bind_returns.mp ran
    obtain ⟨-, rfl⟩ := checkedAdd_eq_some.mp added
    obtain ⟨data, r₄, ⟨length, m₄⟩, ran⟩ := BocReader.take_bind_returns.mp ran
    obtain ⟨tagged, ran⟩ := Call.ensure_bind_returns.mp ran
    obtain ⟨valid, ran⟩ := Call.ensure_bind_returns.mp ran
    obtain ⟨_, r₅, referring, ran⟩ := Call.bind_returns.mp ran
    obtain ⟨references, referred, forward, low, rfl, m₅⟩ :=
      (validateReferences_returns counted indexed measured).mp referring
    obtain ⟨expected, ran⟩ := Call.ensure_bind_returns.mp (Call.get_bind_returns.mp ran)
    obtain ⟨rfl, rfl⟩ := Call.pure_returns.mp ran
    obtain ⟨count, small, exotic, stored, levelMask, rfl⟩ := exists_packDescriptor descriptor
    obtain ⟨size, whole, short, nonempty, rfl⟩ := exists_packBits bits
    obtain ⟨many, isExotic, -, level⟩ := packDescriptor_fields small exotic stored levelMask
    obtain ⟨sized, partly⟩ := packBits_fields short nonempty
    obtain ⟨hashes, rfl, hashed, m₃⟩ := (takeHashes_returns small exotic).mp skipped
    rw [many] at few referred valid
    rw [sized] at length
    rw [level, isExotic] at valid
    refine ⟨⟨levelMask, exotic, hashes, whole, data.bytes, references⟩, height,
      ⟨?_, forward, hashed, ?_, ?_, ?_⟩, found, low, rfl, ?_, ?_⟩
    · rw [referred]
      exact few
    · rw [length]
      exact short
    · intro some
      exact all_zero_eq_false_iff.mp fun zero => tagged ⟨partly.mpr some, zero⟩
    · intro isExotic
      have valid := eq_true_of_ne_false fun invalid => valid ⟨isExotic, invalid⟩
      obtain ⟨even, layout⟩ := (exoticLayoutIsValid_iff data.addressable).mp valid
      refine ⟨eq_true_of_ne_false fun some => partly.mpr some even, ?_⟩
      rwa [← referred] at layout
    · rw [SerializedCell.write, referred, length]
      exact m₁.trans (m₂.trans (m₃.trans (m₄.trans m₅)))
    · exact any_ne_eq_false_iff.mp expected
  · rintro ⟨cell, height, formed, found, low, rfl, moves, expected⟩
    obtain ⟨levelMask, exotic, hashes, whole, data, references⟩ := cell
    obtain ⟨few, forward, hashed, short, tagged, layout⟩ := formed
    simp only at few forward hashed short tagged layout low
    obtain ⟨r₁, m₁, moves⟩ := moves.split
    obtain ⟨r₂, m₂, moves⟩ := moves.split
    obtain ⟨r₃, m₃, moves⟩ := moves.split
    obtain ⟨r₄, m₄, m₅⟩ := moves.split
    have nonempty : whole = false → 0 < data.length := by
      intro some
      obtain ⟨tag, last, -⟩ := tagged some
      exact List.length_pos_of_mem (List.mem_of_getLast? last)
    have small : references.length < 8 := by omega
    obtain ⟨many, isExotic, -, level⟩ :=
      packDescriptor_fields small exotic hashes.isSome levelMask
    obtain ⟨sized, partly⟩ := packBits_fields short nonempty
    have addressable := m₄.length_lt
    refine BocReader.byte_bind_returns.mpr ⟨_, r₁, m₁, ?_⟩
    refine BocReader.byte_bind_returns.mpr ⟨_, r₂, m₂, ?_⟩
    refine Call.ensure_bind_returns.mpr ⟨by rw [many]; exact few, ?_⟩
    refine Call.require_bind_returns.mpr ⟨height, found, ?_⟩
    refine Call.bind_returns.mpr
      ⟨(), r₃, (takeHashes_returns small exotic).mpr ⟨hashes, rfl, hashed, m₃⟩, ?_⟩
    refine Call.require_bind_returns.mpr
      ⟨data.length, checkedAdd_eq_some.mpr ⟨by rw [sized]; exact addressable, sized.symm⟩, ?_⟩
    refine BocReader.take_bind_returns.mpr ⟨⟨data, addressable⟩, r₄, ⟨rfl, m₄⟩, ?_⟩
    refine Call.ensure_bind_returns.mpr ⟨?_, Call.ensure_bind_returns.mpr ⟨?_, ?_⟩⟩
    · rintro ⟨some, zero⟩
      exact all_zero_eq_false_iff.mpr (tagged (partly.mp some)) zero
    · rintro ⟨flag, invalid⟩
      obtain ⟨even, layout⟩ := layout (isExotic.mp flag)
      rw [level, many] at invalid
      have valid := (exoticLayoutIsValid_iff addressable).mpr
        ⟨not_not.mp fun some => Bool.false_ne_true ((partly.mp some).symm.trans even), layout⟩
      exact Bool.false_ne_true (invalid.symm.trans valid)
    · refine Call.bind_returns.mpr ⟨_, after, (validateReferences_returns counted indexed
        measured).mpr ⟨references, many.symm, forward, low, rfl, m₅⟩, ?_⟩
      refine Call.get_bind_returns.mpr (Call.ensure_bind_returns.mpr ⟨?_, ?_⟩)
      · exact any_ne_eq_false_iff.mpr expected
      · exact Call.pure_returns.mpr ⟨rfl, rfl⟩

/-- Reading cells to the end is reading a list of well formed cells, each at its index, whose
heights pass and whose ends are as expected. -/
theorem validateCellsFrom_returns (counted : cells < 256 ^ referenceBytes) (indexed : cells < word)
    {remaining : Nat} (measured : heights.length = cells)
    (indices : ∀ offsets ∈ expectedOffsets, offsets.length = cellIndex + remaining) :
    (validateCellsFrom cells referenceBytes expectedOffsets remaining cellIndex heights).run before =
        .ok () after ↔
      ∃ list : List SerializedCell, list.length = remaining ∧
        (∀ entry ∈ list.zipIdx cellIndex, entry.1.WellFormed cells entry.2) ∧
        (passHeights maxCellDepth (list.map SerializedCell.references) cellIndex
          heights).isSome = true ∧
        (∀ offsets ∈ expectedOffsets, offsets.drop cellIndex =
          ends before.position (list.map (SerializedCell.write · referenceBytes))) ∧
        before.Moves (list.map (SerializedCell.write · referenceBytes)).flatten after ∧
        after.AtEnd := by
  induction remaining generalizing cellIndex heights before with
  | zero =>
    rw [validateCellsFrom, BocReader.ensureEmpty_returns]
    constructor
    · rintro ⟨ended, rfl⟩
      refine ⟨[], rfl, nofun, rfl, ?_, .nil _, ended⟩
      intro offsets there
      exact List.drop_eq_nil_of_le (Nat.le_of_eq (indices offsets there))
    · rintro ⟨list, none, -, -, -, moves, ended⟩
      cases List.length_eq_zero_iff.mp none
      cases moves.eq_of_nil
      exact ⟨ended, rfl⟩
  | succ remaining ih =>
    have later : ∀ offsets ∈ expectedOffsets, offsets.length = cellIndex + 1 + remaining := by
      intro offsets there
      rw [indices offsets there]
      omega
    have head : ∀ offsets ∈ expectedOffsets, ∃ offset, offsets[cellIndex]? = some offset ∧
        offsets.drop cellIndex = offset :: offsets.drop (cellIndex + 1) := by
      intro offsets there
      have inside : cellIndex < offsets.length := by
        rw [indices offsets there]
        omega
      exact ⟨offsets[cellIndex], List.getElem?_eq_getElem inside, List.drop_eq_getElem_cons inside⟩
    rw [validateCellsFrom]
    constructor
    · intro ran
      obtain ⟨raised, between, first, ran⟩ := Call.bind_returns.mp ran
      obtain ⟨cell, height, formed, found, low, rfl, moves, here⟩ :=
        (validateCell_returns counted indexed measured).mp first
      obtain ⟨list, length, others, passed, ended, rest, atEnd⟩ :=
        (ih (length_raise.trans measured) later).mp ran
      refine ⟨cell :: list, ?_, ?_, ?_, ?_, ?_, atEnd⟩
      · rw [List.length_cons, length]
      · rw [List.zipIdx_cons]
        exact List.forall_mem_cons.mpr ⟨formed, others⟩
      · exact passHeights_cons_isSome.mpr ⟨height, found, low, passed⟩
      · intro offsets there
        obtain ⟨offset, position, cut⟩ := head offsets there
        have place := here offset (Option.bind_eq_some_iff.mpr ⟨offsets, there, position⟩)
        rw [cut, ended offsets there, place, List.map_cons, ends, moves.position_eq]
      · exact moves.trans rest
    · rintro ⟨list, length, formed, passed, ended, moves, atEnd⟩
      obtain ⟨cell, list, rfl⟩ := List.exists_cons_of_length_eq_add_one length
      rw [List.zipIdx_cons] at formed
      obtain ⟨first, others⟩ := List.forall_mem_cons.mp formed
      obtain ⟨between, here, rest⟩ := moves.split
      obtain ⟨height, found, low, passed⟩ := passHeights_cons_isSome.mp passed
      have place : ∀ offsets ∈ expectedOffsets, offsets[cellIndex]? = some between.position ∧
          offsets.drop (cellIndex + 1) =
            ends between.position (list.map (SerializedCell.write · referenceBytes)) := by
        intro offsets there
        obtain ⟨offset, position, cut⟩ := head offsets there
        have whole := ended offsets there
        rw [cut, List.map_cons, ends, ← here.position_eq] at whole
        obtain ⟨rfl, rest⟩ := List.cons.inj whole
        exact ⟨position, rest⟩
      refine Call.bind_returns.mpr ⟨_, between, (validateCell_returns counted indexed measured).mpr
        ⟨cell, height, first, found, low, rfl, here, ?_⟩, ?_⟩
      · intro offset listed
        obtain ⟨offsets, there, position⟩ := Option.bind_eq_some_iff.mp listed
        exact Option.some.inj (position.symm.trans (place offsets there).1)
      · exact (ih (length_raise.trans measured) later).mpr ⟨list, Nat.succ.inj length, others,
          passed, fun offsets there => (place offsets there).2, rest, atEnd⟩

theorem forward_references {list : List SerializedCell}
    (formed : ∀ entry ∈ list.zipIdx, entry.1.WellFormed list.length entry.2) :
    Forward (list.map SerializedCell.references) := by
  intro node targets edges next member
  rw [List.getElem?_map] at edges
  obtain ⟨cell, found, rfl⟩ := Option.map_eq_some_iff.mp edges
  rw [List.length_map]
  exact (formed (cell, node) (List.mem_zipIdx_iff_getElem?.mpr found)).forward next member

/-- The cells of a file are accepted exactly when they are well formed, no path through them is
too long, and the index, if there is one, lists their ends. -/
theorem validateCells_ok_iff (counted : cells < 256 ^ referenceBytes) (indexed : cells < word)
    {slice : Slice word} (indices : ∀ offsets ∈ expectedOffsets, offsets.length = cells) :
    validateCells cells referenceBytes slice expectedOffsets = .ok () ↔
      ∃ list : List SerializedCell, list.length = cells ∧
        (∀ entry ∈ list.zipIdx, entry.1.WellFormed cells entry.2) ∧
        (∀ length first last, Walk (list.map SerializedCell.references) length first last →
          length ≤ maxCellDepth) ∧
        (∀ offsets ∈ expectedOffsets,
          offsets = ends 0 (list.map (SerializedCell.write · referenceBytes))) ∧
        slice.bytes = (list.map (SerializedCell.write · referenceBytes)).flatten := by
  have returns : validateCells cells referenceBytes slice expectedOffsets = .ok () ↔
      ∃ after, (validateCellsFrom cells referenceBytes expectedOffsets cells 0
        (List.replicate cells 0)).run (BocReader.new slice) = .ok () after := by
    rw [validateCells]
    split
    · next ran => exact ⟨fun _ => ⟨_, ran⟩, fun _ => rfl⟩
    · next ran => simp [ran]
  rw [returns]
  simp only [validateCellsFrom_returns counted indexed List.length_replicate
    (fun offsets there => (indices offsets there).trans (Nat.zero_add _).symm)]
  constructor
  · rintro ⟨after, list, rfl, formed, passed, ended, moves, atEnd⟩
    refine ⟨list, rfl, formed, ?_, ended, Cursor.moves_start_atEnd.mp ⟨after, moves, atEnd⟩⟩
    have forward := forward_references formed
    have heights := passHeights_isSome_iff maxCellDepth forward
    rw [List.length_map] at heights
    exact heights.mp passed
  · rintro ⟨list, rfl, formed, shallow, ended, same⟩
    obtain ⟨after, moves, atEnd⟩ := Cursor.moves_start_atEnd.mpr same
    refine ⟨after, list, rfl, formed, ?_, ended, moves, atEnd⟩
    have forward := forward_references formed
    have heights := passHeights_isSome_iff maxCellDepth forward
    rw [List.length_map] at heights
    exact heights.mpr shallow

end Cells

section File

variable {before after : BocReader word}
variable {offsetBytes cellBytes : Nat}

/-- The sequence of counts that a header consists of. -/
structure BocHeader.Valid (word : Nat) (header : BocHeader) (root : Nat) : Prop where
  referenceBytes : 1 ≤ header.referenceBytes ∧ header.referenceBytes ≤ 4
  offsetBytes : 1 ≤ header.offsetBytes ∧ header.offsetBytes ≤ 8
  counted : header.cells < 256 ^ header.referenceBytes
  backed : header.cells ≤ header.cellBytes / 2
  sized : header.cellBytes < 256 ^ header.offsetBytes
  fits : header.cellBytes < word
  root : root < header.cells

def BocHeader.write (header : BocHeader) (hasCacheBits : Bool) (root : Nat) : List UInt8 :=
  [0xb5, 0xee, 0x9c, 0x72] ++
    ([packHeader header.hasIndex header.hasCrc32c hasCacheBits header.referenceBytes] ++
    ([UInt8.ofNat header.offsetBytes] ++ (beBytes header.referenceBytes header.cells ++
    (beBytes header.referenceBytes 1 ++ (beBytes header.referenceBytes 0 ++
    (beBytes header.offsetBytes header.cellBytes ++ beBytes header.referenceBytes root))))))

theorem readHeader_returns {header : BocHeader} :
    readHeader.run before = .ok header after ↔
      ∃ hasCacheBits root, header.Valid word root ∧
        before.Moves (header.write hasCacheBits root) after := by
  constructor
  · intro ran
    obtain ⟨magic, r₁, ⟨-, m₁⟩, ran⟩ := BocReader.take_bind_returns.mp ran
    obtain ⟨generic, ran⟩ := Call.ensure_bind_returns.mp ran
    obtain ⟨byte, r₂, m₂, ran⟩ := BocReader.byte_bind_returns.mp ran
    obtain ⟨⟨reserved, width⟩, ran⟩ := Call.ensure_bind_returns.mp ran
    obtain ⟨offset, r₃, m₃, ran⟩ := BocReader.byte_bind_returns.mp ran
    obtain ⟨offsetWidth, ran⟩ := Call.ensure_bind_returns.mp ran
    obtain ⟨cells, r₄, ⟨⟨counted, -⟩, m₄⟩, ran⟩ := BocReader.unsigned_bind_returns.mp ran
    obtain ⟨roots, r₅, ⟨-, m₅⟩, ran⟩ := BocReader.unsigned_bind_returns.mp ran
    obtain ⟨absent, r₆, ⟨-, m₆⟩, ran⟩ := BocReader.unsigned_bind_returns.mp ran
    obtain ⟨cellBytes, r₇, ⟨⟨sized, fits⟩, m₇⟩, ran⟩ := BocReader.unsigned_bind_returns.mp ran
    obtain ⟨⟨-, single, none, backed⟩, ran⟩ := Call.ensure_bind_returns.mp ran
    obtain ⟨root, r₈, ⟨-, m₈⟩, ran⟩ := BocReader.unsigned_bind_returns.mp ran
    obtain ⟨below, ran⟩ := Call.ensure_bind_returns.mp ran
    obtain ⟨rfl, rfl⟩ := Call.pure_returns.mp ran
    refine ⟨byte &&& 0x20 != 0, root, ⟨width, offsetWidth, counted, backed, sized, fits, below⟩, ?_⟩
    rw [generic] at m₁
    rw [packHeader_eq byte reserved] at m₂
    rw [show offset = UInt8.ofNat offset.toNat from UInt8.ofNat_toNat.symm] at m₃
    rw [single] at m₅
    rw [none] at m₆
    exact m₁.trans (m₂.trans (m₃.trans (m₄.trans (m₅.trans (m₆.trans (m₇.trans m₈))))))
  · rintro ⟨hasCacheBits, root, valid, moves⟩
    obtain ⟨hasIndex, hasCrc32c, referenceBytes, offsetBytes, cells, cellBytes⟩ := header
    obtain ⟨width, offsetWidth, counted, backed, sized, fits, below⟩ := valid
    simp only at width offsetWidth counted backed sized fits below
    obtain ⟨r₁, m₁, moves⟩ := moves.split
    obtain ⟨r₂, m₂, moves⟩ := moves.split
    obtain ⟨r₃, m₃, moves⟩ := moves.split
    obtain ⟨r₄, m₄, moves⟩ := moves.split
    obtain ⟨r₅, m₅, moves⟩ := moves.split
    obtain ⟨r₆, m₆, moves⟩ := moves.split
    obtain ⟨r₇, m₇, m₈⟩ := moves.split
    have narrow : referenceBytes < 8 := by omega
    obtain ⟨isIndexed, isChecked, reserved, referenceWidth⟩ :=
      packHeader_fields narrow hasIndex hasCrc32c hasCacheBits
    have offset : (UInt8.ofNat offsetBytes).toNat = offsetBytes := by
      rw [UInt8.toNat_ofNat']
      omega
    have words : 4 < word := m₁.length_lt
    have one : 1 < 256 ^ referenceBytes := Nat.one_lt_pow (by omega) (by omega)
    refine BocReader.take_bind_returns.mpr ⟨⟨_, m₁.length_lt⟩, r₁, ⟨rfl, m₁⟩, ?_⟩
    refine Call.ensure_bind_returns.mpr ⟨rfl, ?_⟩
    refine BocReader.byte_bind_returns.mpr ⟨_, r₂, m₂, ?_⟩
    refine Call.ensure_bind_returns.mpr ⟨⟨reserved, by rw [referenceWidth]; exact width⟩, ?_⟩
    refine BocReader.byte_bind_returns.mpr ⟨_, r₃, m₃, ?_⟩
    refine Call.ensure_bind_returns.mpr ⟨by rw [offset]; exact offsetWidth, ?_⟩
    rw [isIndexed, isChecked, referenceWidth, offset]
    refine BocReader.unsigned_bind_returns.mpr ⟨_, r₄, ⟨⟨counted, by omega⟩, m₄⟩, ?_⟩
    refine BocReader.unsigned_bind_returns.mpr ⟨_, r₅, ⟨⟨one, by omega⟩, m₅⟩, ?_⟩
    refine BocReader.unsigned_bind_returns.mpr ⟨_, r₆, ⟨⟨by omega, by omega⟩, m₆⟩, ?_⟩
    refine BocReader.unsigned_bind_returns.mpr ⟨_, r₇, ⟨⟨sized, fits⟩, m₇⟩, ?_⟩
    refine Call.ensure_bind_returns.mpr ⟨⟨by omega, rfl, rfl, backed⟩, ?_⟩
    refine BocReader.unsigned_bind_returns.mpr ⟨_, after, ⟨⟨by omega, by omega⟩, m₈⟩, ?_⟩
    refine Call.ensure_bind_returns.mpr ⟨below, ?_⟩
    exact Call.pure_returns.mpr ⟨rfl, rfl⟩

/-- The offsets of an index, in the order in which they are read. -/
theorem readOffsets_reads {remaining previous : Nat} {offsets : List Nat}
    (ran : (readOffsets offsetBytes cellBytes remaining previous).run before = .ok offsets after) :
    offsets.length = remaining ∧ before.Moves (offsets.flatMap (beBytes offsetBytes)) after := by
  induction remaining generalizing previous offsets before with
  | zero =>
    obtain ⟨-, ran⟩ := Call.ensure_bind_returns.mp ran
    obtain ⟨rfl, rfl⟩ := Call.pure_returns.mp ran
    exact ⟨rfl, .nil _⟩
  | succ remaining ih =>
    obtain ⟨offset, between, ⟨-, moves⟩, ran⟩ := BocReader.unsigned_bind_returns.mp ran
    obtain ⟨-, ran⟩ := Call.ensure_bind_returns.mp ran
    obtain ⟨later, middle, rest, ran⟩ := Call.bind_returns.mp ran
    obtain ⟨rfl, rfl⟩ := Call.pure_returns.mp ran
    obtain ⟨length, others⟩ := ih rest
    exact ⟨by rw [List.length_cons, length], moves.trans others⟩

/-- The ends of words that are not empty are accepted as an index. -/
theorem readOffsets_ends {start : Nat} {words : List (List UInt8)}
    (sized : cellBytes < 256 ^ offsetBytes) (fits : cellBytes < word)
    (nonempty : ∀ bytes ∈ words, bytes ≠ []) (total : start + words.flatten.length = cellBytes)
    (moves : before.Moves ((ends start words).flatMap (beBytes offsetBytes)) after) :
    (readOffsets offsetBytes cellBytes words.length start).run before =
      .ok (ends start words) after := by
  induction words generalizing start before with
  | nil =>
    cases moves.eq_of_nil
    exact Call.ensure_bind_returns.mpr ⟨total, Call.pure_returns.mpr ⟨rfl, rfl⟩⟩
  | cons first words ih =>
    obtain ⟨some, others⟩ := List.forall_mem_cons.mp nonempty
    have positive := List.length_pos_of_ne_nil some
    rw [List.flatten_cons, List.length_append] at total
    obtain ⟨between, here, rest⟩ := moves.split
    refine BocReader.unsigned_bind_returns.mpr ⟨_, between, ⟨⟨by omega, by omega⟩, here⟩, ?_⟩
    refine Call.ensure_bind_returns.mpr ⟨⟨by omega, by omega⟩, ?_⟩
    exact Call.bind_returns.mpr ⟨_, after, ih others (by omega) rest,
      Call.pure_returns.mpr ⟨rfl, rfl⟩⟩

theorem readIndex_reads {hasIndex : Bool} {cells : Nat} {expectedOffsets : Option (List Nat)}
    (ran : (readIndex hasIndex cells offsetBytes cellBytes).run before =
      .ok expectedOffsets after) :
    expectedOffsets.isSome = hasIndex ∧ (∀ offsets ∈ expectedOffsets, offsets.length = cells) ∧
      before.Moves ((expectedOffsets.getD []).flatMap (beBytes offsetBytes)) after := by
  cases hasIndex with
  | false =>
    obtain ⟨rfl, rfl⟩ := Call.pure_returns.mp ran
    exact ⟨rfl, nofun, .nil _⟩
  | true =>
    obtain ⟨indexBytes, -, ran⟩ := Call.require_bind_returns.mp ran
    obtain ⟨needed, -, ran⟩ := Call.require_bind_returns.mp ran
    obtain ⟨-, ran⟩ := Call.ensure_bind_returns.mp (Call.get_bind_returns.mp ran)
    obtain ⟨offsets, between, read, ran⟩ := Call.bind_returns.mp ran
    obtain ⟨rfl, rfl⟩ := Call.pure_returns.mp ran
    obtain ⟨length, moves⟩ := readOffsets_reads read
    exact ⟨rfl, by rintro _ ⟨⟩; exact length, moves⟩

theorem length_flatMap_beBytes (width : Nat) (values : List Nat) :
    (values.flatMap (beBytes width)).length = values.length * width := by
  induction values with
  | nil => simp
  | cons value values ih =>
    rw [List.flatMap_cons, List.length_append, length_beBytes, ih, List.length_cons]
    rw [Nat.add_mul, Nat.one_mul, Nat.add_comm]

theorem length_ends (start : Nat) (words : List (List UInt8)) :
    (ends start words).length = words.length := by
  induction words generalizing start with
  | nil => rfl
  | cons first words ih => rw [ends, List.length_cons, List.length_cons, ih]

/-- The index of words is read, since the words are there too. -/
theorem readIndex_ends {words : List (List UInt8)} {behind : BocReader word}
    (sized : cellBytes < 256 ^ offsetBytes) (fits : cellBytes < word)
    (nonempty : ∀ bytes ∈ words, bytes ≠ []) (total : words.flatten.length = cellBytes)
    (moves : before.Moves ((ends 0 words).flatMap (beBytes offsetBytes)) after)
    (there : after.Moves words.flatten behind) :
    (readIndex true words.length offsetBytes cellBytes).run before =
      .ok (some (ends 0 words)) after := by
  have both := moves.trans there
  have short := both.length_lt
  have enough : words.length * offsetBytes + cellBytes ≤
      before.items.length - before.position := by
    have whole := before.length_rest
    rw [both.rest_eq, List.length_append, List.length_append, length_flatMap_beBytes, length_ends,
      total] at whole
    omega
  rw [List.length_append, length_flatMap_beBytes, length_ends, total] at short
  refine Call.require_bind_returns.mpr ⟨_, checkedMul_eq_some.mpr ⟨by omega, rfl⟩, ?_⟩
  refine Call.require_bind_returns.mpr ⟨_, checkedAdd_eq_some.mpr ⟨short, rfl⟩, ?_⟩
  refine Call.get_bind_returns.mpr (Call.ensure_bind_returns.mpr ⟨enough, ?_⟩)
  exact Call.bind_returns.mpr ⟨_, after, readOffsets_ends sized fits nonempty
    (by rw [Nat.zero_add, total]) moves, Call.pure_returns.mpr ⟨rfl, rfl⟩⟩

theorem validateChecksum_returns {crc32c : List UInt8 → UInt32} {hasCrc32c : Bool} :
    (validateChecksum crc32c hasCrc32c).run before = .ok () after ↔
      before.Moves (if hasCrc32c then
        leBytes 4 (crc32c (before.items.take before.position)).toNat else []) after := by
  cases hasCrc32c with
  | false =>
    rw [validateChecksum, if_neg Bool.false_ne_true, if_neg Bool.false_ne_true,
      Call.pure_returns]
    exact ⟨fun ⟨_, same⟩ => same ▸ .nil _, fun moves => ⟨rfl, moves.eq_of_nil⟩⟩
  | true =>
    rw [validateChecksum, if_pos rfl, if_pos rfl, Call.get_bind_returns,
      BocReader.take_bind_returns]
    simp only [Call.ensure_returns]
    constructor
    · rintro ⟨checksum, _, ⟨length, moves⟩, same, rfl⟩
      rwa [← same, ← length, leBytes_leValue]
    · intro moves
      have small := (crc32c (before.items.take before.position)).toNat_lt
      exact ⟨⟨_, moves.length_lt⟩, after, ⟨length_leBytes _ _, moves⟩,
        leValue_leBytes (by omega), rfl⟩

/-- Every cell takes at least the two bytes of its descriptors. -/
theorem two_mul_length_le (referenceBytes : Nat) (list : List SerializedCell) :
    2 * list.length ≤ (list.map (SerializedCell.write · referenceBytes)).flatten.length := by
  induction list with
  | nil => exact Nat.zero_le _
  | cons cell list ih =>
    rw [List.map_cons, List.flatten_cons, List.length_append, SerializedCell.write]
    simp only [List.length_append, List.length_cons, List.length_nil]
    omega

/-- What is read without failure is a well formed file. -/
theorem readSingleRootBoc_reads {crc32c : List UInt8 → UInt32} {slice : Slice word}
    (ran : (readSingleRootBoc crc32c).run (BocReader.new slice) = .ok () after) :
    ∃ boc : SerializedBoc, boc.WellFormed word ∧ slice.bytes = boc.write crc32c := by
  obtain ⟨header, r₁, headed, ran⟩ := Call.bind_returns.mp ran
  obtain ⟨hasCacheBits, root, valid, m₁⟩ := readHeader_returns.mp headed
  obtain ⟨expectedOffsets, r₂, indexed, ran⟩ := Call.bind_returns.mp ran
  obtain ⟨flagged, length, m₂⟩ := readIndex_reads indexed
  obtain ⟨cells, r₃, ⟨size, m₃⟩, ran⟩ := BocReader.take_bind_returns.mp ran
  obtain ⟨_, checked, ran⟩ := Call.check_bind_returns.mp ran
  obtain ⟨_, r₄, summed, ran⟩ := Call.bind_returns.mp ran
  obtain ⟨ended, rfl⟩ := BocReader.ensureEmpty_returns.mp ran
  have below : header.cells < word := by
    have backed := valid.backed
    have fits := valid.fits
    omega
  obtain ⟨list, counted, formed, shallow, offsets, same⟩ :=
    (validateCells_ok_iff valid.counted below length).mp checked
  obtain ⟨hasIndex, hasCrc32c, referenceBytes, offsetBytes, count, cellBytes⟩ := header
  dsimp only at counted same size offsets
  cases counted
  rw [same] at size m₃
  cases size
  let boc : SerializedBoc :=
    ⟨hasIndex, hasCrc32c, hasCacheBits, referenceBytes, offsetBytes, root, list⟩
  have index : (expectedOffsets.getD []).flatMap (beBytes offsetBytes) = boc.writeIndex := by
    cases expectedOffsets with
    | none =>
      cases flagged
      rfl
    | some found =>
      cases flagged
      rw [Option.getD_some, offsets found rfl]
      rfl
  rw [index] at m₂
  have covered : (BocReader.new slice).Moves boc.covered r₃ := m₁.trans (m₂.trans m₃)
  have checksum := validateChecksum_returns.mp summed
  rw [covered.take_position] at checksum
  refine ⟨boc, ⟨valid.referenceBytes, valid.offsetBytes, valid.counted, valid.sized, valid.fits,
    valid.root, formed, shallow⟩, ?_⟩
  exact Cursor.moves_start_atEnd.mp ⟨_, covered.trans checksum, ended⟩

namespace SerializedBoc

variable {boc : SerializedBoc}

theorem length_words : boc.words.length = boc.cells.length :=
  List.length_map _

/-- The header of a well formed file is one that is accepted. -/
theorem WellFormed.header (formed : boc.WellFormed word) :
    BocHeader.Valid word ⟨boc.hasIndex, boc.hasCrc32c, boc.referenceBytes, boc.offsetBytes,
      boc.cells.length, boc.cellBytes⟩ boc.root where
  referenceBytes := formed.referenceBytes
  offsetBytes := formed.offsetBytes
  counted := formed.counted
  backed := by
    have backed := two_mul_length_le boc.referenceBytes boc.cells
    change boc.cells.length ≤ boc.words.flatten.length / 2
    rw [words]
    omega
  sized := formed.sized
  fits := formed.fits
  root := formed.root

/-- The index of a file is read in front of its cells. -/
theorem WellFormed.readIndex (formed : boc.WellFormed word) {behind : BocReader word}
    (index : before.Moves boc.writeIndex after) (there : after.Moves boc.words.flatten behind) :
    ∃ expectedOffsets, (∀ offsets ∈ expectedOffsets, offsets = ends 0 boc.words) ∧
      (readIndex boc.hasIndex boc.cells.length boc.offsetBytes boc.cellBytes).run before =
        .ok expectedOffsets after := by
  have nonempty : ∀ bytes ∈ boc.words, bytes ≠ [] := by
    rintro bytes member rfl
    obtain ⟨cell, -, empty⟩ := List.mem_map.mp member
    cases empty
  rw [writeIndex] at index
  cases flag : boc.hasIndex with
  | false =>
    rw [flag, if_neg Bool.false_ne_true] at index
    exact ⟨none, (by rintro _ ⟨⟩), Call.pure_returns.mpr ⟨rfl, index.eq_of_nil⟩⟩
  | true =>
    rw [flag, if_pos rfl] at index
    have read := readIndex_ends formed.sized formed.fits nonempty rfl index there
    rw [length_words] at read
    exact ⟨_, (by rintro _ ⟨⟩; rfl), read⟩

/-- A well formed file is read without failure. -/
theorem WellFormed.readSingleRootBoc (formed : boc.WellFormed word)
    {crc32c : List UInt8 → UInt32} {slice : Slice word} (same : slice.bytes = boc.write crc32c) :
    ∃ after, (readSingleRootBoc crc32c).run (BocReader.new slice) = .ok () after := by
  have whole : ∃ after, (BocReader.new slice).Moves (boc.write crc32c) after ∧ after.AtEnd :=
    Cursor.moves_start_atEnd.mpr same
  obtain ⟨after, moves, ended⟩ := whole
  obtain ⟨r₃, covered, m₄⟩ := moves.split
  obtain ⟨r₁, m₁, rest⟩ := covered.split
  obtain ⟨r₂, m₂, m₃⟩ := rest.split
  obtain ⟨expectedOffsets, offsets, indexed⟩ := formed.readIndex m₂ m₃
  have below : boc.cells.length < word := by
    have backed := formed.header.backed
    have fits := formed.fits
    dsimp only at backed
    omega
  have lengths : ∀ found ∈ expectedOffsets, found.length = boc.cells.length := by
    intro found there
    rw [offsets found there, length_ends, length_words]
  refine ⟨after, ?_⟩
  refine Call.bind_returns.mpr
    ⟨_, r₁, readHeader_returns.mpr ⟨boc.hasCacheBits, boc.root, formed.header, m₁⟩, ?_⟩
  refine Call.bind_returns.mpr ⟨_, r₂, indexed, ?_⟩
  refine BocReader.take_bind_returns.mpr ⟨⟨_, m₃.length_lt⟩, r₃, ⟨rfl, m₃⟩, ?_⟩
  refine Call.check_bind_returns.mpr ⟨(), (validateCells_ok_iff formed.counted below lengths).mpr
    ⟨boc.cells, rfl, formed.cells, formed.shallow, offsets, rfl⟩, ?_⟩
  refine Call.bind_returns.mpr ⟨(), after, validateChecksum_returns.mpr ?_, ?_⟩
  · rw [Cursor.Moves.take_position covered]
    exact m₄
  · exact BocReader.ensureEmpty_returns.mpr ⟨ended, rfl⟩

end SerializedBoc

/-- The validator accepts exactly the bytes of well formed files. -/
theorem validateSingleRootBoc_ok_iff (crc32c : List UInt8 → UInt32) (slice : Slice word) :
    validateSingleRootBoc crc32c slice = .ok () ↔
      ∃ boc : SerializedBoc, boc.WellFormed word ∧ slice.bytes = boc.write crc32c := by
  rw [validateSingleRootBoc]
  constructor
  · intro accepted
    split at accepted
    · next ran => exact readSingleRootBoc_reads ran
    · cases accepted
  · rintro ⟨boc, formed, same⟩
    obtain ⟨after, ran⟩ := formed.readSingleRootBoc same
    rw [ran]

end File

section Memory

/-- The reader goes on in the same bytes. -/
def Onward (before after : BocReader word) : Prop :=
  after.items = before.items ∧ before.position ≤ after.position

theorem Onward.trans {first second third : BocReader word} (early : Onward first second)
    (late : Onward second third) : Onward first third :=
  ⟨late.1.trans early.1, Nat.le_trans early.2 late.2⟩

variable {α β : Type}

/-- However it ends, the program reads no byte twice. -/
def OnePass (program : Reading word α) : Prop :=
  Call.Relates Onward program

theorem OnePass.bind {first : Reading word α} {next : α → Reading word β}
    (early : OnePass first) (late : ∀ value, OnePass (next value)) : OnePass (first >>= next) :=
  Call.Relates.bind Onward.trans early late

/-- The lengths of the two vectors that are allocated for an input, the offsets of the index and
the heights of the cells, which are also the rounds of the two loops; zero where the validator
does not come that far. -/
def allocated (slice : Slice word) : Nat × Nat :=
  match readHeader.run (BocReader.new slice) with
  | .error _ _ => (0, 0)
  | .ok header reader =>
    let needed := header.cells * header.offsetBytes + header.cellBytes
    let offsets := if header.hasIndex ∧ needed ≤ reader.items.length - reader.position then
      header.cells else 0
    match (readIndex header.hasIndex header.cells header.offsetBytes header.cellBytes >>=
      fun _ => BocReader.take header.cellBytes).run reader with
    | .error _ _ => (offsets, 0)
    | .ok _ _ => (offsets, header.cells)

end Memory

end WalletEngine
