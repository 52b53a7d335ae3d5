import WalletEngine.Data.Cell

/-! # Byte strings in chains of cells

A byte string that does not fit into one cell continues in the first reference of the cell. -/

namespace WalletEngine

/-- An unsigned integer, its highest bit first. -/
def bitsValue (bits : List Bool) : Nat :=
  bits.foldl (fun value bit => 2 * value + bit.toNat) 0

/-- Whole bytes; a number of bits that is no multiple of eight is refused. -/
def chunkBytes : List Bool → Option (List UInt8)
  | [] => some []
  | a :: b :: c :: d :: e :: f :: g :: h :: rest =>
    (chunkBytes rest).map (UInt8.ofNat (bitsValue [a, b, c, d, e, f, g, h]) :: ·)
  | _ => none

/-- The bytes of a cell and of the cells behind its first reference. -/
def readSnake : Cell → Option (List UInt8)
  | .mk data [] => chunkBytes data
  | .mk data (next :: _) => (chunkBytes data).bind fun head =>
    (readSnake next).map (head ++ ·)

/-- Read an unsigned integer off the front of a cell. -/
def Cell.readNum (cell : Cell) (width : Nat) : Option (Nat × Cell) :=
  if width ≤ cell.data.length then
    some (bitsValue (cell.data.take width), .mk (cell.data.drop width) cell.refs)
  else none

theorem byte_of_natBits : ∀ byte : UInt8, UInt8.ofNat (bitsValue (natBits 8 byte.toNat)) = byte :=
  forall_byte (by decide +kernel)

theorem chunkBytes_byteBits (bytes : List UInt8) : chunkBytes (byteBits bytes) = some bytes := by
  induction bytes with
  | nil => rfl
  | cons byte bytes ih =>
    have split : byteBits (byte :: bytes) = natBits 8 byte.toNat ++ byteBits bytes := by
      rw [byteBits, List.flatMap_cons, byteBits]
    have read : chunkBytes (natBits 8 byte.toNat ++ byteBits bytes) =
        (chunkBytes (byteBits bytes)).map
          (UInt8.ofNat (bitsValue (natBits 8 byte.toNat)) :: ·) := rfl
    rw [split, read, ih, byte_of_natBits, Option.map_some]

/-- Whole bytes are read off the front of a cell. -/
theorem Cell.readNum_bytes (head tail : List UInt8) (refs : List Cell) :
    (Cell.mk (byteBits (head ++ tail)) refs).readNum (8 * head.length) =
      some (bitsValue (byteBits head), .mk (byteBits tail) refs) := by
  have split : byteBits (head ++ tail) = byteBits head ++ byteBits tail := List.flatMap_append
  have fits : 8 * head.length ≤ (byteBits head ++ byteBits tail).length := by
    rw [List.length_append, length_byteBits]
    omega
  rw [readNum, data, Cell.refs, split, if_pos fits, List.take_left' (length_byteBits head),
    List.drop_left' (length_byteBits head)]

section Chains

/-- A cell for each chunk, the next one behind its only reference. The chain is built from its
last chunk. -/
def snakeChain (chunks : List (List UInt8)) : Option (Option Cell) :=
  chunks.foldrM (fun chunk reference =>
    (buildCell (.bytes chunk :: (reference.map CellField.ref).toList)).map some) none

/-- The bytes of a chain. -/
def readNext : Option Cell → Option (List UInt8)
  | none => some []
  | some cell => readSnake cell

theorem readSnake_chain (bytes : List UInt8) (reference : Option Cell) :
    readSnake (.mk (byteBits bytes) reference.toList) = (readNext reference).map (bytes ++ ·) := by
  cases reference with
  | none => simp [readSnake, readNext, chunkBytes_byteBits]
  | some next => simp [readSnake, readNext, chunkBytes_byteBits]

/-- Byte strings that fit into a cell together, with a reference behind them. -/
theorem buildCell_bytes {parts : List (List UInt8)} (reference : Option Cell)
    (fits : 8 * parts.flatten.length ≤ CellBuilder.maxDataBits) :
    buildCell (parts.map CellField.bytes ++ (reference.map CellField.ref).toList) =
      some (.mk (byteBits parts.flatten) reference.toList) := by
  have data : (parts.map CellField.bytes ++ (reference.map CellField.ref).toList).flatMap
      CellField.data = byteBits parts.flatten := by
    have bytes : (parts.map CellField.bytes).flatMap CellField.data = byteBits parts.flatten := by
      induction parts with
      | nil => rfl
      | cons part parts ih =>
        rw [List.flatten_cons, List.length_append] at fits
        rw [List.map_cons, List.flatMap_cons, ih (by omega), List.flatten_cons, byteBits,
          byteBits, List.flatMap_append]
        rfl
    cases reference <;> simp [bytes, CellField.data]
  have refs : (parts.map CellField.bytes ++ (reference.map CellField.ref).toList).flatMap
      CellField.refs = reference.toList := by
    have bytes : (parts.map CellField.bytes).flatMap CellField.refs = [] := by
      simp [List.flatMap_map, CellField.bytes, CellField.refs]
    cases reference <;> simp [bytes, CellField.refs]
  have built := buildCell_of_fits (by rw [data, length_byteBits]; exact fits)
    (by rw [refs]; cases reference <;> simp [CellBuilder.maxRefs])
  rwa [data, refs] at built

/-- A cell with a single reference is one level above it. -/
theorem Cell.Fits.above {bytes : List UInt8} {reference : Option Cell} {levels : Nat}
    (sized : 8 * bytes.length ≤ CellBuilder.maxDataBits)
    (below : ∀ cell ∈ reference, cell.Fits levels) :
    (Cell.mk (byteBits bytes) reference.toList).Fits (levels + 1) := by
  refine ⟨by rwa [length_byteBits], ?_, ?_⟩
  · cases reference <;> simp [CellBuilder.maxRefs]
  · intro cell member
    exact below cell (by simpa using member)

/-- A chain is read back as the chunks it was built from, and has a level for each of them. -/
theorem readNext_snakeChain {chunks : List (List UInt8)}
    (sized : ∀ chunk ∈ chunks, 8 * chunk.length ≤ CellBuilder.maxDataBits) :
    ∃ reference, snakeChain chunks = some reference ∧
      readNext reference = some chunks.flatten ∧
      ∀ cell ∈ reference, cell.Fits chunks.length := by
  induction chunks with
  | nil => exact ⟨none, rfl, rfl, by simp⟩
  | cons chunk chunks ih =>
    obtain ⟨reference, chain, read, fits⟩ := ih fun chunk member =>
      sized chunk (List.mem_cons_of_mem _ member)
    have small := sized chunk List.mem_cons_self
    have built := @buildCell_bytes [chunk] reference (by simpa using small)
    rw [List.flatten_singleton] at built
    refine ⟨some (.mk (byteBits chunk) reference.toList), ?_, ?_, ?_⟩
    · rw [snakeChain, List.foldrM_cons, ← snakeChain, chain, Option.bind_eq_bind,
        Option.bind_some]
      exact congrArg (Option.map some) built
    · rw [readNext, readSnake_chain, read, Option.map_some, List.flatten_cons]
    · intro cell member
      cases member
      exact Cell.Fits.above small fits

end Chains

end WalletEngine
