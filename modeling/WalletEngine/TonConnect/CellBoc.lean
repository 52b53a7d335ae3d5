import WalletEngine.Data.Bytes
import WalletEngine.Data.Cursor
import WalletEngine.Data.Heights

/-! # The validator of serialized cells

The bytes of a bag of cells that a dApp sends are checked before a library builds the cells:
what the header counts is there, references point forward, no cell is too deep, and exotic
cells have their layout. The machine word is a parameter: the number of values of an index. -/

namespace WalletEngine

/-- What the validator reports; it has one way to fail. -/
inductive CellBocError where
  | invalidBoc
  deriving DecidableEq

/-- Bytes in memory: fewer than there are indices. -/
structure Slice (word : Nat) where
  bytes : List UInt8
  addressable : bytes.length < word

abbrev BocReader (word : Nat) := Cursor UInt8 word

abbrev Reading (word : Nat) := EStateM CellBocError (BocReader word)

variable {word : Nat}

namespace BocReader

def new (slice : Slice word) : BocReader word :=
  Cursor.start slice.bytes slice.addressable

/-- The bytes up to a position behind this one. -/
def upTo (reader : BocReader word) (stop : Nat) : Slice word where
  bytes := (reader.items.take stop).drop reader.position
  addressable := by
    have addressable := reader.addressable
    rw [List.length_drop, List.length_take]
    omega

def take (length : Nat) : Reading word (Slice word) := fun reader =>
  match checkedAdd word reader.position length with
  | none => .error .invalidBoc reader
  | some stop =>
    if inside : stop ≤ reader.items.length then
      .ok (reader.upTo stop) { reader with position := stop, bounded := inside }
    else .error .invalidBoc reader

def byte : Reading word UInt8 := do
  let slice ← take 1
  Call.require .invalidBoc slice.bytes.head?

/-- A number, most significant byte first, if it is an index. -/
def unsigned (length : Nat) : Reading word Nat := do
  let slice ← take length
  Call.require .invalidBoc (slice.bytes.foldlM (fun value byte =>
    (checkedMul word value 256).bind fun shifted => checkedAdd word shifted byte.toNat) 0)

/-- Nothing may be left. -/
def ensureEmpty : Reading word Unit := do
  let reader ← get
  Call.ensure .invalidBoc reader.AtEnd

end BocReader

open BocReader

/-- The deepest cell that is accepted. -/
def maxCellDepth : Nat := 1024

def countOnes (byte : UInt8) : Nat :=
  (List.range 8).countP byte.toNat.testBit

section Exotic

def prunedBranch : UInt8 := 1
def library : UInt8 := 2
def merkleProof : UInt8 := 3
def merkleUpdate : UInt8 := 4

def typeBytes : Nat := 1
def hashBytes : Nat := 32
def depthBytes : Nat := 2
def prunedBranchHeaderBytes : Nat := typeBytes + 1
def libraryBytes : Nat := typeBytes + hashBytes
def merkleProofBytes : Nat := typeBytes + hashBytes + depthBytes
def merkleUpdateBytes : Nat := typeBytes + 2 * (hashBytes + depthBytes)

/-- The depths that are stored in pairs of bytes. -/
def depthsAreValid : List UInt8 → Bool
  | high :: low :: rest => decide (beValue [high, low] ≤ maxCellDepth) && depthsAreValid rest
  | _ => true

def prunedBranchIsValid (word : Nat) (levelMask : UInt8) (data : List UInt8) : Bool :=
  match data[typeBytes]? with
  | none => false
  | some mask =>
    if mask = 0 ∨ mask ≠ levelMask then false
    else
      let levels := countOnes mask
      let start := (checkedMul word levels hashBytes).bind fun hashes =>
        checkedAdd word hashes prunedBranchHeaderBytes
      match start.bind fun start => if start ≤ data.length then some (data.drop start) else none with
      | none => false
      | some depths =>
        decide (checkedMul word levels depthBytes = some depths.length) && depthsAreValid depths

def exoticLayoutIsValid (word : Nat) (levelMask bitsDescriptor : UInt8) (data : List UInt8)
    (references : Nat) : Bool :=
  -- every exotic layout is a whole number of bytes
  if bitsDescriptor &&& 1 ≠ 0 then false
  else if data.head? = some prunedBranch ∧ references = 0 then
    prunedBranchIsValid word levelMask data
  else if data.head? = some library ∧ references = 0 then decide (data.length = libraryBytes)
  else if data.head? = some merkleProof ∧ references = 1 then
    decide (data.length = merkleProofBytes)
  else if data.head? = some merkleUpdate ∧ references = 2 then
    decide (data.length = merkleUpdateBytes)
  else false

end Exotic

section Cells

variable (cells referenceBytes : Nat)

/-- Read the references of a cell and raise the heights of their targets. -/
def validateReferences (cellIndex height : Nat) : Nat → List Nat → Reading word (List Nat)
  | 0, heights => pure heights
  | references + 1, heights => do
      let reference ← unsigned referenceBytes
      Call.ensure .invalidBoc (cellIndex < reference ∧ reference < cells)
      let child ← Call.require .invalidBoc
        ((checkedAdd (2 ^ 16) height 1).filter (· ≤ maxCellDepth))
      let slot ← Call.require .invalidBoc heights[reference]?
      validateReferences cellIndex height references (heights.set reference (max slot child))

/-- Skip the hashes that are stored for the levels of a cell. -/
def takeHashes (descriptor : UInt8) : Reading word Unit :=
  if descriptor &&& 0x10 ≠ 0 then do
    let hashCount ← Call.require .invalidBoc (checkedAdd word (countOnes (descriptor >>> 5)) 1)
    let hashBytes ← Call.require .invalidBoc (checkedMul word hashCount 34)
    let _ ← take hashBytes
  else pure ()

def validateCell (expectedOffsets : Option (List Nat)) (cellIndex : Nat) (heights : List Nat) :
    Reading word (List Nat) := do
  let descriptor ← byte
  let bitsDescriptor ← byte
  let references := (descriptor &&& 0x07).toNat
  Call.ensure .invalidBoc (references ≤ 4)
  let height ← Call.require .invalidBoc heights[cellIndex]?
  takeHashes descriptor
  let dataBytes ← Call.require .invalidBoc
    (checkedAdd word (bitsDescriptor >>> 1).toNat (bitsDescriptor &&& 1).toNat)
  let slice ← take dataBytes
  let data := slice.bytes
  Call.ensure .invalidBoc ¬(bitsDescriptor &&& 1 ≠ 0 ∧ data.getLast?.all (· = 0) = true)
  Call.ensure .invalidBoc ¬(descriptor &&& 0x08 ≠ 0 ∧
    exoticLayoutIsValid word (descriptor >>> 5) bitsDescriptor data references = false)
  let heights ← validateReferences cells referenceBytes cellIndex height references heights
  let reader ← get
  Call.ensure .invalidBoc ¬(((expectedOffsets.bind (·[cellIndex]?)).any
    (· ≠ reader.position)) = true)
  return heights

/-- The cells from an index on, with the heights that are known so far. -/
def validateCellsFrom (expectedOffsets : Option (List Nat)) :
    Nat → Nat → List Nat → Reading word Unit
  | 0, _, _ => ensureEmpty
  | remaining + 1, cellIndex, heights => do
      let heights ← validateCell cells referenceBytes expectedOffsets cellIndex heights
      validateCellsFrom expectedOffsets remaining (cellIndex + 1) heights

def validateCells (slice : Slice word) (expectedOffsets : Option (List Nat)) :
    Except CellBocError Unit :=
  match (validateCellsFrom cells referenceBytes expectedOffsets cells 0
    (List.replicate cells 0)).run (new slice) with
  | .ok _ _ => .ok ()
  | .error error _ => .error error

end Cells

section File

def genericBocMagic : List UInt8 := [0xb5, 0xee, 0x9c, 0x72]

/-- Offsets must grow up to the end of the cells. -/
def readOffsets (offsetBytes cellBytes : Nat) : Nat → Nat → Reading word (List Nat)
  | 0, previous => do
      Call.ensure .invalidBoc (previous = cellBytes)
      return []
  | remaining + 1, previous => do
      let offset ← unsigned offsetBytes
      Call.ensure .invalidBoc (previous < offset ∧ offset ≤ cellBytes)
      let offsets ← readOffsets offsetBytes cellBytes remaining offset
      return offset :: offsets

/-- The index and the cells must both be present before anything is allocated for them. -/
def readIndex (hasIndex : Bool) (cells offsetBytes cellBytes : Nat) :
    Reading word (Option (List Nat)) :=
  if hasIndex then do
    let indexBytes ← Call.require .invalidBoc (checkedMul word cells offsetBytes)
    let needed ← Call.require .invalidBoc (checkedAdd word indexBytes cellBytes)
    let reader ← get
    Call.ensure .invalidBoc (needed ≤ reader.items.length - reader.position)
    let offsets ← readOffsets offsetBytes cellBytes cells 0
    return some offsets
  else pure none

/-- The checksum covers everything before it. -/
def validateChecksum (crc32c : List UInt8 → UInt32) (hasCrc32c : Bool) : Reading word Unit :=
  if hasCrc32c then do
    let reader ← get
    let checksum ← take 4
    Call.ensure .invalidBoc
      (leValue checksum.bytes = (crc32c (reader.items.take reader.position)).toNat)
  else pure ()

/-- What the counts in front of the cells say. -/
structure BocHeader where
  hasIndex : Bool
  hasCrc32c : Bool
  referenceBytes : Nat
  offsetBytes : Nat
  cells : Nat
  cellBytes : Nat

def readHeader : Reading word BocHeader := do
  let magic ← take genericBocMagic.length
  Call.ensure .invalidBoc (magic.bytes = genericBocMagic)
  let header ← byte
  let flags := header &&& 0x18
  let referenceBytes := (header &&& 0x07).toNat
  Call.ensure .invalidBoc (flags = 0 ∧ 1 ≤ referenceBytes ∧ referenceBytes ≤ 4)
  let offset ← byte
  let offsetBytes := offset.toNat
  Call.ensure .invalidBoc (1 ≤ offsetBytes ∧ offsetBytes ≤ 8)
  let cells ← unsigned referenceBytes
  let roots ← unsigned referenceBytes
  let absent ← unsigned referenceBytes
  let cellBytes ← unsigned offsetBytes
  Call.ensure .invalidBoc (cells ≠ 0 ∧ roots = 1 ∧ absent = 0 ∧ cells ≤ cellBytes / 2)
  let root ← unsigned referenceBytes
  Call.ensure .invalidBoc (root < cells)
  return {
    hasIndex := header &&& 0x80 != 0
    hasCrc32c := header &&& 0x40 != 0
    referenceBytes, offsetBytes, cells, cellBytes }

def readSingleRootBoc (crc32c : List UInt8 → UInt32) : Reading word Unit := do
  let header ← readHeader
  let expectedOffsets ← readIndex header.hasIndex header.cells header.offsetBytes header.cellBytes
  let serializedCells ← take header.cellBytes
  Call.check id
    (validateCells header.cells header.referenceBytes serializedCells expectedOffsets)
  validateChecksum crc32c header.hasCrc32c
  ensureEmpty

/-- The bytes are one complete bag of cells with a single root. -/
def validateSingleRootBoc (crc32c : List UInt8 → UInt32) (slice : Slice word) :
    Except CellBocError Unit :=
  match (readSingleRootBoc crc32c).run (new slice) with
  | .ok _ _ => .ok ()
  | .error error _ => .error error

end File

end WalletEngine
