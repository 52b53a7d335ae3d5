import WalletEngine.Data.Bytes

/-! # Cells

Trees of bit strings, and the builder that bounds what one node may hold. A cell is
written field by field, and what was written can be read off the finished cell. -/

namespace WalletEngine

variable {fields : List CellField} {cell : Cell}

/-- An ordinary cell: its data bits and its references. -/
inductive Cell where
  | mk (data : List Bool) (refs : List Cell)

namespace Cell

def data : Cell → List Bool
  | .mk data _ => data

def refs : Cell → List Cell
  | .mk _ refs => refs

end Cell

/-- One write to a builder. -/
inductive CellField where
  | bits (data : List Bool)
  | ref (cell : Cell)

namespace CellField

/-- An unsigned integer of a given width. -/
def num (value width : Nat) : CellField :=
  .bits (natBits width value)

def bytes (bytes : List UInt8) : CellField :=
  .bits (byteBits bytes)

/-- The data and the references of a whole cell. -/
def ofCell (cell : Cell) : List CellField :=
  .bits cell.data :: cell.refs.map .ref

/-- The bits that the write adds. -/
def data : CellField → List Bool
  | .bits data => data
  | .ref _ => []

/-- The references that the write adds. -/
def refs : CellField → List Cell
  | .bits _ => []
  | .ref cell => [cell]

end CellField

/-- A cell under construction. -/
structure CellBuilder where
  data : List Bool
  refs : List Cell

namespace CellBuilder

def maxDataBits : Nat := 1023
def maxRefs : Nat := 4

def empty : CellBuilder := ⟨[], []⟩

/-- A write fails when the cell has no room for it. -/
def write (builder : CellBuilder) : CellField → Option CellBuilder
  | .bits data =>
    if builder.data.length + data.length ≤ maxDataBits then
      some { builder with data := builder.data ++ data }
    else none
  | .ref cell =>
    if builder.refs.length < maxRefs then
      some { builder with refs := builder.refs ++ [cell] }
    else none

def build (builder : CellBuilder) : Cell :=
  .mk builder.data builder.refs

theorem write_eq_some {before after : CellBuilder} {field : CellField}
    (written : before.write field = some after) :
    after = ⟨before.data ++ field.data, before.refs ++ field.refs⟩ := by
  cases field with
  | bits data =>
    simp only [write, Option.ite_none_right_eq_some, Option.some.injEq] at written
    simp [← written.2, CellField.data, CellField.refs]
  | ref cell =>
    simp only [write, Option.ite_none_right_eq_some, Option.some.injEq] at written
    simp [← written.2, CellField.data, CellField.refs]

/-- A run of writes appends their bits and their references. -/
theorem foldlM_write_eq_some {fields : List CellField} {before after : CellBuilder}
    (written : fields.foldlM write before = some after) :
    after = ⟨before.data ++ fields.flatMap CellField.data,
      before.refs ++ fields.flatMap CellField.refs⟩ := by
  induction fields generalizing before with
  | nil =>
    cases written
    simp
  | cons field fields ih =>
    obtain ⟨middle, first, rest⟩ := Option.bind_eq_some_iff.mp written
    rw [ih rest, write_eq_some first]
    simp

/-- A run of writes succeeds when the cell has room for all of them. -/
theorem foldlM_write_isSome {fields : List CellField} {builder : CellBuilder}
    (bits : (builder.data ++ fields.flatMap CellField.data).length ≤ maxDataBits)
    (references : (builder.refs ++ fields.flatMap CellField.refs).length ≤ maxRefs) :
    (fields.foldlM write builder).isSome = true := by
  induction fields generalizing builder with
  | nil => rfl
  | cons field fields ih =>
    simp only [List.flatMap_cons, List.length_append] at bits references
    rw [List.foldlM_cons]
    cases field with
    | bits data =>
      simp only [CellField.data, CellField.refs, List.length_nil] at bits references
      rw [write, if_pos (by omega)]
      exact ih (by simp only [List.length_append]; omega)
        (by simp only [List.length_append]; omega)
    | ref cell =>
      simp only [CellField.data, CellField.refs, List.length_nil, List.length_singleton]
        at bits references
      rw [write, if_pos (by omega)]
      exact ih (by simp only [List.length_append]; omega)
        (by simp only [List.length_append, List.length_singleton]; omega)

end CellBuilder

/-- Write the fields in order and finish the cell. -/
def buildCell (fields : List CellField) : Option Cell :=
  (fields.foldlM CellBuilder.write .empty).map CellBuilder.build

theorem buildCell_eq_some (built : buildCell fields = some cell) :
    cell = .mk (fields.flatMap CellField.data) (fields.flatMap CellField.refs) := by
  obtain ⟨builder, written, rfl⟩ := Option.map_eq_some_iff.mp built
  rw [CellBuilder.foldlM_write_eq_some written]
  rfl

/-- Fields that fit into a cell together can be written. -/
theorem buildCell_of_fits (bits : (fields.flatMap CellField.data).length ≤ CellBuilder.maxDataBits)
    (references : (fields.flatMap CellField.refs).length ≤ CellBuilder.maxRefs) :
    buildCell fields =
      some (.mk (fields.flatMap CellField.data) (fields.flatMap CellField.refs)) := by
  have written : (fields.foldlM CellBuilder.write .empty).isSome = true :=
    CellBuilder.foldlM_write_isSome bits references
  obtain ⟨builder, written⟩ := Option.isSome_iff_exists.mp written
  have built : buildCell fields = some builder.build := by simp [buildCell, written]
  rw [built, buildCell_eq_some built]

/-- A finished cell starts with its first field. -/
theorem buildCell_data_take {field : CellField} {width : Nat}
    (built : buildCell (field :: fields) = some cell) (wide : width ≤ field.data.length) :
    cell.data.take width = field.data.take width := by
  rw [buildCell_eq_some built]
  simp only [Cell.data, List.flatMap_cons, List.take_append]
  rw [Nat.sub_eq_zero_of_le wide]
  simp

/-- A tree of cells within the limits of the builder, of at most a given number of levels. -/
def Cell.Fits : (levels : Nat) → Cell → Prop
  | 0, _ => False
  | levels + 1, .mk data refs =>
    data.length ≤ CellBuilder.maxDataBits ∧ refs.length ≤ CellBuilder.maxRefs ∧
      ∀ cell ∈ refs, cell.Fits levels

theorem Cell.Fits.mono {levels more : Nat} (fits : cell.Fits levels) (deeper : levels ≤ more) :
    cell.Fits more := by
  induction more generalizing levels cell with
  | zero =>
    cases Nat.le_zero.mp deeper
    exact fits
  | succ more ih =>
    cases levels with
    | zero => exact fits.elim
    | succ levels =>
      obtain ⟨data, refs⟩ := cell
      obtain ⟨bits, references, below⟩ := fits
      exact ⟨bits, references, fun cell member =>
        ih (below cell member) (Nat.le_of_succ_le_succ deeper)⟩

end WalletEngine
