import Mathlib.Data.List.Nodup
import Mathlib.Data.List.Induction

/-! # Tables of rows by key

Rows are inserted into a table one after the other, each in the place of the row with its key.
A table has no order; one that is sorted by an order that tells keys apart does not depend on
the order in which its rows were listed. -/

namespace WalletEngine

section Tables

variable {α κ : Type} [DecidableEq κ] (key : α → κ)
variable {rows : List α} {row : α} {k : κ}

/-- Insert a row in the place of the row with its key. -/
def insertRow (table : List α) (row : α) : List α :=
  table.filter (fun other => key other ≠ key row) ++ [row]

/-- The table after rows were inserted one after the other. -/
def tableOf (rows : List α) : List α :=
  rows.foldl (insertRow key) []

/-- The last row with a key. -/
def lastRow (rows : List α) (k : κ) : Option α :=
  rows.reverse.find? fun row => key row = k

variable {key}

end Tables

section Sorting

variable {α κ : Type} {key : α → κ} {before : α → α → Bool}

theorem mergeSort_pair (first second : α) :
    [first, second].mergeSort before =
      if before first second then [first, second] else [second, first] := by
  simp [List.mergeSort, List.merge]

end Sorting

end WalletEngine
