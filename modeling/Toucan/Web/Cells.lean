import Toucan.Lib.Decimal
import Toucan.Utils.BytesWriter

/-!
# Toucan.Web.Cells

The cell list of `/api/cells`: `cell_stats` (`web/http.rs`) writes the 96 cells of
the pack into a buffer sized for values of four digits, and the cells page
(`web/html/cells.html`) takes the text apart again.

The writer drops what does not fit without an error, so `cell_stats` returns `Ok`
always; `cellsPage_cellStats` says when the page gets back what was written.
-/

namespace Toucan.Web

open Decimal

/-! ## `cell_stats` -/

inductive HttpError where
  | error

/-- The ASCII comma. -/
def comma : UInt8 := 44

/-- `boolean as u8`, written out. -/
def flag (boolean : Bool) : List UInt8 := decimal (if boolean then 1 else 0)

/-- `write!(&mut writer, "{},{},", num, boolean as u8)` -/
def writeCell (w : ByteMutWriter) (cell : UInt16 × Bool) : Except HttpError ByteMutWriter :=
  (w.write [decimal cell.1.toNat, [comma], flag cell.2, [comma]]).mapError fun _ => .error

/-- `cell_stats` on the millivolts and the balance flags of a pack. -/
def cellStats (buf : List UInt8) (cellMv : Vector UInt16 96) (balCells : Vector Bool 96) :
    Except HttpError (List UInt8) := do
  let writer ← (cellMv.toList.zip balCells.toList).foldlM writeCell (.new buf)
  return writer.buf.take (writer.cursor - 1) -- trim trailing comma

/-! ## The cells page -/

/-- The loop over the fields, two by two: `parseInt` of the first, which is `none`
for `NaN`, and whether the second is `"1"`. -/
def readPairs : List (List UInt8) → List (Option Nat × Bool)
  | mv :: bal :: rest => (leadingNumber mv, bal == flag true) :: readPairs rest
  | _ => []

/-- What the page makes of the text. -/
def cellsPage (text : List UInt8) : List (Option Nat × Bool) := readPairs (text.splitOn comma)

/-! ## Reading back what was written -/

/-- A cell as it is written. -/
def cellText (cell : UInt16 × Bool) : List UInt8 :=
  decimal cell.1.toNat ++ comma :: (flag cell.2 ++ [comma])

/-- Bytes that a list of cells takes. -/
def cellsWidth : List (UInt16 × Bool) → Nat
  | [] => 0
  | cell :: cells => (decimal cell.1.toNat).length + 3 + cellsWidth cells

/-- A cell as the page should show it. -/
def shown (cell : UInt16 × Bool) : Option Nat × Bool := (some cell.1.toNat, cell.2)

theorem flag_eq (boolean : Bool) : flag boolean = [if boolean then 49 else 48] := by
  cases boolean <;> rfl

theorem comma_not_mem_decimal (n : Nat) : comma ∉ decimal n := not_mem_decimal (by rfl)

theorem comma_not_mem_flag (boolean : Bool) : comma ∉ flag boolean :=
  comma_not_mem_decimal _

@[simp] theorem beq_flag_true (boolean : Bool) : (flag boolean == flag true) = boolean := by
  cases boolean <;> rfl

theorem length_cellText (cell : UInt16 × Bool) :
    (cellText cell).length = (decimal cell.1.toNat).length + 3 := by
  simp [cellText, flag_eq]

theorem length_flatMap_cellText (cells : List (UInt16 × Bool)) :
    (cells.flatMap cellText).length = cellsWidth cells := by
  induction cells with
  | nil => rfl
  | cons cell cells ih => grind [cellsWidth, length_cellText]

/-- The page reads a written cell back, and goes on behind it. -/
theorem cellsPage_cellText (cell : UInt16 × Bool) (rest : List UInt8) :
    cellsPage (cellText cell ++ rest) = shown cell :: cellsPage rest := by
  have hmv := List.splitOn_append_cons_self_of_not_mem (comma_not_mem_decimal cell.1.toNat)
    (flag cell.2 ++ comma :: rest)
  have hbal := List.splitOn_append_cons_self_of_not_mem (comma_not_mem_flag cell.2) rest
  have htext : cellText cell ++ rest =
      decimal cell.1.toNat ++ comma :: (flag cell.2 ++ comma :: rest) := by
    simp [cellText]
  simp [cellsPage, htext, hmv, hbal, readPairs, shown]

theorem cellsPage_append (cells : List (UInt16 × Bool)) (rest : List UInt8) :
    cellsPage (cells.flatMap cellText ++ rest) = cells.map shown ++ cellsPage rest := by
  induction cells with
  | nil => simp
  | cons cell cells ih => grind [cellsPage_cellText]

/-- The last cell, with its trailing comma trimmed. -/
theorem cellsPage_last (cell : UInt16 × Bool) :
    cellsPage (decimal cell.1.toNat ++ comma :: flag cell.2) = [shown cell] := by
  have hmv := List.splitOn_append_cons_self_of_not_mem (comma_not_mem_decimal cell.1.toNat)
    (flag cell.2)
  have hbal := List.splitOn_eq_singleton (comma_not_mem_flag cell.2)
  simp [cellsPage, hmv, hbal, readPairs, shown]

/-- The last cell, with its flag cut off too: the flag reads as not set. -/
theorem cellsPage_cut (cell : UInt16 × Bool) :
    cellsPage (decimal cell.1.toNat ++ [comma]) = [(some cell.1.toNat, false)] := by
  have hmv := List.splitOn_append_cons_self_of_not_mem (comma_not_mem_decimal cell.1.toNat) []
  simp [cellsPage, hmv, readPairs, flag_eq]

/-! ## Counting cells -/

theorem length_readPairs (fields : List (List UInt8)) :
    (readPairs fields).length = fields.length / 2 := by
  induction fields using readPairs.induct with
  | case1 mv bal rest ih =>
      simp [readPairs, ih]
      omega
  | case2 fields h =>
      cases fields with
      | nil => rfl
      | cons mv fields =>
          cases fields with
          | nil => simp [readPairs]
          | cons bal rest => exact absurd rfl (h mv bal rest)

theorem length_splitOn (text : List UInt8) :
    (text.splitOn comma).length = text.count comma + 1 := by
  induction text with
  | nil => rfl
  | cons b text ih =>
      rw [List.splitOn_cons_eq_if_modifyHead, List.count_cons]
      split <;> simp [*]

/-- Every cell shown takes two commas, but the last takes one. -/
theorem length_cellsPage (text : List UInt8) :
    (cellsPage text).length = (text.count comma + 1) / 2 := by
  rw [cellsPage, length_readPairs, length_splitOn]

theorem count_comma_cells (cells : List (UInt16 × Bool)) :
    (cells.flatMap cellText).count comma = 2 * cells.length := by
  induction cells with
  | nil => rfl
  | cons cell cells ih =>
      have hmv := List.count_eq_zero.mpr (comma_not_mem_decimal cell.1.toNat)
      have hbal := List.count_eq_zero.mpr (comma_not_mem_flag cell.2)
      simp [cellText, hmv, hbal, ih]
      omega

/-! ## The text of a pack -/

theorem foldlM_writeCell (w : ByteMutWriter) (cells : List (UInt16 × Bool)) :
    ∃ w', cells.foldlM writeCell w = .ok w' ∧ w'.capacity = w.capacity ∧
      w'.written = (w.written ++ cells.flatMap cellText).take w.capacity := by
  induction cells generalizing w with
  | nil => exact ⟨w, rfl, rfl, by simp⟩
  | cons cell cells ih =>
      obtain ⟨w', hw', hcap, hwritten⟩ :=
        w.written_write [decimal cell.1.toNat, [comma], flag cell.2, [comma]]
      obtain ⟨w'', hw'', hcap', hwritten'⟩ := ih w'
      have hcell : writeCell w cell = .ok w' := by
        rw [writeCell, hw']
        rfl
      refine ⟨w'', ?_, hcap'.trans hcap, ?_⟩
      · rw [List.foldlM_cons, hcell]
        exact hw''
      · rw [hwritten', hcap, hwritten, ByteMutWriter.take_append_of_take]
        simp [cellText]

/-- `cell_stats` returns `Ok`: what the buffer has room for, less one byte. -/
theorem cellStats_eq (buf : List UInt8) (cellMv : Vector UInt16 96) (balCells : Vector Bool 96) :
    let full := (cellMv.toList.zip balCells.toList).flatMap cellText
    cellStats buf cellMv balCells = .ok (full.take (min buf.length full.length - 1)) := by
  intro full
  obtain ⟨w, hw, hcap, hwritten⟩ :=
    foldlM_writeCell (.new buf) (cellMv.toList.zip balCells.toList)
  rw [ByteMutWriter.written_new, List.nil_append] at hwritten
  have hcursor : w.cursor = min buf.length full.length := by
    rw [← w.length_written, hwritten, List.length_take]
    rfl
  have htext : w.buf.take (w.cursor - 1) = w.written.take (w.cursor - 1) := by
    rw [ByteMutWriter.written, List.take_take]
    congr 1
    omega
  have hroom : (ByteMutWriter.new buf).capacity = buf.length := rfl
  rw [hroom] at hwritten
  rw [cellStats, hw]
  show Except.ok (w.buf.take (w.cursor - 1)) = _
  rw [htext, hwritten, List.take_take, hcursor]
  congr 2
  omega

/-- A text with its last flag, without it, and without the comma before it. -/
theorem cellsPage_take (cells : List (UInt16 × Bool)) (cell : UInt16 × Bool) (cap : Nat)
    (head full : List UInt8) (hhead : head = cells.flatMap cellText ++ decimal cell.1.toNat)
    (hfull : full = head ++ comma :: (flag cell.2 ++ [comma])) :
    cellsPage (full.take (min cap full.length - 1)) = (cells ++ [cell]).map shown ↔
      full.length ≤ cap ∨ full.length = cap + 1 ∧ cell.2 = false := by
  have htail : comma :: (flag cell.2 ++ [comma]) = [comma, if cell.2 then 49 else 48, comma] := by
    simp [flag_eq]
  have hlen : full.length = head.length + 3 := by simp [hfull, htail]
  rcases Nat.lt_trichotomy full.length (cap + 1) with hfit | hone | hshort
  · -- the text is complete
    have hcut : min cap full.length - 1 = head.length + 2 := by omega
    have htext : full.take (head.length + 2) =
        cells.flatMap cellText ++ (decimal cell.1.toNat ++ comma :: flag cell.2) := by
      rw [hfull, htail, List.take_length_add_append, hhead]
      simp [flag_eq]
    rw [hcut, htext, cellsPage_append, cellsPage_last]
    simp
    omega
  · -- the last flag is cut off
    have hcut : min cap full.length - 1 = head.length + 1 := by omega
    have htext : full.take (head.length + 1) =
        cells.flatMap cellText ++ (decimal cell.1.toNat ++ [comma]) := by
      rw [hfull, htail, List.take_length_add_append, hhead]
      simp
    rw [hcut, htext, cellsPage_append, cellsPage_cut, hone]
    cases hbal : cell.2 <;> simp [shown, hbal]
  · -- a comma is missing, and with it a cell
    have hcut : min cap full.length - 1 ≤ head.length := by omega
    have htext : full.take (min cap full.length - 1) = head.take (min cap full.length - 1) := by
      generalize min cap full.length - 1 = n at hcut
      rw [hfull, List.take_append_of_le_length hcut]
    have hcount : head.count comma = 2 * cells.length := by
      have hmv := List.count_eq_zero.mpr (comma_not_mem_decimal cell.1.toNat)
      simp [hhead, hmv, count_comma_cells]
    have hfew := (List.take_sublist (min cap full.length - 1) head).count_le comma
    have hne : cellsPage (full.take (min cap full.length - 1)) ≠ (cells ++ [cell]).map shown := by
      intro heq
      have hlens := congrArg List.length heq
      rw [htext, length_cellsPage] at hlens
      simp only [List.length_map, List.length_append, List.length_singleton] at hlens
      omega
    simp only [hne, false_iff]
    omega

theorem cellsPage_take_iff {cells : List (UInt16 × Bool)} (h : cells ≠ []) (cap : Nat) :
    cellsPage ((cells.flatMap cellText).take (min cap (cells.flatMap cellText).length - 1)) =
        cells.map shown ↔
      (cells.flatMap cellText).length ≤ cap ∨
        (cells.flatMap cellText).length = cap + 1 ∧ cells.getLast?.map (·.2) = some false := by
  rcases List.eq_nil_or_concat cells with rfl | ⟨earlier, last, rfl⟩
  · contradiction
  · rw [List.concat_eq_append]
    have htake := cellsPage_take earlier last cap (earlier.flatMap cellText ++
      decimal last.1.toNat) ((earlier ++ [last]).flatMap cellText) rfl (by simp [cellText])
    rw [htake]
    simp

/-- The cells of a pack. -/
def packCells (cellMv : Vector UInt16 96) (balCells : Vector Bool 96) : List (UInt16 × Bool) :=
  cellMv.toList.zip balCells.toList

theorem packCells_ne_nil (cellMv : Vector UInt16 96) (balCells : Vector Bool 96) :
    packCells cellMv balCells ≠ [] := by
  intro h
  have hlen := congrArg List.length h
  simp [packCells] at hlen

/-- The buffer of `/api/cells`. -/
def cellsBuffer : List UInt8 := List.replicate 672 0

theorem cellStats_cellsBuffer (cellMv : Vector UInt16 96) (balCells : Vector Bool 96) :
    cellStats cellsBuffer cellMv balCells =
      .ok (((packCells cellMv balCells).flatMap cellText).take
        (min 672 ((packCells cellMv balCells).flatMap cellText).length - 1)) := by
  have hroom : cellsBuffer.length = 672 := List.length_replicate
  rw [cellStats_eq, hroom]
  rfl

/-- **The cell list**: for every pack `cell_stats` returns `Ok`, and the cells page
gets back exactly the values and flags when they take at most 672 bytes, or one
more with the last flag not set; and not otherwise. -/
theorem cellsPage_cellStats (cellMv : Vector UInt16 96) (balCells : Vector Bool 96) :
    ∃ text, cellStats cellsBuffer cellMv balCells = .ok text ∧
      (cellsPage text = (packCells cellMv balCells).map shown ↔
        cellsWidth (packCells cellMv balCells) ≤ 672 ∨
          cellsWidth (packCells cellMv balCells) = 673 ∧
            (packCells cellMv balCells).getLast?.map (·.2) = some false) := by
  refine ⟨_, cellStats_cellsBuffer cellMv balCells, ?_⟩
  rw [cellsPage_take_iff (packCells_ne_nil cellMv balCells), length_flatMap_cellText]

/-- Values of four digits always fit. -/
theorem cellsWidth_le {cells : List (UInt16 × Bool)}
    (h : ∀ cell ∈ cells, cell.1.toNat < 10000) : cellsWidth cells ≤ 7 * cells.length := by
  induction cells with
  | nil => simp [cellsWidth]
  | cons cell cells ih =>
      have hdigits : (decimal cell.1.toNat).length ≤ 4 :=
        (length_decimal_le_iff (by simp)).mpr (h cell List.mem_cons_self)
      have hrest := ih fun c hc => h c (List.mem_cons_of_mem cell hc)
      simp only [cellsWidth, List.length_cons] at hrest ⊢
      omega

/-- Ninety-six cells at 10000 mV and none balancing do not come back. -/
theorem not_cellsPage_cellStats :
    ¬ ∀ (cellMv : Vector UInt16 96) (balCells : Vector Bool 96),
      ∃ text, cellStats cellsBuffer cellMv balCells = .ok text ∧
        cellsPage text = (packCells cellMv balCells).map shown := by
  intro h
  obtain ⟨text, htext, hpage⟩ := h (.replicate 96 10000) (.replicate 96 false)
  have hpack : packCells (.replicate 96 10000) (.replicate 96 false) =
      List.replicate 96 (10000, false) := by
    simp [packCells]
  have hwidth : cellsWidth (packCells (.replicate 96 10000) (.replicate 96 false)) = 768 := by
    have hdigits : (decimal 10000).length = 5 := by decide +kernel
    simp [hpack, cellsWidth, hdigits]
  rw [cellStats_cellsBuffer] at htext
  rw [← Except.ok.inj htext, cellsPage_take_iff (packCells_ne_nil _ _), length_flatMap_cellText,
    hwidth] at hpage
  simp at hpage

end Toucan.Web
