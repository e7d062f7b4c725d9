/-!
# Toucan.Utils.BytesWriter

`ByteMutWriter` (`utils/bytes_writer.rs`): formatted text goes into a borrowed
buffer, and what does not fit is dropped.  `write_str` returns `Ok` all the same.

`written` is what a reader of the writer gets; writing appends to it and cuts it
at the capacity (`written_write`).
-/

namespace Toucan

/-! ## The writer -/

/-- A buffer, and how much of it is used. -/
structure ByteMutWriter where
  buf : List UInt8
  cursor : Nat
  cursor_le : cursor ≤ buf.length

namespace ByteMutWriter

def new (buf : List UInt8) : ByteMutWriter := ⟨buf, 0, Nat.zero_le _⟩

def capacity (w : ByteMutWriter) : Nat := w.buf.length

/-- The loop over the free bytes and the text side by side. -/
def overwrite : List UInt8 → List UInt8 → List UInt8
  | _ :: old, b :: s => b :: overwrite old s
  | old, _ => old

@[simp] theorem length_overwrite (old s : List UInt8) : (overwrite old s).length = old.length := by
  induction old generalizing s with
  | nil => cases s <;> rfl
  | cons a old ih => cases s <;> grind [overwrite]

/-- The text is put in front, as far as there is room. -/
theorem take_overwrite (old s : List UInt8) :
    (overwrite old s).take s.length = s.take old.length := by
  induction old generalizing s with
  | nil => cases s <;> rfl
  | cons a old ih => cases s <;> grind [overwrite]

/-- `write_str`; it has no error. -/
def writeStr (w : ByteMutWriter) (s : List UInt8) : Except Unit ByteMutWriter :=
  .ok {
    buf := w.buf.take w.cursor ++ overwrite (w.buf.drop w.cursor) s
    cursor := min w.capacity (w.cursor + s.length)
    cursor_le := by
      have hle := w.cursor_le
      simp [capacity]
      omega }

/-- `write!`: the pieces of a format string, one `write_str` after the other. -/
def write (w : ByteMutWriter) (pieces : List (List UInt8)) : Except Unit ByteMutWriter :=
  pieces.foldlM writeStr w

/-! ## What was written -/

/-- `&buf[..cursor]` -/
def written (w : ByteMutWriter) : List UInt8 := w.buf.take w.cursor

@[simp] theorem written_new (buf : List UInt8) : (new buf).written = [] := by
  simp [written, new]

theorem length_written (w : ByteMutWriter) : w.written.length = w.cursor := by
  rw [written, List.length_take, Nat.min_eq_left w.cursor_le]

/-- Nothing is written beyond the capacity. -/
@[simp] theorem take_written (w : ByteMutWriter) : w.written.take w.capacity = w.written := by
  rw [List.take_of_length_le]
  rw [length_written]
  exact w.cursor_le

/-- Cutting in between makes no difference. -/
theorem take_append_of_take (l s : List UInt8) (n : Nat) :
    (l.take n ++ s).take n = (l ++ s).take n := by
  simp only [List.take_append, List.take_take, Nat.min_self, List.length_take]
  congr 2
  omega

/-- `write_str` appends, and cuts at the capacity. -/
theorem written_writeStr (w : ByteMutWriter) (s : List UInt8) :
    ∃ w', w.writeStr s = .ok w' ∧ w'.capacity = w.capacity ∧
      w'.written = (w.written ++ s).take w.capacity := by
  refine ⟨_, rfl, ?_, ?_⟩
  · have hle := w.cursor_le
    simp [capacity]
    omega
  · have hle := w.cursor_le
    have hroom : (overwrite (w.buf.drop w.cursor) s).take (min w.capacity (w.cursor + s.length) -
        w.cursor) = s.take (w.capacity - w.cursor) := by
      have hfree : (w.buf.drop w.cursor).length = w.capacity - w.cursor := List.length_drop
      have hcut : min w.capacity (w.cursor + s.length) - w.cursor =
          min s.length (w.capacity - w.cursor) := by omega
      rw [hcut, ← hfree, ← length_overwrite (w.buf.drop w.cursor) s, ← List.take_eq_take_min]
      rw [take_overwrite, length_overwrite]
    have hkept : (w.buf.take w.cursor).length = w.cursor := w.length_written
    have hcut : (w.buf.take w.cursor).take (min w.capacity (w.cursor + s.length)) =
        (w.buf.take w.cursor).take w.capacity := by
      have hall : (w.buf.take w.cursor).length ≤ w.capacity := Nat.le_trans (Nat.le_of_eq hkept) hle
      have hall' : (w.buf.take w.cursor).length ≤ min w.capacity (w.cursor + s.length) := by omega
      rw [List.take_of_length_le hall', List.take_of_length_le hall]
    simp only [written, List.take_append, hkept, hroom, hcut]

/-- `write!` appends all pieces, and cuts at the capacity. -/
theorem written_write (w : ByteMutWriter) (pieces : List (List UInt8)) :
    ∃ w', w.write pieces = .ok w' ∧ w'.capacity = w.capacity ∧
      w'.written = (w.written ++ pieces.flatten).take w.capacity := by
  induction pieces generalizing w with
  | nil => exact ⟨w, rfl, rfl, by simp⟩
  | cons piece pieces ih =>
      obtain ⟨w', hw', hcap, hwritten⟩ := w.written_writeStr piece
      obtain ⟨w'', hw'', hcap', hwritten'⟩ := ih w'
      refine ⟨w'', ?_, hcap'.trans hcap, ?_⟩
      · rw [write, List.foldlM_cons, hw']
        exact hw''
      · rw [hwritten', hcap, hwritten, take_append_of_take]
        simp

end ByteMutWriter

end Toucan
