import Toucan.Lib.Utf8
import Toucan.Utils.BytesWriter

/-!
# Toucan.Utils.Writers

The two writers that own their buffer, `ByteMutWriterCap` of `utils/bytes_writer.rs` and
its copy in the crate `syslog-emb`, next to `ByteMutWriter`.

Each of the three holds the text that was written as far as it fits, over the bytes that
the buffer had before (`PrefixLaw`).  `as_str` takes what it holds for a text, which it
is unless the end of the buffer fell into a character.
-/

namespace Toucan

open HttpMessage Utf8

/-- Two loops that go along with each other. -/
theorem map_foldlM {f : σ → α → Except ε σ} {g : τ → α → Except ε τ} {r : σ → τ}
    (h : ∀ s a, (f s a).map r = g (r s) a) (s : σ) (l : List α) :
    (l.foldlM f s).map r = l.foldlM g (r s) := by
  induction l generalizing s with
  | nil => rfl
  | cons a l ih =>
      rw [List.foldlM_cons, List.foldlM_cons, ← h]
      cases f s a with
      | error e => rfl
      | ok s' => exact ih s'

/-! ## The borrowed buffer -/

/-- What a buffer holds after `full` has been written to it from the front. -/
structure PrefixLaw (init full buf : List UInt8) (cursor : Nat) : Prop where
  cursor_eq : cursor = min init.length full.length
  before : buf.take cursor = full.take cursor
  after : buf.drop cursor = init.drop cursor

theorem PrefixLaw.take_cursor {init full buf : List UInt8} (h : PrefixLaw init full buf cursor) :
    buf.take cursor = full.take init.length := by
  rw [h.before, h.cursor_eq, List.take_eq_take_iff]
  omega

namespace ByteMutWriter

/-- `as_str`; `none` is the panic of its `unwrap`. -/
def asStr (w : ByteMutWriter) : Option String := fromUtf8 w.written

/-- The loop leaves alone what is behind the text. -/
theorem drop_overwrite (old s : List UInt8) (h : min old.length s.length ≤ k) :
    (overwrite old s).drop k = old.drop k := by
  induction old generalizing s k with
  | nil => cases s <;> rfl
  | cons a old ih =>
      cases s with
      | nil => rfl
      | cons b s =>
          cases k with
          | zero => simp at h
          | succ k =>
              have hk : min old.length s.length ≤ k := by
                simp only [List.length_cons] at h
                omega
              simpa [overwrite] using ih s hk

theorem prefixLaw_new (init : List UInt8) : PrefixLaw init [] (new init).buf (new init).cursor where
  cursor_eq := by simp [new]
  before := by simp [new]
  after := rfl

/-- One `write_str` adds its text to what is held. -/
theorem prefixLaw_writeStr {w : ByteMutWriter} {init full : List UInt8}
    (h : PrefixLaw init full w.buf w.cursor) (s : List UInt8) :
    ∃ w', w.writeStr s = .ok w' ∧ PrefixLaw init (full ++ s) w'.buf w'.cursor := by
  obtain ⟨w', hw', hcap, hwritten⟩ := w.written_writeStr s
  have hle := w.cursor_le
  have hlen : w.buf.length = init.length := by
    have hafter := congrArg List.length h.after
    have hcursor := h.cursor_eq
    simp only [List.length_drop] at hafter
    omega
  have hcursor : w'.cursor = min init.length (full ++ s).length := by
    have hlen' := congrArg List.length hwritten
    rw [length_written, List.length_take, List.length_append, length_written, capacity] at hlen'
    have hfull := h.cursor_eq
    simp only [List.length_append]
    omega
  refine ⟨w', hw', hcursor, ?_, ?_⟩
  · have hbefore : w.written = full.take init.length := h.take_cursor
    calc w'.buf.take w'.cursor
      _ = (full.take init.length ++ s).take init.length := by
          rw [← hbefore, ← hlen]
          exact hwritten
      _ = (full ++ s).take init.length := take_append_of_take full s init.length
      _ = (full ++ s).take w'.cursor := by
          rw [hcursor, List.take_eq_take_iff]
          omega
  · rw [writeStr, Except.ok.injEq] at hw'
    subst hw'
    simp only [capacity] at hcursor ⊢
    rw [List.drop_append, List.length_take, List.drop_of_length_le, List.nil_append]
    · rw [Nat.min_eq_left hle, drop_overwrite, h.after, List.drop_drop]
      · congr 1
        omega
      · rw [List.length_drop]
        omega
    · rw [List.length_take]
      omega

/-- All the texts are held, as far as they fit. -/
theorem prefixLaw_write {w : ByteMutWriter} {init full : List UInt8}
    (h : PrefixLaw init full w.buf w.cursor) (pieces : List (List UInt8)) :
    ∃ w', w.write pieces = .ok w' ∧ PrefixLaw init (full ++ pieces.flatten) w'.buf w'.cursor := by
  induction pieces generalizing w full with
  | nil => exact ⟨w, rfl, by simpa using h⟩
  | cons piece pieces ih =>
      obtain ⟨w', hw', h'⟩ := prefixLaw_writeStr h piece
      obtain ⟨w'', hw'', h''⟩ := ih h'
      refine ⟨w'', ?_, by simpa using h''⟩
      rw [write, List.foldlM_cons, hw']
      exact hw''

end ByteMutWriter

/-! ## The buffer of a fixed size -/

/-- The loop of `write_str` over an array. -/
def overwriteFrom (buf : Vector UInt8 N) (cursor : Nat) (s : List UInt8) : Vector UInt8 N :=
  ⟨(buf.toList.take cursor ++ ByteMutWriter.overwrite (buf.toList.drop cursor) s).toArray, by
    simp [ByteMutWriter.length_overwrite]
    omega⟩

theorem toList_overwriteFrom (buf : Vector UInt8 N) (cursor : Nat) (s : List UInt8) :
    (overwriteFrom buf cursor s).toList =
      buf.toList.take cursor ++ ByteMutWriter.overwrite (buf.toList.drop cursor) s := by
  simp [overwriteFrom, Vector.toList]

/-- `heapless::String<N>`: a text of at most `N` bytes. -/
structure HeaplessString (N : Nat) where
  text : String
  length_le : (asBytes text).length ≤ N

def HeaplessString.fromStr (N : Nat) (s : String) : Option (HeaplessString N) :=
  if h : (asBytes s).length ≤ N then some ⟨s, h⟩ else none

/-- `ByteMutWriterCap` of the controller. -/
structure ByteMutWriterCap (N : Nat) where
  buf : Vector UInt8 N
  cursor : Nat
  cursor_le : cursor ≤ N

namespace ByteMutWriterCap

def new (N : Nat) : ByteMutWriterCap N := ⟨Vector.replicate N 0, 0, Nat.zero_le N⟩

def capacity (w : ByteMutWriterCap N) : Nat := w.buf.size

/-- `&self.buf[0..self.cursor]` -/
def borrow (w : ByteMutWriterCap N) : List UInt8 := w.buf.toList.take w.cursor

def asStr (w : ByteMutWriterCap N) : Option String := fromUtf8 w.borrow

/-- `to_string`; `none` is the panic of one of its two `unwrap`s. -/
def toString (w : ByteMutWriterCap N) : Option (HeaplessString N) :=
  w.asStr.bind (HeaplessString.fromStr N)

def writeStr (w : ByteMutWriterCap N) (s : List UInt8) : Except Unit (ByteMutWriterCap N) :=
  .ok {
    buf := overwriteFrom w.buf w.cursor s
    cursor := min w.capacity (w.cursor + s.length)
    cursor_le := Nat.min_le_left N _ }

def write (w : ByteMutWriterCap N) (pieces : List (List UInt8)) :
    Except Unit (ByteMutWriterCap N) :=
  pieces.foldlM writeStr w

/-- The writer over the same bytes. -/
def toWriter (w : ByteMutWriterCap N) : ByteMutWriter :=
  ⟨w.buf.toList, w.cursor, by simpa using w.cursor_le⟩

theorem toWriter_new (N : Nat) : (new N).toWriter = ByteMutWriter.new (List.replicate N 0) := by
  simp [toWriter, new, ByteMutWriter.new]

/-- What is held fits into the text. -/
theorem toString_isSome (w : ByteMutWriterCap N) : w.toString.isSome = w.asStr.isSome := by
  unfold toString
  cases hs : w.asStr with
  | none => rfl
  | some s =>
      have hlen : (asBytes s).length ≤ N := by
        rw [asBytes_of_fromUtf8 hs, borrow, List.length_take, Vector.length_toList]
        exact Nat.min_le_right _ N
      simp [HeaplessString.fromStr, hlen]

theorem map_writeStr (w : ByteMutWriterCap N) (s : List UInt8) :
    (w.writeStr s).map toWriter = w.toWriter.writeStr s := by
  simp [writeStr, Except.map, toWriter, toList_overwriteFrom, ByteMutWriter.writeStr, capacity,
    ByteMutWriter.capacity]

theorem map_write (w : ByteMutWriterCap N) (pieces : List (List UInt8)) :
    (w.write pieces).map toWriter = w.toWriter.write pieces :=
  map_foldlM map_writeStr w pieces

end ByteMutWriterCap

namespace SyslogEmb

/-- `ByteMutWriterCap` of the crate `syslog-emb`. -/
structure ByteMutWriterCap (N : Nat) where
  buf : Vector UInt8 N
  cursor : Nat
  cursor_le : cursor ≤ N

namespace ByteMutWriterCap

def new (N : Nat) : ByteMutWriterCap N := ⟨Vector.replicate N 0, 0, Nat.zero_le N⟩

def capacity (w : ByteMutWriterCap N) : Nat := w.buf.size

/-- `&self.buf[0..self.cursor]` -/
def borrow (w : ByteMutWriterCap N) : List UInt8 := w.buf.toList.take w.cursor

def asStr (w : ByteMutWriterCap N) : Option String := fromUtf8 w.borrow

def toString (w : ByteMutWriterCap N) : Option (HeaplessString N) :=
  w.asStr.bind (HeaplessString.fromStr N)

def writeStr (w : ByteMutWriterCap N) (s : List UInt8) : Except Unit (ByteMutWriterCap N) :=
  .ok {
    buf := overwriteFrom w.buf w.cursor s
    cursor := min w.capacity (w.cursor + s.length)
    cursor_le := Nat.min_le_left N _ }

def write (w : ByteMutWriterCap N) (pieces : List (List UInt8)) :
    Except Unit (ByteMutWriterCap N) :=
  pieces.foldlM writeStr w

/-- The controller's writer with the same contents. -/
def toController (w : ByteMutWriterCap N) : Toucan.ByteMutWriterCap N :=
  ⟨w.buf, w.cursor, w.cursor_le⟩

theorem toController_new (N : Nat) : (new N).toController = Toucan.ByteMutWriterCap.new N := rfl

theorem map_writeStr (w : ByteMutWriterCap N) (s : List UInt8) :
    (w.writeStr s).map toController = w.toController.writeStr s := rfl

theorem map_write (w : ByteMutWriterCap N) (pieces : List (List UInt8)) :
    (w.write pieces).map toController = w.toController.write pieces :=
  map_foldlM map_writeStr w pieces

end ByteMutWriterCap

end SyslogEmb

/-! ## The three writers together -/

/-- Each writer holds the front of what is written, and those that own their buffer hold
    what the other one holds over zeros. -/
theorem exists_write (init : Vector UInt8 N) (pieces : List (List UInt8)) :
    ∃ w s, (ByteMutWriter.new init.toList).write pieces = .ok w ∧
      (ByteMutWriterCap.new N).write pieces = .ok s.toController ∧
      (SyslogEmb.ByteMutWriterCap.new N).write pieces = .ok s ∧
      (ByteMutWriter.new (List.replicate N 0)).write pieces =
        .ok s.toController.toWriter ∧
      PrefixLaw init.toList pieces.flatten w.buf w.cursor ∧
      PrefixLaw (List.replicate N 0) pieces.flatten s.buf.toList s.cursor := by
  obtain ⟨w, hw, hlaw⟩ := ByteMutWriter.prefixLaw_write
    (ByteMutWriter.prefixLaw_new init.toList) pieces
  obtain ⟨w₀, hw₀, hzeros⟩ := ByteMutWriter.prefixLaw_write
    (ByteMutWriter.prefixLaw_new (List.replicate N 0)) pieces
  have hcontroller := (SyslogEmb.ByteMutWriterCap.new N).map_write pieces
  have hwriter := (ByteMutWriterCap.new N).map_write pieces
  rw [SyslogEmb.ByteMutWriterCap.toController_new] at hcontroller
  rw [ByteMutWriterCap.toWriter_new, hw₀, ← hcontroller] at hwriter
  cases hs : (SyslogEmb.ByteMutWriterCap.new N).write pieces with
  | error e =>
      rw [hs] at hwriter
      contradiction
  | ok s =>
      rw [hs] at hwriter hcontroller
      simp only [Except.map, Except.ok.injEq] at hwriter
      subst hwriter
      exact ⟨w, s, hw, hcontroller.symm, rfl, hw₀, hlaw, hzeros⟩

/-- The bytes of some texts, one after the other. -/
def allBytes (texts : List String) : List UInt8 := (texts.map asBytes).flatten

/-- Whatever is written, each writer holds the front of it, and they agree. -/
theorem writers_hold_front (init : Vector UInt8 N) (texts : List String) :
    ∃ w c s, (ByteMutWriter.new init.toList).write (texts.map asBytes) = .ok w ∧
      (ByteMutWriterCap.new N).write (texts.map asBytes) = .ok c ∧
      (SyslogEmb.ByteMutWriterCap.new N).write (texts.map asBytes) = .ok s ∧
      PrefixLaw init.toList (allBytes texts) w.buf w.cursor ∧
      PrefixLaw (List.replicate N 0) (allBytes texts) c.buf.toList c.cursor ∧
      PrefixLaw (List.replicate N 0) (allBytes texts) s.buf.toList s.cursor ∧
      w.cursor = c.cursor ∧ w.written = c.borrow ∧ c.cursor = s.cursor ∧ c.buf = s.buf ∧
      (ByteMutWriter.new (List.replicate N 0)).write (texts.map asBytes) = .ok c.toWriter := by
  obtain ⟨w, s, hw, hc, hs, hw₀, hlaw, hzeros⟩ := exists_write init (texts.map asBytes)
  have hcursor : w.cursor = s.cursor := by
    rw [hlaw.cursor_eq, hzeros.cursor_eq, List.length_replicate, Vector.length_toList]
  refine ⟨w, s.toController, s, hw, hc, hs, hlaw, hzeros, hzeros, hcursor, ?_, rfl, rfl, hw₀⟩
  calc w.written
    _ = (allBytes texts).take w.cursor := hlaw.before
    _ = (allBytes texts).take s.cursor := by rw [hcursor]
    _ = s.toController.borrow := hzeros.before.symm

/-! ## What is held as a text -/

/-- Whether the buffer ends behind the texts, or in front of one of their characters. -/
def endsAtChar (texts : List String) (capacity : Nat) : Bool :=
  (allBytes texts).length ≤ capacity || isCharBoundary (texts.flatMap String.toList) capacity

theorem allBytes_eq_encode (texts : List String) :
    allBytes texts = encode (texts.flatMap String.toList) := by
  induction texts with
  | nil => rfl
  | cons text texts ih =>
      rw [List.flatMap_cons, encode_append, ← ih, ← asBytes_eq_encode]
      simp [allBytes]

/-- What is held is a text exactly when the buffer ends where a character does. -/
theorem fromUtf8_isSome_of_prefixLaw {init buf : List UInt8} {texts : List String}
    (h : PrefixLaw init (allBytes texts) buf cursor) :
    (fromUtf8 (buf.take cursor)).isSome = endsAtChar texts init.length := by
  have hcursor := h.cursor_eq
  have hle : cursor ≤ (encode (texts.flatMap String.toList)).length := by
    rw [← allBytes_eq_encode]
    omega
  have hheld := fromUtf8_take_isSome_iff (texts.flatMap String.toList) hle
  rw [← allBytes_eq_encode] at hheld
  rw [h.before, Bool.eq_iff_iff, hheld, endsAtChar, Bool.or_eq_true, decide_eq_true_eq]
  by_cases hfits : (allBytes texts).length ≤ init.length
  · have hall : isCharBoundary (texts.flatMap String.toList) cursor = true := by
      rw [isCharBoundary_iff]
      refine ⟨_, List.prefix_rfl, ?_⟩
      rw [← allBytes_eq_encode]
      omega
    simp [hfits, hall]
  · have hfull : cursor = init.length := by omega
    simp [hfits, hfull]

/-- Both texts of a writer that owns its buffer. -/
theorem isSome_of_prefixLaw {w : ByteMutWriterCap N} {texts : List String}
    (h : PrefixLaw (List.replicate N 0) (allBytes texts) w.buf.toList w.cursor) :
    w.asStr.isSome = endsAtChar texts N ∧ w.toString.isSome = endsAtChar texts N := by
  have hheld := fromUtf8_isSome_of_prefixLaw h
  rw [List.length_replicate] at hheld
  exact ⟨hheld, w.toString_isSome.trans hheld⟩

/-- `as_str` and `to_string` take what is held for a text when the buffer does not end
    within a character, and panic otherwise. -/
theorem as_str_ok_iff (init : Vector UInt8 N) (texts : List String) :
    ∃ w c s, (ByteMutWriter.new init.toList).write (texts.map asBytes) = .ok w ∧
      (ByteMutWriterCap.new N).write (texts.map asBytes) = .ok c ∧
      (SyslogEmb.ByteMutWriterCap.new N).write (texts.map asBytes) = .ok s ∧
      (w.asStr.isSome = true ↔ endsAtChar texts N = true) ∧
      (c.asStr.isSome = true ↔ endsAtChar texts N = true) ∧
      (c.toString.isSome = true ↔ endsAtChar texts N = true) ∧
      (s.asStr.isSome = true ↔ endsAtChar texts N = true) ∧
      (s.toString.isSome = true ↔ endsAtChar texts N = true) := by
  obtain ⟨w, s, hw, hc, hs, -, hlaw, hzeros⟩ := exists_write init (texts.map asBytes)
  have hborrowed := fromUtf8_isSome_of_prefixLaw hlaw
  rw [Vector.length_toList] at hborrowed
  obtain ⟨hstr, hstring⟩ := isSome_of_prefixLaw (w := s.toController) hzeros
  exact ⟨w, s.toController, s, hw, hc, hs, Bool.eq_iff_iff.mp hborrowed, Bool.eq_iff_iff.mp hstr,
    Bool.eq_iff_iff.mp hstring, Bool.eq_iff_iff.mp hstr, Bool.eq_iff_iff.mp hstring⟩

/-- A letter of two bytes in a buffer of one. -/
theorem as_str_panics_on_cut_char :
    ∃ w c s, (ByteMutWriter.new [0]).write (["é"].map asBytes) = .ok w ∧
      (ByteMutWriterCap.new 1).write (["é"].map asBytes) = .ok c ∧
      (SyslogEmb.ByteMutWriterCap.new 1).write (["é"].map asBytes) = .ok s ∧
      w.asStr = none ∧ c.asStr = none ∧ c.toString = none ∧ s.asStr = none ∧
      s.toString = none := by
  have hcut : endsAtChar ["é"] 1 = false := by decide +kernel
  obtain ⟨w, s, hw, hc, hs, -, hlaw, hzeros⟩ := exists_write #v[0] (["é"].map asBytes)
  have hborrowed := fromUtf8_isSome_of_prefixLaw hlaw
  obtain ⟨hstr, hstring⟩ := isSome_of_prefixLaw (w := s.toController) hzeros
  rw [Vector.length_toList, hcut, Option.isSome_eq_false_iff, Option.isNone_iff_eq_none] at hborrowed
  rw [hcut, Option.isSome_eq_false_iff, Option.isNone_iff_eq_none] at hstr hstring
  exact ⟨w, s.toController, s, hw, hc, hs, hborrowed, hstr, hstring, hstr, hstring⟩

end Toucan
