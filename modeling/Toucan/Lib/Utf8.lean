import Toucan.Lib.HttpMessage

/-!
# Toucan.Lib.Utf8

Where a text in UTF-8 can be cut: the bytes before a cut are a text exactly when the
cut is between two characters (`fromUtf8_take_isSome_iff`).
-/

namespace Toucan.Utf8

open HttpMessage

/-- The bytes of some characters. -/
def encode (cs : List Char) : List UInt8 := cs.flatMap String.utf8EncodeChar

/-- Whether a character begins at byte `n`, or the characters end there. -/
def isCharBoundary : List Char → Nat → Bool
  | _, 0 => true
  | [], _ + 1 => false
  | c :: cs, n + 1 => c.utf8Size ≤ n + 1 && isCharBoundary cs (n + 1 - c.utf8Size)

@[simp] theorem encode_append (cs ds : List Char) : encode (cs ++ ds) = encode cs ++ encode ds := by
  simp [encode]

theorem length_encode_cons (c : Char) (cs : List Char) :
    (encode (c :: cs)).length = c.utf8Size + (encode cs).length := by
  simp [encode]

theorem toByteArray_encode (cs : List Char) : (encode cs).toByteArray = cs.utf8Encode := rfl

theorem asBytes_eq_encode (s : String) : asBytes s = encode s.toList := by
  have hbytes : s.toByteArray = (encode s.toList).toByteArray := by
    rw [toByteArray_encode, String.utf8Encode_toList]
  rw [asBytes, hbytes]
  simp

/-- A cut at a boundary is behind some of the characters. -/
theorem isCharBoundary_iff {cs : List Char} {n : Nat} :
    isCharBoundary cs n = true ↔ ∃ front, front <+: cs ∧ (encode front).length = n := by
  induction cs generalizing n with
  | nil => cases n <;> simp [isCharBoundary, encode]
  | cons c cs ih =>
      cases n with
      | zero =>
          simp only [isCharBoundary, true_iff]
          exact ⟨[], List.nil_prefix, rfl⟩
      | succ n =>
          simp only [isCharBoundary, Bool.and_eq_true, decide_eq_true_eq, ih]
          constructor
          · rintro ⟨hle, front, hfront, hlen⟩
            refine ⟨c :: front, by simpa using hfront, ?_⟩
            rw [length_encode_cons]
            omega
          · rintro ⟨front, hfront, hlen⟩
            cases front with
            | nil => simp [encode] at hlen
            | cons d front =>
                rw [List.cons_prefix_cons] at hfront
                obtain ⟨rfl, hfront⟩ := hfront
                rw [length_encode_cons] at hlen
                exact ⟨by omega, front, hfront, by omega⟩

/-- The bytes before a cut are a text exactly when no character is cut. -/
theorem fromUtf8_take_isSome_iff (cs : List Char) (h : n ≤ (encode cs).length) :
    (fromUtf8 ((encode cs).take n)).isSome = true ↔ isCharBoundary cs n = true := by
  rw [isCharBoundary_iff]
  constructor
  · intro hsome
    obtain ⟨s, hs⟩ := Option.isSome_iff_exists.mp hsome
    have hbytes := asBytes_of_fromUtf8 hs
    rw [asBytes_eq_encode] at hbytes
    refine ⟨s.toList, ?_, by rw [hbytes, List.length_take, Nat.min_eq_left h]⟩
    -- an encoding that begins another one is that of a first part
    apply List.isPrefix_of_utf8Encode_append_eq_utf8Encode ((encode cs).drop n).toByteArray
    rw [← toByteArray_encode, ← toByteArray_encode, hbytes]
    simp [← List.toByteArray_append]
  · rintro ⟨front, ⟨back, rfl⟩, rfl⟩
    have htext : asBytes (String.ofList front) = encode front := by
      rw [asBytes_eq_encode, String.toList_ofList]
    rw [encode_append, List.take_left, ← htext, fromUtf8_asBytes]
    rfl

end Toucan.Utf8
