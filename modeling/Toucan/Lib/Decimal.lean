/-!
# Toucan.Lib.Decimal

Decimal numbers as ASCII bytes: the digits of `Nat.toDigits` with their codes, and
the value of a string of digits.
-/

namespace Toucan.Decimal

/-- The byte of an ASCII character. -/
def byteOf (c : Char) : UInt8 := UInt8.ofNat c.toNat

def isDigit (b : UInt8) : Bool := 48 ≤ b && b ≤ 57

/-- A number as it is written out. -/
def decimal (n : Nat) : List UInt8 := (Nat.toDigits 10 n).map byteOf

/-- The value of a string of digits. -/
def ofDigits (bs : List UInt8) : Nat := bs.foldl (fun n b => 10 * n + (b.toNat - 48)) 0

/-- The number that a text begins with, `none` when it begins with no digit. -/
def leadingNumber (bs : List UInt8) : Option Nat :=
  let digits := bs.takeWhile isDigit
  if digits.isEmpty then none else some (ofDigits digits)

theorem toNat_byteOf {c : Char} (h : c.isDigit = true) :
    (byteOf c).toNat = c.toNat ∧ 48 ≤ c.toNat ∧ c.toNat ≤ 57 := by
  have hrange : 48 ≤ c.toNat ∧ c.toNat ≤ 57 := by
    simpa [Char.isDigit, UInt32.le_iff_toNat_le] using h
  refine ⟨?_, hrange⟩
  rw [byteOf, UInt8.toNat_ofNat']
  omega

theorem isDigit_byteOf {c : Char} (h : c.isDigit = true) : isDigit (byteOf c) = true := by
  have hbyte := toNat_byteOf h
  simp [isDigit, UInt8.le_iff_toNat_le, hbyte]

theorem isDigit_of_mem_decimal (h : b ∈ decimal n) : isDigit b = true := by
  obtain ⟨c, hc, rfl⟩ := List.mem_map.mp h
  exact isDigit_byteOf (Nat.isDigit_of_mem_toDigits (by simp) (by simp) hc)

theorem decimal_ne_nil (n : Nat) : decimal n ≠ [] := by
  simp [decimal]

theorem length_decimal_le_iff (h : 0 < k) : (decimal n).length ≤ k ↔ n < Nat.pow 10 k := by
  rw [decimal, List.length_map]
  exact Nat.length_toDigits_le_iff (by simp) h

/-- A byte that is no digit is not written. -/
theorem not_mem_decimal (h : isDigit b = false) : b ∉ decimal n := by
  intro hm
  simp [isDigit_of_mem_decimal hm] at h

/-- A number read back. -/
theorem ofDigits_decimal (n : Nat) : ofDigits (decimal n) = n := by
  have hfold : ∀ (cs : List Char) (m : Nat), (∀ c ∈ cs, c.isDigit = true) →
      (cs.map byteOf).foldl (fun n b => 10 * n + (b.toNat - 48)) m = Nat.ofDigitChars 10 cs m := by
    intro cs
    induction cs with
    | nil => simp
    | cons c cs ih =>
        intro m hcs
        have hc := toNat_byteOf (hcs c List.mem_cons_self)
        have hrest := ih (10 * m + (c.toNat - 48)) fun d hd => hcs d (List.mem_cons_of_mem c hd)
        simpa [Nat.ofDigitChars_cons, hc] using hrest
  have hdigits : ∀ c ∈ Nat.toDigits 10 n, c.isDigit = true := fun c hc =>
    Nat.isDigit_of_mem_toDigits (by simp) (by simp) hc
  rw [ofDigits, decimal, hfold _ 0 hdigits, Nat.ofDigitChars_ten_toDigits]

@[simp] theorem leadingNumber_decimal (n : Nat) : leadingNumber (decimal n) = some n := by
  have hall : (decimal n).takeWhile isDigit = decimal n := by
    have happend : (decimal n ++ []).takeWhile isDigit = decimal n ++ [].takeWhile isDigit :=
      List.takeWhile_append_of_pos fun b hb => isDigit_of_mem_decimal hb
    simpa using happend
  simp [leadingNumber, hall, decimal_ne_nil, ofDigits_decimal]

/-- The digits of a number before something else. -/
theorem takeWhile_decimal_append (h : isDigit b = false) (rest : List UInt8) :
    (decimal n ++ b :: rest).takeWhile isDigit = decimal n ∧
      (decimal n ++ b :: rest).dropWhile isDigit = b :: rest := by
  have hall : ∀ d ∈ decimal n, isDigit d = true := fun d hd => isDigit_of_mem_decimal hd
  rw [List.takeWhile_append_of_pos hall, List.dropWhile_append_of_pos hall]
  simp [h]

end Toucan.Decimal
