/-!
# Toucan.Lib.VarInt

Numbers of variable length: seven bits a byte, the low ones first, and the top bit
on every byte but the last.  A code has at most `w` bytes, which is enough for the
numbers below `limit w`.

A code says where it ends (`split_append`), and a number has one shortest code, the
one `encode` gives (`length_encode_le`).
-/

namespace Toucan.VarInt

/-- The first number that has no code of `w` bytes. -/
def limit : Nat → Nat
  | 0 => 1
  | w + 1 => 128 * limit w

theorem limit_pos (w : Nat) : 0 < limit w := by
  induction w with
  | zero => exact Nat.one_pos
  | succ w ih => simp only [limit]; omega

/-- Seven bits at a time, at most `w` times. -/
def encode : Nat → Nat → List UInt8
  | 0, _ => []
  | w + 1, n =>
    if n < 128 then [UInt8.ofNat n] else UInt8.ofNat (n % 128 + 128) :: encode w (n / 128)

/-- The bytes up to the first that has no top bit, and the rest; `none` when there is none
such among the first `w`. -/
def split : Nat → List UInt8 → Option (List UInt8 × List UInt8)
  | 0, _ => none
  | _ + 1, [] => none
  | w + 1, b :: bs =>
    if b < 128 then some ([b], bs)
    else match split w bs with
      | some (code, rest) => some (b :: code, rest)
      | none => none

/-- The number of a code. -/
def value : List UInt8 → Nat
  | [] => 0
  | b :: bs => b.toNat % 128 + 128 * value bs

theorem toNat_ofNat_of_lt {n : Nat} (h : n < 256) : (UInt8.ofNat n).toNat = n := by
  simpa using h

theorem lt_128_iff {b : UInt8} : b < 128 ↔ b.toNat < 128 := by
  rw [UInt8.lt_iff_toNat_lt]
  rfl

theorem ofNat_lt_128 {n : Nat} (h : n < 128) : UInt8.ofNat n < 128 := by
  rw [lt_128_iff, toNat_ofNat_of_lt (by omega)]
  exact h

theorem not_ofNat_lt_128 {n : Nat} (h : n < 128) : ¬ UInt8.ofNat (n + 128) < 128 := by
  rw [lt_128_iff, toNat_ofNat_of_lt (by omega)]
  omega

/-! ## The code of a number -/

theorem value_encode {w n : Nat} (h : n < limit w) : value (encode w n) = n := by
  induction w generalizing n with
  | zero =>
      have hn : n = 0 := Nat.lt_one_iff.mp h
      rw [hn]
      rfl
  | succ w ih =>
      rw [encode]
      by_cases hn : n < 128
      · rw [if_pos hn]
        simp only [value, toNat_ofNat_of_lt (show n < 256 by omega)]
        omega
      · have hq : n / 128 < limit w := by
          rw [limit] at h
          omega
        rw [if_neg hn]
        simp only [value, toNat_ofNat_of_lt (show n % 128 + 128 < 256 by omega), ih hq]
        omega

/-- The code ends where it says, whatever follows. -/
theorem split_encode_append {w n : Nat} (hw : 0 < w) (h : n < limit w) (rest : List UInt8) :
    split w (encode w n ++ rest) = some (encode w n, rest) := by
  induction w generalizing n with
  | zero => omega
  | succ w ih =>
      rw [encode]
      by_cases hn : n < 128
      · rw [if_pos hn]
        simp [split, ofNat_lt_128 hn]
      · have hq : n / 128 < limit w := by
          rw [limit] at h
          omega
        have hw' : 0 < w := by
          cases w with
          | zero => simp only [limit] at hq; omega
          | succ w => exact Nat.succ_pos w
        have hmore := not_ofNat_lt_128 (Nat.mod_lt n (by decide : 0 < 128))
        rw [if_neg hn, List.cons_append, split, if_neg hmore, ih hw' hq]

theorem length_encode_pos {w : Nat} (hw : 0 < w) (n : Nat) : 0 < (encode w n).length := by
  cases w with
  | zero => omega
  | succ w => rw [encode]; split <;> simp

theorem length_encode_le (w n : Nat) : (encode w n).length ≤ w := by
  induction w generalizing n with
  | zero => exact Nat.le_refl 0
  | succ w ih =>
      rw [encode]
      split
      · simp
      · have hq := ih (n / 128)
        rw [List.length_cons]
        omega

/-! ## Codes -/

theorem split_eq_some {w : Nat} {bs code rest : List UInt8} (h : split w bs = some (code, rest)) :
    bs = code ++ rest ∧ 0 < code.length ∧ code.length ≤ w := by
  induction w generalizing bs code with
  | zero => contradiction
  | succ w ih =>
      cases bs with
      | nil => contradiction
      | cons b bs =>
          rw [split] at h
          by_cases hb : b < 128
          · rw [if_pos hb, Option.some.injEq, Prod.mk.injEq] at h
            obtain ⟨rfl, rfl⟩ := h
            simp
          · rw [if_neg hb] at h
            cases hs : split w bs with
            | none => rw [hs] at h; contradiction
            | some r =>
                rw [hs] at h
                simp only [Option.some.injEq, Prod.mk.injEq] at h
                obtain ⟨rfl, rfl⟩ := h
                obtain ⟨hbs, hpos, hle⟩ := ih hs
                rw [hbs, List.length_cons]
                exact ⟨rfl, by omega, by omega⟩

/-- Only the last byte of a code is without the top bit. -/
theorem exists_last_of_split {w : Nat} {bs code rest : List UInt8}
    (h : split w bs = some (code, rest)) :
    ∃ front last, code = front ++ [last] ∧ (∀ b ∈ front, ¬ b < 128) ∧ last < 128 := by
  induction w generalizing bs code with
  | zero => contradiction
  | succ w ih =>
      cases bs with
      | nil => contradiction
      | cons b bs =>
          rw [split] at h
          by_cases hb : b < 128
          · rw [if_pos hb, Option.some.injEq, Prod.mk.injEq] at h
            obtain ⟨rfl, rfl⟩ := h
            exact ⟨[], b, rfl, by simp, hb⟩
          · rw [if_neg hb] at h
            cases hs : split w bs with
            | none => rw [hs] at h; contradiction
            | some r =>
                rw [hs] at h
                simp only [Option.some.injEq, Prod.mk.injEq] at h
                obtain ⟨rfl, rfl⟩ := h
                obtain ⟨front, last, hcode, htop, hlast⟩ := ih hs
                exact ⟨b :: front, last, by simp [hcode],
                  List.forall_mem_cons.mpr ⟨hb, htop⟩, hlast⟩

theorem split_of_last {w : Nat} {front rest : List UInt8} {last : UInt8}
    (htop : ∀ b ∈ front, ¬ b < 128) (hlast : last < 128) (hw : front.length < w) :
    split w (front ++ last :: rest) = some (front ++ [last], rest) := by
  induction front generalizing w with
  | nil =>
      obtain ⟨w, rfl⟩ : ∃ k, w = k + 1 := ⟨w - 1, by omega⟩
      rw [List.nil_append, split, if_pos hlast]
      rfl
  | cons b front ih =>
      obtain ⟨w, rfl⟩ : ∃ k, w = k + 1 := ⟨w - 1, by omega⟩
      rw [List.length_cons] at hw
      rw [List.cons_append, split, if_neg (htop b List.mem_cons_self),
        ih (fun c hc => htop c (List.mem_cons_of_mem b hc)) (by omega)]
      rfl

/-- Without such a byte there is no code. -/
theorem split_of_top (w : Nat) {bs : List UInt8} (h : ∀ b ∈ bs, ¬ b < 128) :
    split w bs = none := by
  induction w generalizing bs with
  | zero => rfl
  | succ w ih =>
      cases bs with
      | nil => rfl
      | cons b bs =>
          rw [split, if_neg (h b List.mem_cons_self),
            ih fun c hc => h c (List.mem_cons_of_mem b hc)]

/-- A code is found again whatever follows it. -/
theorem split_append {w : Nat} {bs code rest : List UInt8} (h : split w bs = some (code, rest))
    (more : List UInt8) : split w (code ++ more) = some (code, more) := by
  induction w generalizing bs code with
  | zero => contradiction
  | succ w ih =>
      cases bs with
      | nil => contradiction
      | cons b bs =>
          rw [split] at h
          by_cases hb : b < 128
          · rw [if_pos hb, Option.some.injEq, Prod.mk.injEq] at h
            obtain ⟨rfl, rfl⟩ := h
            simp [split, hb]
          · rw [if_neg hb] at h
            cases hs : split w bs with
            | none => rw [hs] at h; contradiction
            | some r =>
                rw [hs] at h
                simp only [Option.some.injEq, Prod.mk.injEq] at h
                obtain ⟨rfl, rfl⟩ := h
                simp [split, hb, ih hs]

theorem value_lt_of_split {w : Nat} {bs code rest : List UInt8}
    (h : split w bs = some (code, rest)) : value code < limit w := by
  induction w generalizing bs code with
  | zero => contradiction
  | succ w ih =>
      have hpos := limit_pos w
      cases bs with
      | nil => contradiction
      | cons b bs =>
          rw [split] at h
          have hmod := Nat.mod_lt b.toNat (by decide : 0 < 128)
          by_cases hb : b < 128
          · rw [if_pos hb, Option.some.injEq, Prod.mk.injEq] at h
            obtain ⟨rfl, rfl⟩ := h
            simp only [value, limit]
            omega
          · rw [if_neg hb] at h
            cases hs : split w bs with
            | none => rw [hs] at h; contradiction
            | some r =>
                rw [hs] at h
                simp only [Option.some.injEq, Prod.mk.injEq] at h
                obtain ⟨rfl, rfl⟩ := h
                have hlt := ih hs
                simp only [value, limit]
                omega

/-- No code is shorter than the one of `encode`. -/
theorem length_encode_value_le {w : Nat} {bs code rest : List UInt8}
    (h : split w bs = some (code, rest)) : (encode w (value code)).length ≤ code.length := by
  induction w generalizing bs code with
  | zero => contradiction
  | succ w ih =>
      cases bs with
      | nil => contradiction
      | cons b bs =>
          rw [split] at h
          have hmod := Nat.mod_lt b.toNat (by decide : 0 < 128)
          by_cases hb : b < 128
          · rw [if_pos hb, Option.some.injEq, Prod.mk.injEq] at h
            obtain ⟨rfl, rfl⟩ := h
            have hlt : value [b] < 128 := by
              simp only [value]
              omega
            rw [encode, if_pos hlt]
            exact Nat.le_refl _
          · rw [if_neg hb] at h
            cases hs : split w bs with
            | none => rw [hs] at h; contradiction
            | some r =>
                rw [hs] at h
                simp only [Option.some.injEq, Prod.mk.injEq] at h
                obtain ⟨rfl, rfl⟩ := h
                have hlen := ih hs
                have hq : value (b :: r.1) / 128 = value r.1 := by
                  simp only [value]
                  omega
                rw [encode, hq]
                split
                · simp
                · rw [List.length_cons, List.length_cons]
                  omega

end Toucan.VarInt
