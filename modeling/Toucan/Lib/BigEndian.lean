/-!
# Toucan.Lib.BigEndian

Numbers as a given count of bytes, the most significant first.
-/

namespace Toucan.BigEndian

/-- The lowest `k` bytes of a number. -/
def encode : Nat → Nat → List UInt8
  | 0, _ => []
  | k + 1, n => encode k (n / 256) ++ [UInt8.ofNat n]

/-- The number that bytes are. -/
def decode (bs : List UInt8) : Nat := bs.foldl (fun n b => n * 256 + b.toNat) 0

@[simp] theorem length_encode (k n : Nat) : (encode k n).length = k := by
  induction k generalizing n with
  | zero => rfl
  | succ k ih => simp [encode, ih]

@[simp] theorem decode_nil : decode [] = 0 := rfl

theorem decode_append_singleton (bs : List UInt8) (b : UInt8) :
    decode (bs ++ [b]) = decode bs * 256 + b.toNat := by
  simp [decode]

theorem decode_encode {k n : Nat} (h : n < Nat.pow 256 k) : decode (encode k n) = n := by
  induction k generalizing n with
  | zero =>
      have hn : n = 0 := Nat.lt_one_iff.mp h
      rw [hn]
      rfl
  | succ k ih =>
      have hpow : Nat.pow 256 (k + 1) = Nat.pow 256 k * 256 := rfl
      have hq : n / 256 < Nat.pow 256 k := by
        rw [hpow] at h
        omega
      rw [encode, decode_append_singleton, ih hq, UInt8.toNat_ofNat']
      omega

theorem decode_lt (bs : List UInt8) : decode bs < Nat.pow 256 bs.length := by
  rw [← List.reverse_reverse bs]
  induction bs.reverse with
  | nil => exact Nat.one_pos
  | cons b bs ih =>
      have hb := b.toNat_lt
      have hpow : Nat.pow 256 (bs.reverse.length + 1) = Nat.pow 256 bs.reverse.length * 256 := rfl
      rw [List.reverse_cons, decode_append_singleton, List.length_append, List.length_singleton,
        hpow]
      omega

theorem encode_decode (bs : List UInt8) : encode bs.length (decode bs) = bs := by
  rw [← List.reverse_reverse bs]
  induction bs.reverse with
  | nil => rfl
  | cons b bs ih =>
      have hb := b.toNat_lt
      have hq : (decode bs.reverse * 256 + b.toNat) / 256 = decode bs.reverse := by omega
      have hlow : UInt8.ofNat (decode bs.reverse * 256 + b.toNat) = b := by
        rw [← UInt8.toNat_inj, UInt8.toNat_ofNat']
        omega
      rw [List.reverse_cons, decode_append_singleton, List.length_append, List.length_singleton,
        encode, hq, hlow, ih]

end Toucan.BigEndian
