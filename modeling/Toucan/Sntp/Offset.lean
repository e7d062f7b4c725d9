import Mathlib.Algebra.Order.Group.Int
import Toucan.Sntp.Client

/-!
# Toucan.Sntp.Offset

What the times of a result say.

The client calculates with timestamps modulo `2 ^ 64` of the `2 ^ -32` s.  The time on the
way always comes out (`roundtripCalculate_exchange`); the offset does where the clocks are
less than 34 years apart, and is then off by half of the time on the way at most
(`offsetCalculate_exchange`).
-/

namespace Toucan.Sntp

open ClockSync

/-! ## Microseconds -/

/-- The `2 ^ -32` s as microseconds, in the client's way: what remains of a second is divided
by `2 ^ 32 - 1`. -/
def toMicros (d : Nat) : Nat :=
  d / 4294967296 * 1000000 + d % 4294967296 * 1000000 / 4294967295

/-- Too low by less than a microsecond, and too high by less than a part of one. -/
theorem toMicros_bounds (d : Nat) :
    toMicros d * 4294967296 ≤ d * 1000000 + 1000000 ∧
      d * 1000000 < (toMicros d + 1) * 4294967296 := by
  rw [toMicros]
  omega

/-- The same of a signed number. -/
def toMicrosInt (d : Int) : Int := d.sign * toMicros d.natAbs

theorem toMicrosInt_bounds (d : Int) :
    toMicrosInt d * 4294967296 ≤ d * 1000000 + 4294967296 ∧
      d * 1000000 - 4294967296 ≤ toMicrosInt d * 4294967296 := by
  have hbounds := toMicros_bounds d.natAbs
  rw [toMicrosInt]
  rcases Int.lt_trichotomy d 0 with h | h | h
  · rw [Int.sign_eq_neg_one_of_neg h]
    omega
  · rw [h]
    decide
  · rw [Int.sign_eq_one_of_pos h]
    omega

/-! ## The calculation -/

/-- Nothing overflows. -/
theorem toNat_convertDelays {sec fraction : UInt64} (hsec : sec.toNat < 4294967296)
    (hfraction : fraction.toNat < 4294967296) :
    (convertDelays sec fraction Units.microseconds.inSec).toNat =
      sec.toNat * 1000000 + fraction.toNat * 1000000 / 4294967295 := by
  have hunits : Units.microseconds.inSec.toNat = 1000000 := rfl
  have hmax : (4294967295 : UInt64).toNat = 4294967295 := rfl
  have hwhole : sec.toNat * 1000000 % 18446744073709551616 = sec.toNat * 1000000 :=
    Nat.mod_eq_of_lt (by omega)
  have hpart : fraction.toNat * 1000000 % 18446744073709551616 = fraction.toNat * 1000000 :=
    Nat.mod_eq_of_lt (by omega)
  rw [convertDelays, UInt64.toNat_add, UInt64.toNat_div, UInt64.toNat_mul, UInt64.toNat_mul, hunits,
    hmax]
  simp only [Nat.reducePow]
  rw [hwhole, hpart]
  apply Nat.mod_eq_of_lt
  omega

theorem toNat_convert (v : UInt64) :
    (convertDelays ((v &&& secondsMask) >>> 32) (v &&& secondsFracMask)
      Units.microseconds.inSec).toNat = toMicros v.toNat := by
  have hv := v.toNat_lt
  have hsec := toNat_seconds v
  have hfraction := toNat_fraction v
  rw [toNat_convertDelays (by omega) (by omega), hsec, hfraction, toMicros]

theorem toNat_roundtripCalculate (t1 t2 t3 t4 : UInt64) :
    (roundtripCalculate t1 t2 t3 t4 .microseconds).toNat =
      toMicros (roundtrip t1 t2 t3 t4).toNat :=
  toNat_convert _

theorem toInt_toInt64 (v : UInt64) : v.toInt64.toInt = (v.toNat : Int).bmod 18446744073709551616 :=
  BitVec.toInt_eq_toNat_bmod v.toBitVec

theorem toInt_signum (n : Int64) : (signum n).toInt = n.toInt.sign := by
  have hzero : (0 : Int64).toInt = 0 := rfl
  rw [signum]
  split
  · next h =>
      rw [h]
      rfl
  · next h =>
      have hne : n.toInt ≠ 0 := fun h' => h (Int64.toInt_inj.mp (h'.trans hzero.symm))
      split
      · next h =>
          rw [Int64.lt_iff_toInt_lt, hzero] at h
          rw [Int.sign_eq_neg_one_of_neg h]
          rfl
      · next h =>
          rw [Int64.lt_iff_toInt_lt, hzero] at h
          rw [Int.sign_eq_one_of_pos (by omega)]
          rfl

theorem toNat_unsignedAbs (n : Int64) : (unsignedAbs n).toNat = n.toInt.natAbs := by
  have hlt := n.toInt_lt
  have hle := n.le_toInt
  rw [unsignedAbs, UInt64.toNat_ofNat']
  omega

/-- Half of a number, towards zero. -/
theorem tdiv_two_bounds (n : Int) : n - 1 ≤ 2 * n.tdiv 2 ∧ 2 * n.tdiv 2 ≤ n + 1 := by
  have hsplit := Int.mul_tdiv_add_tmod n 2
  have hrest : (n.tmod 2).natAbs < 2 := by
    rw [Int.natAbs_tmod]
    exact Nat.mod_lt _ (by decide)
  omega

/-- Half of the sum, towards zero, in microseconds. -/
theorem toInt_offsetCalculate {t1 t2 t3 t4 : UInt64} {a b : Int}
    (ha : (t2 - t1).toInt64.toInt = a) (hb : (t3 - t4).toInt64.toInt = b)
    (hsum : -9223372036854775808 ≤ a + b ∧ a + b < 9223372036854775808) :
    (offsetCalculate t1 t2 t3 t4 .microseconds).toInt = toMicrosInt ((a + b).tdiv 2) := by
  obtain ⟨theta, htheta⟩ : ∃ theta, theta = ((t2 - t1).toInt64 + (t3 - t4).toInt64) / 2 := ⟨_, rfl⟩
  have hvalue : theta.toInt = (a + b).tdiv 2 := by
    have htwo : (2 : Int64).toInt = 2 := rfl
    rw [htheta, Int64.toInt_div_of_ne_right _ _ (by decide), Int64.toInt_add, ha, hb, htwo,
      Int.bmod_eq_of_le (by omega) (by omega)]
  obtain ⟨micros, hmicros⟩ : ∃ micros, micros = convertDelays
      ((unsignedAbs theta &&& secondsMask) >>> 32) (unsignedAbs theta &&& secondsFracMask)
      Units.microseconds.inSec := ⟨_, rfl⟩
  have hmicros' : micros.toNat = toMicros ((a + b).tdiv 2).natAbs := by
    rw [hmicros, toNat_convert, toNat_unsignedAbs, hvalue]
  have hbound : toMicros ((a + b).tdiv 2).natAbs ≤ 9223372036854775807 := by
    have hhalf := tdiv_two_bounds (a + b)
    rw [toMicros]
    omega
  have hmicrosInt : micros.toInt64.toInt = toMicros ((a + b).tdiv 2).natAbs := by
    rw [toInt_toInt64, hmicros', Int.bmod_eq_of_le (by omega) (by omega)]
  show (offsetCalculate t1 t2 t3 t4 .microseconds).toInt =
    ((a + b).tdiv 2).sign * toMicros ((a + b).tdiv 2).natAbs
  rw [offsetCalculate, ← htheta, ← hmicros, Int64.toInt_mul, hmicrosInt, toInt_signum, hvalue,
    Int.mul_comm]
  apply Int.bmod_eq_of_le
  · rcases Int.lt_trichotomy ((a + b).tdiv 2) 0 with h | h | h
    · rw [Int.sign_eq_neg_one_of_neg h]
      omega
    · rw [h]
      decide
    · rw [Int.sign_eq_one_of_pos h]
      omega
  · rcases Int.lt_trichotomy ((a + b).tdiv 2) 0 with h | h | h
    · rw [Int.sign_eq_neg_one_of_neg h]
      omega
    · rw [h]
      decide
    · rw [Int.sign_eq_one_of_pos h]
      omega

/-! ## Timestamps of an exchange -/

/-- The timestamp of an instant in `2 ^ -32` s. -/
def stamp (t : Int) : UInt64 := .ofBitVec (.ofInt 64 t)

theorem toNat_stamp (t : Int) : ((stamp t).toNat : Int) = t % 18446744073709551616 := by
  rw [stamp, UInt64.toNat_ofBitVec, BitVec.toNat_ofInt]
  omega

theorem toNat_stamp_sub (t u : Int) : stamp t - stamp u = stamp (t - u) := by
  rw [← UInt64.toNat_inj, UInt64.toNat_sub]
  have ht := toNat_stamp t
  have hu := toNat_stamp u
  have htu := toNat_stamp (t - u)
  omega

theorem toInt_stamp {t : Int} (h : -9223372036854775808 ≤ t ∧ t < 9223372036854775808) :
    (stamp t).toInt64.toInt = t := by
  show (BitVec.ofInt 64 t).toInt = t
  rw [BitVec.toInt_ofInt, Int.bmod_eq_of_le (by omega) (by omega)]

/-- The server's clock is five seconds ahead; a second on the way, of which three quarters there. -/
def sampleExchange : Exchange Int := ⟨0, 21474836480, 3221225472, 1073741824, 1073741824⟩

/-- **The time on the way**: what both ways took together, as far as it fits. -/
theorem roundtripCalculate_exchange (x : Exchange Int) (hthere : 0 ≤ x.there) (hback : 0 ≤ x.back)
    (hfits : x.there + x.back < 18446744073709551616) :
    (roundtripCalculate (stamp x.t₁) (stamp x.t₂) (stamp x.t₃) (stamp x.t₄) .microseconds).toNat =
      toMicros (x.there + x.back).toNat := by
  have hdelta : roundtrip (stamp x.t₁) (stamp x.t₂) (stamp x.t₃) (stamp x.t₄) =
      stamp (x.there + x.back) := by
    rw [← x.roundtrip_eq, roundtrip, roundtrip, toNat_stamp_sub, toNat_stamp_sub, toNat_stamp_sub]
  have hstamp := toNat_stamp (x.there + x.back)
  have hvalue : (stamp (x.there + x.back)).toNat = (x.there + x.back).toNat := by omega
  rw [toNat_roundtripCalculate, hdelta, hvalue]

theorem roundtripCalculate_sampleExchange :
    (roundtripCalculate (stamp 0) (stamp 24696061952) (stamp 25769803776) (stamp 5368709120)
      .microseconds).toNat = 1000000 :=
  roundtripCalculate_exchange sampleExchange (by decide) (by decide) (by decide)

/-- **The offset**: off by half of the time on the way at most, and the rounding, as long as
neither clock seems 68 years from the other and both together not 34. -/
theorem offsetCalculate_exchange (x : Exchange Int) (hthere : 0 ≤ x.there) (hback : 0 ≤ x.back)
    (hask : -9223372036854775808 ≤ x.offset + x.there ∧
      x.offset + x.there < 9223372036854775808)
    (hanswer : -9223372036854775808 ≤ x.offset - x.back ∧
      x.offset - x.back < 9223372036854775808)
    (hsum : -9223372036854775808 ≤ x.offset + x.offset + (x.there - x.back) ∧
      x.offset + x.offset + (x.there - x.back) < 9223372036854775808) :
    2 * |(offsetCalculate (stamp x.t₁) (stamp x.t₂) (stamp x.t₃) (stamp x.t₄)
        .microseconds).toInt * 4294967296 - x.offset * 1000000| ≤
      (x.there + x.back) * 1000000 + 2 * 4294967296 + 1000000 := by
  have hfirst : (stamp x.t₂ - stamp x.t₁).toInt64.toInt = x.offset + x.there := by
    rw [toNat_stamp_sub, toInt_stamp]
    · simp only [Exchange.t₁, Exchange.t₂]
      omega
    · simp only [Exchange.t₁, Exchange.t₂]
      omega
  have hsecond : (stamp x.t₃ - stamp x.t₄).toInt64.toInt = x.offset - x.back := by
    rw [toNat_stamp_sub, toInt_stamp]
    · simp only [Exchange.t₃, Exchange.t₄]
      omega
    · simp only [Exchange.t₃, Exchange.t₄]
      omega
  have htwice := x.abs_twiceOffset_sub_le hthere hback
  rw [x.twiceOffset_eq, x.roundtrip_eq, abs_le] at htwice
  have hhalf := tdiv_two_bounds (x.offset + x.there + (x.offset - x.back))
  have hbounds := toMicrosInt_bounds ((x.offset + x.there + (x.offset - x.back)).tdiv 2)
  rw [toInt_offsetCalculate hfirst hsecond (by omega)]
  generalize toMicrosInt _ = micros at hbounds ⊢
  rcases abs_cases (micros * 4294967296 - x.offset * 1000000) with ⟨h, -⟩ | ⟨h, -⟩
  · rw [h]
    omega
  · rw [h]
    omega

theorem offsetCalculate_sampleExchange :
    2 * |(offsetCalculate (stamp 0) (stamp 24696061952) (stamp 25769803776) (stamp 5368709120)
        .microseconds).toInt * 4294967296 - 21474836480 * 1000000| ≤
      4294967296 * 1000000 + 2 * 4294967296 + 1000000 :=
  offsetCalculate_exchange sampleExchange (by decide) (by decide) (by decide) (by decide)
    (by decide)

end Toucan.Sntp
