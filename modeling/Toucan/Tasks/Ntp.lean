import Toucan.Lib.TimeZone

/-!
# Toucan.Tasks.Ntp

Network time (`ntp_process.rs`, and `sntpc` for the timestamp of a request).

`ntp_task` takes the seconds of the server for local time of the zone of the build and
then asks for the instant of that local time, which is what the clock is set to and what
`UTC_NOW` carries.  The generator of the timestamps that go to the server gives the
microseconds since 1970 where those within the second are asked for.
-/

namespace Toucan.Ntp

open TimeZone

/-! ## The time of the server -/

inductive NtpError where
  | parse
deriving DecidableEq

/-- Seconds since 1970 (`EpochTime`). -/
structure EpochTime where
  secs : Int
deriving DecidableEq

def EpochTime.getDatetime (e : EpochTime) : Option NaiveDateTime :=
  NaiveDateTime.fromTimestampOpt e.secs

/-- A date and time in the zone of the build, by its instant. -/
@[ext] structure Time where
  timestamp : Int
deriving DecidableEq

/-- `From<Time> for EpochTime` -/
def EpochTime.fromTime (t : Time) : EpochTime := ⟨t.timestamp⟩

/-- `TryFrom<EpochTime> for Time`; `tz` is the constant `TZ`. -/
def Time.tryFrom (tz : Zone) (epoch : EpochTime) : Except NtpError Time := do
  let nd ← match epoch.getDatetime with
    | some nd => pure nd
    | none => throw .parse
  match tz.single nd.timestamp with
  | some u => return ⟨u⟩
  | none => throw .parse

/-- `sntpc::NtpResult`: the seconds since 1970. -/
structure NtpResult where
  sec : UInt32

/-- `TryFrom<NtpResult> for Time` -/
def Time.tryFromResult (tz : Zone) (time : NtpResult) : Except NtpError Time :=
  Time.tryFrom tz ⟨time.sec.toNat⟩

/-- What `ntp_task` makes of the answer of `get_time`. -/
def newRtcTime (tz : Zone) (result : Except ε NtpResult) : Option NaiveDateTime :=
  match result with
  | .ok time =>
    match Time.tryFromResult tz time with
    | .ok localTime => (EpochTime.fromTime localTime).getDatetime
    | .error _ => none
  | .error _ => none

/-- What `UTC_NOW` carries while a clock runs on, the seconds between two signals given. -/
def signals (rtc : Int) : List Nat → List Int
  | [] => []
  | seconds :: later => (rtc + seconds) :: signals (rtc + seconds) later

/-- `ntp_task` on a clock, with the answer it gets. -/
def ntpTask (tz : Zone) (rtc : Int) (result : Except ε NtpResult) (elapsed : List Nat) :
    List Int :=
  match newRtcTime tz result with
  | some ntpTime => signals ntpTime.timestamp elapsed
  | none => signals rtc elapsed

/-- The seconds of the server as a date. -/
theorem exists_getDatetime (sec : UInt32) :
    ∃ nd, (EpochTime.mk sec.toNat).getDatetime = some nd ∧ nd.timestamp = sec.toNat := by
  have hsec := sec.toNat_lt
  apply NaiveDateTime.exists_fromTimestampOpt
  · simp only [minTimestamp]
    omega
  · simp only [maxTimestamp]
    omega

/-- The conversion asks for the instant that the zone shows the seconds at. -/
theorem tryFromResult_eq (tz : Zone) (time : NtpResult) :
    Time.tryFromResult tz time =
      match tz.single time.sec.toNat with
      | some u => .ok ⟨u⟩
      | none => .error .parse := by
  obtain ⟨nd, hnd, hsec⟩ := exists_getDatetime time.sec
  simp only [Time.tryFromResult, Time.tryFrom, hnd, pure_bind, hsec]
  rfl

theorem tryFromResult_eq_ok_iff {tz : Zone} {time : NtpResult} :
    Time.tryFromResult tz time = .ok t ↔ tz.single time.sec.toNat = some t.timestamp := by
  rw [tryFromResult_eq]
  cases tz.single time.sec.toNat <;> simp [Time.ext_iff]

/-- **The time of the server**: it comes back as the same second, and the clock is set to
    it, exactly when the zone is not off from UTC at that second and shows the same date at
    no other. -/
theorem ntpTask_utc_iff {ε : Type} (tz : Zone) (time : NtpResult) :
    (∃ t, Time.tryFromResult tz time = .ok t ∧ EpochTime.fromTime t = ⟨time.sec.toNat⟩ ∧
        ∀ rtc elapsed, ntpTask tz rtc (.ok time : Except ε NtpResult) elapsed =
          signals time.sec.toNat elapsed) ↔
      tz.offset time.sec.toNat = 0 ∧
        ∀ u, u + tz.offset u = time.sec.toNat → u = time.sec.toNat := by
  constructor
  · rintro ⟨t, ht, hepoch, -⟩
    rw [tryFromResult_eq_ok_iff, Zone.single_eq_some_iff] at ht
    simp only [EpochTime.fromTime, EpochTime.mk.injEq] at hepoch
    rw [hepoch] at ht
    exact ⟨by omega, ht.2⟩
  · rintro ⟨hoffset, honce⟩
    have ht : Time.tryFromResult tz time = .ok ⟨time.sec.toNat⟩ := by
      rw [tryFromResult_eq_ok_iff, Zone.single_eq_some_iff, hoffset]
      exact ⟨Int.add_zero _, honce⟩
    obtain ⟨nd, hnd, hsec⟩ := exists_getDatetime time.sec
    refine ⟨_, ht, rfl, ?_⟩
    intro rtc elapsed
    simp only [ntpTask, newRtcTime, ht, EpochTime.fromTime, hnd, hsec]

/-- London in 2024: an hour ahead from the end of March to the end of October. -/
def london2024 : Zone where
  first := 0
  transitions := [(1711846800, 3600), (1729990800, 0)]
  sorted := by decide

/-- At noon on the first of July the clock is set to eleven.  What is no local time at
    the end of March, or is one twice at the end of October, is refused, and the clock keeps
    what it had. -/
theorem ntpTask_london_summer :
    ntpTask london2024 0 (.ok ⟨1719835200⟩ : Except Unit NtpResult) [0] = [1719831600] ∧
      Time.tryFromResult london2024 ⟨1711848600⟩ = .error .parse ∧
      Time.tryFromResult london2024 ⟨1729992600⟩ = .error .parse ∧
      ntpTask london2024 0 (.ok ⟨1711848600⟩ : Except Unit NtpResult) [0] = [0] := by
  exact ⟨by decide +kernel, rfl, rfl, by decide +kernel⟩

/-! ## The timestamp of a request -/

/-- Where a client has its time from. -/
class NtpTimestampGenerator (T : Type) where
  timestampSec : T → UInt64
  timestampSubsecMicros : T → UInt32

/-- From 1900 to 1970. -/
def ntpTimestampDelta : UInt32 := 2208988800

/-- An addition, in a build with or without overflow checks; a panic is `none`. -/
def checkedAdd (checks : Bool) (a b : UInt64) : Option UInt64 :=
  if checks && 18446744073709551616 ≤ a.toNat + b.toNat then none else some (a + b)

/-- `get_ntp_timestamp`; the product of two 32-bit numbers fits. -/
def getNtpTimestamp [NtpTimestampGenerator T] (checks : Bool) (timestampGen : T) :
    Option UInt64 := do
  let sec ← checkedAdd checks (NtpTimestampGenerator.timestampSec timestampGen)
    ntpTimestampDelta.toUInt64
  checkedAdd checks (sec <<< 32)
    ((NtpTimestampGenerator.timestampSubsecMicros timestampGen).toUInt64 * 4294967295 / 1000000)

structure StdTimestampGen where
  datetime : NaiveDateTime

/-- `impl NtpTimestampGenerator for StdTimestampGen`, with its casts. -/
instance : NtpTimestampGenerator StdTimestampGen where
  timestampSec g := .ofBitVec (.ofInt 64 g.datetime.timestamp)
  timestampSubsecMicros g := .ofBitVec (.ofInt 32 g.datetime.timestampMicros)

/-- The seconds since 1900 in the upper half and the part of a second in the lower one. -/
structure IsNtpTimestamp (t : UInt64) (secs micros : Nat) : Prop where
  upper : (t >>> 32).toNat = (secs + 2208988800) % 4294967296
  lower : t.toUInt32.toNat = micros * 4294967295 / 1000000

theorem isNtpTimestamp_iff (h : micros < 1000000) :
    IsNtpTimestamp t secs micros ↔
      t.toNat = (secs + 2208988800) % 4294967296 * 4294967296 + micros * 4294967295 / 1000000 := by
  have hupper : (t >>> 32).toNat = t.toNat / 4294967296 := by
    simp [UInt64.toNat_shiftRight, Nat.shiftRight_eq_div_pow]
  have hlower : t.toUInt32.toNat = t.toNat % 4294967296 := by simp
  constructor
  · rintro ⟨hu, hl⟩
    omega
  · intro ht
    constructor <;> omega

/-- A sum that fits. -/
theorem checkedAdd_of_lt {a b : UInt64} (h : a.toNat + b.toNat < 18446744073709551616) (checks : Bool) :
    checkedAdd checks a b = some (a + b) := by
  have hle : ¬ 18446744073709551616 ≤ a.toNat + b.toNat := by omega
  simp only [checkedAdd, hle, decide_false, Bool.and_false]
  rfl

theorem toNat_of_checkedAdd (h : checkedAdd checks a b = some t) :
    t.toNat = (a.toNat + b.toNat) % 18446744073709551616 := by
  grind [checkedAdd, UInt64.toNat_add]

section Generator

variable {T : Type} [NtpTimestampGenerator T] {g : T} {secs micros : Nat}
  (hsecs : (NtpTimestampGenerator.timestampSec g).toNat = secs) (hlt : secs < 9223372036854775808)
  (hmicros : (NtpTimestampGenerator.timestampSubsecMicros g).toNat = micros)
include hsecs hlt hmicros

/-- The last of the two sums is the only one that may not fit. -/
theorem getNtpTimestamp_eq (checks : Bool) :
    ∃ sec frac : UInt64, getNtpTimestamp checks g = checkedAdd checks sec frac ∧
      sec.toNat = (secs + 2208988800) % 4294967296 * 4294967296 ∧
      frac.toNat = micros * 4294967295 / 1000000 := by
  have hdelta : ntpTimestampDelta.toUInt64.toNat = 2208988800 := rfl
  have hsum : (NtpTimestampGenerator.timestampSec g).toNat + ntpTimestampDelta.toUInt64.toNat <
      18446744073709551616 := by
    rw [hsecs, hdelta]
    omega
  refine ⟨(NtpTimestampGenerator.timestampSec g + ntpTimestampDelta.toUInt64) <<< 32,
    (NtpTimestampGenerator.timestampSubsecMicros g).toUInt64 * 4294967295 / 1000000, ?_, ?_, ?_⟩
  · rw [getNtpTimestamp, checkedAdd_of_lt hsum]
    rfl
  · have hfit : (secs + 2208988800) % 18446744073709551616 = secs + 2208988800 := by omega
    have hshift : UInt64.toNat 32 % 64 = 32 := rfl
    have hpow : (18446744073709551616 : Nat) = 4294967296 * 4294967296 := rfl
    rw [UInt64.toNat_shiftLeft, UInt64.toNat_add, hsecs, hdelta, hfit, hshift, Nat.shiftLeft_eq]
    simp only [Nat.reducePow]
    rw [hpow, Nat.mul_mod_mul_right]
  · have hmicros' := (NtpTimestampGenerator.timestampSubsecMicros g).toNat_lt
    simp [UInt64.toNat_mul, hmicros]
    omega

/-- A timestamp of `m` microseconds comes out exactly when the generator gives `m`. -/
theorem isNtpTimestamp_getNtpTimestamp_iff (hm : m < 1000000) (checks : Bool) :
    (∃ t, getNtpTimestamp checks g = some t ∧ IsNtpTimestamp t secs m) ↔ micros = m := by
  obtain ⟨sec, frac, hget, hsec, hfrac⟩ := getNtpTimestamp_eq hsecs hlt hmicros checks
  have hmicros' : micros < 4294967296 := hmicros ▸ UInt32.toNat_lt _
  rw [hget]
  constructor
  · rintro ⟨t, ht, hstamp⟩
    have htoNat := toNat_of_checkedAdd ht
    rw [isNtpTimestamp_iff hm] at hstamp
    -- the quotient grows with the microseconds, and is far below what is lost of a sum
    by_cases hfits : sec.toNat + frac.toNat < 18446744073709551616
    · rw [Nat.mod_eq_of_lt hfits] at htoNat
      omega
    · have hfrac' : frac.toNat < 9223372036854775808 := by omega
      rw [Nat.mod_eq_sub_mod (by omega), Nat.mod_eq_of_lt (by omega)] at htoNat
      omega
  · rintro rfl
    refine ⟨sec + frac, checkedAdd_of_lt (by omega) checks, ?_⟩
    rw [isNtpTimestamp_iff hm, UInt64.toNat_add, hsec, hfrac]
    omega

end Generator

/-- **The timestamp of a request**: its halves are the seconds since 1900 and the part of
    the second exactly when the seconds since 1970 are a multiple of `2 ^ 26`. -/
theorem getNtpTimestamp_std_iff (rtc : NaiveDateTime) (h : 0 ≤ rtc.timestamp) (checks : Bool) :
    (∃ t, getNtpTimestamp checks (StdTimestampGen.mk rtc) = some t ∧
        IsNtpTimestamp t rtc.timestamp.toNat rtc.timestampSubsecMicros) ↔
      rtc.timestamp.toNat % 67108864 = 0 := by
  have hsecs : (NtpTimestampGenerator.timestampSec (StdTimestampGen.mk rtc)).toNat =
      rtc.timestamp.toNat := by
    have hmax := rtc.le_maxTimestamp
    simp only [NtpTimestampGenerator.timestampSec, maxTimestamp] at hmax ⊢
    rw [UInt64.toNat_ofBitVec, BitVec.toNat_ofInt]
    omega
  have hlt : rtc.timestamp.toNat < 9223372036854775808 := by
    have hmax := rtc.le_maxTimestamp
    simp only [maxTimestamp] at hmax
    omega
  have hmicros : (NtpTimestampGenerator.timestampSubsecMicros (StdTimestampGen.mk rtc)).toNat =
      (rtc.timestamp.toNat * 1000000 + rtc.timestampSubsecMicros) % 4294967296 := by
    simp only [NtpTimestampGenerator.timestampSubsecMicros, NaiveDateTime.timestampMicros]
    rw [UInt32.toNat_ofBitVec, BitVec.toNat_ofInt]
    omega
  have hm : rtc.timestampSubsecMicros < 1000000 := by
    have hnanos := rtc.nanos_lt
    simp only [NaiveDateTime.timestampSubsecMicros]
    omega
  rw [isNtpTimestamp_getNtpTimestamp_iff hsecs hlt hmicros hm]
  omega

/-- The first second of 1970. -/
theorem getNtpTimestamp_std_epoch :
    ∃ rtc, NaiveDateTime.fromTimestampOpt 0 = some rtc ∧
      ∃ t, getNtpTimestamp true (StdTimestampGen.mk rtc) = some t ∧ IsNtpTimestamp t 0 0 :=
  ⟨_, rfl, (getNtpTimestamp_std_iff _ (Int.le_refl 0) true).mpr rfl⟩

/-- Noon on the first of July 2024: both halves are wrong, the upper one by 1445 seconds. -/
theorem getNtpTimestamp_std_noon :
    ∃ rtc, NaiveDateTime.fromTimestampOpt 1719835200 = some rtc ∧ rtc.timestampSubsecMicros = 0 ∧
      ∃ t, getNtpTimestamp true (StdTimestampGen.mk rtc) = some t ∧
        (t >>> 32).toNat = (1719835200 + 2208988800) % 4294967296 + 1445 ∧ t.toUInt32.toNat ≠ 0 :=
  ⟨_, rfl, rfl, _, rfl, by decide +kernel, by decide +kernel⟩

end Toucan.Ntp
