import Toucan.Lib.AsyncSpec
import Toucan.Lib.ClockSync
import Toucan.Sntp.Packet
import Toucan.Tasks.Ntp

/-!
# Toucan.Sntp.Client

The client of `sntpc` (`lib.rs`): a request, and what is made of the response.

A response is taken when it says when the request was sent, its mode is 4 or 5, its version
that of the request and its stratum not 0; a warning that the server's clock is not
synchronised is not looked at.  The seconds of the result are those of the server since 1970,
except that a build with overflow checks panics from 2036 on (`processResponse_spec`).
-/

namespace Toucan.Sntp

open Ntp

inductive Error where
  | incorrectOriginTimestamp
  | incorrectMode
  | incorrectLeapIndicator
  | incorrectResponseVersion
  | incorrectStratumHeaders
  | incorrectPayload
  | network
  | addressResolve
  | responseAddressMismatch
  | incorrectPayload1 (size expected : Nat)
  | sendError
  | receiveError
  | ipDecode
  | networkBind
deriving DecidableEq

/-! ## Times -/

inductive Units where
  | milliseconds
  | microseconds
deriving DecidableEq

def Units.inSec : Units → UInt64
  | milliseconds => 1000
  | microseconds => 1000000

def secondsMask : UInt64 := 0xffffffff00000000

def secondsFracMask : UInt64 := 0xffffffff

def convertDelays (sec fraction units : UInt64) : UInt64 :=
  sec * units + fraction * units / 4294967295

def roundtripCalculate (t1 t2 t3 t4 : UInt64) (units : Units) : UInt64 :=
  let delta := t4 - t1 - (t3 - t2)
  convertDelays ((delta &&& secondsMask) >>> 32) (delta &&& secondsFracMask) units.inSec

def signum (n : Int64) : Int64 := if n = 0 then 0 else if n < 0 then -1 else 1

def unsignedAbs (n : Int64) : UInt64 := .ofNat n.toInt.natAbs

def offsetCalculate (t1 t2 t3 t4 : UInt64) (units : Units) : Int64 :=
  let theta := ((t2 - t1).toInt64 + (t3 - t4).toInt64) / 2
  let thetaSec := (unsignedAbs theta &&& secondsMask) >>> 32
  let thetaSecFraction := unsignedAbs theta &&& secondsFracMask
  (convertDelays thetaSec thetaSecFraction units.inSec).toInt64 * signum theta

structure NtpTimestamp where
  seconds : Int64
  secondsFraction : Int64

/-- A subtraction, in a build with or without overflow checks; a panic is `none`. -/
def checkedSub (checks : Bool) (a b : UInt64) : Option UInt64 :=
  if checks && a < b then none else some (a - b)

/-- `From<u64> for NtpTimestamp` -/
def NtpTimestamp.ofU64 (checks : Bool) (v : UInt64) : Option NtpTimestamp := do
  let seconds ← checkedSub checks ((v &&& secondsMask) >>> 32) ntpTimestampDelta.toUInt64
  return { seconds := seconds.toInt64, secondsFraction := (v &&& secondsFracMask).toInt64 }

/-! ## Results -/

structure NtpResult where
  seconds : UInt32
  secondsFraction : UInt32
  roundtrip : UInt64
  offset : Int64
  stratum : UInt8
  precision : Int8
deriving DecidableEq

def checkedAdd32 (checks : Bool) (a b : UInt32) : Option UInt32 :=
  if checks && 4294967296 ≤ a.toNat + b.toNat then none else some (a + b)

def NtpResult.new (checks : Bool) (seconds secondsFraction : UInt32) (roundtrip : UInt64)
    (offset : Int64) (stratum : UInt8) (precision : Int8) : Option NtpResult := do
  let seconds ← checkedAdd32 checks seconds (secondsFraction / 4294967295)
  let secondsFraction := secondsFraction % 4294967295
  return { seconds, secondsFraction, roundtrip, offset, stratum, precision }

/-- What `ntp_task` looks at. -/
def NtpResult.sec (r : NtpResult) : Ntp.NtpResult := ⟨r.seconds⟩

/-! ## Requests -/

def sntpClientMode : UInt8 := 3

def sntpVersion : UInt8 := (4 : UInt8) <<< 3

/-- `NtpPacket::new`, with its generator initialised. -/
def NtpPacket.new {T : Type} [NtpTimestampGenerator T] (checks : Bool) (timestampGen : T) :
    Option NtpPacket := do
  let txTimestamp ← getNtpTimestamp checks timestampGen
  return {
    liVnMode := sntpClientMode ||| sntpVersion
    stratum := 0
    poll := 0
    precision := 0
    rootDelay := 0
    rootDispersion := 0
    refId := 0
    refTimestamp := 0
    originTimestamp := 0
    recvTimestamp := 0
    txTimestamp }

structure SendRequestResult where
  originateTimestamp : UInt64
  version : UInt8

/-- `From<NtpPacket> for SendRequestResult` -/
def SendRequestResult.ofPacket (ntpPacket : NtpPacket) : SendRequestResult where
  originateTimestamp := ntpPacket.txTimestamp
  version := ntpPacket.liVnMode

/-! ## Responses -/

def shifter (val mask shift : UInt8) : UInt8 := (val &&& mask) >>> shift

/-- The end of `process_response`, with a packet that is taken. -/
def result (checks : Bool) (packet : NtpPacket) (recvTimestamp : UInt64) : Option NtpResult := do
  let t1 := packet.originTimestamp
  let t2 := packet.recvTimestamp
  let t3 := packet.txTimestamp
  let t4 := recvTimestamp
  let units := Units.microseconds
  let roundtrip := roundtripCalculate t1 t2 t3 t4 units
  let offset := offsetCalculate t1 t2 t3 t4 units
  let timestamp ← NtpTimestamp.ofU64 checks packet.txTimestamp
  NtpResult.new checks timestamp.seconds.toUInt64.toUInt32
    timestamp.secondsFraction.toUInt64.toUInt32 roundtrip offset packet.stratum packet.precision

def processResponse (checks : Bool) (sendReqResult : SendRequestResult) (resp : RawNtpPacket)
    (recvTimestamp : UInt64) : Option (Except Error NtpResult) :=
  let packet := convertFromNetwork (.ofRaw resp)
  if sendReqResult.originateTimestamp ≠ packet.originTimestamp then
    some (.error .incorrectOriginTimestamp)
  else
    let mode := shifter packet.liVnMode 0x07 0
    let li := shifter packet.liVnMode 0xC0 6
    let respVersion := shifter packet.liVnMode 0x38 3
    let reqVersion := shifter sendReqResult.version 0x38 3
    if mode ≠ 4 ∧ mode ≠ 5 then
      some (.error .incorrectMode)
    else if li > 3 then
      some (.error .incorrectLeapIndicator)
    else if reqVersion ≠ respVersion then
      some (.error .incorrectResponseVersion)
    else if packet.stratum = 0 then
      some (.error .incorrectStratumHeaders)
    else
      (result checks packet recvTimestamp).map .ok

/-! ## What is taken -/

/-- A packet that answers a request. -/
structure Answers (request : SendRequestResult) (p : NtpPacket) : Prop where
  origin : request.originateTimestamp = p.originTimestamp
  mode : shifter p.liVnMode 0x07 0 = 4 ∨ shifter p.liVnMode 0x07 0 = 5
  version : shifter request.version 0x38 3 = shifter p.liVnMode 0x38 3
  stratum : p.stratum ≠ 0

/-- The leap indicator has two bits. -/
theorem shifter_li_le (val : UInt8) : ¬ shifter val 0xC0 6 > 3 := by
  have hval : (val &&& 0xC0).toNat ≤ val.toNat := by
    rw [UInt8.toNat_and]
    exact Nat.and_le_left
  have hlt := val.toNat_lt
  rw [gt_iff_lt, UInt8.lt_iff_toNat_lt, shifter, UInt8.toNat_shiftRight]
  show ¬ 3 < (val &&& 0xC0).toNat >>> 6
  rw [Nat.shiftRight_eq_div_pow]
  simp only [Nat.reducePow]
  omega

section Process

variable {checks : Bool} {request : SendRequestResult} {resp : RawNtpPacket}
  {recvTimestamp : UInt64}

theorem processResponse_of_answers (h : Answers request (convertFromNetwork (.ofRaw resp))) :
    processResponse checks request resp recvTimestamp =
      (result checks (convertFromNetwork (.ofRaw resp)) recvTimestamp).map .ok := by
  obtain ⟨horigin, hmode, hversion, hstratum⟩ := h
  have hmode' : ¬ (shifter (convertFromNetwork (.ofRaw resp)).liVnMode 0x07 0 ≠ 4 ∧
      shifter (convertFromNetwork (.ofRaw resp)).liVnMode 0x07 0 ≠ 5) := by
    grind
  simp only [processResponse, horigin, hversion, hstratum, hmode', shifter_li_le, ne_eq,
    not_true_eq_false, if_false]

theorem processResponse_of_not_answers
    (h : ¬ Answers request (convertFromNetwork (.ofRaw resp))) :
    ∃ e, processResponse checks request resp recvTimestamp = some (.error e) := by
  simp only [processResponse]
  split
  · exact ⟨_, rfl⟩
  · split
    · exact ⟨_, rfl⟩
    · split
      · exact ⟨_, rfl⟩
      · split
        · exact ⟨_, rfl⟩
        · split
          · exact ⟨_, rfl⟩
          · next horigin hmode _ hversion hstratum =>
              exact absurd ⟨not_not.mp horigin, by grind, not_not.mp hversion, hstratum⟩ h

end Process

/-! ## The time of a result -/

/-- The seconds since 1970 that a timestamp says, from 1970 up to 2106. -/
def unixSeconds (v : UInt64) : Nat := (v.toNat / 4294967296 + 2085978496) % 4294967296

/-- A full second in the fraction, which is only `2 ^ 32 - 1`. -/
def carry (v : UInt64) : Nat := v.toNat % 4294967296 / 4294967295

section Result

variable {checks : Bool} {p : NtpPacket} {recvTimestamp : UInt64}

theorem toNat_seconds (v : UInt64) : ((v &&& secondsMask) >>> 32).toNat = v.toNat / 4294967296 := by
  have hv := v.toNat_lt
  have hmask : secondsMask.toNat >>> 32 = 2 ^ 32 - 1 := by decide
  rw [UInt64.toNat_shiftRight, UInt64.toNat_and]
  show (v.toNat &&& secondsMask.toNat) >>> 32 = _
  rw [Nat.shiftRight_and_distrib, hmask, Nat.and_two_pow_sub_one_eq_mod, Nat.shiftRight_eq_div_pow]
  simp only [Nat.reducePow] at hv ⊢
  omega

theorem toNat_fraction (v : UInt64) : (v &&& secondsFracMask).toNat = v.toNat % 4294967296 := by
  have hmask : secondsFracMask.toNat = 2 ^ 32 - 1 := by decide
  rw [UInt64.toNat_and, hmask, Nat.and_two_pow_sub_one_eq_mod]

theorem checkedSub_delta (v : UInt64) :
    checkedSub checks ((v &&& secondsMask) >>> 32) ntpTimestampDelta.toUInt64 =
      if checks = true ∧ 2085978496 ≤ unixSeconds v then none
      else some (((v &&& secondsMask) >>> 32) - ntpTimestampDelta.toUInt64) := by
  have hv := v.toNat_lt
  have hsec := toNat_seconds v
  have hdelta : ntpTimestampDelta.toUInt64.toNat = 2208988800 := rfl
  have hlt : (v &&& secondsMask) >>> 32 < ntpTimestampDelta.toUInt64 ↔
      2085978496 ≤ unixSeconds v := by
    rw [UInt64.lt_iff_toNat_lt, hsec, hdelta, unixSeconds]
    omega
  simp [checkedSub, hlt]

theorem toNat_sub_delta (v : UInt64) :
    (((v &&& secondsMask) >>> 32) - ntpTimestampDelta.toUInt64).toUInt32.toNat = unixSeconds v := by
  have hv := v.toNat_lt
  have hsec := toNat_seconds v
  have hdelta : ntpTimestampDelta.toUInt64.toNat = 2208988800 := rfl
  rw [UInt64.toNat_toUInt32, UInt64.toNat_sub, hsec, hdelta, unixSeconds]
  omega

theorem new_eq {seconds fraction : UInt32} {roundtrip : UInt64} {offset : Int64} {stratum : UInt8}
    {precision : Int8} (h : checks = true → seconds.toNat < 2085978496) :
    NtpResult.new checks seconds fraction roundtrip offset stratum precision =
      some ⟨seconds + fraction / 4294967295, fraction % 4294967295, roundtrip, offset, stratum,
        precision⟩ := by
  have hcarry : (fraction / 4294967295).toNat ≤ 1 := by
    have hmax : (4294967295 : UInt32).toNat = 4294967295 := rfl
    have hlt := fraction.toNat_lt
    rw [UInt32.toNat_div, hmax]
    omega
  have hfits : ¬ (checks && 4294967296 ≤ seconds.toNat + (fraction / 4294967295).toNat) = true := by
    intro hsum
    simp only [Bool.and_eq_true, decide_eq_true_eq] at hsum
    have hsmall := h hsum.1
    omega
  rw [NtpResult.new, checkedAdd32, if_neg hfits]
  rfl

/-- What is made of the timestamp of a response: with overflow checks a panic from 2036 on. -/
theorem result_eq :
    (checks = true ∧ 2085978496 ≤ unixSeconds p.txTimestamp →
      result checks p recvTimestamp = none) ∧
    (¬ (checks = true ∧ 2085978496 ≤ unixSeconds p.txTimestamp) → ∃ r,
      result checks p recvTimestamp = some r ∧
      r.seconds.toNat = (unixSeconds p.txTimestamp + carry p.txTimestamp) % 4294967296) := by
  have hsub := @checkedSub_delta checks p.txTimestamp
  constructor
  · intro h
    rw [if_pos h] at hsub
    simp [result, NtpTimestamp.ofU64, hsub]
  · intro h
    rw [if_neg h] at hsub
    have hseconds := toNat_sub_delta p.txTimestamp
    have hcarry : ((p.txTimestamp &&& secondsFracMask).toUInt32 / 4294967295).toNat =
        carry p.txTimestamp := by
      have hmax : (4294967295 : UInt32).toNat = 4294967295 := rfl
      rw [UInt32.toNat_div, UInt64.toNat_toUInt32, toNat_fraction, hmax, carry, Nat.mod_mod]
    have hsmall : checks = true → (((p.txTimestamp &&& secondsMask) >>> 32) -
        ntpTimestampDelta.toUInt64).toUInt32.toNat < 2085978496 := by
      intro hchecks
      rw [hseconds]
      exact Nat.lt_of_not_le fun hle => h ⟨hchecks, hle⟩
    have hresult : result checks p recvTimestamp = NtpResult.new checks
        (((p.txTimestamp &&& secondsMask) >>> 32) - ntpTimestampDelta.toUInt64).toUInt32
        (p.txTimestamp &&& secondsFracMask).toUInt32
        (roundtripCalculate p.originTimestamp p.recvTimestamp p.txTimestamp recvTimestamp
          .microseconds)
        (offsetCalculate p.originTimestamp p.recvTimestamp p.txTimestamp recvTimestamp
          .microseconds) p.stratum p.precision := by
      simp [result, NtpTimestamp.ofU64, hsub]
    rw [new_eq hsmall] at hresult
    refine ⟨_, hresult, ?_⟩
    simp only [UInt32.toNat_add, hseconds, hcarry, Nat.reducePow]

end Result

/-- **Which responses are taken, and for what**: exactly those that answer the request give a
result, with the seconds of the server; with overflow checks those from 2036 on are a panic. -/
theorem processResponse_spec (checks : Bool) (request : SendRequestResult) (resp : RawNtpPacket)
    (recvTimestamp : UInt64) :
    ((∃ r, processResponse checks request resp recvTimestamp = some (.ok r)) ↔
      Answers request (convertFromNetwork (.ofRaw resp)) ∧
        ¬ (checks = true ∧
          2085978496 ≤ unixSeconds (convertFromNetwork (.ofRaw resp)).txTimestamp)) ∧
    (processResponse checks request resp recvTimestamp = none ↔
      Answers request (convertFromNetwork (.ofRaw resp)) ∧ checks = true ∧
        2085978496 ≤ unixSeconds (convertFromNetwork (.ofRaw resp)).txTimestamp) ∧
    ∀ r, processResponse checks request resp recvTimestamp = some (.ok r) →
      r.seconds.toNat = (unixSeconds (convertFromNetwork (.ofRaw resp)).txTimestamp +
        carry (convertFromNetwork (.ofRaw resp)).txTimestamp) % 4294967296 := by
  generalize hp : convertFromNetwork (.ofRaw resp) = p
  by_cases hanswers : Answers request p
  · obtain ⟨hnone, hsome⟩ := @result_eq checks p recvTimestamp
    have hresponse := @processResponse_of_answers checks request resp recvTimestamp
      (hp ▸ hanswers)
    rw [hp] at hresponse
    by_cases hlate : checks = true ∧ 2085978496 ≤ unixSeconds p.txTimestamp
    · rw [hresponse, hnone hlate]
      simp [hanswers, hlate]
    · obtain ⟨r, hr, hseconds⟩ := hsome hlate
      rw [hresponse, hr]
      refine ⟨⟨fun _ => ⟨hanswers, hlate⟩, fun _ => ⟨r, rfl⟩⟩,
        ⟨nofun, fun h => absurd h.2 hlate⟩, ?_⟩
      intro r' hr'
      injection hr' with hr'
      injection hr' with hr'
      rw [← hr', hseconds]
  · obtain ⟨e, he⟩ := @processResponse_of_not_answers checks request resp recvTimestamp
      (hp ▸ hanswers)
    simp [he, hanswers]

end Toucan.Sntp
