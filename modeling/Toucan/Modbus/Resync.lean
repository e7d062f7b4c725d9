import Toucan.Modbus.Client
import Toucan.Modbus.Receive

/-!
# Toucan.Modbus.Resync

What client mode makes of noise on the RS485 line.  `listen` takes eight bytes at
a time wherever a frame begins; a failed check is logged and the next call takes
the next eight.  Nothing moves the boundary between two calls, so noise that is
not a multiple of eight bytes long puts every later frame across two calls
(`accepts_iff`, `resyncs_iff`).
-/

namespace Toucan.Modbus.Client

open Async

/-! ## The line -/

/-- A request an RTU master can send: eight bytes that pass the CRC check. -/
structure RequestFrame where
  bytes : List UInt8
  length_eq : bytes.length = 8
  crcCheck_eq : crcCheck bytes = .ok ()

/-- Frames on the line, one after the other. -/
def onLine (frames : List RequestFrame) : List UInt8 := frames.flatMap (·.bytes)

@[simp] theorem onLine_nil : onLine [] = [] := rfl

@[simp] theorem onLine_cons (frame : RequestFrame) (frames : List RequestFrame) :
    onLine (frame :: frames) = frame.bytes ++ onLine frames := by
  simp [onLine]

@[simp] theorem length_onLine (frames : List RequestFrame) :
    (onLine frames).length = 8 * frames.length := by
  induction frames with
  | nil => rfl
  | cons frame frames ih =>
      simp [frame.length_eq, ih]
      omega

/-- A frame is found at eight times its index. -/
theorem take_drop_onLine {frames : List RequestFrame} {frame : RequestFrame}
    (h : frames[j]? = some frame) :
    ((onLine frames).drop (8 * j)).take 8 = frame.bytes := by
  induction frames generalizing j with
  | nil => simp at h
  | cons first frames ih =>
      have hlen := first.length_eq
      cases j with
      | zero =>
          have hfirst : first = frame := by simpa using h
          simp [← hfirst, ← hlen]
      | succ j =>
          have hdrop : (first.bytes ++ onLine frames).drop (8 * (j + 1)) =
              (onLine frames).drop (8 * j) := by
            have hle : first.bytes.length ≤ 8 * (j + 1) := by omega
            have hrest : 8 * (j + 1) - first.bytes.length = 8 * j := by omega
            rw [List.drop_append, List.drop_eq_nil_of_le hle, hrest, List.nil_append]
          rw [onLine_cons, hdrop]
          exact ih (by simpa using h)

/-! ## A call -/

/-- With eight bytes on the line a call checks these and leaves the rest. -/
theorem runOn_listen_line (g : Gateway) {bytes : List UInt8} (h : 8 ≤ bytes.length) :
    ∃ g', listen.runOn line g bytes = (.returned (crcCheck (bytes.take 8)) g', bytes.drop 8) ∧
      g'.rtuRequest.toList = bytes.take 8 := by
  have hlen : (bytes.take 8).length = 8 := by
    rw [List.length_take, Nat.min_eq_left h]
  let request : RtuRequestPayload := ⟨bytes.take 8, Nat.le_of_eq hlen⟩
  have hextend : BoundedVec.empty.extend (takeVector bytes 8 h).toList = some request := by
    rw [BoundedVec.extend_eq_extendFromSlice]
    exact BoundedVec.extendFromSlice_eq_some.mpr rfl
  refine ⟨{ g with rtuRequest := request }, ?_, rfl⟩
  rw [listen, runOn_bind_of_ok (runOn_modify _ _ _)]
  rw [runOn_bind_of_ok (runOn_await_of_some (line_uartRead h) _)]
  rw [runOn_bind_of_ok (runOn_orFail_ok _ _ _ _), runOn_bind_of_ok (runOn_gets _ _ _)]
  rw [hextend, runOn_bind_of_ok (runOn_ofOption_some _ _ _)]
  rw [runOn_bind_of_ok (runOn_modify _ _ _), runCrcCheck_eq, runOn_ofExcept]

/-- With less it waits. -/
theorem runOn_listen_short (g : Gateway) {bytes : List UInt8} (h : bytes.length < 8) :
    ∃ g', listen.runOn line g bytes = (.pending g', bytes) := by
  have hwait : line (.uartRead 8) bytes = none := by
    rw [line, dif_neg (Nat.not_le.mpr h)]
  refine ⟨{ g with rtuRequest := .empty }, ?_⟩
  rw [listen, runOn_bind_of_ok (runOn_modify _ _ _)]
  exact runOn_bind_of_pending (runOn_await_of_none hwait _)

/-! ## Call after call -/

/-- A call that returned: how many bytes of the stream were read before it, its
result, and the request it leaves. -/
structure Listened where
  start : Nat
  result : Except ModbusError Unit
  request : List UInt8

/-- Up to `n` calls of `listen`, one after the other, whatever each returns; the
first that has to wait is the last. -/
def listens : Nat → Nat → Gateway → List UInt8 → List Listened
  | 0, _, _, _ => []
  | n + 1, start, g, bytes =>
    match listen.runOn line g bytes with
    | (.returned result g', bytes') =>
      { start, result, request := g'.rtuRequest.toList } ::
        listens n (start + (bytes.length - bytes'.length)) g' bytes'
    | (.pending _, _) => []
    | (.panicked _, _) => []

/-- The call that takes the `i`-th eight bytes. -/
def blockCall (start : Nat) (bytes : List UInt8) (i : Nat) : Listened where
  start := start + 8 * i
  result := crcCheck ((bytes.drop (8 * i)).take 8)
  request := (bytes.drop (8 * i)).take 8

theorem blockCall_succ (start : Nat) (bytes : List UInt8) (i : Nat) :
    blockCall start bytes (i + 1) = blockCall (start + 8) (bytes.drop 8) i := by
  have hdrop : (bytes.drop 8).drop (8 * i) = bytes.drop (8 * (i + 1)) := by
    rw [List.drop_drop]
    congr 1
    omega
  have hstart : start + 8 * (i + 1) = start + 8 + 8 * i := by omega
  simp [blockCall, hdrop, hstart]

/-- The calls are those on the successive blocks of eight bytes. -/
theorem mem_listens_iff {n start : Nat} {g : Gateway} {bytes : List UInt8} {c : Listened} :
    c ∈ listens n start g bytes ↔
      ∃ i < n, 8 * (i + 1) ≤ bytes.length ∧ c = blockCall start bytes i := by
  induction n generalizing start g bytes with
  | zero => simp [listens]
  | succ n ih =>
      by_cases h : 8 ≤ bytes.length
      · obtain ⟨g', hrun, hrequest⟩ := runOn_listen_line g h
        have hread : bytes.length - (bytes.drop 8).length = 8 := by
          rw [List.length_drop]
          omega
        have hstart : start + (bytes.length - (bytes.drop 8).length) = start + 8 := by rw [hread]
        simp only [listens, hrun, hrequest, hstart, List.mem_cons, ih]
        rw [List.length_drop]
        constructor
        · rintro (rfl | ⟨i, hi, hlen, rfl⟩)
          · exact ⟨0, by omega, by omega, by simp [blockCall]⟩
          · exact ⟨i + 1, by omega, by omega, (blockCall_succ start bytes i).symm⟩
        · rintro ⟨i, hi, hlen, rfl⟩
          cases i with
          | zero => exact Or.inl (by simp [blockCall])
          | succ i => exact Or.inr ⟨i, by omega, by omega, blockCall_succ start bytes i⟩
      · obtain ⟨g', hrun⟩ := runOn_listen_short g (Nat.not_le.mp h)
        simp only [listens, hrun, List.not_mem_nil, false_iff]
        rintro ⟨i, _, hlen, _⟩
        omega

/-! ## Frames after noise -/

/-- The `j`-th of the frames that follow the noise is accepted: a call takes
exactly its bytes and succeeds. -/
def accepts (g : Gateway) (noise : List UInt8) (frames : List RequestFrame) (j : Nat) : Bool :=
  let stream := noise ++ onLine frames
  (listens stream.length 0 g stream).any fun c =>
    c.start == noise.length + 8 * j && c.result.isOk &&
      some c.request == (frames[j]?).map (·.bytes)

/-- How many of the frames are not accepted. -/
def missed (g : Gateway) (noise : List UInt8) (frames : List RequestFrame) : Nat :=
  (List.range frames.length).countP fun j => !accepts g noise frames j

/-- The block at a frame is the frame. -/
theorem take_drop_stream {frames : List RequestFrame} {frame : RequestFrame}
    (noise : List UInt8) (h : frames[j]? = some frame) :
    ((noise ++ onLine frames).drop (noise.length + 8 * j)).take 8 = frame.bytes := by
  rw [List.drop_append, List.drop_eq_nil_of_le (Nat.le_add_right _ _), List.nil_append,
    Nat.add_sub_cancel_left]
  exact take_drop_onLine h

/-- A frame is accepted exactly when the noise before it is a multiple of eight
bytes long. -/
theorem accepts_iff (g : Gateway) (noise : List UInt8) {frames : List RequestFrame}
    (hj : j < frames.length) : accepts g noise frames j = true ↔ 8 ∣ noise.length := by
  have hframe : frames[j]? = some frames[j] := List.getElem?_eq_getElem hj
  simp only [accepts, List.any_eq_true, mem_listens_iff, hframe]
  constructor
  · rintro ⟨c, ⟨i, _, _, rfl⟩, hc⟩
    simp only [blockCall, Bool.and_eq_true, beq_iff_eq] at hc
    omega
  · rintro ⟨m, hm⟩
    have hstart : 8 * (m + j) = noise.length + 8 * j := by omega
    have hblock := take_drop_stream noise hframe
    refine ⟨blockCall 0 (noise ++ onLine frames) (m + j), ⟨m + j, ?_, ?_, rfl⟩, ?_⟩
    · simp
      omega
    · simp
      omega
    · simp only [blockCall, hstart, hblock, frames[j].crcCheck_eq]
      simp [Except.isOk, Except.toBool]

/-- Either no frame is missed or every frame is. -/
theorem missed_eq (g : Gateway) (noise : List UInt8) (frames : List RequestFrame) :
    missed g noise frames = if 8 ∣ noise.length then 0 else frames.length := by
  unfold missed
  by_cases h : 8 ∣ noise.length
  · rw [if_pos h, List.countP_eq_zero]
    intro j hj
    simp [(accepts_iff g noise (List.mem_range.mp hj)).mpr h]
  · have hall : ∀ j ∈ List.range frames.length, (!accepts g noise frames j) = true := by
      intro j hj
      rw [Bool.not_eq_true', ← Bool.not_eq_true, accepts_iff g noise (List.mem_range.mp hj)]
      exact h
    rw [if_neg h, List.countP_eq_length.mpr hall, List.length_range]

/-- **After noise**: of the valid frames that follow `k` bytes of noise all but two
plus `k / 8` are accepted exactly when `k` is a multiple of eight, or there are no
more frames than that. -/
theorem resyncs_iff (g : Gateway) (noise : List UInt8) (frames : List RequestFrame) :
    missed g noise frames ≤ 2 + noise.length / 8 ↔
      8 ∣ noise.length ∨ frames.length ≤ 2 + noise.length / 8 := by
  rw [missed_eq]
  by_cases h : 8 ∣ noise.length <;> simp [h]

/-- A request for one register of unit 1. -/
def readRegister : RequestFrame where
  bytes := [0x01, 0x03, 0x00, 0x00, 0x00, 0x01] ++ createCrc [0x01, 0x03, 0x00, 0x00, 0x00, 0x01]
  length_eq := by simp
  crcCheck_eq := crcCheck_append_createCrc (by simp)

/-- One byte of noise, and none of three requests is accepted. -/
theorem not_resyncs :
    ¬ ∀ (noise : List UInt8) (frames : List RequestFrame),
      missed .initial noise frames ≤ 2 + noise.length / 8 := by
  intro h
  have hmissed := h [0x00] [readRegister, readRegister, readRegister]
  rw [missed_eq] at hmissed
  simp at hmissed

end Toucan.Modbus.Client
