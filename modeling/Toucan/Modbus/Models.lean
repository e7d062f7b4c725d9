import Toucan.Lib.AsyncSpec
import Toucan.Lib.BoundedVec
import Toucan.Lib.Crc16

/-!
# Toucan.Modbus.Models

The Modbus gateway (`modbus/models.rs`, `modbus/error.rs`) and its methods in
bridge mode: the serial side that forwards a request to the RS485 line and
collects the answer, and the socket side that reads requests from a TCP client.
Client mode is in `Toucan.Modbus.Client`.

The methods are modelled with their await points: each read, write or flush is
an operation that the environment answers.  Logging is left out.
-/

namespace Toucan.Modbus

/-! ## Payloads and errors -/

abbrev TcpRequestPayload := BoundedVec UInt8 12
abbrev RtuRequestPayload := BoundedVec UInt8 8
abbrev ResponsePayload := BoundedVec UInt8 512

/-- The errors of the modelled methods. -/
inductive ModbusError where
  | rtu
  | tcp
  | push
  | rtuRxFail
  | crcRx
  | readExactError
  | tcpRxFail (len : Nat)
  | invalidTransactionId
  | rtuPayloadTooShort
  | conversionSlice
  | invalidFilter
deriving DecidableEq

/-- `create_crc` -/
def createCrc (s : List UInt8) : List UInt8 := toLeBytes (Crc16.modbus s)

@[simp] theorem length_createCrc (s : List UInt8) : (createCrc s).length = 2 :=
  length_toLeBytes (Crc16.modbus s)

/-- What `crc_check` returns: the last two bytes are the CRC of those before. -/
def crcCheck (payload : List UInt8) : Except ModbusError Unit :=
  if payload.length < 4 then .error .rtuRxFail
  else
    let (response, crcBytes) := payload.splitAt (payload.length - 2)
    if crcBytes = createCrc response then .ok () else .error .crcRx

/-- What passes the check is at least four bytes, and its last two are the CRC. -/
theorem crcCheck_eq_ok {payload : List UInt8} (h : crcCheck payload = .ok ()) :
    4 ≤ payload.length ∧ payload = payload.take (payload.length - 2) ++
      createCrc (payload.take (payload.length - 2)) := by
  unfold crcCheck at h
  by_cases hshort : payload.length < 4
  · rw [if_pos hshort] at h
    contradiction
  · rw [if_neg hshort, List.splitAt_eq] at h
    by_cases hcrc : payload.drop (payload.length - 2) =
        createCrc (payload.take (payload.length - 2))
    · refine ⟨Nat.not_lt.mp hshort, ?_⟩
      rw [← hcrc, List.take_append_drop]
    · simp only [if_neg hcrc] at h
      contradiction

theorem crcCheck_eq_error {payload : List UInt8} (h : crcCheck payload = .error e) :
    e = .rtuRxFail ∨ e = .crcRx := by
  unfold crcCheck at h
  by_cases hshort : payload.length < 4
  · rw [if_pos hshort] at h
    exact .inl (Except.error.inj h).symm
  · rw [if_neg hshort, List.splitAt_eq] at h
    by_cases hcrc : payload.drop (payload.length - 2) =
        createCrc (payload.take (payload.length - 2))
    · simp only [if_pos hcrc] at h
      contradiction
    · simp only [if_neg hcrc] at h
      exact .inr (Except.error.inj h).symm

/-- Bytes to wait for after the first three, guessed from the third for every
function code.  `none` is the panic of the `u8` addition, with overflow checks. -/
def payloadLength (overflowChecks : Bool) (s : List UInt8) : Option (Option Nat) :=
  match s[2]? with
  | none => some none
  | some bytesLen =>
    if overflowChecks ∧ 256 ≤ bytesLen.toNat + 2 then none else some (some (bytesLen + 2).toNat)

theorem payloadLength_le {s : List UInt8} (h : payloadLength overflowChecks s = some (some pll)) :
    pll ≤ 255 := by
  unfold payloadLength at h
  cases hs : s[2]? with
  | none => simp [hs] at h
  | some b =>
      simp only [hs, Option.ite_none_left_eq_some, Option.some.injEq] at h
      have hlt := (b + 2).toNat_lt
      omega

/-- Only the addition can panic, and only with overflow checks. -/
theorem overflowChecks_of_payloadLength {s : List UInt8} (h : payloadLength overflowChecks s = none) :
    overflowChecks = true := by
  unfold payloadLength at h
  cases hs : s[2]? with
  | none => simp [hs] at h
  | some b =>
      by_cases hc : overflowChecks = true ∧ 256 ≤ b.toNat + 2
      · exact hc.1
      · simp only [hs, if_neg hc] at h
        contradiction

/-! ## The gateway and what it awaits -/

/-- `COUNTER`, the driver-enable pin, and the buffers of `ModbusRtu` and
`ModbusTcp`, which are empty at first. -/
structure Gateway where
  counter : UInt16
  txEn : Bool
  rtuResponse : ResponsePayload
  tcpRequest : TcpRequestPayload
  rtuRequest : RtuRequestPayload := .empty
  tcpResponse : ResponsePayload := .empty
deriving DecidableEq

/-- The gateway that `modbus_task` starts with. -/
def Gateway.initial : Gateway where
  counter := 0
  txEn := false
  rtuResponse := .empty
  tcpRequest := .empty

/-- Another gateway with the same counter and the same pin. -/
structure Agrees (g g' : Gateway) : Prop where
  counter : g'.counter = g.counter
  txEn : g'.txEn = g.txEn

theorem Agrees.refl (g : Gateway) : Agrees g g := ⟨rfl, rfl⟩

theorem Agrees.trans {g g' g'' : Gateway} (h : Agrees g g') (h' : Agrees g' g'') : Agrees g g'' :=
  ⟨h'.counter.trans h.counter, h'.txEn.trans h.txEn⟩

/-- Calls on the serial port and the socket. -/
inductive Op where
  | uartRead (n : Nat)
  | uartReadUntilIdle (n : Nat)
  | uartFlush
  | uartWrite (payload : List UInt8)
  | sockReadExact (n : Nat)
  | sockRead (n : Nat)
  | sockWrite (payload : List UInt8)
deriving DecidableEq

/-- Their results; every error is mapped to one `ModbusError`, so none is kept.
`read_until_idle` leaves something in its buffer also when it fails; `read` of
the socket gives what there is, and nothing at the end of the stream. -/
@[reducible] def Ans : Op → Type
  | .uartRead n => Except Unit (Vector UInt8 n)
  | .uartReadUntilIdle n => Except Unit Nat × Vector UInt8 n
  | .uartFlush => Except Unit Unit
  | .uartWrite _ => Except Unit Unit
  | .sockReadExact n => Except Unit (Vector UInt8 n)
  | .sockRead n => Except Unit (BoundedVec UInt8 n)
  | .sockWrite _ => Except Unit Nat

/-- A method of the gateway. -/
abbrev Bridge := Async Gateway ModbusError Ans

open Async

/-- Replace the error of a result, and pass it on with `?`. -/
def orFail (error : ModbusError) (r : Except Unit α) : Bridge α :=
  ofExcept (r.mapError fun _ => error)

@[simp] theorem runOn_orFail_ok {h : Handler ω Ans} (error : ModbusError) (a : α) (g : Gateway)
    (w : ω) : (orFail error (.ok a)).runOn h g w = (.returned (.ok a) g, w) :=
  runOn_ofExcept (.ok a) g w

@[simp] theorem runOn_orFail_error {h : Handler ω Ans} (error : ModbusError) (g : Gateway)
    (w : ω) :
    (orFail error (.error ()) : Bridge α).runOn h g w = (.returned (.error error) g, w) :=
  runOn_ofExcept (.error error) g w

section OrFail

variable {I : Trace Ans → Op → Gateway → Prop}
  {Q : Trace Ans → Outcome Gateway (Except ModbusError α) → Prop} {tr : Trace Ans} {g : Gateway}

theorem meets_orFail_error_bind {error : ModbusError} {k : β → Bridge α} :
    Meets I Q (orFail error (.error ()) >>= k) tr g ↔ Q tr (.returned (.error error) g) := Iff.rfl

theorem meets_orFail_ok_bind {error : ModbusError} {b : β} {k : β → Bridge α} :
    Meets I Q (orFail error (.ok b) >>= k) tr g ↔ Meets I Q (k b) tr g := Iff.rfl

end OrFail

/-! ## `ModbusRtu` -/

/-- `split_at`; it panics past the end. -/
def splitAt (s : List UInt8) (mid : Nat) : Option (List UInt8 × List UInt8) :=
  if mid ≤ s.length then some (s.splitAt mid) else none

theorem splitAt_of_le {s : List UInt8} (h : mid ≤ s.length) :
    splitAt s mid = some (s.take mid, s.drop mid) := by
  rw [splitAt, if_pos h, List.splitAt_eq]

/-- `crc_check` -/
def runCrcCheck (payload : List UInt8) : Bridge Unit :=
  if payload.length < 4 then fail .rtuRxFail
  else do
    let (response, crcBytes) ← ofOption (splitAt payload (payload.length - 2))
    if crcBytes = createCrc response then pure () else fail .crcRx

/-- It does not panic. -/
theorem runCrcCheck_eq (payload : List UInt8) : runCrcCheck payload = ofExcept (crcCheck payload) := by
  funext g
  by_cases hshort : payload.length < 4
  · rw [runCrcCheck, crcCheck, if_pos hshort, if_pos hshort]
    rfl
  · have hsplit := splitAt_of_le (Nat.sub_le payload.length 2)
    rw [runCrcCheck, crcCheck, if_neg hshort, if_neg hshort, hsplit, ofOption_some_bind,
      List.splitAt_eq]
    by_cases hcrc : payload.drop (payload.length - 2) =
        createCrc (payload.take (payload.length - 2))
    · simp only [if_pos hcrc]
      rfl
    · simp only [if_neg hcrc]
      rfl

/-- Transmit RTU payload -/
def transmit (payload : List UInt8) : Bridge Unit := do
  orFail .rtu (← await .uartFlush)
  modify fun g => { g with txEn := true }
  orFail .rtu (← await (.uartWrite payload))
  orFail .rtu (← await .uartFlush)
  modify fun g => { g with txEn := false }

/-- `transmit` raises the pin for the write and the second flush, and lowers it
only when both succeed. -/
theorem meets_transmit {I : Trace Ans → Op → Gateway → Prop}
    {Q : Trace Ans → Outcome Gateway (Except ModbusError Unit) → Prop} {tr : Trace Ans}
    {g : Gateway} {payload : List UInt8}
    (hdrain : I tr .uartFlush g)
    (hdrained : Q (tr ++ [⟨.uartFlush, .error ()⟩]) (.returned (.error .rtu) g))
    (hwrite : I (tr ++ [⟨.uartFlush, .ok ()⟩]) (.uartWrite payload) { g with txEn := true })
    (hwritten : Q (tr ++ [⟨.uartFlush, .ok ()⟩] ++ [⟨.uartWrite payload, .error ()⟩])
      (.returned (.error .rtu) { g with txEn := true }))
    (hflush : I (tr ++ [⟨.uartFlush, .ok ()⟩] ++ [⟨.uartWrite payload, .ok ()⟩]) .uartFlush
      { g with txEn := true })
    (hflushed : Q (tr ++ [⟨.uartFlush, .ok ()⟩] ++ [⟨.uartWrite payload, .ok ()⟩] ++
      [⟨.uartFlush, .error ()⟩]) (.returned (.error .rtu) { g with txEn := true }))
    (hdone : Q (tr ++ [⟨.uartFlush, .ok ()⟩] ++ [⟨.uartWrite payload, .ok ()⟩] ++
      [⟨.uartFlush, .ok ()⟩]) (.returned (.ok ()) { g with txEn := false })) :
    Meets I Q (transmit payload) tr g := by
  rw [transmit, meets_await_bind]
  refine ⟨hdrain, fun drained => ?_⟩
  cases drained with
  | error e =>
      rw [meets_orFail_error_bind]
      exact hdrained
  | ok u =>
      rw [meets_orFail_ok_bind, meets_modify_bind, meets_await_bind]
      refine ⟨hwrite, fun written => ?_⟩
      cases written with
      | error e =>
          rw [meets_orFail_error_bind]
          exact hwritten
      | ok u =>
          rw [meets_orFail_ok_bind, meets_await_bind]
          refine ⟨hflush, fun flushed => ?_⟩
          cases flushed with
          | error e =>
              rw [meets_orFail_error_bind]
              exact hflushed
          | ok u =>
              rw [meets_orFail_ok_bind, meets_modify]
              exact hdone

/-- One turn of the loop in `receive`: what the buffer holds is pushed whether or
not the read succeeded. -/
def receiveByte : Bridge Unit := do
  let r ← await (Op.uartReadUntilIdle 1)
  let response ← gets (·.rtuResponse)
  match response.push r.2[0] with
  | some response =>
    modify fun g => { g with rtuResponse := response }
    orFail .rtuRxFail (r.1.map fun _ => ())
  | none => fail (if r.1.isOk then .push else .rtuRxFail)

/-- What a buffer of one byte holds. -/
def byte (v : Vector UInt8 1) : UInt8 := v[0]

/-- Receive RTU response -/
def receive (overflowChecks : Bool) : Bridge Unit := do
  modify fun g => { g with rtuResponse := .empty }
  let buf ← orFail .rtu (← await (.uartRead 3))
  match ← ofOption (payloadLength overflowChecks buf.toList) with
  | none => fail .rtuPayloadTooShort
  | some pll =>
    let response ← gets (·.rtuResponse)
    let response ← ofOption (response.extend buf.toList)
    modify fun g => { g with rtuResponse := response }
    times pll receiveByte
    let response ← gets (·.rtuResponse)
    runCrcCheck response.toList

/-- Forward request and return response -/
def sendAndReceive (overflowChecks : Bool) (rtuReq : RtuRequestPayload) : Bridge Unit := do
  modify fun g => { g with rtuResponse := .empty }
  transmit rtuReq.toList
  receive overflowChecks

/-! ## `ModbusTcp` -/

/-- Read the next request: always twelve bytes. -/
def listen : Bridge Unit := do
  modify fun g => { g with tcpRequest := .empty }
  let readBuf ← orFail .readExactError (← await (.sockReadExact 12))
  let request ← gets (·.tcpRequest)
  let request ← ofOption (request.extend readBuf.toList)
  modify fun g => { g with tcpRequest := request }

/-- `ModbusTcp::send`; how much of the payload the socket takes is not looked at. -/
def send (payload : ResponsePayload) : Bridge Unit := do
  let _ ← orFail .tcp (← await (.sockWrite payload.toList))

end Toucan.Modbus
