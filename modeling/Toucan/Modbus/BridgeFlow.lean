import Toucan.Modbus.Conversions

/-!
# Toucan.Modbus.BridgeFlow

What a flow of bridge mode can do: `BridgeAwait` lists the awaits it can come to,
`BridgeEnd` the ways it can end, each with what was answered so far and with the
gateway there.  `meets_processFlow` proves the list complete, whatever the serial
line and the socket answer.

Before it, a specification for the methods of the gateway that the flow calls.
-/

namespace Toucan.Modbus

open Async

/-! ## `ModbusRtu::receive` -/

/-- The bytes that the loop in `receive` read, one turn after the other. -/
abbrev ReadBytes := List (Nat × Vector UInt8 1)

/-- What `receive` was answered: a header, and bytes one by one. -/
def received (header : Vector UInt8 3) (bytes : ReadBytes) : Trace Ans :=
  ⟨.uartRead 3, .ok header⟩ :: bytes.map fun b => ⟨.uartReadUntilIdle 1, (.ok b.1, b.2)⟩

/-- What it made of them. -/
def frame (header : Vector UInt8 3) (bytes : ReadBytes) : List UInt8 :=
  header.toList ++ bytes.map fun b => byte b.2

theorem received_concat (header : Vector UInt8 3) (bytes : ReadBytes) (b : Nat × Vector UInt8 1) :
    received header (bytes ++ [b]) =
      received header bytes ++ [⟨.uartReadUntilIdle 1, (.ok b.1, b.2)⟩] := by
  simp [received]

theorem frame_concat (header : Vector UInt8 3) (bytes : ReadBytes) (b : Nat × Vector UInt8 1) :
    frame header (bytes ++ [b]) = frame header bytes ++ [byte b.2] := by
  simp [frame]

theorem length_frame (header : Vector UInt8 3) (bytes : ReadBytes) :
    (frame header bytes).length = 3 + bytes.length := by
  rw [frame, List.length_append, Vector.length_toList, List.length_map]

/-- One turn of the loop, with room for the byte. -/
theorem meets_receiveByte {I : Trace Ans → Op → Gateway → Prop}
    {Q : Trace Ans → Outcome Gateway (Except ModbusError Unit) → Prop} {tr : Trace Ans}
    {g : Gateway} (hroom : g.rtuResponse.toList.length < 512)
    (hread : I tr (.uartReadUntilIdle 1) g)
    (hfailed : ∀ b g', Agrees g g' → Q (tr ++ [⟨.uartReadUntilIdle 1, (.error (), b)⟩])
      (.returned (.error .rtuRxFail) g'))
    (hdone : ∀ n b g', Agrees g g' → g'.rtuResponse.toList = g.rtuResponse.toList ++ [byte b] →
      Q (tr ++ [⟨.uartReadUntilIdle 1, (.ok n, b)⟩]) (.returned (.ok ()) g')) :
    Meets I Q receiveByte tr g := by
  rw [receiveByte, meets_await_bind]
  refine ⟨hread, fun r => ?_⟩
  obtain ⟨result, b⟩ := r
  obtain ⟨response, hpush, hlist⟩ := BoundedVec.exists_push b[0] hroom
  rw [meets_gets_bind]
  simp only [hpush]
  rw [meets_modify_bind]
  cases result with
  | error e => exact hfailed b _ ⟨rfl, rfl⟩
  | ok n => exact hdone n b _ ⟨rfl, rfl⟩ hlist

theorem payloadLength_ne_none (overflowChecks : Bool) (header : Vector UInt8 3) :
    payloadLength overflowChecks header.toList ≠ some none := by
  have hthird : header.toList[2]? = some header[2] := by
    simp
  rw [payloadLength, hthird]
  simp

/-- The loop: the frame so far is the header and a byte for each turn. -/
theorem meets_times_receiveByte {I : Trace Ans → Op → Gateway → Prop}
    {Q : Trace Ans → Outcome Gateway (Except ModbusError Unit) → Prop} {tr : Trace Ans}
    {g : Gateway} {header : Vector UInt8 3} {pll : Nat} (hpll : pll ≤ 255)
    (hheader : g.rtuResponse.toList = header.toList)
    (hbyte : ∀ bytes g', Agrees g g' → I (tr ++ received header bytes) (.uartReadUntilIdle 1) g')
    (hbyteFailed : ∀ bytes b g', Agrees g g' →
      Q (tr ++ received header bytes ++ [⟨.uartReadUntilIdle 1, (.error (), b)⟩])
        (.returned (.error .rtuRxFail) g'))
    (hdone : ∀ bytes g', Agrees g g' → bytes.length = pll →
      g'.rtuResponse.toList = frame header bytes →
      Q (tr ++ received header bytes) (.returned (.ok ()) g')) :
    Meets I Q (times pll receiveByte) (tr ++ [⟨.uartRead 3, .ok header⟩]) g := by
  -- `n` bytes are still to come
  let J (n : Nat) (tr' : Trace Ans) (g' : Gateway) : Prop :=
    ∃ bytes : ReadBytes, bytes.length + n = pll ∧ tr' = tr ++ received header bytes ∧
      g'.rtuResponse.toList = frame header bytes ∧ Agrees g g'
  have hstart : J pll (tr ++ [⟨.uartRead 3, .ok header⟩]) g := by
    refine ⟨[], Nat.zero_add pll, rfl, ?_, Agrees.refl g⟩
    rw [hheader, frame, List.map_nil, List.append_nil]
  refine meets_times (J := J) ?_ ?_ hstart
  · rintro n tr' g' ⟨bytes, hcount, rfl, hframe, hagrees⟩
    have hlen := length_frame header bytes
    have hroom : g'.rtuResponse.toList.length < 512 := by
      rw [hframe]
      omega
    refine meets_receiveByte hroom (hbyte bytes g' hagrees) ?_ ?_
    · intro b g'' hagrees'
      exact hbyteFailed bytes b g'' (hagrees.trans hagrees')
    · intro m b g'' hagrees' hpushed
      refine ⟨bytes ++ [(m, b)], ?_, ?_, ?_, hagrees.trans hagrees'⟩
      · rw [List.length_append, List.length_singleton]
        omega
      · rw [received_concat, List.append_assoc]
      · rw [hpushed, hframe, frame_concat]
  · rintro tr' g' ⟨bytes, hcount, rfl, hframe, hagrees⟩
    exact hdone bytes g' hagrees hcount hframe

/-- `receive` takes a header and as many bytes as it tells, and checks the CRC. -/
theorem meets_receive {I : Trace Ans → Op → Gateway → Prop}
    {Q : Trace Ans → Outcome Gateway (Except ModbusError Unit) → Prop} {tr : Trace Ans}
    {g : Gateway}
    (hheader : ∀ g', Agrees g g' → I tr (.uartRead 3) g')
    (hheaderFailed : ∀ g', Agrees g g' →
      Q (tr ++ [⟨.uartRead 3, .error ()⟩]) (.returned (.error .rtu) g'))
    (hpanicked : ∀ header g', Agrees g g' → payloadLength overflowChecks header.toList = none →
      Q (tr ++ received header []) (.panicked g'))
    (hbyte : ∀ header bytes g', Agrees g g' →
      I (tr ++ received header bytes) (.uartReadUntilIdle 1) g')
    (hbyteFailed : ∀ header bytes b g', Agrees g g' →
      Q (tr ++ received header bytes ++ [⟨.uartReadUntilIdle 1, (.error (), b)⟩])
        (.returned (.error .rtuRxFail) g'))
    (hdone : ∀ header bytes g', Agrees g g' →
      payloadLength overflowChecks header.toList = some (some bytes.length) →
      g'.rtuResponse.toList = frame header bytes →
      Q (tr ++ received header bytes) (.returned (crcCheck (frame header bytes)) g')) :
    Meets I Q (receive overflowChecks) tr g := by
  rw [receive, meets_modify_bind, meets_await_bind]
  refine ⟨hheader _ ⟨rfl, rfl⟩, fun r => ?_⟩
  cases r with
  | error e =>
      rw [meets_orFail_error_bind]
      exact hheaderFailed _ ⟨rfl, rfl⟩
  | ok header =>
      rw [meets_orFail_ok_bind]
      cases hpl : payloadLength overflowChecks header.toList with
      | none => exact hpanicked header _ ⟨rfl, rfl⟩ hpl
      | some guess =>
          cases guess with
          | none => exact absurd hpl (payloadLength_ne_none overflowChecks header)
          | some pll =>
              have hpll : pll ≤ 255 := payloadLength_le hpl
              have hroom : (BoundedVec.empty : ResponsePayload).toList.length +
                  header.toList.length ≤ 512 := by
                rw [Vector.length_toList]
                decide
              obtain ⟨response, hextend, hlist⟩ := BoundedVec.exists_extend hroom
              rw [meets_ofOption_bind]
              simp only []
              rw [meets_gets_bind, hextend, meets_ofOption_bind, meets_modify_bind, meets_bind]
              have hresponse : response.toList = header.toList := by
                rw [hlist, BoundedVec.toList_empty, List.nil_append]
              refine meets_times_receiveByte hpll hresponse ?_ ?_ ?_
              · intro bytes g' hagrees
                exact hbyte header bytes g' ⟨hagrees.counter, hagrees.txEn⟩
              · intro bytes b g' hagrees
                exact hbyteFailed header bytes b g' ⟨hagrees.counter, hagrees.txEn⟩
              · intro bytes g' hagrees hcount hframe
                have h := hdone header bytes g' ⟨hagrees.counter, hagrees.txEn⟩ (hcount ▸ hpl) hframe
                rw [onOk_ok, meets_gets_bind, runCrcCheck_eq, meets_ofExcept, hframe]
                exact h

/-! ## The flow -/

/-- The transaction id of a request, and the RTU request made of the rest. -/
def requestId (request : Vector UInt8 12) : UInt16 := fromBeBytes request[0] request[1]

def rtuRequest (request : Vector UInt8 12) : List UInt8 :=
  request.toList.drop 6 ++ createCrc (request.toList.drop 6)

/-- The TCP response to a frame. -/
def answer (request : Vector UInt8 12) (frame : List UInt8) : List UInt8 :=
  mbap (requestId request) (frame.length - 2) ++ frame.take (frame.length - 2)

theorem toList_eq_header_append (request : Vector UInt8 12) :
    request.toList = request[0] :: request[1] :: request[2] :: request[3] :: request[4] ::
      request[5] :: request.toList.drop 6 := by
  have hnext : ∀ (i : Nat) (hi : i < 12),
      request.toList.drop i = request[i] :: request.toList.drop (i + 1) := by
    intro i hi
    have hlen : i < request.toList.length := by
      rw [Vector.length_toList]
      exact hi
    rw [List.drop_eq_getElem_cons hlen, Vector.getElem_toList]
  calc request.toList = request.toList.drop 0 := rfl
    _ = _ := by
      rw [hnext 0 (by decide), hnext 1 (by decide), hnext 2 (by decide), hnext 3 (by decide),
        hnext 4 (by decide), hnext 5 (by decide)]

/-- `nextRequest` reads twelve bytes and takes the transaction id for the counter. -/
theorem meets_nextRequest {I : Trace Ans → Op → Gateway → Prop}
    {Q : Trace Ans → Outcome Gateway (Except ModbusError RtuRequestPayload) → Prop} {tr : Trace Ans}
    {g : Gateway}
    (hread : ∀ g', Agrees g g' → I tr (.sockReadExact 12) g')
    (hfailed : ∀ g', Agrees g g' →
      Q (tr ++ [⟨.sockReadExact 12, .error ()⟩]) (.returned (.error .readExactError) g'))
    (hdone : ∀ (request : Vector UInt8 12) (rtuReq : RtuRequestPayload) g',
      rtuReq.toList = rtuRequest request → g'.counter = requestId request → g'.txEn = g.txEn →
      Q (tr ++ [⟨.sockReadExact 12, .ok request⟩]) (.returned (.ok rtuReq) g')) :
    Meets I Q nextRequest tr g := by
  rw [nextRequest, meets_bind, listen, meets_modify_bind, meets_await_bind]
  refine ⟨hread _ ⟨rfl, rfl⟩, fun r => ?_⟩
  cases r with
  | error e =>
      rw [meets_orFail_error_bind, onOk_error]
      exact hfailed _ ⟨rfl, rfl⟩
  | ok request =>
      have hroom : (BoundedVec.empty : TcpRequestPayload).toList.length +
          request.toList.length ≤ 12 := by
        rw [Vector.length_toList]
        decide
      obtain ⟨input, hextend, hlist⟩ := BoundedVec.exists_extend hroom
      rw [meets_orFail_ok_bind, meets_gets_bind, hextend, meets_ofOption_bind, meets_modify,
        onOk_ok, meets_gets_bind]
      have hinput : input.toList = request[0] :: request[1] :: request[2] :: request[3] ::
          request[4] :: request[5] :: request.toList.drop 6 := by
        rw [hlist, BoundedVec.toList_empty, List.nil_append]
        exact toList_eq_header_append request
      have hpdu : 1 ≤ (request.toList.drop 6).length := by
        rw [List.length_drop, Vector.length_toList]
        decide
      obtain ⟨rtuReq, hrtuReq, hconvert⟩ :=
        convertTcpRequest_apply { g with tcpRequest := input } hinput hpdu
      rw [meets_of_done hconvert]
      exact hdone request rtuReq _ hrtuReq rfl rfl

/-- What was answered up to the end of `transmit`. -/
def sent (request : Vector UInt8 12) : Trace Ans :=
  [⟨.sockReadExact 12, .ok request⟩, ⟨.uartFlush, .ok ()⟩,
    ⟨.uartWrite (rtuRequest request), .ok ()⟩, ⟨.uartFlush, .ok ()⟩]

/-- The awaits of a flow that began on `g`: what was answered so far, the
operation, and the gateway there. -/
inductive BridgeAwait (g : Gateway) : Trace Ans → Op → Gateway → Prop
  | listen (g' : Gateway) (ht : g'.txEn = g.txEn) : BridgeAwait g [] (.sockReadExact 12) g'
  | drain (request : Vector UInt8 12) (g' : Gateway) (ht : g'.txEn = g.txEn) :
    BridgeAwait g [⟨.sockReadExact 12, .ok request⟩] .uartFlush g'
  | write (request : Vector UInt8 12) (g' : Gateway) (ht : g'.txEn = true) :
    BridgeAwait g [⟨.sockReadExact 12, .ok request⟩, ⟨.uartFlush, .ok ()⟩]
      (.uartWrite (rtuRequest request)) g'
  | flush (request : Vector UInt8 12) (g' : Gateway) (ht : g'.txEn = true) :
    BridgeAwait g [⟨.sockReadExact 12, .ok request⟩, ⟨.uartFlush, .ok ()⟩,
      ⟨.uartWrite (rtuRequest request), .ok ()⟩] .uartFlush g'
  | header (request : Vector UInt8 12) (g' : Gateway) (ht : g'.txEn = false) :
    BridgeAwait g (sent request) (.uartRead 3) g'
  | byte (request : Vector UInt8 12) (header : Vector UInt8 3) (bytes : ReadBytes) (g' : Gateway)
      (ht : g'.txEn = false) :
    BridgeAwait g (sent request ++ received header bytes) (.uartReadUntilIdle 1) g'
  | answer (request : Vector UInt8 12) (header : Vector UInt8 3) (bytes : ReadBytes) (g' : Gateway)
      (ht : g'.txEn = false) (hcrc : crcCheck (frame header bytes) = .ok ())
      (hlen : bytes.length ≤ 255) :
    BridgeAwait g (sent request ++ received header bytes)
      (.sockWrite (answer request (frame header bytes))) g'

/-- The ends of a flow that began on `g`. -/
inductive BridgeEnd (overflowChecks : Bool) (g : Gateway) :
    Trace Ans → Outcome Gateway (Except ModbusError Unit) → Prop
  | listen (g' : Gateway) (ht : g'.txEn = g.txEn) :
    BridgeEnd overflowChecks g [⟨.sockReadExact 12, .error ()⟩]
      (.returned (.error .readExactError) g')
  | drain (request : Vector UInt8 12) (g' : Gateway) (ht : g'.txEn = g.txEn) :
    BridgeEnd overflowChecks g [⟨.sockReadExact 12, .ok request⟩, ⟨.uartFlush, .error ()⟩]
      (.returned (.error .rtu) g')
  | write (request : Vector UInt8 12) (g' : Gateway) (ht : g'.txEn = true) :
    BridgeEnd overflowChecks g [⟨.sockReadExact 12, .ok request⟩, ⟨.uartFlush, .ok ()⟩,
      ⟨.uartWrite (rtuRequest request), .error ()⟩] (.returned (.error .rtu) g')
  | flush (request : Vector UInt8 12) (g' : Gateway) (ht : g'.txEn = true) :
    BridgeEnd overflowChecks g [⟨.sockReadExact 12, .ok request⟩, ⟨.uartFlush, .ok ()⟩,
      ⟨.uartWrite (rtuRequest request), .ok ()⟩, ⟨.uartFlush, .error ()⟩]
      (.returned (.error .rtu) g')
  | header (request : Vector UInt8 12) (g' : Gateway) (ht : g'.txEn = false) :
    BridgeEnd overflowChecks g (sent request ++ [⟨.uartRead 3, .error ()⟩])
      (.returned (.error .rtu) g')
  | length (request : Vector UInt8 12) (header : Vector UInt8 3) (g' : Gateway)
      (ht : g'.txEn = false) (hc : overflowChecks = true) :
    BridgeEnd overflowChecks g (sent request ++ received header []) (.panicked g')
  | byte (request : Vector UInt8 12) (header : Vector UInt8 3) (bytes : ReadBytes)
      (b : Vector UInt8 1) (g' : Gateway) (ht : g'.txEn = false) :
    BridgeEnd overflowChecks g
      (sent request ++ received header bytes ++ [⟨.uartReadUntilIdle 1, (.error (), b)⟩])
      (.returned (.error .rtuRxFail) g')
  | crc (request : Vector UInt8 12) (header : Vector UInt8 3) (bytes : ReadBytes) (e : ModbusError)
      (g' : Gateway) (ht : g'.txEn = false) (hcrc : crcCheck (frame header bytes) = .error e) :
    BridgeEnd overflowChecks g (sent request ++ received header bytes) (.returned (.error e) g')
  | answer (request : Vector UInt8 12) (header : Vector UInt8 3) (bytes : ReadBytes) (g' : Gateway)
      (ht : g'.txEn = false) :
    BridgeEnd overflowChecks g (sent request ++ received header bytes ++
      [⟨.sockWrite (answer request (frame header bytes)), .error ()⟩]) (.returned (.error .tcp) g')
  | answered (request : Vector UInt8 12) (header : Vector UInt8 3) (bytes : ReadBytes)
      (n : Nat) (g' : Gateway) (ht : g'.txEn = false) :
    BridgeEnd overflowChecks g (sent request ++ received header bytes ++
      [⟨.sockWrite (answer request (frame header bytes)), .ok n⟩]) (.returned (.ok ()) g')

/-- **A flow of bridge mode**, whatever it is answered. -/
theorem meets_processFlow (overflowChecks : Bool) (g : Gateway) :
    Meets (BridgeAwait g) (BridgeEnd overflowChecks g) (processFlow overflowChecks) [] g := by
  rw [processFlow, meets_bind]
  refine meets_nextRequest (fun g1 h1 => .listen g1 h1.txEn) (fun g1 h1 => .listen g1 h1.txEn) ?_
  intro request rtuReq g1 hrtuReq hid hpin
  rw [onOk_ok, meets_bind, sendAndReceive, meets_modify_bind, meets_bind, hrtuReq]
  refine meets_transmit (.drain request _ hpin) (.drain request _ hpin) (.write request _ rfl)
    (.write request _ rfl) (.flush request _ rfl) (.flush request _ rfl) ?_
  rw [onOk_ok]
  refine meets_receive (fun g2 h2 => .header request g2 h2.txEn)
    (fun g2 h2 => .header request g2 h2.txEn)
    (fun header g2 h2 hpl =>
      .length request header g2 h2.txEn (overflowChecks_of_payloadLength hpl))
    (fun header bytes g2 h2 => .byte request header bytes g2 h2.txEn)
    (fun header bytes b g2 h2 => .byte request header bytes b g2 h2.txEn) ?_
  intro header bytes g2 h2 hpl hframe
  have hlen : bytes.length ≤ 255 := payloadLength_le hpl
  cases hcrc : crcCheck (frame header bytes) with
  | error e => exact .crc request header bytes e g2 h2.txEn hcrc
  | ok u =>
      have hcount := length_frame header bytes
      have htwo : 2 ≤ g2.rtuResponse.toList.length := by
        rw [hframe]
        omega
      have hfits : g2.rtuResponse.toList.length ≤ 508 := by
        rw [hframe]
        omega
      obtain ⟨tcpSend, hlist, hconvert⟩ := convertRtuReponse_apply g2 htwo hfits
      have hanswer : tcpSend.toList = answer request (frame header bytes) := by
        have hcounter : g2.counter = requestId request := by
          rw [h2.counter]
          exact hid
        rw [hlist, hframe, hcounter]
        rfl
      rw [onOk_ok, meets_gets_bind, meets_bind, meets_of_done hconvert, onOk_ok, send,
        meets_await_bind, hanswer]
      refine ⟨.answer request header bytes g2 h2.txEn hcrc hlen, fun r => ?_⟩
      cases r with
      | error e =>
          rw [meets_orFail_error_bind]
          exact .answer request header bytes g2 h2.txEn
      | ok n =>
          rw [meets_orFail_ok_bind, meets_pure]
          exact .answered request header bytes n g2 h2.txEn

end Toucan.Modbus
