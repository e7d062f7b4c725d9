import Toucan.Modbus.Task

/-!
# Toucan.Modbus.BridgeRuns

Runs of the gateway in bridge mode: every ADU that the socket is given answers the
one request that was read in the same flow, whatever became of the flows before.
-/

namespace Toucan.Modbus

/-! ## What a flow was answered -/

/-- The requests read from the socket. -/
def requestsRead (tr : Trace Ans) : List (List UInt8) :=
  tr.filterMap fun
    | ⟨.sockReadExact _, .ok request⟩ => some request.toList
    | _ => none

/-- The bytes read from the serial line. -/
def serialBytes (tr : Trace Ans) : List UInt8 :=
  tr.flatMap fun
    | ⟨.uartRead _, .ok buf⟩ => buf.toList
    | ⟨.uartReadUntilIdle _, (.ok _, buf)⟩ => buf.toList
    | _ => []

/-- The ADUs that the socket took. -/
def adusTaken (tr : Trace Ans) : List (List UInt8) :=
  tr.filterMap fun
    | ⟨.sockWrite adu, .ok _⟩ => some adu
    | _ => none

/-- The ADUs handed to the socket, taken or not. -/
def adusGiven (tr : Trace Ans) : List (List UInt8) :=
  tr.filterMap fun
    | ⟨.sockWrite adu, _⟩ => some adu
    | _ => none

theorem requestsRead_append (tr tr' : Trace Ans) :
    requestsRead (tr ++ tr') = requestsRead tr ++ requestsRead tr' := List.filterMap_append

theorem serialBytes_append (tr tr' : Trace Ans) :
    serialBytes (tr ++ tr') = serialBytes tr ++ serialBytes tr' := List.flatMap_append

theorem adusTaken_append (tr tr' : Trace Ans) :
    adusTaken (tr ++ tr') = adusTaken tr ++ adusTaken tr' := List.filterMap_append

theorem adusGiven_append (tr tr' : Trace Ans) :
    adusGiven (tr ++ tr') = adusGiven tr ++ adusGiven tr' := List.filterMap_append

theorem toList_one (v : Vector UInt8 1) : v.toList = [byte v] := by
  apply List.ext_getElem
  · rw [Vector.length_toList]
    rfl
  · intro i h1 h2
    rw [Vector.length_toList] at h1
    have hi : i = 0 := by omega
    subst hi
    rfl

/-- What `receive` is answered is neither a request nor about an ADU. -/
theorem requestsRead_received (header : Vector UInt8 3) (bytes : ReadBytes) :
    requestsRead (received header bytes) = [] := by
  induction bytes with
  | nil => rfl
  | cons b bytes ih => exact ih

theorem adusTaken_received (header : Vector UInt8 3) (bytes : ReadBytes) :
    adusTaken (received header bytes) = [] := by
  induction bytes with
  | nil => rfl
  | cons b bytes ih => exact ih

theorem adusGiven_received (header : Vector UInt8 3) (bytes : ReadBytes) :
    adusGiven (received header bytes) = [] := by
  induction bytes with
  | nil => rfl
  | cons b bytes ih => exact ih

/-- What is read from the line there is the frame. -/
theorem serialBytes_received (header : Vector UInt8 3) (bytes : ReadBytes) :
    serialBytes (received header bytes) = frame header bytes := by
  have hbytes : serialBytes (bytes.map fun b => ⟨.uartReadUntilIdle 1, (.ok b.1, b.2)⟩) =
      bytes.map fun b => byte b.2 := by
    induction bytes with
    | nil => rfl
    | cons b bytes ih =>
        show b.2.toList ++ serialBytes (bytes.map _) = _
        rw [ih, toList_one]
        rfl
  show header.toList ++ serialBytes (bytes.map _) = _
  rw [hbytes]
  rfl

theorem requestsRead_sent (request : Vector UInt8 12) :
    requestsRead (sent request) = [request.toList] := rfl

theorem serialBytes_sent (request : Vector UInt8 12) : serialBytes (sent request) = [] := rfl

theorem adusTaken_sent (request : Vector UInt8 12) : adusTaken (sent request) = [] := rfl

theorem adusGiven_sent (request : Vector UInt8 12) : adusGiven (sent request) = [] := rfl

/-! ## Answers -/

/-- The ADU answers the one request of the flow: it has its transaction id, and its
body is what was read from the serial line, without the CRC. -/
def AnswersFlow (f : Flow) (adu : List UInt8) : Prop :=
  ∃ request transactionId body, requestsRead f.answers = [request] ∧
    request.take 2 = toBeBytes transactionId ∧
    serialBytes f.answers = body ++ createCrc body ∧ IsAdu transactionId body adu

/-- An ADU for the socket answers its flow, which gave the socket none before.  Of a
flow that returned `Ok` the socket took one, and of one that failed none: it gave the
socket none, or the write of it is what failed. -/
def AnswersRequests : TaskOutput → Prop
  | .awaits f (.sockWrite adu) _ => AnswersFlow f adu ∧ adusGiven f.answers = []
  | .returned f (.ok ()) _ => ∃ adu, adusTaken f.answers = [adu]
  | .returned f (.error e) _ => adusTaken f.answers = [] ∧ (e ≠ .tcp → adusGiven f.answers = [])
  | .cancelled f _ _ => adusGiven f.answers = []
  | _ => True

theorem answersFlow_answer {start : Gateway} {request : Vector UInt8 12} {header : Vector UInt8 3}
    {bytes : ReadBytes} (hcrc : crcCheck (frame header bytes) = .ok ()) (hlen : bytes.length ≤ 255) :
    AnswersFlow ⟨start, sent request ++ received header bytes⟩
      (answer request (frame header bytes)) := by
  obtain ⟨hfour, hframe⟩ := crcCheck_eq_ok hcrc
  have hcount := length_frame header bytes
  have hbody : ((frame header bytes).take ((frame header bytes).length - 2)).length =
      (frame header bytes).length - 2 := by
    rw [List.length_take]
    omega
  have hid : request.toList.take 2 = toBeBytes (requestId request) := by
    rw [requestId, toBeBytes_fromBeBytes, toList_eq_header_append]
    rfl
  refine ⟨request.toList, requestId request, _, ?_, hid, ?_, isAdu_mbap hbody (by omega) rfl⟩
  · show requestsRead (sent request ++ received header bytes) = _
    rw [requestsRead_append, requestsRead_received, requestsRead_sent, List.append_nil]
  · show serialBytes (sent request ++ received header bytes) = _
    rw [serialBytes_append, serialBytes_received, serialBytes_sent, List.nil_append, ← hframe]

/-- No ADU is given to the socket before the last await of a flow is over. -/
theorem BridgeAwait.adusGiven_eq_nil {g g' : Gateway} {tr : Trace Ans} {op : Op}
    (h : BridgeAwait g tr op g') : adusGiven tr = [] := by
  cases h with
  | listen => rfl
  | drain => rfl
  | write => rfl
  | flush => rfl
  | header => rfl
  | byte request header bytes => rw [adusGiven_append, adusGiven_received, adusGiven_sent]; rfl
  | answer request header bytes => rw [adusGiven_append, adusGiven_received, adusGiven_sent]; rfl

theorem BridgeAwait.answersFlow {start g' : Gateway} {tr : Trace Ans} {adu : List UInt8}
    (h : BridgeAwait start tr (.sockWrite adu) g') : AnswersFlow ⟨start, tr⟩ adu := by
  cases h with
  | answer request header bytes _ _ hcrc hlen => exact answersFlow_answer hcrc hlen

theorem BridgeEnd.answersRequests {start g' : Gateway} {tr : Trace Ans}
    {result : Except ModbusError Unit}
    (h : BridgeEnd overflowChecks start tr (.returned result g')) :
    AnswersRequests (.returned ⟨start, tr⟩ result g') := by
  have hreceived : ∀ (request : Vector UInt8 12) (header : Vector UInt8 3) (bytes : ReadBytes),
      adusTaken (sent request ++ received header bytes) = [] ∧
        adusGiven (sent request ++ received header bytes) = [] := by
    intro request header bytes
    rw [adusTaken_append, adusTaken_received, adusTaken_sent, adusGiven_append,
      adusGiven_received, adusGiven_sent]
    exact ⟨rfl, rfl⟩
  cases h with
  | listen => exact ⟨rfl, fun _ => rfl⟩
  | drain => exact ⟨rfl, fun _ => rfl⟩
  | write => exact ⟨rfl, fun _ => rfl⟩
  | flush => exact ⟨rfl, fun _ => rfl⟩
  | header => exact ⟨rfl, fun _ => rfl⟩
  | byte request header bytes b =>
      obtain ⟨htaken, hgiven⟩ := hreceived request header bytes
      show adusTaken _ = [] ∧ (_ → adusGiven _ = [])
      rw [adusTaken_append, htaken, adusGiven_append, hgiven]
      exact ⟨rfl, fun _ => rfl⟩
  | crc request header bytes =>
      obtain ⟨htaken, hgiven⟩ := hreceived request header bytes
      exact ⟨htaken, fun _ => hgiven⟩
  | answer request header bytes =>
      obtain ⟨htaken, _⟩ := hreceived request header bytes
      show adusTaken _ = [] ∧ _
      rw [adusTaken_append, htaken]
      exact ⟨rfl, fun h => absurd rfl h⟩
  | answered request header bytes n =>
      obtain ⟨htaken, _⟩ := hreceived request header bytes
      refine ⟨Toucan.Modbus.answer request (frame header bytes), ?_⟩
      rw [adusTaken_append, htaken]
      rfl

end Toucan.Modbus
