import Toucan.Modbus.Client

/-!
# Toucan.Modbus.ClientFlow

What a flow of client mode can do: `ClientAwait` lists the awaits it can come to,
`ClientEnd` the ways it can end, each with what was answered so far and with the
gateway there.  `meets_processFlow` proves the list complete, whatever the serial
line and the socket answer.

Before it, a specification for the methods of the gateway that the flow calls.
-/

namespace Toucan.Modbus.Client

open Async

/-! ## `ModbusRtu::listen` -/

/-- `listen` takes eight bytes and checks the CRC. -/
theorem meets_listen {I : Trace Ans → Op → Gateway → Prop}
    {Q : Trace Ans → Outcome Gateway (Except ModbusError Unit) → Prop} {tr : Trace Ans} {g : Gateway}
    (hread : ∀ g', Agrees g g' → I tr (.uartRead 8) g')
    (hfailed : ∀ g', Agrees g g' →
      Q (tr ++ [⟨.uartRead 8, .error ()⟩]) (.returned (.error .rtu) g'))
    (hdone : ∀ (buf : Vector UInt8 8) g', Agrees g g' → g'.rtuRequest.toList = buf.toList →
      Q (tr ++ [⟨.uartRead 8, .ok buf⟩]) (.returned (crcCheck buf.toList) g')) :
    Meets I Q listen tr g := by
  rw [listen, meets_modify_bind, meets_await_bind]
  refine ⟨hread _ ⟨rfl, rfl⟩, fun r => ?_⟩
  cases r with
  | error e =>
      rw [meets_orFail_error_bind]
      exact hfailed _ ⟨rfl, rfl⟩
  | ok buf =>
      have hroom : (BoundedVec.empty : RtuRequestPayload).toList.length + buf.toList.length ≤ 8 := by
        rw [Vector.length_toList]
        decide
      obtain ⟨request, hextend, hlist⟩ := BoundedVec.exists_extend hroom
      have hlist' : request.toList = buf.toList := by
        rw [hlist, BoundedVec.toList_empty, List.nil_append]
      rw [meets_orFail_ok_bind, meets_gets_bind, hextend, meets_ofOption_bind, meets_modify_bind,
        runCrcCheck_eq, meets_ofExcept, hlist']
      exact hdone buf _ ⟨rfl, rfl⟩ hlist'

/-! ## `ModbusTcp::receive` -/

/-- What the loop in `receive` was answered, one byte or none at a time. -/
abbrev Reads := List (BoundedVec UInt8 1)

def readTrace (reads : Reads) : Trace Ans := reads.map fun got => ⟨.sockRead 1, .ok got⟩

/-- What it pushed: the byte read or, at the end of the stream, the one before. -/
def pushed : UInt8 → Reads → List UInt8
  | _, [] => []
  | last, got :: reads => got.toList.headD last :: pushed (got.toList.headD last) reads

theorem length_pushed (last : UInt8) (reads : Reads) : (pushed last reads).length = reads.length := by
  induction reads generalizing last with
  | nil => rfl
  | cons got reads ih => rw [pushed, List.length_cons, List.length_cons, ih]

theorem fill_one (buf : Vector UInt8 1) (got : BoundedVec UInt8 1) :
    byte (fill buf got) = got.toList.headD (byte buf) := by
  obtain ⟨bytes, hle⟩ := got
  cases bytes with
  | nil => simp [byte, fill]
  | cons b bytes => simp [byte, fill]

theorem meets_receiveBytes {I : Trace Ans → Op → Gateway → Prop}
    {Q : Trace Ans → Outcome Gateway (Except ModbusError Unit) → Prop} {tr : Trace Ans} {g : Gateway}
    {n : Nat} {buf : Vector UInt8 1}
    (hread : ∀ reads g', Agrees g g' → reads.length < n → I (tr ++ readTrace reads) (.sockRead 1) g')
    (hfailed : ∀ reads g', Agrees g g' →
      Q (tr ++ readTrace reads ++ [⟨.sockRead 1, .error ()⟩]) (.returned (.error .tcp) g'))
    (hfull : ∀ reads g', Agrees g g' → 0 < n →
      Q (tr ++ readTrace reads) (.returned (.error .push) g'))
    (hdone : ∀ reads g', Agrees g g' → reads.length = n →
      g'.tcpResponse.toList = g.tcpResponse.toList ++ pushed (byte buf) reads →
      Q (tr ++ readTrace reads) (.returned (.ok ()) g')) :
    Meets I Q (receiveBytes n buf) tr g := by
  induction n generalizing tr g buf with
  | zero =>
      have h := hdone [] g (Agrees.refl g) rfl (List.append_nil _).symm
      rw [readTrace, List.map_nil, List.append_nil] at h
      rw [receiveBytes, meets_pure]
      exact h
  | succ n ih =>
      have hread0 := hread [] g (Agrees.refl g) (Nat.succ_pos n)
      have hfailed0 := hfailed [] g (Agrees.refl g)
      rw [readTrace, List.map_nil, List.append_nil] at hread0 hfailed0
      rw [receiveBytes, meets_await_bind]
      refine ⟨hread0, fun r => ?_⟩
      cases r with
      | error e =>
          rw [meets_orFail_error_bind]
          exact hfailed0
      | ok got =>
          rw [meets_orFail_ok_bind, meets_gets_bind]
          -- the rest of the loop goes on behind this read
          have hnext : ∀ reads, tr ++ [⟨.sockRead 1, .ok got⟩] ++ readTrace reads =
              tr ++ readTrace (got :: reads) := by
            intro reads
            rw [List.append_assoc]
            rfl
          cases hpush : g.tcpResponse.push (byte (fill buf got)) with
          | none =>
              rw [meets_fail]
              exact hfull [got] g (Agrees.refl g) (Nat.succ_pos n)
          | some response =>
              have hlist := BoundedVec.extendFromSlice_eq_some.mp hpush
              rw [meets_modify_bind]
              refine ih ?_ ?_ ?_ ?_
              · intro reads g' hagrees hlt
                rw [hnext]
                exact hread (got :: reads) g' ⟨hagrees.counter, hagrees.txEn⟩ (Nat.succ_lt_succ hlt)
              · intro reads g' hagrees
                rw [hnext]
                exact hfailed (got :: reads) g' ⟨hagrees.counter, hagrees.txEn⟩
              · intro reads g' hagrees _
                rw [hnext]
                exact hfull (got :: reads) g' ⟨hagrees.counter, hagrees.txEn⟩ (Nat.succ_pos n)
              · intro reads g' hagrees hlen hresponse
                rw [hnext]
                refine hdone (got :: reads) g' ⟨hagrees.counter, hagrees.txEn⟩
                  (congrArg Nat.succ hlen) ?_
                rw [hresponse]
                show response.toList ++ _ = _
                rw [hlist, List.append_assoc, fill_one]
                rfl

/-- The length that the header announces. -/
def bodyLength (got : BoundedVec UInt8 6) : Nat :=
  (fromBeBytes (lengthHigh got) (lengthLow got)).toNat

/-- What `receive` was answered. -/
def arrived (got : BoundedVec UInt8 6) (reads : Reads) : Trace Ans :=
  ⟨.sockRead 6, .ok got⟩ :: readTrace reads

theorem meets_receive {I : Trace Ans → Op → Gateway → Prop}
    {Q : Trace Ans → Outcome Gateway (Except ModbusError Nat) → Prop} {tr : Trace Ans} {g : Gateway}
    (hheader : ∀ g', Agrees g g' → I tr (.sockRead 6) g')
    (hheaderFailed : ∀ g', Agrees g g' →
      Q (tr ++ [⟨.sockRead 6, .error ()⟩]) (.returned (.error .tcp) g'))
    (hbody : ∀ got reads g', Agrees g g' → reads.length < bodyLength got →
      I (tr ++ arrived got reads) (.sockRead 1) g')
    (hbodyFailed : ∀ got reads g', Agrees g g' →
      Q (tr ++ arrived got reads ++ [⟨.sockRead 1, .error ()⟩]) (.returned (.error .tcp) g'))
    (hfull : ∀ got reads g', Agrees g g' → 0 < bodyLength got →
      Q (tr ++ arrived got reads) (.returned (.error .push) g'))
    (hdone : ∀ got reads g', Agrees g g' → reads.length = bodyLength got →
      g'.tcpResponse.toList = (headerBuf got).toList ++ pushed 0 reads →
      Q (tr ++ arrived got reads) (.returned (.ok g'.tcpResponse.toList.length) g')) :
    Meets I Q receive tr g := by
  rw [receive, meets_modify_bind, meets_await_bind]
  refine ⟨hheader _ ⟨rfl, rfl⟩, fun r => ?_⟩
  cases r with
  | error e =>
      rw [meets_orFail_error_bind]
      exact hheaderFailed _ ⟨rfl, rfl⟩
  | ok got =>
      have hroom : (BoundedVec.empty : ResponsePayload).toList.length +
          (headerBuf got).toList.length ≤ 512 := by
        rw [Vector.length_toList]
        decide
      obtain ⟨response, hextend, hlist⟩ := BoundedVec.exists_extend hroom
      rw [meets_orFail_ok_bind, meets_gets_bind]
      show Meets I Q (ofOption (BoundedVec.empty.extend (headerBuf got).toList) >>= _) _ _
      rw [hextend, meets_ofOption_bind, meets_modify_bind, meets_bind]
      have hnext : ∀ reads, tr ++ [⟨.sockRead 6, .ok got⟩] ++ readTrace reads =
          tr ++ arrived got reads := by
        intro reads
        rw [List.append_assoc]
        rfl
      refine meets_receiveBytes ?_ ?_ ?_ ?_
      · intro reads g' hagrees hlt
        rw [hnext]
        exact hbody got reads g' ⟨hagrees.counter, hagrees.txEn⟩ hlt
      · intro reads g' hagrees
        rw [hnext]
        exact hbodyFailed got reads g' ⟨hagrees.counter, hagrees.txEn⟩
      · intro reads g' hagrees hpos
        rw [hnext]
        exact hfull got reads g' ⟨hagrees.counter, hagrees.txEn⟩ hpos
      · intro reads g' hagrees hlen hresponse
        rw [hnext, onOk_ok, meets_gets]
        refine hdone got reads g' ⟨hagrees.counter, hagrees.txEn⟩ hlen ?_
        rw [hresponse]
        show response.toList ++ pushed 0 reads = _
        rw [hlist, BoundedVec.toList_empty, List.nil_append]

/-! ## The flow -/

/-- The gateway once a request is accepted: it has a new transaction id. -/
def accepted (g : Gateway) : Gateway := { g with counter := g.counter + 1 }

/-- The TCP request made of the eight bytes of an RTU request. -/
def requestAdu (g : Gateway) (buf : Vector UInt8 8) : List UInt8 :=
  mbap (accepted g).counter 6 ++ buf.toList.take 6

/-- What was answered up to the write of the request. -/
def asked (g : Gateway) (buf : Vector UInt8 8) (n : Nat) : Trace Ans :=
  [⟨.uartRead 8, .ok buf⟩, ⟨.sockWrite (requestAdu g buf), .ok n⟩]

/-- The RTU response: as much of the body as the low byte of the length field says. -/
def reply (got : BoundedVec UInt8 6) (reads : Reads) : List UInt8 :=
  let pdu := (pushed 0 reads).take (lengthLow got).toNat
  pdu ++ createCrc pdu

/-- The response is complete, has a body and carries the id of the request. -/
structure Replies (g : Gateway) (got : BoundedVec UInt8 6) (reads : Reads) : Prop where
  complete : reads.length = bodyLength got
  body : 0 < reads.length
  id : fromBeBytes (headerBuf got)[0] (headerBuf got)[1] = (accepted g).counter

/-- The awaits of a flow that began on `g`: what was answered so far, the
operation, and the gateway there. -/
inductive ClientAwait (g : Gateway) : Trace Ans → Op → Gateway → Prop
  | listen (g' : Gateway) (hg : Agrees g g') : ClientAwait g [] (.uartRead 8) g'
  | request (buf : Vector UInt8 8) (g' : Gateway) (hcrc : crcCheck buf.toList = .ok ())
      (hg : Agrees (accepted g) g') :
    ClientAwait g [⟨.uartRead 8, .ok buf⟩] (.sockWrite (requestAdu g buf)) g'
  | header (buf : Vector UInt8 8) (n : Nat) (g' : Gateway) (hg : Agrees (accepted g) g') :
    ClientAwait g (asked g buf n) (.sockRead 6) g'
  | body (buf : Vector UInt8 8) (n : Nat) (got : BoundedVec UInt8 6) (reads : Reads)
      (g' : Gateway) (hg : Agrees (accepted g) g') (hlen : reads.length < bodyLength got) :
    ClientAwait g (asked g buf n ++ arrived got reads) (.sockRead 1) g'
  | drain (buf : Vector UInt8 8) (n : Nat) (got : BoundedVec UInt8 6) (reads : Reads)
      (g' : Gateway) (hg : Agrees (accepted g) g') (hr : Replies g got reads) :
    ClientAwait g (asked g buf n ++ arrived got reads) .uartFlush g'
  | write (buf : Vector UInt8 8) (n : Nat) (got : BoundedVec UInt8 6) (reads : Reads)
      (g' : Gateway) (hg : Agrees { accepted g with txEn := true } g') (hr : Replies g got reads) :
    ClientAwait g (asked g buf n ++ arrived got reads ++ [⟨.uartFlush, .ok ()⟩])
      (.uartWrite (reply got reads)) g'
  | flush (buf : Vector UInt8 8) (n : Nat) (got : BoundedVec UInt8 6) (reads : Reads)
      (g' : Gateway) (hg : Agrees { accepted g with txEn := true } g') (hr : Replies g got reads) :
    ClientAwait g (asked g buf n ++ arrived got reads ++ [⟨.uartFlush, .ok ()⟩] ++
      [⟨.uartWrite (reply got reads), .ok ()⟩]) .uartFlush g'

/-- The ends of a flow that began on `g`. -/
inductive ClientEnd (g : Gateway) : Trace Ans → Outcome Gateway (Except ModbusError Unit) → Prop
  | listen (g' : Gateway) (hg : Agrees g g') :
    ClientEnd g [⟨.uartRead 8, .error ()⟩] (.returned (.error .rtu) g')
  | crc (buf : Vector UInt8 8) (e : ModbusError) (g' : Gateway)
      (hcrc : crcCheck buf.toList = .error e) (hg : Agrees g g') :
    ClientEnd g [⟨.uartRead 8, .ok buf⟩] (.returned (.error e) g')
  | request (buf : Vector UInt8 8) (g' : Gateway) (hg : Agrees (accepted g) g') :
    ClientEnd g [⟨.uartRead 8, .ok buf⟩, ⟨.sockWrite (requestAdu g buf), .error ()⟩]
      (.returned (.error .tcp) g')
  | header (buf : Vector UInt8 8) (n : Nat) (g' : Gateway) (hg : Agrees (accepted g) g') :
    ClientEnd g (asked g buf n ++ [⟨.sockRead 6, .error ()⟩]) (.returned (.error .tcp) g')
  | body (buf : Vector UInt8 8) (n : Nat) (got : BoundedVec UInt8 6) (reads : Reads)
      (g' : Gateway) (hg : Agrees (accepted g) g') :
    ClientEnd g (asked g buf n ++ arrived got reads ++ [⟨.sockRead 1, .error ()⟩])
      (.returned (.error .tcp) g')
  | full (buf : Vector UInt8 8) (n : Nat) (got : BoundedVec UInt8 6) (reads : Reads)
      (g' : Gateway) (hg : Agrees (accepted g) g') (hlen : 0 < bodyLength got) :
    ClientEnd g (asked g buf n ++ arrived got reads) (.returned (.error .push) g')
  | short (buf : Vector UInt8 8) (n : Nat) (got : BoundedVec UInt8 6) (g' : Gateway)
      (hg : Agrees (accepted g) g') (hlen : bodyLength got = 0) :
    ClientEnd g (asked g buf n ++ arrived got []) (.returned (.error (.tcpRxFail 6)) g')
  | id (buf : Vector UInt8 8) (n : Nat) (got : BoundedVec UInt8 6) (reads : Reads)
      (g' : Gateway) (hg : Agrees (accepted g) g') (hlen : 0 < reads.length)
      (hread : reads.length = bodyLength got) :
    ClientEnd g (asked g buf n ++ arrived got reads) (.returned (.error .invalidTransactionId) g')
  | drain (buf : Vector UInt8 8) (n : Nat) (got : BoundedVec UInt8 6) (reads : Reads)
      (g' : Gateway) (hg : Agrees (accepted g) g') (hr : Replies g got reads) :
    ClientEnd g (asked g buf n ++ arrived got reads ++ [⟨.uartFlush, .error ()⟩])
      (.returned (.error .rtu) g')
  | write (buf : Vector UInt8 8) (n : Nat) (got : BoundedVec UInt8 6) (reads : Reads)
      (g' : Gateway) (hg : Agrees { accepted g with txEn := true } g') (hr : Replies g got reads) :
    ClientEnd g (asked g buf n ++ arrived got reads ++ [⟨.uartFlush, .ok ()⟩] ++
      [⟨.uartWrite (reply got reads), .error ()⟩]) (.returned (.error .rtu) g')
  | flush (buf : Vector UInt8 8) (n : Nat) (got : BoundedVec UInt8 6) (reads : Reads)
      (g' : Gateway) (hg : Agrees { accepted g with txEn := true } g') (hr : Replies g got reads) :
    ClientEnd g (asked g buf n ++ arrived got reads ++ [⟨.uartFlush, .ok ()⟩] ++
      [⟨.uartWrite (reply got reads), .ok ()⟩] ++ [⟨.uartFlush, .error ()⟩])
      (.returned (.error .rtu) g')
  | replied (buf : Vector UInt8 8) (n : Nat) (got : BoundedVec UInt8 6) (reads : Reads)
      (g' : Gateway) (hg : Agrees { accepted g with txEn := false } g') (hr : Replies g got reads) :
    ClientEnd g (asked g buf n ++ arrived got reads ++ [⟨.uartFlush, .ok ()⟩] ++
      [⟨.uartWrite (reply got reads), .ok ()⟩] ++ [⟨.uartFlush, .ok ()⟩]) (.returned (.ok ()) g')

theorem toList_headerBuf (got : BoundedVec UInt8 6) :
    (headerBuf got).toList = [(headerBuf got)[0], (headerBuf got)[1], (headerBuf got)[2],
      (headerBuf got)[3], lengthHigh got, lengthLow got] := by
  rw [lengthHigh, lengthLow]
  generalize headerBuf got = v
  apply List.ext_getElem
  · rw [Vector.length_toList]
    rfl
  · intro i h1 h2
    rw [Vector.length_toList] at h1
    rw [Vector.getElem_toList]
    have hcases : i = 0 ∨ i = 1 ∨ i = 2 ∨ i = 3 ∨ i = 4 ∨ i = 5 := by omega
    rcases hcases with rfl | rfl | rfl | rfl | rfl | rfl <;> rfl

/-- The low byte of the length never exceeds it. -/
theorem low_le_bodyLength (got : BoundedVec UInt8 6) :
    (lengthLow got).toNat ≤ bodyLength got := by
  have hhi := (lengthHigh got).toNat_lt
  have hlo := (lengthLow got).toNat_lt
  rw [bodyLength, fromBeBytes, UInt16.toNat_ofNat']
  omega

/-- What becomes of a complete response: it has no body, carries another id, or is
converted. -/
theorem convertTcpReponse_cases {g : Gateway} {got : BoundedVec UInt8 6} {reads : Reads}
    (hreads : reads.length = bodyLength got)
    (hresponse : g.tcpResponse.toList = (headerBuf got).toList ++ pushed 0 reads) :
    (reads = [] ∧ convertTcpReponsePayloadToRtuResponsePayload g.tcpResponse g =
        .done (.error (.tcpRxFail 6)) g) ∨
      0 < reads.length ∧
        (convertTcpReponsePayloadToRtuResponsePayload g.tcpResponse g =
            .done (.error .invalidTransactionId) g ∨
          g.counter = fromBeBytes (headerBuf got)[0] (headerBuf got)[1] ∧
            ∃ rtuSend : ResponsePayload, rtuSend.toList = reply got reads ∧
              convertTcpReponsePayloadToRtuResponsePayload g.tcpResponse g =
                .done (.ok rtuSend) g) := by
  have hpushed := length_pushed 0 reads
  have hlen : g.tcpResponse.toList.length = 6 + reads.length := by
    rw [hresponse, List.length_append, Vector.length_toList, hpushed]
  by_cases hbody : 0 < reads.length
  · have hinput := hresponse
    rw [toList_headerBuf] at hinput
    have hlow : (lengthLow got).toNat ≤ (pushed 0 reads).length := by
      rw [hpushed, hreads]
      exact low_le_bodyLength got
    have hpos : 1 ≤ (pushed 0 reads).length := by
      rw [hpushed]
      exact hbody
    refine Or.inr ⟨hbody, ?_⟩
    rcases convertTcpReponse_apply g hinput hpos hlow with ⟨_, hconvert⟩ | hreply
    · exact Or.inl hconvert
    · exact Or.inr hreply
  · have hnil : reads = [] := List.eq_nil_of_length_eq_zero (Nat.eq_zero_of_not_pos hbody)
    have hshort : g.tcpResponse.toList.length < 7 := by omega
    have hsix : g.tcpResponse.toList.length = 6 := by omega
    have hconvert := convertTcpReponse_apply_short g hshort
    rw [hsix] at hconvert
    exact Or.inl ⟨hnil, hconvert⟩

/-- The flow once the response is complete. -/
theorem meets_reply {g g' : Gateway} {buf : Vector UInt8 8} {n : Nat} {got : BoundedVec UInt8 6}
    {reads : Reads} (hg : Agrees (accepted g) g') (hreads : reads.length = bodyLength got)
    (hresponse : g'.tcpResponse.toList = (headerBuf got).toList ++ pushed 0 reads) :
    Meets (ClientAwait g) (ClientEnd g)
      (do
        let rtuSend ← convertTcpReponsePayloadToRtuResponsePayload g'.tcpResponse
        send rtuSend) (asked g buf n ++ arrived got reads) g' := by
  rw [meets_bind]
  rcases convertTcpReponse_cases hreads hresponse with
    ⟨rfl, hconvert⟩ | ⟨hbody, hconvert | ⟨hid, rtuSend, hrtuSend, hconvert⟩⟩
  · rw [meets_of_done hconvert]
    exact .short buf n got g' hg hreads.symm
  · rw [meets_of_done hconvert]
    exact .id buf n got reads g' hg hbody hreads
  · have hreplies : Replies g got reads := ⟨hreads, hbody, by rw [← hid, hg.counter]⟩
    rw [meets_of_done hconvert, onOk_ok, send, hrtuSend]
    exact meets_transmit (.drain buf n got reads g' hg hreplies)
      (.drain buf n got reads g' hg hreplies)
      (.write buf n got reads _ ⟨hg.counter, rfl⟩ hreplies)
      (.write buf n got reads _ ⟨hg.counter, rfl⟩ hreplies)
      (.flush buf n got reads _ ⟨hg.counter, rfl⟩ hreplies)
      (.flush buf n got reads _ ⟨hg.counter, rfl⟩ hreplies)
      (.replied buf n got reads _ ⟨hg.counter, rfl⟩ hreplies)

/-- **A flow of client mode**, whatever it is answered. -/
theorem meets_processFlow (g : Gateway) :
    Meets (ClientAwait g) (ClientEnd g) processFlow [] g := by
  rw [processFlow, meets_bind]
  refine meets_listen (fun g1 h1 => .listen g1 h1) (fun g1 h1 => .listen g1 h1) ?_
  intro buf g1 h1 hrequest
  cases hcrc : crcCheck buf.toList with
  | error e => exact .crc buf e g1 hcrc h1
  | ok u =>
      have hlen : g1.rtuRequest.toList.length = 8 := by
        rw [hrequest, Vector.length_toList]
      have hfour : 4 ≤ g1.rtuRequest.toList.length := by omega
      obtain ⟨adu, hadu, hconvert⟩ := convertRtuRequest_apply g1 hfour
      have hadu' : adu.toList = requestAdu g buf := by
        rw [hadu, hlen, hrequest, h1.counter]
        rfl
      have h2 : Agrees (accepted g) { g1 with counter := g1.counter + 1 } :=
        ⟨congrArg (· + 1) h1.counter, h1.txEn⟩
      rw [onOk_ok, meets_gets_bind, meets_bind, meets_of_done hconvert, onOk_ok, meets_bind,
        sendAndReceive, meets_modify_bind, meets_await_bind, hadu']
      refine ⟨.request buf _ hcrc ⟨h2.counter, h2.txEn⟩, fun r => ?_⟩
      cases r with
      | error e =>
          rw [meets_orFail_error_bind, onOk_error]
          exact .request buf _ ⟨h2.counter, h2.txEn⟩
      | ok n =>
          rw [meets_orFail_ok_bind, meets_bind]
          have hnext : ∀ g3, Agrees { g1 with counter := g1.counter + 1, tcpResponse := .empty } g3 →
              Agrees (accepted g) g3 := fun g3 h3 => h2.trans ⟨h3.counter, h3.txEn⟩
          refine meets_receive (fun g3 h3 => .header buf n g3 (hnext g3 h3))
            (fun g3 h3 => .header buf n g3 (hnext g3 h3))
            (fun got reads g3 h3 hlt => .body buf n got reads g3 (hnext g3 h3) hlt)
            (fun got reads g3 h3 => .body buf n got reads g3 (hnext g3 h3))
            (fun got reads g3 h3 hpos => .full buf n got reads g3 (hnext g3 h3) hpos) ?_
          intro got reads g3 h3 hreads hresponse
          exact meets_reply (hnext g3 h3) hreads hresponse

end Toucan.Modbus.Client
