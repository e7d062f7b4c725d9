import Toucan.Modbus.Models

/-!
# Toucan.Modbus.Conversions

The payload conversions (`modbus/conversions.rs`), and the flow of bridge mode
(`process_flow` in `modbus/flow.rs`).  In bridge mode a TCP request becomes an RTU
request, and the RTU response becomes a TCP response under the same transaction
id; in client mode an RTU request becomes a TCP request under a new transaction
id, and the TCP response becomes an RTU response.
-/

namespace Toucan.Modbus

open Async

/-- `MODBUS_PROTO` -/
def modbusProto : List UInt8 := [0, 0]

/-- `output.extend_from_slice(s).and(output.extend_from_slice(t))`: the second is
tried also when the first was refused. -/
def extendBoth (output : BoundedVec UInt8 cap) (s t : List UInt8) : Option (BoundedVec UInt8 cap) :=
  let first := output.extendFromSlice s
  let second := (first.getD output).extendFromSlice t
  first.bind fun _ => second

def convertTcpRequestPayloadToRtuRequestPayload (input : TcpRequestPayload) :
    Bridge RtuRequestPayload := do
  if input.toList.length < 7 then fail (.tcpRxFail input.toList.length)
  else
    let (mbap, pdu) ← ofOption (splitAt input.toList 6)
    let hi ← ofOption mbap[0]?
    let lo ← ofOption mbap[1]?
    modify fun g => { g with counter := fromBeBytes hi lo }
    match extendBoth .empty pdu (createCrc pdu) with
    | some output => pure output
    | none => fail .conversionSlice

def convertRtuReponsePayloadToTcpResponsePayload (input : ResponsePayload) :
    Bridge ResponsePayload := do
  let transactionId ← gets fun g => toBeBytes g.counter
  if input.toList.length < 2 then panic
  else
    let payload := input.toList.take (input.toList.length - 2) -- drop crc
    let bytesLength := toBeBytes (UInt16.ofNat payload.length)
    let output ← ofOption (BoundedVec.empty.extend transactionId)
    let output ← ofOption (output.extend modbusProto)
    let output ← ofOption (output.extend bytesLength)
    match output.extendFromSlice payload with
    | some output => pure output
    | none => fail .conversionSlice

/-- `increment_transaction_id`; nobody else writes the counter meanwhile. -/
def incrementTransactionId : Bridge UInt16 := do
  let current ← gets (·.counter)
  let new := if current = 0xFFFF then 0 else current + 1
  modify fun g => { g with counter := new }
  pure new

def convertRtuRequestPayloadToTcpRequestPayload (input : RtuRequestPayload) :
    Bridge TcpRequestPayload := do
  if input.toList.length < 4 then fail .rtuPayloadTooShort
  else
    let newTransactionId ← incrementTransactionId
    let (payload, _) ← ofOption (splitAt input.toList (input.toList.length - 2)) -- drop crc
    let bytesLength := toBeBytes (UInt16.ofNat payload.length)
    let output ← ofOption (BoundedVec.empty.extend (toBeBytes newTransactionId))
    let output ← ofOption (output.extend modbusProto)
    let output ← ofOption (output.extend bytesLength)
    match output.extendFromSlice payload with
    | some output => pure output
    | none => fail .conversionSlice

def convertTcpReponsePayloadToRtuResponsePayload (input : ResponsePayload) :
    Bridge ResponsePayload := do
  if input.toList.length < 7 then fail (.tcpRxFail input.toList.length)
  else
    let (mbap, pdu) ← ofOption (splitAt input.toList 6)
    let hi ← ofOption mbap[0]?
    let lo ← ofOption mbap[1]?
    let transactionId ← gets (·.counter)
    if transactionId ≠ fromBeBytes hi lo then fail .invalidTransactionId
    else
      let len ← ofOption input.toList[5]? -- the low byte of the length field
      if pdu.length < len.toNat then panic
      else
        let pdu := pdu.take len.toNat -- limit to reported bytes
        match extendBoth .empty pdu (createCrc pdu) with
        | some output => pure output
        | none => fail .conversionSlice

/-! ## The flow -/

/-- The first two links of `process_flow`: read a request, convert it. -/
def nextRequest : Bridge RtuRequestPayload := do
  listen
  let request ← gets (·.tcpRequest)
  convertTcpRequestPayloadToRtuRequestPayload request

/-- `process_flow` -/
def processFlow (overflowChecks : Bool) : Bridge Unit := do
  let rtuReq ← nextRequest
  sendAndReceive overflowChecks rtuReq
  let response ← gets (·.rtuResponse)
  let tcpSend ← convertRtuReponsePayloadToTcpResponsePayload response
  send tcpSend

/-- What makes `modbus_task` leave its inner loop; any other error is logged and
the next flow begins. -/
def breaksInner : ModbusError → Bool
  | .tcpRxFail _ => true
  | .readExactError => true
  | _ => false

/-! ## What the conversions return -/

/-- The MBAP header: transaction id, protocol id and the number of bytes after it. -/
def mbap (transactionId : UInt16) (len : Nat) : List UInt8 :=
  toBeBytes transactionId ++ modbusProto ++ toBeBytes (UInt16.ofNat len)

@[simp] theorem length_mbap (transactionId : UInt16) (len : Nat) :
    (mbap transactionId len).length = 6 := rfl

/-- An ADU: transaction id, protocol id 0, the number of bytes after it, and these. -/
structure IsAdu (transactionId : UInt16) (body bytes : List UInt8) : Prop where
  bytes_eq : bytes = toBeBytes transactionId ++ [0, 0] ++ toBeBytes (UInt16.ofNat body.length) ++ body
  length_lt : body.length < 65536

theorem isAdu_mbap {transactionId : UInt16} {body bytes : List UInt8} {len : Nat}
    (hlen : body.length = len) (hlt : len < 65536) (h : bytes = mbap transactionId len ++ body) :
    IsAdu transactionId body bytes := by
  subst hlen
  exact ⟨h, hlt⟩

/-- What fits is appended, both parts. -/
theorem extendBoth_eq_some {output : BoundedVec UInt8 cap} {s t : List UInt8}
    (h : output.toList.length + s.length + t.length ≤ cap) :
    ∃ output', extendBoth output s t = some output' ∧ output'.toList = output.toList ++ s ++ t := by
  have hs : output.toList.length + s.length ≤ cap := by omega
  obtain ⟨first, hfirst, hlist⟩ := BoundedVec.exists_extendFromSlice hs
  have ht : first.toList.length + t.length ≤ cap := by
    rw [hlist, List.length_append]
    exact h
  obtain ⟨second, hsecond, hlist'⟩ := BoundedVec.exists_extendFromSlice ht
  refine ⟨second, ?_, by rw [hlist', hlist]⟩
  rw [extendBoth, hfirst]
  exact hsecond

/-- Six bytes for the header, one part after the other. -/
theorem exists_extend_mbap (cap : Nat) (transactionId : UInt16) (len : Nat) (h : 6 ≤ cap) :
    ∃ o1 o2 o3 : BoundedVec UInt8 cap,
      BoundedVec.empty.extend (toBeBytes transactionId) = some o1 ∧
      o1.extend modbusProto = some o2 ∧ o2.extend (toBeBytes (UInt16.ofNat len)) = some o3 ∧
      o3.toList = mbap transactionId len := by
  have h1 : (BoundedVec.empty : BoundedVec UInt8 cap).toList.length +
      (toBeBytes transactionId).length ≤ cap := by
    show 0 + 2 ≤ cap
    omega
  obtain ⟨o1, ho1, hlist1⟩ := BoundedVec.exists_extend h1
  have h2 : o1.toList.length + modbusProto.length ≤ cap := by
    rw [hlist1]
    show 2 + 2 ≤ cap
    omega
  obtain ⟨o2, ho2, hlist2⟩ := BoundedVec.exists_extend h2
  have h3 : o2.toList.length + (toBeBytes (UInt16.ofNat len)).length ≤ cap := by
    rw [hlist2, hlist1]
    show 4 + 2 ≤ cap
    omega
  obtain ⟨o3, ho3, hlist3⟩ := BoundedVec.exists_extend h3
  refine ⟨o1, o2, o3, ho1, ho2, ho3, ?_⟩
  rw [hlist3, hlist2, hlist1]
  rfl

theorem splitAt_header (b0 b1 b2 b3 b4 b5 : UInt8) (pdu : List UInt8) :
    splitAt (b0 :: b1 :: b2 :: b3 :: b4 :: b5 :: pdu) 6 =
      some ([b0, b1, b2, b3, b4, b5], pdu) := by
  apply splitAt_of_le
  simp only [List.length_cons]
  omega

theorem convertTcpRequest_apply (g : Gateway) {input : TcpRequestPayload} {pdu : List UInt8}
    (hinput : input.toList = b0 :: b1 :: b2 :: b3 :: b4 :: b5 :: pdu) (hpdu : 1 ≤ pdu.length) :
    ∃ output : RtuRequestPayload, output.toList = pdu ++ createCrc pdu ∧
      convertTcpRequestPayloadToRtuRequestPayload input g =
        .done (.ok output) { g with counter := fromBeBytes b0 b1 } := by
  have hle := input.length_le
  rw [hinput] at hle
  simp only [List.length_cons] at hle
  have hroom : (BoundedVec.empty : RtuRequestPayload).toList.length + pdu.length +
      (createCrc pdu).length ≤ 8 := by
    rw [BoundedVec.toList_empty, List.length_nil, length_createCrc]
    omega
  obtain ⟨output, hboth, hlist⟩ := extendBoth_eq_some hroom
  have hlong : ¬ input.toList.length < 7 := by
    rw [hinput]
    simp only [List.length_cons]
    omega
  refine ⟨output, hlist, ?_⟩
  rw [convertTcpRequestPayloadToRtuRequestPayload, if_neg hlong, hinput, splitAt_header,
    ofOption_some_bind]
  show (ofOption (some b0) >>= _) g = _
  rw [ofOption_some_bind]
  show (ofOption (some b1) >>= _) g = _
  rw [ofOption_some_bind, modify_bind]
  simp only [hboth]
  rfl

theorem convertRtuReponse_apply (g : Gateway) {input : ResponsePayload}
    (h2 : 2 ≤ input.toList.length) (h508 : input.toList.length ≤ 508) :
    ∃ output : ResponsePayload,
      output.toList = mbap g.counter (input.toList.length - 2) ++
        input.toList.take (input.toList.length - 2) ∧
      convertRtuReponsePayloadToTcpResponsePayload input g = .done (.ok output) g := by
  have hlen : (input.toList.take (input.toList.length - 2)).length = input.toList.length - 2 := by
    rw [List.length_take]
    omega
  have hlong : ¬ input.toList.length < 2 := by omega
  obtain ⟨o1, o2, o3, ho1, ho2, ho3, hlist⟩ :=
    exists_extend_mbap 512 g.counter (input.toList.length - 2) (by decide)
  have hroom : o3.toList.length + (input.toList.take (input.toList.length - 2)).length ≤ 512 := by
    rw [hlist, length_mbap, hlen]
    omega
  obtain ⟨output, houtput, hlist'⟩ := BoundedVec.exists_extendFromSlice hroom
  refine ⟨output, by rw [hlist', hlist], ?_⟩
  rw [convertRtuReponsePayloadToTcpResponsePayload, gets_bind, if_neg hlong]
  simp only [hlen, ho1, ofOption_some_bind, ho2, ho3, houtput]
  rfl

/-- The next transaction id is one more, back to 0 after the last. -/
theorem incrementTransactionId_apply (g : Gateway) :
    incrementTransactionId g = .done (.ok (g.counter + 1)) { g with counter := g.counter + 1 } := by
  have hnext : (if g.counter = 0xFFFF then 0 else g.counter + 1) = g.counter + 1 := by
    by_cases h : g.counter = 0xFFFF
    · rw [if_pos h, h]
      rfl
    · rw [if_neg h]
  rw [incrementTransactionId, gets_bind]
  simp only [hnext]
  rfl

theorem convertRtuRequest_apply (g : Gateway) {input : RtuRequestPayload}
    (h4 : 4 ≤ input.toList.length) :
    ∃ output : TcpRequestPayload,
      output.toList = mbap (g.counter + 1) (input.toList.length - 2) ++
        input.toList.take (input.toList.length - 2) ∧
      convertRtuRequestPayloadToTcpRequestPayload input g =
        .done (.ok output) { g with counter := g.counter + 1 } := by
  have hle := input.length_le
  have hlen : (input.toList.take (input.toList.length - 2)).length = input.toList.length - 2 := by
    rw [List.length_take]
    omega
  have hlong : ¬ input.toList.length < 4 := by omega
  obtain ⟨o1, o2, o3, ho1, ho2, ho3, hlist⟩ :=
    exists_extend_mbap 12 (g.counter + 1) (input.toList.length - 2) (by decide)
  have hroom : o3.toList.length + (input.toList.take (input.toList.length - 2)).length ≤ 12 := by
    rw [hlist, length_mbap, hlen]
    omega
  obtain ⟨output, houtput, hlist'⟩ := BoundedVec.exists_extendFromSlice hroom
  refine ⟨output, by rw [hlist', hlist], ?_⟩
  rw [convertRtuRequestPayloadToTcpRequestPayload, if_neg hlong,
    bind_of_done (incrementTransactionId_apply g), splitAt_of_le (Nat.sub_le _ 2),
    ofOption_some_bind]
  simp only [hlen, ho1, ofOption_some_bind, ho2, ho3, houtput]
  rfl

theorem convertTcpReponse_apply_short (g : Gateway) {input : ResponsePayload}
    (h : input.toList.length < 7) :
    convertTcpReponsePayloadToRtuResponsePayload input g =
      .done (.error (.tcpRxFail input.toList.length)) g := by
  rw [convertTcpReponsePayloadToRtuResponsePayload, if_pos h]
  rfl

/-- Past the length check, the transaction id decides; the low byte of the length
field says how much of the rest is taken. -/
theorem convertTcpReponse_apply (g : Gateway) {input : ResponsePayload} {pdu : List UInt8}
    (hinput : input.toList = b0 :: b1 :: b2 :: b3 :: b4 :: b5 :: pdu) (hpdu : 1 ≤ pdu.length)
    (hlen : b5.toNat ≤ pdu.length) :
    (g.counter ≠ fromBeBytes b0 b1 ∧ convertTcpReponsePayloadToRtuResponsePayload input g =
        .done (.error .invalidTransactionId) g) ∨
      g.counter = fromBeBytes b0 b1 ∧ ∃ output : ResponsePayload,
        output.toList = pdu.take b5.toNat ++ createCrc (pdu.take b5.toNat) ∧
        convertTcpReponsePayloadToRtuResponsePayload input g = .done (.ok output) g := by
  have hlong : ¬ input.toList.length < 7 := by
    rw [hinput]
    simp only [List.length_cons]
    omega
  have hlt := b5.toNat_lt
  have hroom : (BoundedVec.empty : ResponsePayload).toList.length + (pdu.take b5.toNat).length +
      (createCrc (pdu.take b5.toNat)).length ≤ 512 := by
    rw [BoundedVec.toList_empty, List.length_nil, length_createCrc, List.length_take]
    omega
  obtain ⟨output, hboth, hlist⟩ := extendBoth_eq_some hroom
  have hfits : ¬ pdu.length < b5.toNat := Nat.not_lt.mpr hlen
  rw [convertTcpReponsePayloadToRtuResponsePayload, if_neg hlong, hinput, splitAt_header,
    ofOption_some_bind]
  by_cases hid : g.counter = fromBeBytes b0 b1
  · refine Or.inr ⟨hid, output, hlist, ?_⟩
    show (ofOption (some b0) >>= _) g = _
    rw [ofOption_some_bind]
    show (ofOption (some b1) >>= _) g = _
    rw [ofOption_some_bind, gets_bind, if_neg (not_not_intro hid)]
    show (ofOption (some b5) >>= _) g = _
    rw [ofOption_some_bind, if_neg hfits]
    simp only [hboth]
    rfl
  · refine Or.inl ⟨hid, ?_⟩
    show (ofOption (some b0) >>= _) g = _
    rw [ofOption_some_bind]
    show (ofOption (some b1) >>= _) g = _
    rw [ofOption_some_bind, gets_bind, if_pos hid]
    rfl

end Toucan.Modbus
