import Toucan.Modbus.BridgeFlow
import Toucan.Modbus.Receive
import Toucan.Modbus.ServerStream

/-!
# Toucan.Modbus.RoundTrip

The two modes back to back: what client mode makes of an RTU request, bridge mode
turns back into the request, and the other way round for the response.

The way there and back is the identity for every request (`roundTrips_request`).
For responses it is the identity as long as the low byte of the length field is
the whole length (`roundTrips_iff`).
-/

namespace Toucan.Modbus

open Async

/-! ## Requests -/

/-- The client makes an ADU of the request under its new counter, and the bridge
makes the request of the ADU and takes the counter. -/
def RequestRoundTrips (client bridge : Gateway) (request : RtuRequestPayload) : Prop :=
  ∃ adu client' bridge' body,
    convertRtuRequestPayloadToTcpRequestPayload request client = .done (.ok adu) client' ∧
    IsAdu client'.counter body adu.toList ∧
    convertTcpRequestPayloadToRtuRequestPayload adu bridge = .done (.ok request) bridge' ∧
    bridge'.counter = client'.counter

/-- **Requests there and back**: every request that passes the CRC check. -/
theorem roundTrips_request {request : RtuRequestPayload} (hcrc : crcCheck request.toList = .ok ())
    (client bridge : Gateway) : RequestRoundTrips client bridge request := by
  obtain ⟨hfour, hrequest⟩ := crcCheck_eq_ok hcrc
  obtain ⟨adu, hadu, hthere⟩ := convertRtuRequest_apply client hfour
  have hle := request.length_le
  have hlen : (request.toList.take (request.toList.length - 2)).length =
      request.toList.length - 2 := by
    rw [List.length_take]
    omega
  have hbody : 1 ≤ (request.toList.take (request.toList.length - 2)).length := by omega
  have hcounter := fromBeBytes_toBeBytes (client.counter + 1)
  obtain ⟨output, houtput, hback⟩ := convertTcpRequest_apply bridge hadu hbody
  have hsame : output = request := BoundedVec.ext (houtput.trans hrequest.symm)
  rw [hsame, hcounter] at hback
  refine ⟨adu, _, _, request.toList.take (request.toList.length - 2), hthere, ?_, hback, rfl⟩
  exact isAdu_mbap hlen (by omega) hadu

/-- Reading one register: six bytes and the CRC. -/
def readRegister : RtuRequestPayload :=
  ⟨[1, 3, 0, 16, 0, 1] ++ createCrc [1, 3, 0, 16, 0, 1], by
    rw [List.length_append, length_createCrc]
    decide⟩

theorem roundTrips_readRegister :
    RequestRoundTrips { Gateway.initial with counter := 0xFFFF } Gateway.initial readRegister :=
  roundTrips_request (crcCheck_append_createCrc (by decide)) _ _

/-! ## Responses -/

/-- The bridge makes an ADU of the frame, the client receives it whole and makes a
frame of it: the same one. -/
def ResponseRoundTrips (bridge client : Gateway) (response : ResponsePayload) : Prop :=
  ∃ adu n client' w,
    convertRtuReponsePayloadToTcpResponsePayload response bridge = .done (.ok adu) bridge ∧
    Client.receive.runOn (Client.wire fun _ => 512) client ⟨adu.toList, 0⟩ =
      (.returned (.ok n) client', w) ∧
    convertTcpReponsePayloadToRtuResponsePayload client'.tcpResponse client' =
      .done (.ok response) client'

/-- What comes back: as much of the body as the low byte of its length says, with
a CRC of its own. -/
theorem response_apply {bridge client : Gateway} {response : ResponsePayload}
    (hcrc : crcCheck response.toList = .ok ()) (hle : response.toList.length ≤ 258)
    (hid : client.counter = bridge.counter) :
    ∃ adu n client' w output,
      convertRtuReponsePayloadToTcpResponsePayload response bridge = .done (.ok adu) bridge ∧
      Client.receive.runOn (Client.wire fun _ => 512) client ⟨adu.toList, 0⟩ =
        (.returned (.ok n) client', w) ∧
      convertTcpReponsePayloadToRtuResponsePayload client'.tcpResponse client' =
        .done (.ok output) client' ∧
      output.toList = (response.toList.take (response.toList.length - 2)).take
          ((response.toList.length - 2) % 256) ++
        createCrc ((response.toList.take (response.toList.length - 2)).take
          ((response.toList.length - 2) % 256)) := by
  obtain ⟨hfour, _⟩ := crcCheck_eq_ok hcrc
  have htwo : 2 ≤ response.toList.length := by omega
  have hfits : response.toList.length ≤ 508 := by omega
  obtain ⟨adu, hadu, hthere⟩ := convertRtuReponse_apply bridge htwo hfits
  generalize hb : response.toList.take (response.toList.length - 2) = body at hadu ⊢
  have hlen : body.length = response.toList.length - 2 := by
    rw [← hb, List.length_take]
    omega
  rw [← hlen] at hadu ⊢
  let a : Client.ResponseAdu := ⟨bridge.counter, 0, body, by omega⟩
  have hproto : modbusProto = toBeBytes 0 := by decide
  have hbytes : adu.toList = a.bytes := by
    rw [hadu, mbap, hproto]
    rfl
  obtain ⟨n, hn, hends⟩ := Client.receive_adu (fun _ => 512) client a [] 0
  have hsize : Client.size (fun _ => 512) 0 6 = 6 := rfl
  rw [hsize] at hn hends
  have hwhole : n = body.length := hn.whole rfl
  rw [List.append_nil, ← hbytes] at hends
  generalize hr : Client.receive.runOn _ client _ = r at hends
  cases hends with
  | gaveUp hlong client' => omega
  | returned _ client' hagrees hresponse =>
      have hinput : client'.tcpResponse.toList =
          UInt8.ofNat (bridge.counter.toNat / 256) :: UInt8.ofNat bridge.counter.toNat :: 0 :: 0 ::
            UInt8.ofNat ((UInt16.ofNat body.length).toNat / 256) ::
            UInt8.ofNat (UInt16.ofNat body.length).toNat :: body := by
        rw [hresponse rfl, ← hbytes, hadu]
        rfl
      have hlow : (UInt8.ofNat (UInt16.ofNat body.length).toNat).toNat = body.length % 256 := by
        rw [UInt8.toNat_ofNat', UInt16.toNat_ofNat']
        omega
      have hsame : client'.counter = fromBeBytes (UInt8.ofNat (bridge.counter.toNat / 256))
          (UInt8.ofNat bridge.counter.toNat) := by
        rw [fromBeBytes_toBeBytes, hagrees.counter, hid]
      have hlowle : (UInt8.ofNat (UInt16.ofNat body.length).toNat).toNat ≤ body.length := by
        rw [hlow]
        exact Nat.mod_le _ _
      have hback := convertTcpReponse_apply client' hinput (by omega) hlowle
      rw [hlow] at hback
      rcases hback with ⟨hother, _⟩ | ⟨_, output, houtput, hback⟩
      · exact absurd hsame hother
      · exact ⟨adu, _, client', _, output, hthere, hr, hback, houtput⟩

/-- The frame comes back unless its body has 256 bytes, of which the low byte says
none. -/
theorem roundTrips_iff_of_crcCheck {bridge client : Gateway} {response : ResponsePayload}
    (hcrc : crcCheck response.toList = .ok ()) (hle : response.toList.length ≤ 258)
    (hid : client.counter = bridge.counter) :
    ResponseRoundTrips bridge client response ↔ response.toList.length < 258 := by
  obtain ⟨adu, n, client', w, output, hthere, hreceive, hback, houtput⟩ :=
    response_apply hcrc hle hid
  obtain ⟨hfour, hresponse⟩ := crcCheck_eq_ok hcrc
  have hsame : ResponseRoundTrips bridge client response ↔ output = response := by
    constructor
    · rintro ⟨adu', n', client'', w', hthere', hreceive', hback'⟩
      rw [hthere] at hthere'
      injection hthere' with hadu
      rw [← Except.ok.inj hadu, hreceive] at hreceive'
      injection hreceive' with hreturned
      injection hreturned with _ hclient
      rw [← hclient, hback] at hback'
      injection hback' with houtput
      exact Except.ok.inj houtput
    · intro h
      rw [h] at hback
      exact ⟨adu, n, client', w, hthere, hreceive, hback⟩
  rw [hsame]
  constructor
  · intro h
    have hlen := congrArg List.length houtput
    rw [h, List.length_append, length_createCrc, List.length_take, List.length_take] at hlen
    omega
  · intro hlt
    have hlow : (response.toList.length - 2) % 256 = response.toList.length - 2 := by omega
    have hall : (response.toList.take (response.toList.length - 2)).take
        (response.toList.length - 2) = response.toList.take (response.toList.length - 2) := by
      rw [List.take_take, Nat.min_self]
    rw [hlow, hall, ← hresponse] at houtput
    exact BoundedVec.ext houtput

/-- What `receive` accepts, whatever the serial line does: at most 258 bytes that
pass the CRC check. -/
theorem crcCheck_of_receive {h : Handler ω Ans} {g g' : Gateway} {w w' : ω}
    (hrun : (receive overflowChecks).runOn h g w = (.returned (.ok ()) g', w')) :
    crcCheck g'.rtuResponse.toList = .ok () ∧ g'.rtuResponse.toList.length ≤ 258 := by
  let Q (_ : Trace Ans) (o : Outcome Gateway (Except ModbusError Unit)) : Prop :=
    ∀ g', o = .returned (.ok ()) g' →
      crcCheck g'.rtuResponse.toList = .ok () ∧ g'.rtuResponse.toList.length ≤ 258
  have hmeets : Meets (fun _ _ _ => True) Q (receive overflowChecks) [] g := by
    refine meets_receive (fun _ _ => trivial) (fun _ _ _ h => nomatch h) (fun _ _ _ _ _ h => nomatch h)
      (fun _ _ _ _ => trivial) (fun _ _ _ _ _ _ h => nomatch h) ?_
    intro header bytes g1 _ hpl hframe g2 h2
    injection h2 with hcrc hg
    have hlen := length_frame header bytes
    have hpll : bytes.length ≤ 255 := payloadLength_le hpl
    rw [← hg, hframe]
    exact ⟨hcrc, by omega⟩
  obtain ⟨_, hq⟩ := hmeets.of_returned hrun
  exact hq g' rfl

/-- **Responses there and back**: of the frames that the bridge accepts, those of
less than 258 bytes. -/
theorem roundTrips_iff {h : Handler ω Ans} {g bridge client : Gateway} {w w' : ω}
    (hrun : (receive overflowChecks).runOn h g w = (.returned (.ok ()) bridge, w'))
    (hid : client.counter = bridge.counter) :
    ResponseRoundTrips bridge client bridge.rtuResponse ↔
      bridge.rtuResponse.toList.length < 258 := by
  obtain ⟨hcrc, hle⟩ := crcCheck_of_receive hrun
  exact roundTrips_iff_of_crcCheck hcrc hle hid

/-! ### The longest response to a read -/

/-- The answer to a read of one register. -/
def oneRegister : RtuResponse := .read 1 3 (by decide) [0, 42] (by decide)

/-- It comes back as it is. -/
theorem roundTrips_oneRegister :
    ∃ bridge, (receive false).runOn line Gateway.initial (oneRegister.bytes ++ []) =
        (.returned (.ok ()) bridge, []) ∧
      ResponseRoundTrips bridge bridge bridge.rtuResponse := by
  have hguess : oneRegister.guessedRight := by
    show [(0 : UInt8), 42].length ≤ 253
    decide
  obtain ⟨bridge, hrun, hlist⟩ :=
    receivesExactly_of_guessedRight false Gateway.initial oneRegister [] hguess
  refine ⟨bridge, hrun, (roundTrips_iff hrun rfl).mpr ?_⟩
  rw [hlist]
  decide

/-- A read response with as many bytes of data as `receive` can guess. -/
def longest : RtuResponse :=
  .read 1 3 (by decide) (List.replicate 253 0) (by rw [List.length_replicate]; decide)

/-- All of its body is lost, and what comes back is the CRC of nothing. -/
theorem not_roundTrips :
    ¬ ∀ (g bridge client : Gateway) (w w' : List UInt8),
      (receive false).runOn line g w = (.returned (.ok ()) bridge, w') →
      client.counter = bridge.counter → ResponseRoundTrips bridge client bridge.rtuResponse := by
  intro h
  have hdata : (List.replicate 253 (0 : UInt8)).length = 253 := List.length_replicate
  have hguess : longest.guessedRight := Nat.le_of_eq hdata
  obtain ⟨bridge, hrun, hlist⟩ :=
    receivesExactly_of_guessedRight false Gateway.initial longest [] hguess
  have hlen : bridge.rtuResponse.toList.length = 258 := by
    rw [hlist, RtuResponse.bytes, List.length_append, length_createCrc, longest,
      RtuResponse.payload, List.length_cons, List.length_cons, List.length_cons, hdata]
  have htrips := h Gateway.initial bridge bridge _ _ hrun rfl
  obtain ⟨hcrc, hle⟩ := crcCheck_of_receive hrun
  have hlt := (roundTrips_iff_of_crcCheck hcrc hle rfl).mp htrips
  omega

end Toucan.Modbus
