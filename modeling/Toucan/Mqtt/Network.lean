import Toucan.Mqtt.Accepted
import Toucan.Mqtt.Requests

/-!
# Toucan.Mqtt.Network

The client on any network (`rust-mqtt`, `client`): reads may get anything or nothing,
and reads and writes may fail.

`receivePacket` takes exactly one packet from the stream, if it returns
(`takes_receivePacket`); `poll` says what that packet shows (`ensures_poll`), and a call
of `MqttClient` that returns has sent its frame and has read the answer to it.
-/

namespace Toucan.Mqtt

open Async BuffWriter

namespace RawMqttClient

/-! ## Methods that only read -/

def ReadsOnly (_ : Trace Answer) (op : Io) (_ : RawMqttClient cap) : Prop :=
  ∀ frame, op ≠ .write frame

/-- The buffers are filled, nothing is written, and `P` holds of the bytes that were read and
what is returned. -/
def Taken (P : List UInt8 → α → RawMqttClient cap → Prop) (c : RawMqttClient cap)
    (tr : Trace Answer) (r : Except ReasonCode α) (c' : RawMqttClient cap) : Prop :=
  framesWritten tr = [] ∧ Refilled c c' ∧ ∀ a, r = .ok a → P (bytesRead tr) a c'

def Takes (P : List UInt8 → α → RawMqttClient cap → Prop) (m : ClientM cap α)
    (c : RawMqttClient cap) : Prop :=
  Ensures ReadsOnly (Taken P c) m c

section Takes

variable {P : List UInt8 → α → RawMqttClient cap → Prop} {c : RawMqttClient cap}

theorem Takes.pure {a : α} (h : P [] a c) : Takes P (pure a) c := by
  refine ⟨rfl, .refl c, ?_⟩
  rintro _ ⟨⟩
  exact h

theorem takes_fail (e : ReasonCode) : Takes P (fail e) c := by
  refine ⟨rfl, .refl c, ?_⟩
  intro _ h
  contradiction

theorem Takes.of_done {m : ClientM cap α} {a : α} {c' : RawMqttClient cap}
    (h : m c = .done (.ok a) c') (hrefilled : Refilled c c') (hP : P [] a c') : Takes P m c := by
  apply Ensures.of_done h
  refine ⟨rfl, hrefilled, ?_⟩
  rintro _ ⟨⟩
  exact hP

theorem takes_unfinished : Takes P unfinished c := by
  constructor
  · intro frame h
    contradiction
  · intro never
    nomatch never

theorem Takes.mono {Q : List UInt8 → α → RawMqttClient cap → Prop} {m : ClientM cap α}
    (h : Takes P m c) (hPQ : ∀ bytes a c', P bytes a c' → Q bytes a c') : Takes Q m c :=
  Ensures.mono h (fun _ _ _ h => h) fun _ _ _ ⟨hwritten, hrefilled, hP⟩ =>
    ⟨hwritten, hrefilled, fun a ha => hPQ _ a _ (hP a ha)⟩

/-- What is taken by the first link and by the rest of a chain. -/
theorem Takes.bind {Q : List UInt8 → β → RawMqttClient cap → Prop} {m : ClientM cap α}
    {k : α → ClientM cap β} (hm : Takes P m c)
    (hk : ∀ bytes a c', Refilled c c' → P bytes a c' →
      Takes (fun bytes' => Q (bytes ++ bytes')) (k a) c') : Takes Q (m >>= k) c := by
  apply Ensures.bind hm
  · rintro tr a c' ⟨hwritten, hrefilled, hP⟩
    apply Ensures.mono (hk _ a c' hrefilled (hP a rfl)) fun _ _ _ h => h
    rintro tr' r c'' ⟨hwritten', hrefilled', hQ⟩
    refine ⟨by simp [hwritten, hwritten'], hrefilled.trans hrefilled', ?_⟩
    intro b hb
    rw [bytesRead_append]
    exact hQ b hb
  · rintro tr e c' ⟨hwritten, hrefilled, -⟩
    refine ⟨hwritten, hrefilled, ?_⟩
    intro _ h
    contradiction

end Takes

/-! ## One packet -/

section Receive

variable {c : RawMqttClient cap} {writer : BuffWriter} {xs : List UInt8}

theorem takes_receiveAt (hold : Holds c writer xs) (n : Nat) :
    Takes (fun bytes len c' => len = bytes.length ∧ len ≤ n ∧ Holds c' writer xs ∧
      (c'.recvBuffer.drop xs.length).take bytes.length = bytes)
      (receiveAt writer.position n) c := by
  rw [hold.position, receiveAt]
  by_cases hroom : xs.length + n > c.recvBuffer.length
  · rw [Takes, ensures_gets_bind, if_pos hroom]
    trivial
  · rw [Takes, ensures_gets_bind, if_neg hroom]
    constructor
    · intro frame h
      contradiction
    · rintro (⟨⟩ | got)
      · refine ⟨rfl, .refl c, ?_⟩
        intro _ h
        contradiction
      · have hlen := got.length_le
        obtain ⟨hrefilled, hold', hslice⟩ := @placed_spec _ _ _ _ hold got.toList (by omega)
        refine ⟨rfl, hrefilled, ?_⟩
        rintro _ ⟨⟩
        rw [List.nil_append, bytesRead_read]
        exact ⟨rfl, hlen, hold', hslice⟩

theorem takes_insertReceived (hold : Holds c writer xs) {ys : List UInt8} {stop : Nat}
    (hys : (c.recvBuffer.drop xs.length).take ys.length = ys)
    (hle : xs.length + ys.length ≤ stop) :
    Takes (fun bytes writer' c' => bytes = [] ∧ Holds c' writer' (xs ++ ys))
      (insertReceived writer ys.length writer.position stop) c := by
  by_cases hstop : stop ≤ c.recvBuffer.length
  · obtain ⟨c', writer', hdone, hrefilled, hold'⟩ := insertReceived_eq hold hys hle hstop
    exact Takes.of_done hdone hrefilled ⟨rfl, hold'⟩
  · exact Ensures.of_panicked (insertReceived_panic (by omega))

/-- Bytes of the first loop that are not all of it. -/
structure Partial (xs : List UInt8) : Prop where
  length_le : xs.length ≤ 4
  top : ∀ b ∈ xs.tail, ¬ b < 128

/-- With one byte more the length is complete, or there is no end of it yet. -/
theorem lengthFound_of_partial {b : UInt8} (turns : Nat) (hxs : Partial xs)
    (hold : Holds c writer (xs ++ [b])) :
    (∃ header code, xs ++ [b] = header :: code ∧ IsLengthField code ∧
      lengthFound turns writer (xs ++ [b]).length =
        (return (writer, 1 + code.length, .ofBytes code) :
          ClientM cap (BuffWriter × Nat × VariableByteInteger))) ∨
    Partial (xs ++ [b]) ∧ lengthFound turns writer (xs ++ [b]).length =
      (receiveHeader turns writer (xs ++ [b]).length :
        ClientM cap (BuffWriter × Nat × VariableByteInteger)) := by
  have htodo : ∀ (header : UInt8) {code : List UInt8} (last : UInt8), IsLengthField code →
      xs ++ [b] ++ [last] = header :: code →
      lengthFound turns writer (xs ++ [b]).length =
        (receiveHeader turns writer (xs ++ [b]).length :
          ClientM cap (BuffWriter × Nat × VariableByteInteger)) := by
    intro header code last hcode hbytes
    rw [lengthFound_of_holds turns hcode hbytes (by simp) hold, if_neg (List.cons_ne_nil _ _)]
  have hlast : (0 : UInt8) < 128 := by decide
  have hle := hxs.length_le
  cases xs with
  | nil =>
      -- the first byte
      right
      have hcode : IsLengthField [0] :=
        ⟨[], 0, rfl, fun _ h => absurd h List.not_mem_nil, Nat.zero_le 3, .inl hlast⟩
      exact ⟨⟨by simp, fun _ h => absurd h List.not_mem_nil⟩,
        htodo b 0 hcode rfl⟩
  | cons header front =>
      rw [List.length_cons] at hle
      have htop : ∀ a ∈ front, ¬ a < 128 := hxs.top
      by_cases hstop : b < 128 ∨ front.length = 3
      · left
        have hcode : IsLengthField (front ++ [b]) := ⟨front, b, rfl, htop, by omega, hstop⟩
        refine ⟨header, front ++ [b], rfl, hcode, ?_⟩
        have hfound := lengthFound_of_holds turns hcode (List.append_nil (header :: front ++ [b]))
          (by simp) hold
        rwa [if_pos rfl] at hfound
      · right
        obtain ⟨hb, hthree⟩ := not_or.mp hstop
        have htop' : ∀ a ∈ front ++ [b], ¬ a < 128 := by
          intro a ha
          rcases List.mem_append.mp ha with ha | ha
          · exact htop a ha
          · rw [List.mem_singleton.mp ha]
            exact hb
        have hcode : IsLengthField (front ++ [b] ++ [0]) := by
          refine ⟨front ++ [b], 0, rfl, htop', ?_, .inl hlast⟩
          rw [List.length_append, List.length_singleton]
          omega
        refine ⟨⟨?_, htop'⟩, htodo header 0 hcode rfl⟩
        rw [List.length_append, List.length_cons, List.length_singleton]
        omega

/-- The first loop. -/
theorem takes_receiveHeader (turns : Nat) (hold : Holds c writer xs) (hxs : Partial xs) :
    Takes (fun bytes r c' => ∃ header code, xs ++ bytes = header :: code ∧ IsLengthField code ∧
      r.2.1 = (header :: code).length ∧ r.2.2 = .ofBytes code ∧ Holds c' r.1 (header :: code))
      (receiveHeader turns writer xs.length) c := by
  induction turns generalizing c writer xs with
  | zero => exact takes_unfinished
  | succ turns ih =>
      rw [receiveHeader]
      apply (takes_receiveAt hold 1).bind
      rintro bytes len c₁ - ⟨rfl, hlen, hold₁, hslice⟩
      by_cases hnone : bytes.length = 0
      · rw [if_pos hnone]
        exact takes_fail _
      · rw [if_neg hnone]
        obtain ⟨b, rfl⟩ : ∃ b, bytes = [b] := List.length_eq_one_iff.mp (by omega)
        apply (takes_insertReceived hold₁ hslice (Nat.le_refl _)).bind
        rintro _ writer₂ c₂ - ⟨rfl, hold₂⟩
        have hcount : xs.length + 1 = (xs ++ [b]).length := by simp
        show Takes _ (lengthFound turns writer₂ (xs.length + 1)) c₂
        rw [hcount]
        rcases lengthFound_of_partial turns hxs hold₂ with ⟨header, code, hbytes, hcode, hfound⟩ |
          ⟨hbefore, hfound⟩
        · rw [hfound]
          apply Takes.pure
          refine ⟨header, code, by rw [← hbytes]; simp, hcode, Nat.add_comm _ _, rfl, ?_⟩
          rw [← hbytes]
          exact hold₂
        · rw [hfound]
          apply (ih hold₂ hbefore).mono
          rintro bytes r c' ⟨header, code, hbytes, hrest⟩
          exact ⟨header, code, by rw [← hbytes]; simp, hrest⟩

/-- The second loop is left when the body is complete. -/
theorem takes_bodyDone {head done : List UInt8} {targetLen : Nat}
    (hold : Holds c writer (head ++ done)) (hend : writer.position = targetLen + head.length) :
    Takes (fun bytes len c' => (done ++ bytes).length = targetLen ∧
      len = (head ++ (done ++ bytes)).length ∧
      c'.buffer.take (head ++ (done ++ bytes)).length = head ++ (done ++ bytes))
      (return targetLen + head.length) c := by
  have hposition := hold.position
  rw [List.length_append] at hposition
  apply Takes.pure
  rw [List.append_nil]
  refine ⟨by omega, ?_, hold.take⟩
  rw [List.length_append]
  omega

/-- The second loop. -/
theorem takes_receiveBody (turns : Nat) {head done : List UInt8} {targetLen : Nat}
    (hold : Holds c writer (head ++ done)) (hle : done.length ≤ targetLen) :
    Takes (fun bytes len c' => (done ++ bytes).length = targetLen ∧
      len = (head ++ (done ++ bytes)).length ∧
      c'.buffer.take (head ++ (done ++ bytes)).length = head ++ (done ++ bytes))
      (receiveBody targetLen head.length turns writer done.length) c := by
  induction turns generalizing c writer done with
  | zero =>
      rw [receiveBody.eq_def]
      by_cases hend : writer.position = targetLen + head.length
      · simp only [if_pos hend]
        exact takes_bodyDone hold hend
      · simp only [if_neg hend]
        exact takes_unfinished
  | succ turns ih =>
      rw [receiveBody.eq_def]
      by_cases hend : writer.position = targetLen + head.length
      · simp only [if_pos hend]
        exact takes_bodyDone hold hend
      · simp only [if_neg hend]
        apply (takes_receiveAt hold _).bind
        rintro bytes len c₁ - ⟨rfl, hlen, hold₁, hslice⟩
        have hposition : writer.position = head.length + done.length := by
          rw [hold.position, List.length_append]
        apply (takes_insertReceived hold₁ hslice (by
          rw [hposition, List.length_append]
          omega)).bind
        rintro _ writer₂ c₂ - ⟨rfl, hold₂⟩
        rw [List.append_assoc] at hold₂
        have hcount : done.length + bytes.length = (done ++ bytes).length := List.length_append.symm
        rw [hcount]
        apply (ih hold₂ (by rw [← hcount]; omega)).mono
        rintro bytes' len c' ⟨htarget, hlen', hbuf⟩
        rw [List.append_assoc] at htarget hlen' hbuf
        exact ⟨htarget, hlen', hbuf⟩

/-- **One packet**: what is taken from the stream is a packet, and it is in the buffer. -/
theorem takes_receivePacket (hc : Sized c) (turns : Nat) :
    Takes (fun bytes len c' => ∃ p : WirePacket, bytes = p.bytes ∧ len = p.bytes.length ∧
      c'.buffer.take p.bytes.length = p.bytes) (receivePacket turns) c := by
  have hnone : Partial [] := ⟨Nat.zero_le _, fun _ h => absurd h List.not_mem_nil⟩
  rw [receivePacket, Takes, ensures_gets_bind, ensures_gets_bind]
  apply (takes_receiveHeader 5 (holds_new hc) hnone).bind
  rintro bytes ⟨writer, headLen, remLen⟩ c₁ - ⟨header, code, hbytes, hcode, hlen, hrem, hold⟩
  dsimp only at hlen hrem hold ⊢
  rw [List.nil_append] at hbytes
  rw [hlen, hrem, hbytes]
  obtain ⟨front, last, rfl, htop, hshort, hstop⟩ := hcode
  by_cases hlast : last < 128
  · have hsplit (rest : List UInt8) :
        VarInt.split 4 (front ++ [last] ++ rest) = some (front ++ [last], rest) := by
      rw [List.append_assoc]
      exact VarInt.split_of_last htop hlast (by omega)
    have hlimit := VarInt.value_lt_of_split (hsplit [])
    rw [limit_four] at hlimit
    rw [decode_ofBytes (hsplit [])]
    show Takes _
      (receiveBody (UInt32.ofNat (VarInt.value (front ++ [last]))).toNat _ turns writer 0) c₁
    rw [toNat_ofNat_of_le (by omega)]
    rw [← List.append_nil (header :: (front ++ [last]))] at hold
    apply (takes_receiveBody turns hold (Nat.zero_le _)).mono
    rintro body len c' ⟨htarget, hlen', hbuf⟩
    refine ⟨⟨header, front ++ [last], body, hsplit body, htarget.symm⟩, rfl, hlen', hbuf⟩
  · -- four bytes with the top bit
    have hfour : (front ++ [last]).length = 4 := by
      rw [List.length_append, List.length_singleton, hstop.resolve_left hlast]
    have htop' : ∀ b ∈ front ++ [last], ¬ b < 128 := by
      intro b hb
      rcases List.mem_append.mp hb with hb | hb
      · exact htop b hb
      · rw [List.mem_singleton.mp hb]
        exact hlast
    rw [decode_topBits hfour htop']
    exact Ensures.bind_of_panicked rfl

end Receive

/-! ## The next packet -/

section Poll

variable {c : RawMqttClient cap}

/-- What a call of `poll` leaves: an event is shown by the packet that was read, and only a
PUBLISH is acknowledged. -/
structure Polled (c : RawMqttClient cap) (tr : Trace Answer) (r : Except ReasonCode Event)
    (c' : RawMqttClient cap) : Prop where
  refilled : Refilled c c'
  shows : ∀ e, r = .ok e → ∃ p : WirePacket, bytesRead tr = p.bytes ∧ p.Shows e
  written : framesWritten tr = [] ∨ ∃ (p : WirePacket) (identifier : UInt16),
    bytesRead tr = p.bytes ∧ PacketType.ofU8 p.header = .publish ∧
    framesWritten tr = [pubackBytes identifier]

theorem ensures_poll (hc : Ready c) (maxTopics turns : Nat) :
    Ensures PubackOnly (Polled c) (poll maxTopics turns) c := by
  rw [poll, ensures_gets_bind, if_pos hc.connection]
  apply Ensures.bind (P := Taken (fun bytes len c' => ∃ p : WirePacket, bytes = p.bytes ∧
    len = p.bytes.length ∧ c'.buffer.take p.bytes.length = p.bytes) c)
  · apply Ensures.mono (takes_receivePacket hc.sized turns) _ fun _ _ _ h => h
    intro tr op s hop frame hframe
    exact absurd hframe (hop frame)
  · rintro tr len c₁ ⟨hwritten, hrefilled, hpacket⟩
    obtain ⟨p, hread, rfl, hbuf⟩ := hpacket len rfl
    have hready := hc.of_refilled hrefilled
    have hpeek : (BuffReader.new c₁.buffer p.bytes.length).peekU8 = .ok p.header :=
      peekU8_of_take hbuf
    rw [dispatch, ensures_gets_bind, hpeek]
    apply Ensures.mono (ensures_eventOf hready.recvBufferLen hready.room hbuf maxTopics)
    · intro tr' op s hop frame hframe
      rw [framesWritten_append, hwritten]
      exact hop frame hframe
    · intro tr' r c₂ hr
      refine ⟨hrefilled.trans hr.refilled, ?_, ?_⟩
      · intro e he
        exact ⟨p, by simp [hread, hr.read], hr.shows e he⟩
      · rw [framesWritten_append, bytesRead_append, hwritten, hr.read, List.nil_append,
          List.append_nil]
        apply hr.written.imp_right
        rintro ⟨htype, identifier, hframe⟩
        exact ⟨p, identifier, hread, htype, hframe⟩
  · rintro tr e c₁ ⟨hwritten, hrefilled, -⟩
    refine ⟨hrefilled, ?_, .inl hwritten⟩
    intro _ h
    contradiction

end Poll

end RawMqttClient

/-! ## Calls -/

namespace MqttClient

open RawMqttClient

section Call

variable {c after : RawMqttClient cap}

/-- A PUBLISH only shows a message. -/
theorem exists_message {p : WirePacket} {e : Event} (h : p.Shows e)
    (htype : PacketType.ofU8 p.header = .publish) :
    ∃ topic payload, e = .message topic payload := by
  cases e with
  | message topic payload => exact ⟨topic, payload, rfl⟩
  | disconnect reason =>
      rw [WirePacket.Shows, htype] at h
      contradiction
  | connack | puback | suback | unsuback | pingresp =>
      have hother := h.1
      rw [htype] at hother
      contradiction

/-- What is left of a call once its request is sent: it returns on a packet that shows an event
which is accepted. -/
structure Answered (accept : Event → Except ReasonCode α) (c : RawMqttClient cap)
    (tr : Trace Answer) (r : Except ReasonCode α) (c' : RawMqttClient cap) : Prop where
  refilled : Refilled c c'
  shows : ∀ a, r = .ok a → ∃ (p : WirePacket) (e : Event),
    bytesRead tr = p.bytes ∧ p.Shows e ∧ accept e = .ok a
  written : framesWritten tr = [] ∨ ∃ identifier, framesWritten tr = [pubackBytes identifier]
  quiet : ∀ a, r = .ok a → framesWritten tr = [] ∨
    ∃ topic payload, accept (.message topic payload) = .ok a

theorem ensures_answered (hc : Ready c) (maxTopics turns : Nat)
    (accept : Event → Except ReasonCode α) :
    Ensures PubackOnly (Answered accept c) (answered maxTopics turns accept) c := by
  rw [answered]
  apply (ensures_poll hc maxTopics turns).bind
  · intro tr e c₁ h
    have hwritten : framesWritten tr = [] ∨
        ∃ identifier, framesWritten tr = [pubackBytes identifier] :=
      h.written.imp_right fun ⟨_, identifier, _, _, hframe⟩ => ⟨identifier, hframe⟩
    have hfail : ∀ reason, Answered accept c (tr ++ []) (.error reason) c₁ := by
      intro reason
      rw [List.append_nil]
      refine ⟨h.refilled, ?_, hwritten, ?_⟩ <;>
      · intro a ha
        contradiction
    have haccept : Answered accept c (tr ++ []) (accept e) c₁ := by
      obtain ⟨p, hread, hshows⟩ := h.shows e rfl
      rw [List.append_nil]
      refine ⟨h.refilled, fun a ha => ⟨p, e, hread, hshows, ha⟩, hwritten, fun a ha => ?_⟩
      apply h.written.imp_right
      rintro ⟨p', identifier, hread', htype, -⟩
      have hheader : p.header = p'.header := by
        rw [hread, WirePacket.bytes, WirePacket.bytes, List.cons.injEq] at hread'
        exact hread'.1
      rw [← hheader] at htype
      obtain ⟨topic, payload, rfl⟩ := exists_message hshows htype
      exact ⟨topic, payload, ha⟩
    cases e with
    | disconnect reason => exact hfail reason
    | connack | puback | suback | unsuback | pingresp | message => exact ensures_ofExcept haccept
  · intro tr e c₁ h
    refine ⟨h.refilled, ?_, ?_, ?_⟩
    · intro a ha
      contradiction
    · exact h.written.imp_right fun ⟨_, identifier, _, _, hframe⟩ => ⟨identifier, hframe⟩
    · intro a ha
      contradiction

/-- The frame of a request is written first, and only a PUBACK after it. -/
def RequestFirst (bytes : List UInt8) (tr : Trace Answer) (op : Io) (_ : RawMqttClient cap) : Prop :=
  ∀ frame, op = .write frame → tr = [] ∧ frame = bytes ∨
    framesWritten tr = [bytes] ∧ ∃ identifier, frame = pubackBytes identifier

/-- What a call leaves, whose frame is `bytes`: where it returns, the frame has been written, and
a packet read that shows an event which is accepted. -/
structure Called (bytes : List UInt8) (accept : Event → Except ReasonCode α)
    (after : RawMqttClient cap) (tr : Trace Answer) (r : Except ReasonCode α)
    (c' : RawMqttClient cap) : Prop where
  refilled : Refilled after c'
  shows : ∀ a, r = .ok a → framesWritten tr = [bytes] ∧ ∃ (p : WirePacket) (e : Event),
    bytesRead tr = p.bytes ∧ p.Shows e ∧ accept e = .ok a
  written : framesWritten tr = [bytes] ∨
    ∃ identifier, framesWritten tr = [bytes, pubackBytes identifier]

/-- A request on any network: its frame is written, and nothing else. -/
theorem ensures_request {m : ClientM cap α} {a : α} {bytes : List UInt8}
    (h : SendsFrame m a c after bytes) (hroom : bytes.length ≤ c.bufferLen) :
    Ensures (fun tr op _ => ∀ frame, op = .write frame → tr = [] ∧ frame = bytes)
      (fun tr r c' => Refilled after c' ∧
        (∃ answer, tr = [⟨.write bytes, answer⟩]) ∧ ∀ b, r = .ok b → b = a) m c := by
  obtain ⟨c₁, c₂, k, hm, hrefilled, hok, r, herror, hr⟩ := h.sent hroom
  rw [Ensures, Meets, hm]
  constructor
  · rintro _ ⟨⟩
    exact ⟨rfl, rfl⟩
  · rintro (⟨⟩ | n)
    · rw [herror]
      exact ⟨hrefilled, ⟨_, rfl⟩, hr⟩
    · rw [hok]
      refine ⟨hrefilled, ⟨_, rfl⟩, ?_⟩
      rintro _ ⟨⟩
      rfl

/-- **A call on any network**, whose frame has room in the buffer. -/
theorem ensures_call {m : ClientM cap α} {a : α} {bytes : List UInt8}
    (h : SendsFrame m a c after bytes) (hroom : bytes.length ≤ c.bufferLen) (hafter : Ready after)
    {accept : α → Event → Except ReasonCode β}
    (hmessage : ∀ topic payload b, accept a (.message topic payload) ≠ .ok b)
    (maxTopics turns : Nat) :
    Ensures (RequestFirst bytes) (Called bytes (accept a) after)
      (do answered maxTopics turns (accept (← m))) c := by
  have hrequest := (ensures_request h hroom).mono (J := RequestFirst bytes)
    (fun _ _ _ hop frame hframe => .inl (hop frame hframe)) fun _ _ _ h => h
  apply hrequest.bind
  · rintro tr b c₂ ⟨hrefilled, ⟨answer, rfl⟩, hb⟩
    rw [hb b rfl]
    apply Ensures.mono (ensures_answered (hafter.of_refilled hrefilled) maxTopics turns (accept a))
    · intro tr op s hop frame hframe
      obtain ⟨hnone, hpuback⟩ := hop frame hframe
      refine .inr ⟨?_, hpuback⟩
      rw [framesWritten_append, framesWritten_write, hnone, List.append_nil]
    · intro tr res c' hres
      refine ⟨hrefilled.trans hres.refilled, ?_, ?_⟩
      · intro b hb
        rw [framesWritten_append, framesWritten_write, bytesRead_append, bytesRead_write,
          List.nil_append]
        refine ⟨?_, hres.shows b hb⟩
        rcases hres.quiet b hb with hnone | ⟨topic, payload, haccept⟩
        · rw [hnone, List.append_nil]
        · exact absurd haccept (hmessage topic payload b)
      · rw [framesWritten_append, framesWritten_write]
        rcases hres.written with hnone | ⟨identifier, hpuback⟩
        · exact .inl (by rw [hnone, List.append_nil])
        · exact .inr ⟨identifier, by rw [hpuback, List.singleton_append]⟩
  · rintro tr e c₂ ⟨hrefilled, ⟨answer, rfl⟩, -⟩
    refine ⟨hrefilled, ?_, .inl rfl⟩
    intro _ h
    contradiction

end Call

end MqttClient

end Toucan.Mqtt
