import Toucan.Mqtt.Poll

/-!
# Toucan.Mqtt.Accepted

What a packet has to be for the client to take it for an answer (`rust-mqtt`,
`packet/v5` and `client/raw_client.rs`), whatever bytes the broker sends: a CONNACK with
reason code 0, a PUBACK with this identifier, a PINGRESP without a body.

`Shows p e` says what must be in the packet `p` for the event `e`, and
`eventOf_shows` that there is no such event without it.
-/

namespace Toucan.Mqtt

open Async BuffWriter BuffReader

/-! ## Reading -/

namespace BuffReader

theorem yields_readU8 : tape.Yields readU8 fun xs b => xs = [b] := by
  intro r b r' hr h
  cases hs : tape.ahead r with
  | nil =>
      have hlen := length_ahead hr
      rw [hs, List.length_nil] at hlen
      rw [readU8, if_pos (by omega)] at h
      injection h with h
      contradiction
  | cons c rest =>
      obtain ⟨rfl, hmoved⟩ := (reads_readU8 c).eq_of_ok hr hs h
      exact ⟨[b], hmoved, rfl⟩

theorem yields_readU16 : tape.Yields readU16 fun xs n => xs = toBeBytes n := by
  intro r n r' hr h
  by_cases hroom : r.position + 2 > r.len
  · rw [readU16, Method.bind_of_error (show slice 2 r = _ from if_pos hroom)] at h
    injection h with h
    contradiction
  · have hlen := length_ahead hr
    obtain ⟨hi, lo, rest, hs⟩ : ∃ hi lo rest, tape.ahead r = hi :: lo :: rest := by
      match tape.ahead r, hlen with
      | [], hlen | [_], hlen =>
          simp only [List.length_nil, List.length_singleton] at hlen
          omega
      | hi :: lo :: rest, _ => exact ⟨hi, lo, rest, rfl⟩
    have hword : tape.ahead r = toBeBytes (fromBeBytes hi lo) ++ rest := by
      rw [toBeBytes_fromBeBytes]
      exact hs
    obtain ⟨rfl, hmoved⟩ := (reads_readU16 (fromBeBytes hi lo)).eq_of_ok hr hword h
    exact ⟨_, hmoved, rfl⟩

end BuffReader

/-! ## Decoding -/

section Decode

variable (p : WirePacket) {buffer : List UInt8} {r : BuffReader}

/-- Behind the fixed header there is the body. -/
theorem WirePacket.body_of_decode {k : UInt8 × UInt32 → Method BuffReader Fault α} {a : α}
    (hbuf : buffer.take p.bytes.length = p.bytes)
    (h : (decodeFixedHeader >>= k) (.new buffer p.bytes.length) = (.ok a, r)) :
    ∃ r', k (p.header, UInt32.ofNat p.body.length) r' = (.ok a, r) ∧ tape.valid r' ∧
      tape.ahead r' = p.body := by
  obtain ⟨⟨header, n⟩, r', hhead, hk⟩ := Tape.bind_eq_ok h
  have hahead : tape.ahead (.new buffer p.bytes.length) = p.header :: p.code ++ p.body := hbuf
  obtain ⟨heq, hmoved⟩ := (reads_decodeFixedHeader p.split_code).eq_of_ok
    (valid_new (length_of_take_eq hbuf)) hahead hhead
  rw [p.value_code] at heq
  exact ⟨r', heq ▸ hk, hmoved.valid, hmoved.ahead_eq hahead⟩

/-- A reader of the body finds the front of it. -/
theorem WirePacket.finds_of_decode {k : UInt8 × UInt32 → Method BuffReader Fault α} {a : α}
    {P : List UInt8 → α → Prop} (hbuf : buffer.take p.bytes.length = p.bytes)
    (hk : tape.Finds (k (p.header, UInt32.ofNat p.body.length)) P)
    (h : (decodeFixedHeader >>= k) (.new buffer p.bytes.length) = (.ok a, r)) :
    ∃ xs, xs <+: p.body ∧ P xs a := by
  obtain ⟨r', hr, hvalid, hahead⟩ := p.body_of_decode hbuf h
  obtain ⟨xs, rest, hxs, hP⟩ := hk r' a r hvalid hr
  exact ⟨xs, ⟨rest, by rw [← hxs, hahead]⟩, hP⟩

/-- A packet of the wrong type is not decoded. -/
theorem finds_ite {c : Prop} [Decidable c] {e : Fault} {m : Method BuffReader Fault α}
    {P : List UInt8 → α → Prop} (hm : tape.Finds m P) :
    tape.Finds (if c then ofExcept (.error e) else m) P := by
  by_cases hc : c
  · rw [if_pos hc]
    intro r a r' _ h
    injection h with h
    contradiction
  · rw [if_neg hc]
    exact hm

theorem WirePacket.length_body (p : WirePacket) : p.body.length < 268435456 := by
  rw [← p.value_code, ← limit_four]
  exact VarInt.value_lt_of_split p.split_code

variable (hbuf : buffer.take p.bytes.length = p.bytes)

include hbuf

theorem ConnackPacket.of_decode {self q : ConnackPacket cap}
    (h : self.decode (.new buffer p.bytes.length) = (.ok q, r)) :
    ∃ flags, [flags, q.connectReasonCode] <+: p.body := by
  obtain ⟨xs, hxs, flags, rfl⟩ := p.finds_of_decode hbuf
    (P := fun xs q => ∃ flags, xs = [flags, q.connectReasonCode]) (finds_ite (by
      apply yields_readU8.finds
      rintro _ flags rfl
      apply yields_readU8.finds
      rintro _ code rfl
      apply Tape.Finds.of_rest
      rintro ⟨n, ps⟩ s q s' hret
      injection hret with hq
      injection hq with hq
      exact ⟨flags, by rw [← hq]; rfl⟩)) h
  exact ⟨flags, hxs⟩

theorem PubackPacket.of_decode {self q : PubackPacket cap}
    (h : PubackPacket.decode self (.new buffer p.bytes.length) = (.ok q, r)) :
    p.body = toBeBytes q.packetIdentifier ∧ q.reasonCode = self.reasonCode ∨
      toBeBytes q.packetIdentifier ++ [q.reasonCode] <+: p.body := by
  have hlen := p.length_body
  have hcount : (UInt32.ofNat p.body.length).toNat = p.body.length := toNat_ofNat_of_le (by omega)
  obtain ⟨xs, hxs, hq⟩ := p.finds_of_decode hbuf
    (P := fun xs (q : PubackPacket cap) =>
      xs = toBeBytes q.packetIdentifier ∧ p.body.length = 2 ∧ q.reasonCode = self.reasonCode ∨
        xs = toBeBytes q.packetIdentifier ++ [q.reasonCode]) (finds_ite (by
      apply yields_readU16.finds
      rintro _ identifier rfl
      by_cases htwo : UInt32.ofNat p.body.length = 2
      · have hbody : p.body.length = 2 := by
          rw [← hcount, htwo]
          rfl
        rw [if_neg (not_not_intro htwo)]
        apply (Tape.Yields.pure (P := fun xs code => xs = [] ∧ code = self.reasonCode)
          ⟨rfl, rfl⟩).finds
        rintro _ _ ⟨rfl, rfl⟩
        split <;>
        · apply Tape.Finds.of_rest
          rintro ⟨n, ps⟩ s q s' hret
          injection hret with hq
          injection hq with hq
          rw [← hq]
          exact .inl ⟨rfl, hbody, rfl⟩
      · rw [if_pos htwo]
        apply yields_readU8.finds
        rintro _ code rfl
        split <;>
        · apply Tape.Finds.of_rest
          rintro ⟨n, ps⟩ s q s' hret
          injection hret with hq
          injection hq with hq
          rw [← hq]
          exact .inr rfl)) h
  rcases hq with ⟨rfl, hbody, hcode⟩ | rfl
  · exact .inl ⟨(hxs.eq_of_length hbody.symm).symm, hcode⟩
  · exact .inr hxs

theorem SubackPacket.of_decode {self q : SubackPacket n cap}
    (h : self.decode (.new buffer p.bytes.length) = (.ok q, r)) :
    toBeBytes q.packetIdentifier <+: p.body := by
  obtain ⟨xs, hxs, rfl⟩ := p.finds_of_decode hbuf
    (P := fun xs (q : SubackPacket n cap) => xs = toBeBytes q.packetIdentifier) (finds_ite (by
      apply yields_readU16.finds
      rintro _ identifier rfl
      apply Tape.Finds.of_rest
      rintro ⟨len, ps⟩ s q s' hs
      obtain ⟨reasons, s'', -, hret⟩ := Tape.bind_eq_ok hs
      injection hret with hq
      injection hq with hq
      rw [← hq]
      exact List.append_nil _)) h
  exact hxs

theorem UnsubackPacket.of_decode {self q : UnsubackPacket n cap}
    (h : UnsubackPacket.decode self (.new buffer p.bytes.length) = (.ok q, r)) :
    toBeBytes q.packetIdentifier <+: p.body := by
  obtain ⟨xs, hxs, rfl⟩ := p.finds_of_decode hbuf
    (P := fun xs (q : UnsubackPacket n cap) => xs = toBeBytes q.packetIdentifier) (finds_ite (by
      apply yields_readU16.finds
      rintro _ identifier rfl
      apply Tape.Finds.of_rest
      rintro ⟨len, ps⟩ s q s' hs
      obtain ⟨reasons, s'', -, hret⟩ := Tape.bind_eq_ok hs
      injection hret with hq
      injection hq with hq
      rw [← hq]
      exact List.append_nil _)) h
  exact hxs

theorem PingrespPacket.of_decode {q : PingrespPacket}
    (h : PingrespPacket.decode (.new buffer p.bytes.length) = (.ok q, r)) : p.body = [] := by
  have hlen := p.length_body
  have hcount : (UInt32.ofNat p.body.length).toNat = p.body.length := toNat_ofNat_of_le (by omega)
  obtain ⟨r', hr, -, -⟩ := p.body_of_decode hbuf h
  by_cases htype : PacketType.ofU8 p.header = .pingresp
  · by_cases hzero : UInt32.ofNat p.body.length = 0
    · rw [hzero] at hcount
      exact List.length_eq_zero_iff.mp hcount.symm
    · simp only [htype, ne_eq, not_true_eq_false, hzero, not_false_eq_true, if_true, if_false] at hr
      injection hr with hr
      contradiction
  · simp only [htype, ne_eq, not_false_eq_true, if_true] at hr
    injection hr with hr
    contradiction

end Decode

/-! ## Events -/

/-- What has to be in a packet for an event. -/
def WirePacket.Shows (p : WirePacket) : Event → Prop
  | .connack => PacketType.ofU8 p.header = .connack ∧ ∃ flags, [flags, 0] <+: p.body
  | .puback identifier => PacketType.ofU8 p.header = .puback ∧
    (p.body = toBeBytes identifier ∨ toBeBytes identifier ++ [0] <+: p.body)
  | .suback identifier => PacketType.ofU8 p.header = .suback ∧ toBeBytes identifier <+: p.body
  | .unsuback identifier => PacketType.ofU8 p.header = .unsuback ∧ toBeBytes identifier <+: p.body
  | .pingresp => PacketType.ofU8 p.header = .pingresp ∧ p.body = []
  | .message _ _ => PacketType.ofU8 p.header = .publish
  | .disconnect _ => PacketType.ofU8 p.header = .disconnect

/-- The bytes that were read. -/
def bytesRead (tr : Trace Answer) : List UInt8 :=
  tr.flatMap fun
    | ⟨.read _, .ok got⟩ => got.toList
    | _ => []

/-- What was written, or tried to. -/
def framesWritten (tr : Trace Answer) : List (List UInt8) :=
  tr.flatMap fun
    | ⟨.write frame, _⟩ => [frame]
    | _ => []

@[simp] theorem bytesRead_nil : bytesRead [] = [] := rfl

@[simp] theorem framesWritten_nil : framesWritten [] = [] := rfl

@[simp] theorem bytesRead_append (tr tr' : Trace Answer) :
    bytesRead (tr ++ tr') = bytesRead tr ++ bytesRead tr' := List.flatMap_append

@[simp] theorem framesWritten_append (tr tr' : Trace Answer) :
    framesWritten (tr ++ tr') = framesWritten tr ++ framesWritten tr' := List.flatMap_append

@[simp] theorem bytesRead_write (frame : List UInt8) (a : Except Unit Nat) :
    bytesRead [⟨.write frame, a⟩] = [] := rfl

@[simp] theorem framesWritten_write (frame : List UInt8) (a : Except Unit Nat) :
    framesWritten [⟨.write frame, a⟩] = [frame] := rfl

@[simp] theorem bytesRead_read (got : BoundedVec UInt8 n) :
    bytesRead [⟨.read n, .ok got⟩] = got.toList := List.append_nil _

@[simp] theorem bytesRead_readError (n : Nat) : bytesRead [⟨.read n, .error ()⟩] = [] := rfl

@[simp] theorem framesWritten_read (n : Nat) (a : Except Unit (BoundedVec UInt8 n)) :
    framesWritten [⟨.read n, a⟩] = [] := rfl

namespace RawMqttClient

section Events

variable {p : WirePacket} {c : RawMqttClient cap}

/-- The only frame that is written is one PUBACK. -/
def PubackOnly (tr : Trace Answer) (op : Io) (_ : RawMqttClient cap) : Prop :=
  ∀ frame, op = .write frame → framesWritten tr = [] ∧ ∃ identifier, frame = pubackBytes identifier

/-- What becomes of the packet `p` in the buffer: an event that it shows, and a PUBACK if it is
a message. -/
structure Understood (p : WirePacket) (c : RawMqttClient cap) (tr : Trace Answer)
    (r : Except ReasonCode Event) (c' : RawMqttClient cap) : Prop where
  refilled : Refilled c c'
  read : bytesRead tr = []
  shows : ∀ e, r = .ok e → p.Shows e
  written : framesWritten tr = [] ∨ PacketType.ofU8 p.header = .publish ∧
    ∃ identifier, framesWritten tr = [pubackBytes identifier]

theorem understood_error (e : ReasonCode) : Understood p c [] (.error e) c where
  refilled := .refl c
  read := rfl
  shows := by
    intro e h
    contradiction
  written := .inl rfl

theorem understood_ok {e : Event} (h : p.Shows e) : Understood p c [] (.ok e) c where
  refilled := .refl c
  read := rfl
  shows := by
    rintro _ ⟨⟩
    exact h
  written := .inl rfl

/-- A packet that does not decode is an error. -/
theorem ensures_decodeBuffer_bind {m : Method BuffReader Fault α} {k : α → ClientM cap Event}
    {read : Nat} (hk : ∀ a r, m (.new c.buffer read) = (.ok a, r) →
      Ensures PubackOnly (Understood p c) (k a) c) :
    Ensures PubackOnly (Understood p c) (decodeBuffer m read >>= k) c := by
  have hdec : (decodeBuffer m read : ClientM cap α) c =
      (orBuffError (m (.new c.buffer read)).1 : ClientM cap α) c := rfl
  cases hm : m (.new c.buffer read) with
  | mk res r =>
      rw [hm] at hdec
      match res, hm with
      | .ok a, hm => exact Ensures.bind_of_done hdec (hk a r hm)
      | .error (.error e), hm => exact Ensures.bind_of_error hdec (understood_error _)
      | .error .panic, hm => exact Ensures.bind_of_panicked hdec

/-- One frame, and nothing is read. -/
theorem ensures_sendPuback (hlen : c.recvBufferLen ≤ c.recvBuffer.length)
    (hroom : 6 ≤ c.recvBufferLen) (identifier : UInt16) :
    Ensures PubackOnly (fun tr _ c' => Refilled c c' ∧
      ∃ a, tr = [⟨.write (pubackBytes identifier), a⟩]) (sendPuback identifier) c := by
  obtain ⟨buf, henc, htake, hbuf⟩ := (encodes_puback cap identifier).fits c.recvBuffer
    c.recvBufferLen hlen hroom
  have hrefilled : Refilled c { c with recvBuffer := buf } := ⟨rfl, hbuf, rfl⟩
  rw [sendPuback, ensures_gets_bind, ensures_gets_bind]
  simp only [henc]
  show Ensures PubackOnly _ (send (buf.take (pubackBytes identifier).length))
    { c with recvBuffer := buf }
  rw [htake]
  constructor
  · rintro _ ⟨⟩
    exact ⟨rfl, identifier, rfl⟩
  · rintro (⟨⟩ | n) <;> exact ⟨hrefilled, _, rfl⟩

/-- **What an event shows**: a packet in the buffer is only taken for what it is. -/
theorem ensures_eventOf (hlen : c.recvBufferLen ≤ c.recvBuffer.length) (hroom : 6 ≤ c.recvBufferLen)
    (hbuf : c.buffer.take p.bytes.length = p.bytes) (maxTopics : Nat) :
    Ensures PubackOnly (Understood p c)
      (eventOf (PacketType.ofU8 p.header) maxTopics p.bytes.length) c := by
  cases htype : PacketType.ofU8 p.header with
  | reserved | connect | subscribe | unsubscribe | pingreq => exact understood_error _
  | pubrec | pubrel | pubcomp | auth => exact understood_error _
  | connack =>
      apply ensures_decodeBuffer_bind
      intro q r hq
      obtain ⟨flags, hbody⟩ := ConnackPacket.of_decode p hbuf hq
      split
      · exact understood_error _
      · next hcode =>
          rw [Decidable.not_not.mp hcode] at hbody
          exact understood_ok ⟨htype, flags, hbody⟩
  | puback =>
      apply ensures_decodeBuffer_bind
      intro q r hq
      split
      · exact understood_error _
      · next hcode =>
          apply understood_ok
          refine ⟨htype, (PubackPacket.of_decode p hbuf hq).imp (fun h => h.1) fun h => ?_⟩
          rwa [Decidable.not_not.mp hcode] at h
  | suback =>
      apply ensures_decodeBuffer_bind
      intro q r hq
      rw [ensures_gets_bind]
      split
      · exact understood_error _
      · exact understood_ok ⟨htype, SubackPacket.of_decode p hbuf hq⟩
  | unsuback =>
      apply ensures_decodeBuffer_bind
      intro q r hq
      exact understood_ok ⟨htype, UnsubackPacket.of_decode p hbuf hq⟩
  | pingresp =>
      apply ensures_decodeBuffer_bind
      intro q r hq
      exact understood_ok ⟨htype, PingrespPacket.of_decode p hbuf hq⟩
  | disconnect =>
      apply ensures_decodeBuffer_bind
      intro q r hq
      exact understood_ok htype
  | publish =>
      apply ensures_decodeBuffer_bind
      intro q r hq
      have hmessage : ∀ tr c', Refilled c c' → bytesRead tr = [] →
          (framesWritten tr = [] ∨ ∃ identifier, framesWritten tr = [pubackBytes identifier]) →
          Ensures (fun tr' => PubackOnly (tr ++ tr')) (fun tr' => Understood p c (tr ++ tr'))
            (do
              let payload ← ofOption q.message
              return .message q.topicName.string payload : ClientM cap Event) c' := by
        intro tr c' hrefilled hread hwritten
        cases q.message with
        | none => trivial
        | some payload =>
            show Understood p c (tr ++ []) _ c'
            rw [List.append_nil]
            refine ⟨hrefilled, hread, ?_, hwritten.imp_right fun h => ⟨htype, h⟩⟩
            rintro _ ⟨⟩
            exact htype
      split
      · apply (ensures_sendPuback hlen hroom q.packetIdentifier).bind
        · rintro tr ⟨⟩ c' ⟨hrefilled, a, rfl⟩
          exact hmessage _ _ hrefilled rfl (.inr ⟨_, rfl⟩)
        · rintro tr e c' ⟨hrefilled, a, rfl⟩
          refine ⟨hrefilled, rfl, ?_, .inr ⟨htype, _, rfl⟩⟩
          intro _ h
          contradiction
      · exact hmessage [] c (.refl c) rfl (.inl rfl)

end Events

end RawMqttClient

end Toucan.Mqtt
