import Toucan.Mqtt.Publish

/-!
# Toucan.Mqtt.RoundTrip

The packets that the MQTT crate can both write and read.  `encode` puts a frame in the
buffer or finds no room for it, and `decode` makes the packet of it again
(`roundTrip`), as long as no property has binary data.  With such data in its last
property a PUBLISH is delivered with the data in front of its payload
(`decode_correlationData`).
-/

namespace Toucan.Mqtt

open HttpMessage BuffWriter BuffReader

/-- A packet is read as a frame, when its body is read. -/
theorem reads_frame {header : UInt8} {body : List UInt8}
    {k : UInt8 × UInt32 → Method BuffReader Fault α} {a : α} (hmax : body.length ≤ 268435455)
    (hk : tape.Reads (k (header, UInt32.ofNat body.length)) body a) :
    tape.Reads (decodeFixedHeader >>= k) (frame header body) a :=
  (reads_decodeFixedHeader_frame header hmax).bind hk

/-! ## Acknowledgements -/

namespace AckPacket

def body (self : AckPacket cap) : List UInt8 :=
  toBeBytes self.packetIdentifier ++ ([self.reasonCode] ++ propertyBlock self.properties.toList)

theorem length_body (self : AckPacket cap) :
    self.body.length = 3 + (propertyBlock self.properties.toList).length := by
  rw [body, List.length_append, List.length_append, length_toBeBytes, List.length_singleton]
  omega

theorem writes_write {self : AckPacket cap}
    (hprops : Announced self.propertyLen self.properties.toList)
    (hmax : self.body.length ≤ 268435455) :
    sheet.Writes full self.write (frame self.fixedHeader self.body) := by
  have hlen := self.length_body
  have hthree : (3 : UInt32).toNat = 3 := rfl
  obtain ⟨n, hn, -, hsum⟩ := toNat_propertyLenLen hprops.toNat_eq (by omega)
  have hblock := toNat_add (a := self.propertyLen) (b := n) (by omega)
  rw [write, hn, ofExcept_ok_bind]
  apply writes_frame _ hmax
  · exact (writes_writeU16 _).bind
      ((writes_writeU8 _).bind (writes_propertyBlock hprops (by omega)))
  · rw [toNat_add (by omega)]
    omega

/-- The fields as a reader of capacity `cap'` gets them. -/
def received (self : AckPacket cap) : AckPacket cap' :=
  { fixedHeader := self.fixedHeader
    remainLen := UInt32.ofNat self.body.length
    packetIdentifier := self.packetIdentifier
    reasonCode := self.reasonCode
    propertyLen := self.propertyLen
    properties := self.properties.toList.foldl pushToProperties .empty }

section Reads

variable {self : AckPacket cap} (hprops : Announced self.propertyLen self.properties.toList)
  (hb : ∀ p ∈ self.properties.toList, ¬ p.IsBinary) (hmax : self.body.length ≤ 268435455)

include hprops hb hmax

theorem reads_decodeAs {type : PacketType} (header : UInt8)
    (htype : PacketType.ofU8 self.fixedHeader = type) :
    tape.Reads (decodeAs type (.withHeader header : AckPacket cap'))
      (frame self.fixedHeader self.body) self.received := by
  have hlen := self.length_body
  apply reads_frame hmax
  simp only [htype, ne_eq, not_true_eq_false, if_false]
  apply (reads_readU16 _).bind
  apply (reads_readU8 _).bind
  exact (reads_propertyBlock .empty hprops hb (by omega)).map

theorem reads_decode (htype : PacketType.ofU8 self.fixedHeader = .puback) :
    tape.Reads (PubackPacket.decode (.new : PubackPacket cap')) (frame self.fixedHeader self.body)
      self.received := by
  have hlen := self.length_body
  have hnat := toNat_ofNat_of_le hmax
  have hpos : 0 < (propertyBlock self.properties.toList).length := by
    have hcode := VarInt.length_encode_pos (w := 4) (by decide)
      (propertyBytes self.properties.toList).length
    rw [propertyBlock, List.length_append]
    omega
  have htwo : UInt32.ofNat self.body.length ≠ 2 := by
    intro heq
    have heq' : self.body.length = 2 := by rw [← hnat, heq]; rfl
    omega
  have hfour : ¬ UInt32.ofNat self.body.length < 4 := by
    rw [UInt32.lt_iff_toNat_lt, hnat]
    show ¬ self.body.length < 4
    omega
  apply reads_frame hmax
  simp only [htype, ne_eq, not_true_eq_false, if_false, htwo, not_false_eq_true, if_true, hfour]
  apply (reads_readU16 _).bind
  apply (reads_readU8 _).bind
  exact (reads_propertyBlock .empty hprops hb (by omega)).map

end Reads

end AckPacket

/-! ## CONNACK -/

namespace ConnackPacket

def body (self : ConnackPacket cap) : List UInt8 :=
  [self.ackFlags] ++ ([self.connectReasonCode] ++ propertyBlock self.properties.toList)

theorem length_body (self : ConnackPacket cap) :
    self.body.length = 2 + (propertyBlock self.properties.toList).length := by
  rw [body, List.length_append, List.length_append, List.length_singleton, List.length_singleton]
  omega

theorem writes_write {self : ConnackPacket cap}
    (hprops : Announced self.propertyLen self.properties.toList)
    (hmax : self.body.length ≤ 268435455) :
    sheet.Writes full self.write (frame self.fixedHeader self.body) := by
  have hlen := self.length_body
  have htwo : (2 : UInt32).toNat = 2 := rfl
  obtain ⟨n, hn, -, hsum⟩ := toNat_propertyLenLen hprops.toNat_eq (by omega)
  have hblock := toNat_add (a := 2) (b := self.propertyLen) (by omega)
  simp only [write, hn, ofExcept_ok_bind]
  apply writes_frame _ hmax
  · exact (writes_writeU8 _).bind ((writes_writeU8 _).bind (writes_propertyBlock hprops (by omega)))
  · rw [toNat_add (by omega)]
    omega

def received (self : ConnackPacket cap) : ConnackPacket cap' :=
  { fixedHeader := self.fixedHeader
    remainLen := UInt32.ofNat self.body.length
    ackFlags := self.ackFlags
    connectReasonCode := self.connectReasonCode
    propertyLen := self.propertyLen
    properties := self.properties.toList.foldl pushToProperties .empty }

theorem reads_decode {self : ConnackPacket cap}
    (hprops : Announced self.propertyLen self.properties.toList)
    (hb : ∀ p ∈ self.properties.toList, ¬ p.IsBinary) (hmax : self.body.length ≤ 268435455)
    (htype : PacketType.ofU8 self.fixedHeader = .connack) :
    tape.Reads (decode (.new : ConnackPacket cap')) (frame self.fixedHeader self.body)
      self.received := by
  have hlen := self.length_body
  apply reads_frame hmax
  simp only [htype, ne_eq, not_true_eq_false, if_false]
  apply (reads_readU8 _).bind
  apply (reads_readU8 _).bind
  exact (reads_propertyBlock .empty hprops hb (by omega)).map

end ConnackPacket

/-! ## DISCONNECT and AUTH -/

namespace DisconnectPacket

def body (self : DisconnectPacket cap) : List UInt8 :=
  [self.disconnectReason] ++ propertyBlock self.properties.toList

theorem length_body (self : DisconnectPacket cap) :
    self.body.length = 1 + (propertyBlock self.properties.toList).length := by
  rw [body, List.length_append, List.length_singleton]

theorem writes_write {self : DisconnectPacket cap}
    (hprops : Announced self.propertyLen self.properties.toList)
    (hmax : self.body.length ≤ 268435455) :
    sheet.Writes full self.write (frame self.fixedHeader self.body) := by
  have hlen := self.length_body
  have hone : (1 : UInt32).toNat = 1 := rfl
  obtain ⟨n, hn, -, hsum⟩ := toNat_propertyLenLen hprops.toNat_eq (by omega)
  have hblock := toNat_add (a := 1) (b := self.propertyLen) (by omega)
  simp only [write, hn, ofExcept_ok_bind]
  apply writes_frame _ hmax
  · exact (writes_writeU8 _).bind (writes_propertyBlock hprops (by omega))
  · rw [toNat_add (by omega)]
    omega

def received (self : DisconnectPacket cap) : DisconnectPacket cap' :=
  { fixedHeader := self.fixedHeader
    remainLen := UInt32.ofNat self.body.length
    disconnectReason := self.disconnectReason
    propertyLen := self.propertyLen
    properties := self.properties.toList.foldl pushToProperties .empty }

theorem reads_decode {self : DisconnectPacket cap}
    (hprops : Announced self.propertyLen self.properties.toList)
    (hb : ∀ p ∈ self.properties.toList, ¬ p.IsBinary) (hmax : self.body.length ≤ 268435455)
    (htype : PacketType.ofU8 self.fixedHeader = .disconnect) :
    tape.Reads (decode (.new : DisconnectPacket cap')) (frame self.fixedHeader self.body)
      self.received := by
  have hlen := self.length_body
  have hzero : UInt32.ofNat self.body.length ≠ 0 := by
    intro heq
    have hnat := toNat_ofNat_of_le hmax
    have heq' : self.body.length = 0 := by rw [← hnat, heq]; rfl
    omega
  apply reads_frame hmax
  simp only [htype, ne_eq, not_true_eq_false, if_false, hzero]
  apply (reads_readU8 _).bind
  exact (reads_propertyBlock .empty hprops hb (by omega)).map

end DisconnectPacket

namespace AuthPacket

def body (self : AuthPacket cap) : List UInt8 :=
  [self.authReason] ++ propertyBlock self.properties.toList

theorem length_body (self : AuthPacket cap) :
    self.body.length = 1 + (propertyBlock self.properties.toList).length := by
  rw [body, List.length_append, List.length_singleton]

theorem writes_write {self : AuthPacket cap}
    (hprops : Announced self.propertyLen self.properties.toList)
    (hmax : self.body.length ≤ 268435455) :
    sheet.Writes full self.write (frame self.fixedHeader self.body) := by
  have hlen := self.length_body
  have hone : (1 : UInt32).toNat = 1 := rfl
  obtain ⟨n, hn, -, hsum⟩ := toNat_propertyLenLen hprops.toNat_eq (by omega)
  have hblock := toNat_add (a := self.propertyLen) (b := n) (by omega)
  rw [write, hn, ofExcept_ok_bind]
  apply writes_frame _ hmax
  · exact (writes_writeU8 _).bind (writes_propertyBlock hprops (by omega))
  · rw [toNat_add (by omega)]
    omega

def received (self : AuthPacket cap) : AuthPacket cap' :=
  { fixedHeader := self.fixedHeader
    remainLen := UInt32.ofNat self.body.length
    authReason := self.authReason
    propertyLen := self.propertyLen
    properties := self.properties.toList.foldl pushToProperties .empty }

theorem reads_decode {self : AuthPacket cap}
    (hprops : Announced self.propertyLen self.properties.toList)
    (hb : ∀ p ∈ self.properties.toList, ¬ p.IsBinary) (hmax : self.body.length ≤ 268435455) :
    tape.Reads (decode (.new : AuthPacket cap')) (frame self.fixedHeader self.body)
      self.received := by
  have hlen := self.length_body
  apply reads_frame hmax
  apply (reads_readU8 _).bind
  exact (reads_propertyBlock .empty hprops hb (by omega)).map

end AuthPacket

/-! ## PUBLISH -/

namespace PublishPacket

/-- The fields as a reader of capacity `cap'` gets them: with quality of service 0 the
identifier is not transmitted. -/
def received (self : PublishPacket cap) (message : List UInt8) : PublishPacket cap' :=
  { fixedHeader := self.fixedHeader
    remainLen := UInt32.ofNat (self.body message).length
    topicName := self.topicName
    packetIdentifier := if self.qos ≠ 0 then self.packetIdentifier else 1
    propertyLen := self.propertyLen
    properties := self.properties.toList.foldl pushToProperties .empty
    message := some message }

theorem frame_eq_headOf (self : PublishPacket cap) (message : List UInt8) :
    frame self.fixedHeader (self.body message) =
      headOf self.fixedHeader (VarInt.encode 4 (self.body message).length) self.topicName
        self.packetIdentifier ++ propertyBlock self.properties.toList ++ message := by
  simp only [frame, headOf, body, headBytes, List.cons_append, List.append_assoc]
  rfl

theorem decodes_decode {self : PublishPacket cap} {message : List UInt8}
    (htype : PacketType.ofU8 self.fixedHeader = .publish) (htopic : self.topicName.Exact)
    (hprops : Announced self.propertyLen self.properties.toList)
    (hb : ∀ p ∈ self.properties.toList, ¬ p.IsBinary)
    (hmax : (self.body message).length ≤ 268435455) :
    Decodes (decode (.new : PublishPacket cap')) (frame self.fixedHeader (self.body message))
      (self.received message) := by
  intro buf n hn hbuf
  have hval : VarInt.value (VarInt.encode 4 (self.body message).length) =
      (self.body message).length := VarInt.value_encode (by rw [limit_four]; omega)
  have hlen : n = (frame self.fixedHeader (self.body message)).length := by
    rw [← hbuf, List.length_take, Nat.min_eq_left hn]
  have hexcess : excess (VarInt.encode 4 (self.body message).length) = 0 := by
    rw [excess, hval, Nat.sub_self]
  rw [length_frame] at hlen
  rw [frame_eq_headOf] at hbuf
  obtain ⟨r, hr⟩ := (decode_code (.new : PublishPacket cap') self.packetIdentifier hn hbuf
    (split_encode hmax []) (by omega) htype htopic hprops hb).1 (by omega)
  refine ⟨r, ?_⟩
  rw [hr, hval, hexcess, Nat.sub_zero, List.take_length]
  rfl

end PublishPacket

/-! ## All of them -/

/-- A packet with an `encode` and a `decode`. -/
inductive ControlPacket (cap : Nat) where
  | publish (p : PublishPacket cap)
  | puback (p : PubackPacket cap)
  | pubrec (p : PubrecPacket cap)
  | pubrel (p : PubrelPacket cap)
  | pubcomp (p : PubcompPacket cap)
  | connack (p : ConnackPacket cap)
  | disconnect (p : DisconnectPacket cap)
  | auth (p : AuthPacket cap)
deriving DecidableEq

namespace ControlPacket

def encode : ControlPacket cap → List UInt8 → Nat → Except Fault Nat × List UInt8
  | .publish p => p.encode
  | .puback p => AckPacket.encode p
  | .pubrec p => AckPacket.encode p
  | .pubrel p => AckPacket.encode p
  | .pubcomp p => AckPacket.encode p
  | .connack p => p.encode
  | .disconnect p => p.encode
  | .auth p => p.encode

/-- `decode` of a new packet of the same kind, of capacity `cap'`. -/
def decode : ControlPacket cap → Method BuffReader Fault (ControlPacket cap')
  | .publish _ => do return .publish (← PublishPacket.new.decode)
  | .puback _ => do return .puback (← PubackPacket.new.decode)
  | .pubrec _ => do return .pubrec (← PubrecPacket.new.decode)
  | .pubrel _ => do return .pubrel (← PubrelPacket.new.decode)
  | .pubcomp _ => do return .pubcomp (← PubcompPacket.new.decode)
  | .connack _ => do return .connack (← ConnackPacket.new.decode)
  | .disconnect _ => do return .disconnect (← DisconnectPacket.new.decode)
  | .auth _ => do return .auth (← AuthPacket.new.decode)

/-- The first byte. -/
def fixedHeader : ControlPacket cap → UInt8
  | .publish p => p.fixedHeader
  | .puback p => p.fixedHeader
  | .pubrec p => p.fixedHeader
  | .pubrel p => p.fixedHeader
  | .pubcomp p => p.fixedHeader
  | .connack p => p.fixedHeader
  | .disconnect p => p.fixedHeader
  | .auth p => p.fixedHeader

/-- The type that `decode` asks for. -/
def type : ControlPacket cap → Option PacketType
  | .publish _ => some .publish
  | .puback _ => some .puback
  | .pubrec _ => some .pubrec
  | .pubrel _ => some .pubrel
  | .pubcomp _ => some .pubcomp
  | .connack _ => some .connack
  | .disconnect _ => some .disconnect
  | .auth _ => none

def propertyLen : ControlPacket cap → UInt32
  | .publish p => p.propertyLen
  | .puback p => p.propertyLen
  | .pubrec p => p.propertyLen
  | .pubrel p => p.propertyLen
  | .pubcomp p => p.propertyLen
  | .connack p => p.propertyLen
  | .disconnect p => p.propertyLen
  | .auth p => p.propertyLen

def properties : ControlPacket cap → List Property
  | .publish p => p.properties.toList
  | .puback p => p.properties.toList
  | .pubrec p => p.properties.toList
  | .pubrel p => p.properties.toList
  | .pubcomp p => p.properties.toList
  | .connack p => p.properties.toList
  | .disconnect p => p.properties.toList
  | .auth p => p.properties.toList

/-- The packet behind its length. -/
def body : ControlPacket cap → List UInt8
  | .publish p => p.body (p.message.getD [])
  | .puback p => AckPacket.body p
  | .pubrec p => AckPacket.body p
  | .pubrel p => AckPacket.body p
  | .pubcomp p => AckPacket.body p
  | .connack p => p.body
  | .disconnect p => p.body
  | .auth p => p.body

/-- What a reader of capacity `cap'` gets. -/
def received : ControlPacket cap → ControlPacket cap'
  | .publish p => .publish (p.received (p.message.getD []))
  | .puback p => .puback (AckPacket.received p)
  | .pubrec p => .pubrec (AckPacket.received p)
  | .pubrel p => .pubrel (AckPacket.received p)
  | .pubcomp p => .pubcomp (AckPacket.received p)
  | .connack p => .connack p.received
  | .disconnect p => .disconnect p.received
  | .auth p => .auth p.received

/-- A PUBLISH has a payload, and a topic whose length is right. -/
def HasPayload : ControlPacket cap → Prop
  | .publish p => p.topicName.Exact ∧ p.message.isSome = true
  | _ => True

/-- A packet as the constructors and setters of the crate make them: of its own type, with
the properties it announces, and short enough for its length to be written. -/
structure WellFormed (p : ControlPacket cap) : Prop where
  type : ∀ t, p.type = some t → PacketType.ofU8 p.fixedHeader = t
  announced : Announced p.propertyLen p.properties
  payload : p.HasPayload
  length_le : p.body.length ≤ 268435455

theorem encodes_encode {p : ControlPacket cap} (h : p.WellFormed) :
    Encodes p.encode (frame p.fixedHeader p.body) := by
  have hprops := h.announced
  have hmax := h.length_le
  cases p with
  | publish p =>
      obtain ⟨htopic, hmessage⟩ := h.payload
      obtain ⟨message, hsome⟩ := Option.isSome_iff_exists.mp hmessage
      have hbody : (publish p).body = p.body message := by rw [body, hsome]; rfl
      rw [hbody] at hmax ⊢
      exact encodes_of_writes
        (PublishPacket.writes_write hsome (Nat.le_of_eq htopic) hprops hmax)
  | puback p => exact encodes_of_writes (AckPacket.writes_write hprops hmax)
  | pubrec p => exact encodes_of_writes (AckPacket.writes_write hprops hmax)
  | pubrel p => exact encodes_of_writes (AckPacket.writes_write hprops hmax)
  | pubcomp p => exact encodes_of_writes (AckPacket.writes_write hprops hmax)
  | connack p => exact encodes_of_writes (ConnackPacket.writes_write hprops hmax)
  | disconnect p => exact encodes_of_writes (DisconnectPacket.writes_write hprops hmax)
  | auth p => exact encodes_of_writes (AuthPacket.writes_write hprops hmax)

theorem decodes_decode {p : ControlPacket cap} (h : p.WellFormed)
    (hb : ∀ q ∈ p.properties, ¬ q.IsBinary) :
    Decodes (p.decode : Method BuffReader Fault (ControlPacket cap')) (frame p.fixedHeader p.body)
      p.received := by
  have hprops := h.announced
  have hmax := h.length_le
  cases p with
  | publish p =>
      intro buf n hn hbuf
      obtain ⟨r, hr⟩ := PublishPacket.decodes_decode (h.type _ rfl) h.payload.1 hprops hb hmax
        buf n hn hbuf
      exact ⟨r, Method.bind_of_ok hr⟩
  | puback p =>
      exact decodes_of_reads (AckPacket.reads_decode hprops hb hmax (h.type _ rfl)).map
  | pubrec p =>
      exact decodes_of_reads (AckPacket.reads_decodeAs hprops hb hmax _ (h.type _ rfl)).map
  | pubrel p =>
      exact decodes_of_reads (AckPacket.reads_decodeAs hprops hb hmax _ (h.type _ rfl)).map
  | pubcomp p =>
      exact decodes_of_reads (AckPacket.reads_decodeAs hprops hb hmax _ (h.type _ rfl)).map
  | connack p =>
      exact decodes_of_reads (ConnackPacket.reads_decode hprops hb hmax (h.type _ rfl)).map
  | disconnect p =>
      exact decodes_of_reads (DisconnectPacket.reads_decode hprops hb hmax (h.type _ rfl)).map
  | auth p =>
      exact decodes_of_reads (AuthPacket.reads_decode hprops hb hmax).map

/-- **Round trip**: a well-formed packet without binary data is put in any buffer that has
room for it, and decoded from there as it was; in a smaller one `encode` fails. -/
theorem roundTrip (p : ControlPacket cap) (cap' : Nat) (h : p.WellFormed)
    (hb : ∀ q ∈ p.properties, ¬ q.IsBinary) (buffer : List UInt8) (bufferLen : Nat)
    (hbuf : bufferLen ≤ buffer.length) :
    ((frame p.fixedHeader p.body).length ≤ bufferLen → ∃ n buf r,
      p.encode buffer bufferLen = (.ok n, buf) ∧
      (p.decode : Method BuffReader Fault (ControlPacket cap')) (.new buf n) =
        (.ok p.received, r)) ∧
    (bufferLen < (frame p.fixedHeader p.body).length → ∃ buf,
      p.encode buffer bufferLen = (.error (.error .insufficientBufferSize), buf)) := by
  have henc := encodes_encode h
  constructor
  · intro hroom
    obtain ⟨buf, hok, htake, -⟩ := henc.fits buffer bufferLen hbuf hroom
    obtain ⟨r, hr⟩ := decodes_decode h hb buf _ (length_of_take_eq htake) htake
    exact ⟨_, buf, r, hok, hr⟩
  · exact henc.full buffer bufferLen hbuf

/-- A PUBLISH of quality of service 1 with one property. -/
def samplePublish : PublishPacket 1 where
  fixedHeader := 0x32
  remainLen := 0
  topicName := ⟨"soc", 3⟩
  packetIdentifier := 7
  propertyLen := 3
  properties := ⟨[.topicAlias 5], Nat.le_refl 1⟩
  message := some [1, 2]

theorem announced_samplePublish :
    Announced samplePublish.propertyLen samplePublish.properties.toList where
  sound := by
    intro p hp
    rw [List.mem_singleton.mp hp]
    exact ⟨⟨.word 5, rfl, trivial⟩, by decide⟩
  toNat_eq := by decide

theorem wellFormed_samplePublish : (publish samplePublish).WellFormed where
  type := by
    intro t ht
    cases ht
    decide
  announced := announced_samplePublish
  payload := ⟨(by decide +kernel : (3 : UInt16).toNat = (asBytes "soc").length), rfl⟩
  length_le := by decide +kernel

theorem not_isBinary_samplePublish : ∀ q ∈ (publish samplePublish).properties, ¬ q.IsBinary := by
  rintro q hq ⟨v, hv, hbin⟩
  rw [List.mem_singleton.mp hq] at hv
  cases hv
  exact hbin

theorem roundTrip_samplePublish :
    (∃ n buf r, (publish samplePublish).encode (List.replicate 20 0) 20 = (.ok n, buf) ∧
      ((publish samplePublish).decode : Method BuffReader Fault (ControlPacket 5)) (.new buf n) =
        (.ok (publish samplePublish).received, r)) ∧
    ∃ buf, (publish samplePublish).encode (List.replicate 20 0) 14 =
      (.error (.error .insufficientBufferSize), buf) := by
  constructor
  · exact (roundTrip (publish samplePublish) 5 wellFormed_samplePublish
      not_isBinary_samplePublish (List.replicate 20 0) 20 (by decide)).1 (by decide +kernel)
  · exact (roundTrip (publish samplePublish) 5 wellFormed_samplePublish
      not_isBinary_samplePublish (List.replicate 20 0) 14 (by decide)).2 (by decide +kernel)

end ControlPacket

/-! ## Data at the end of the properties -/

namespace PublishPacket

theorem decodes_correlationData {self : PublishPacket cap} {message : List UInt8}
    {ps : List Property} {p : Property} {b : BinaryData}
    (hlist : self.properties.toList = ps ++ [p]) (hvalue : p.value = some (.binary b))
    (hb : ∀ q ∈ ps, ¬ q.IsBinary) (htype : PacketType.ofU8 self.fixedHeader = .publish)
    (htopic : self.topicName.Exact) (hprops : Announced self.propertyLen self.properties.toList)
    (hmax : (self.body message).length ≤ 268435455) :
    Decodes (decode (.new : PublishPacket cap')) (frame self.fixedHeader (self.body message))
      { self.received message with message := some (b.bin ++ message) } := by
  intro buf n hn hbuf
  have hlast : p ∈ self.properties.toList := by
    rw [hlist]
    exact List.mem_append_right ps List.mem_cons_self
  have hfront : ∀ q ∈ ps, q ∈ self.properties.toList := by
    rw [hlist]
    exact fun q hq => List.mem_append_left [p] hq
  have hval : VarInt.value (VarInt.encode 4 (self.body message).length) =
      (self.body message).length := VarInt.value_encode (by rw [limit_four]; omega)
  have hpl : self.propertyLen.toNat ≤ 268435455 := by
    rw [body, propertyBlock, List.length_append, List.length_append, List.length_append] at hmax
    rw [hprops.toNat_eq]
    omega
  have hdata : b.bin.take b.len.toNat = b.bin := by
    obtain ⟨v, hv, hexact⟩ := (hprops.sound p hlast).value
    rw [hvalue, Option.some.injEq] at hv
    rw [← hv] at hexact
    exact List.take_of_length_le (Nat.le_of_eq hexact.symm)
  obtain ⟨hr, hs, hlen⟩ := ahead_packet hn hbuf
  rw [frame_eq_headOf, List.append_assoc] at hs
  obtain ⟨r₁, hhead, hmoved⟩ := reads_decodeHead (.new : PublishPacket cap')
    self.packetIdentifier (split_encode hmax []) htype htopic _ _ hr hs
  have hs₁ := hmoved.ahead_eq hs
  rw [propertyBlock, ← hprops.toNat_eq, hlist] at hs₁
  obtain ⟨r₂, hread, hmoved'⟩ := decodeProperties_binary (.empty : BoundedVec Property cap')
    (fun q hq => ⟨hprops.sound q (hfront q hq), hb q hq⟩) (hprops.sound p hlast) hvalue
    (by rw [hprops.toNat_eq, hlist]) hpl hmoved.valid hs₁
  -- the data are still ahead
  have hahead : tape.ahead r₂ = b.bin ++ message := by
    apply hmoved'.ahead_eq
    rw [hs₁, propertyBytes, List.flatMap_append, List.flatMap_singleton, Property.bytes_eq hvalue]
    simp only [Value.bytes, BinaryData.bytes, hdata, List.append_assoc, propertyBytes]
  have hpos := position_add_length hn (hmoved.trans hmoved')
  obtain ⟨hok, -⟩ := decodeTail_eq ((.new : PublishPacket cap').withHead self.fixedHeader
    (UInt32.ofNat (self.body message).length) self.topicName self.packetIdentifier) hread
    hmoved'.valid (totalLen_frame self.fixedHeader hmax)
  refine ⟨r₂, ?_⟩
  rw [hval] at hhead
  rw [decode, Method.bind_of_ok hhead, hok (by omega)]
  have hcut : (tape.ahead r₂).take
      ((frame self.fixedHeader (self.body message)).length - r₂.position) = b.bin ++ message := by
    rw [← hlen, ← hahead]
    exact List.take_of_length_le (by omega)
  rw [hcut, received, hlist]
  rfl

/-- **Data left behind**: a PUBLISH whose last property has binary data is decoded without an
error, and its payload is the data followed by what was sent. -/
theorem decode_correlationData (self : PublishPacket cap) (cap' : Nat) {message : List UInt8}
    {ps : List Property} {p : Property} {b : BinaryData}
    (hmessage : self.message = some message) (hlist : self.properties.toList = ps ++ [p])
    (hvalue : p.value = some (.binary b)) (hb : ∀ q ∈ ps, ¬ q.IsBinary)
    (htype : PacketType.ofU8 self.fixedHeader = .publish) (htopic : self.topicName.Exact)
    (hprops : Announced self.propertyLen self.properties.toList)
    (hmax : (self.body message).length ≤ 268435455) (buffer : List UInt8) (bufferLen : Nat)
    (hbuf : bufferLen ≤ buffer.length)
    (hroom : (frame self.fixedHeader (self.body message)).length ≤ bufferLen) :
    ∃ n buf r, self.encode buffer bufferLen = (.ok n, buf) ∧
      decode (.new : PublishPacket cap') (.new buf n) =
        (.ok { self.received message with message := some (b.bin ++ message) }, r) := by
  have hwrites := writes_write hmessage (Nat.le_of_eq htopic) hprops hmax
  obtain ⟨buf, hok, htake, -⟩ := (encodes_of_writes hwrites).fits buffer bufferLen hbuf hroom
  obtain ⟨r, hr⟩ := decodes_correlationData hlist hvalue hb htype htopic hprops hmax buf _
    (length_of_take_eq htake) htake
  exact ⟨_, buf, r, hok, hr⟩

/-- A PUBLISH with correlation data. -/
def correlatedPublish : PublishPacket 1 where
  fixedHeader := 0x32
  remainLen := 0
  topicName := ⟨"soc", 3⟩
  packetIdentifier := 7
  propertyLen := 5
  properties := ⟨[.correlationData ⟨[8, 9], 2⟩], Nat.le_refl 1⟩
  message := some [1, 2]

theorem decode_correlatedPublish :
    ∃ n buf r, correlatedPublish.encode (List.replicate 30 0) 30 = (.ok n, buf) ∧
      decode (.new : PublishPacket 5) (.new buf n) =
        (.ok { correlatedPublish.received [1, 2] with message := some [8, 9, 1, 2] }, r) := by
  refine @decode_correlationData 1 correlatedPublish 5 [1, 2] [] (.correlationData ⟨[8, 9], 2⟩)
    ⟨[8, 9], 2⟩ rfl rfl rfl (fun _ h => absurd h List.not_mem_nil) (by decide)
    (by decide +kernel : (3 : UInt16).toNat = (asBytes "soc").length) ?_ (by decide +kernel)
    (List.replicate 30 0) 30 (by decide) (by decide +kernel)
  constructor
  · intro p hp
    rw [List.mem_singleton.mp hp]
    exact ⟨⟨.binary ⟨[8, 9], 2⟩, rfl, rfl⟩, by decide⟩
  · decide

end PublishPacket

end Toucan.Mqtt
