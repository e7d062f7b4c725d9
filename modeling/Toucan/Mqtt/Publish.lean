import Toucan.Mqtt.Packet

/-!
# Toucan.Mqtt.Publish

PUBLISH (`rust-mqtt`, `packet/v5/publish_packet.rs`).

The payload has no length of its own: it goes from behind the properties to the end
of the packet.  So whatever keeps the cursor or the end from their places changes the
payload that is delivered -- data left behind in the properties
(`decode_correlationData`), a length that is not written in the shortest way
(`decode_code`).
-/

namespace Toucan.Mqtt

open HttpMessage BuffWriter BuffReader

/-! ## Quality of service -/

inductive QualityOfService where
  | qoS0
  | qoS1
  | qoS2
  | invalid
deriving DecidableEq

namespace QualityOfService

/-- `u8::from`: two bits of the first byte of a PUBLISH. -/
def toU8 : QualityOfService → UInt8
  | .qoS0 => 0
  | .qoS1 => 2
  | .qoS2 => 4
  | .invalid => 3

end QualityOfService

/-! ## The packet -/

structure PublishPacket (cap : Nat) where
  fixedHeader : UInt8
  remainLen : UInt32
  topicName : EncodedString
  packetIdentifier : UInt16
  propertyLen : UInt32
  properties : BoundedVec Property cap
  message : Option (List UInt8)
deriving DecidableEq

namespace PublishPacket

def new : PublishPacket cap := ⟨PacketType.publish.toU8, 0, .new, 1, 0, .empty, none⟩

def addTopicName (self : PublishPacket cap) (topicName : String) : PublishPacket cap :=
  { self with topicName := ⟨topicName, UInt16.ofNat (asBytes topicName).length⟩ }

def addMessage (self : PublishPacket cap) (message : List UInt8) : PublishPacket cap :=
  { self with message := some message }

def addQos (self : PublishPacket cap) (qos : QualityOfService) : PublishPacket cap :=
  { self with fixedHeader := self.fixedHeader ||| qos.toU8 }

def addRetain (self : PublishPacket cap) (retain : Bool) : PublishPacket cap :=
  { self with fixedHeader := self.fixedHeader ||| if retain then 1 else 0 }

def addIdentifier (self : PublishPacket cap) (identifier : UInt16) : PublishPacket cap :=
  { self with packetIdentifier := identifier }

/-- The two bits of the quality of service. -/
def qos (self : PublishPacket cap) : UInt8 := self.fixedHeader &&& 0x06

/-- The part of `encode` behind the length. -/
def writeBody (self : PublishPacket cap) (message : List UInt8) :
    Method BuffWriter Fault Unit := do
  writeStringRef self.topicName
  if self.qos ≠ 0 then writeU16 self.packetIdentifier
  writeVariableByteInt self.propertyLen
  writeProperties self.properties.toList
  insertRef (UInt32.ofNat message.length).toNat message

def write (self : PublishPacket cap) : Method BuffWriter Fault Unit := do
  let n ← ofExcept (propertyLenLen self.propertyLen)
  match self.message with
  | none => ofExcept (.error .panic)
  | some message =>
    let msgLen := UInt32.ofNat message.length
    let rmLn := self.propertyLen + n + msgLen + self.topicName.len.toUInt32 + 2
    writeU8 self.fixedHeader
    let rmLn := if self.qos ≠ 0 then rmLn + 2 else rmLn
    writeVariableByteInt rmLn
    self.writeBody message

def encode (self : PublishPacket cap) := encodeWith self.write

/-- `decode` up to the properties. -/
def decodeHead (self : PublishPacket cap) : Method BuffReader Fault (PublishPacket cap) := do
  let (fixedHeader, remainLen) ← decodeFixedHeader
  if PacketType.ofU8 fixedHeader ≠ .publish then ofExcept (.error (.error .packetTypeMismatch))
  else
    let topicName ← readString
    let qos := fixedHeader &&& 0x06
    let packetIdentifier ← if qos ≠ 0 then readU16 else pure self.packetIdentifier
    return { self with fixedHeader, remainLen, topicName, packetIdentifier }

/-- Where the packet ends, counted from its first byte: the length of the length is that of
its shortest form. -/
def totalLen (remainLen : UInt32) : Except Fault Nat := do
  let n ← propertyLenLen remainLen
  return n.toNat + 1 + remainLen.toNat

/-- `decode` from the properties on. -/
def decodeTail (self : PublishPacket cap) : Method BuffReader Fault (PublishPacket cap) := do
  let (propertyLen, properties) ← decodeProperties self.properties
  let n ← ofExcept (totalLen self.remainLen)
  fun r => match r.readMessage n with
    | some message => (.ok { self with propertyLen, properties, message := some message }, r)
    | none => (.error .panic, r)

def decode (self : PublishPacket cap) : Method BuffReader Fault (PublishPacket cap) := do
  let self ← self.decodeHead
  self.decodeTail

/-! ## What is written -/

/-- The packet before its properties. -/
def headBytes (self : PublishPacket cap) : List UInt8 :=
  self.topicName.bytes ++ if self.qos ≠ 0 then toBeBytes self.packetIdentifier else []

/-- The packet behind its length. -/
def body (self : PublishPacket cap) (message : List UInt8) : List UInt8 :=
  self.headBytes ++ propertyBlock self.properties.toList ++ message

theorem length_headBytes {self : PublishPacket cap} (h : self.topicName.Fits) :
    self.headBytes.length = self.topicName.len.toNat + 2 + if self.qos ≠ 0 then 2 else 0 := by
  rw [headBytes, List.length_append, EncodedString.length_bytes h]
  split <;> rfl

theorem writes_writeBody {self : PublishPacket cap} {message : List UInt8}
    (htopic : self.topicName.Fits) (hprops : Announced self.propertyLen self.properties.toList)
    (hmax : (self.body message).length ≤ 268435455) :
    sheet.Writes full (self.writeBody message) (self.body message) := by
  have hmsg : (UInt32.ofNat message.length).toNat = message.length := by
    rw [body, List.length_append] at hmax
    exact toNat_ofNat_of_le (by omega)
  have hblock : (propertyBlock self.properties.toList).length ≤ 268435455 := by
    rw [body, List.length_append, List.length_append] at hmax
    omega
  have hpayload : sheet.Writes full (insertRef (UInt32.ofNat message.length).toNat message)
      (message.take (UInt32.ofNat message.length).toNat) := writes_insertRef (Nat.le_of_eq hmsg)
  have hle : self.propertyLen.toNat ≤ 268435455 := by
    rw [propertyBlock, List.length_append] at hblock
    rw [hprops.toNat_eq]
    omega
  have hint := writes_writeVariableByteInt hle
  rw [hprops.toNat_eq] at hint
  rw [hmsg, List.take_length] at hpayload
  rw [body, headBytes, propertyBlock, List.append_assoc, List.append_assoc, List.append_assoc]
  apply (writes_writeStringRef htopic).bind
  by_cases hqos : self.qos ≠ 0
  · simp only [if_pos hqos]
    rw [hmsg]
    exact (writes_writeU16 _).bind (hint.bind ((writes_writeProperties hprops.sound).bind hpayload))
  · simp only [if_neg hqos, List.nil_append]
    rw [hmsg]
    exact hint.bind ((writes_writeProperties hprops.sound).bind hpayload)

/-- **PUBLISH on the wire**: the length that is computed before is that of what follows. -/
theorem writes_write {self : PublishPacket cap} {message : List UInt8}
    (hmessage : self.message = some message) (htopic : self.topicName.Fits)
    (hprops : Announced self.propertyLen self.properties.toList)
    (hmax : (self.body message).length ≤ 268435455) :
    sheet.Writes full self.write (frame self.fixedHeader (self.body message)) := by
  have hlen : (self.body message).length = self.topicName.len.toNat + 2 +
      (if self.qos ≠ 0 then 2 else 0) + (propertyBlock self.properties.toList).length +
        message.length := by
    rw [body, List.length_append, List.length_append, length_headBytes htopic]
  obtain ⟨n, hn, -, hsum⟩ := toNat_propertyLenLen hprops.toNat_eq (by omega)
  have hmsg : (UInt32.ofNat message.length).toNat = message.length :=
    toNat_ofNat_of_le (by omega)
  have hrm : (self.propertyLen + n + UInt32.ofNat message.length + self.topicName.len.toUInt32 +
      2).toNat = (propertyBlock self.properties.toList).length + message.length +
        self.topicName.len.toNat + 2 := by
    have htwo : (2 : UInt32).toNat = 2 := rfl
    have htopic' : self.topicName.len.toUInt32.toNat = self.topicName.len.toNat :=
      UInt16.toNat_toUInt32 _
    have hprops' := toNat_add (a := self.propertyLen) (b := n) (by omega)
    have hmsg' := toNat_add (a := self.propertyLen + n) (b := UInt32.ofNat message.length)
      (by omega)
    have hname := toNat_add (a := self.propertyLen + n + UInt32.ofNat message.length)
      (b := self.topicName.len.toUInt32) (by omega)
    rw [toNat_add (by omega)]
    omega
  rw [write, hn, ofExcept_ok_bind, hmessage]
  apply writes_frame _ hmax (writes_writeBody htopic hprops hmax)
  by_cases hqos : self.qos ≠ 0
  · simp only [if_pos hqos] at hlen ⊢
    have htwo : (2 : UInt32).toNat = 2 := rfl
    rw [toNat_add (by omega), hrm]
    omega
  · simp only [if_neg hqos] at hlen ⊢
    omega

/-! ## What is read -/

variable {self : PublishPacket cap} {r r' : BuffReader}

/-- What the head of a packet, with its length written in any way, sets in `self`. -/
def withHead (self : PublishPacket cap) (header : UInt8) (remainLen : UInt32)
    (topicName : EncodedString) (identifier : UInt16) : PublishPacket cap :=
  { self with
    fixedHeader := header
    remainLen
    topicName
    packetIdentifier := if header &&& 0x06 ≠ 0 then identifier else self.packetIdentifier }

/-- The bytes of a head. -/
def headOf (header : UInt8) (code : List UInt8) (topicName : EncodedString)
    (identifier : UInt16) : List UInt8 :=
  header :: code ++ (topicName.bytes ++ if header &&& 0x06 ≠ 0 then toBeBytes identifier else [])

theorem reads_decodeHead (self : PublishPacket cap) {header : UInt8} {code zeros : List UInt8}
    {topicName : EncodedString} (identifier : UInt16)
    (hcode : VarInt.split 4 (code ++ zeros) = some (code, zeros))
    (htype : PacketType.ofU8 header = .publish) (htopic : topicName.Exact) :
    tape.Reads self.decodeHead (headOf header code topicName identifier)
      (self.withHead header (UInt32.ofNat (VarInt.value code)) topicName identifier) := by
  apply (reads_decodeFixedHeader hcode).bind
  simp only [htype, ne_eq, not_true_eq_false, if_false]
  apply (reads_readString htopic).bind
  by_cases hqos : header &&& 0x06 = 0
  · simp only [withHead, ne_eq, hqos, not_true_eq_false, if_false]
    exact Tape.Reads.pure _
  · simp only [withHead, ne_eq, hqos, not_false_eq_true, if_true]
    exact Tape.Reads.map (f := fun packetIdentifier => { self with
      fixedHeader := header
      remainLen := UInt32.ofNat (VarInt.value code)
      topicName
      packetIdentifier }) (reads_readU16 identifier)

theorem totalLen_eq {remainLen : UInt32} (h : remainLen.toNat ≤ 268435455) :
    totalLen remainLen =
      .ok ((VarInt.encode 4 remainLen.toNat).length + 1 + remainLen.toNat) := by
  have hle := VarInt.length_encode_le 4 remainLen.toNat
  rw [totalLen, propertyLenLen_eq h]
  show Except.ok ((UInt32.ofNat (VarInt.encode 4 remainLen.toNat).length).toNat + 1 +
    remainLen.toNat) = _
  rw [toNat_ofNat_of_le (by omega)]

/-- The payload is what is between the cursor and the computed end; an end before the cursor
is a panic. -/
theorem decodeTail_eq (self : PublishPacket cap) {propertyLen : UInt32}
    {properties : BoundedVec Property cap} {n : Nat}
    (hprops : decodeProperties self.properties r = (.ok (propertyLen, properties), r'))
    (hr : tape.valid r') (hn : totalLen self.remainLen = .ok n) :
    (r'.position ≤ n → self.decodeTail r =
      (.ok { self with
        propertyLen
        properties
        message := some ((tape.ahead r').take (n - r'.position)) }, r')) ∧
    (n < r'.position → self.decodeTail r = (.error .panic, r')) := by
  have htail : self.decodeTail r = (match r'.readMessage n with
      | some message => (.ok { self with propertyLen, properties, message := some message }, r')
      | none => (.error .panic, r')) := by
    rw [decodeTail, Method.bind_of_ok hprops]
    simp only
    rw [hn]
    rfl
  rw [htail]
  constructor
  · intro hle
    rw [readMessage_eq hr hle]
  · intro hlt
    rw [readMessage_eq_none hr hlt]

/-- The packet that is decoded. -/
def withTail (self : PublishPacket cap) (propertyLen : UInt32) (ps : List Property)
    (message : List UInt8) : PublishPacket cap :=
  { self with
    propertyLen
    properties := ps.foldl pushToProperties self.properties
    message := some message }

/-- How many bytes the length of a packet takes more than it had to. -/
def excess (code : List UInt8) : Nat :=
  code.length - (VarInt.encode 4 (VarInt.value code)).length

/-- A reader of a whole packet. -/
theorem ahead_packet {buf packet : List UInt8} {n : Nat} (hn : n ≤ buf.length)
    (hbuf : buf.take n = packet) :
    tape.valid (BuffReader.new buf n) ∧ tape.ahead (BuffReader.new buf n) = packet ∧
      n = packet.length := by
  refine ⟨BuffReader.valid_new hn, hbuf, ?_⟩
  rw [← hbuf, List.length_take, Nat.min_eq_left hn]

/-- The cursor of a reader of `n` bytes, and what it has left. -/
theorem position_add_length {buf xs : List UInt8} {n : Nat} (hn : n ≤ buf.length)
    (h : tape.Moved (.new buf n) xs r) : r.position + (tape.ahead r).length = n := by
  have hwhole := congrArg List.length h.whole
  rw [List.length_append, length_behind h.valid, behind_new, List.nil_append, ahead_new,
    List.length_take, Nat.min_eq_left hn] at hwhole
  exact hwhole

/-- A PUBLISH whose length is written in `code`: for every byte that `code` is longer than it
had to be, the payload loses one at its end, and where there is none left to lose the
decoder panics. -/
theorem decode_code (self : PublishPacket cap) {header : UInt8} {code zeros message : List UInt8}
    {topicName : EncodedString} {propertyLen : UInt32} {ps : List Property} {buf : List UInt8}
    {n : Nat} (identifier : UInt16) (hn : n ≤ buf.length)
    (hbuf : buf.take n = headOf header code topicName identifier ++ propertyBlock ps ++ message)
    (hcode : VarInt.split 4 (code ++ zeros) = some (code, zeros))
    (hvalue : VarInt.value code + 1 + code.length = n)
    (htype : PacketType.ofU8 header = .publish) (htopic : topicName.Exact)
    (hprops : Announced propertyLen ps) (hb : ∀ p ∈ ps, ¬ p.IsBinary) :
    (excess code ≤ message.length → ∃ r, self.decode (.new buf n) =
      (.ok ((self.withHead header (UInt32.ofNat (VarInt.value code)) topicName
        identifier).withTail propertyLen ps (message.take (message.length - excess code))), r)) ∧
    (message.length < excess code → ∃ r, self.decode (.new buf n) = (.error .panic, r)) := by
  have hlimit := VarInt.value_lt_of_split hcode
  rw [limit_four] at hlimit
  obtain ⟨hr, hs, hlen⟩ := ahead_packet hn hbuf
  have hblock : (propertyBlock ps).length ≤ 268435455 := by
    rw [List.length_append, List.length_append, headOf, List.length_append, List.length_cons]
      at hlen
    omega
  rw [List.append_assoc] at hs
  obtain ⟨r₁, hhead, hmoved⟩ := reads_decodeHead self identifier hcode htype htopic _ _ hr hs
  obtain ⟨r₂, hread, hmoved'⟩ := reads_propertyBlock self.properties hprops hb hblock r₁ message
    hmoved.valid (hmoved.ahead_eq hs)
  have hahead : tape.ahead r₂ = message := hmoved'.ahead_eq (hmoved.ahead_eq hs)
  have hpos := position_add_length hn (hmoved.trans hmoved')
  rw [hahead] at hpos
  have htotal : totalLen (self.withHead header (UInt32.ofNat (VarInt.value code)) topicName
      identifier).remainLen = .ok (n - excess code) := by
    have hshort := VarInt.length_encode_value_le hcode
    have hnat : (UInt32.ofNat (VarInt.value code)).toNat = VarInt.value code :=
      toNat_ofNat_of_le (by omega)
    show totalLen (UInt32.ofNat (VarInt.value code)) = _
    rw [totalLen_eq (by omega), hnat, excess]
    congr 1
    omega
  have hdecode : self.decode (.new buf n) = (self.withHead header
      (UInt32.ofNat (VarInt.value code)) topicName identifier).decodeTail r₁ :=
    Method.bind_of_ok hhead
  obtain ⟨hok, hpanic⟩ := decodeTail_eq (self.withHead header (UInt32.ofNat (VarInt.value code))
    topicName identifier) hread hmoved'.valid htotal
  constructor
  · intro hle
    refine ⟨r₂, ?_⟩
    rw [hdecode, hok (by omega), hahead, withTail]
    have hcut : n - excess code - r₂.position = message.length - excess code := by omega
    rw [hcut]
    rfl
  · intro hlt
    have hexcess : excess code ≤ code.length := Nat.sub_le _ _
    exact ⟨r₂, by rw [hdecode, hpanic (by omega)]⟩

/-- The end of a packet whose length is written in the shortest way. -/
theorem totalLen_frame (header : UInt8) {body : List UInt8} (hmax : body.length ≤ 268435455) :
    totalLen (UInt32.ofNat body.length) = .ok (frame header body).length := by
  have hnat := toNat_ofNat_of_le hmax
  rw [totalLen_eq (by omega), hnat, length_frame]
  congr 1
  omega

end PublishPacket

end Toucan.Mqtt
