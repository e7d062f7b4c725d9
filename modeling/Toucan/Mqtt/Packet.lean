import Toucan.Mqtt.Property

/-!
# Toucan.Mqtt.Packet

The control packets of the MQTT client (`rust-mqtt`, `packet/v5`), except for PUBLISH
and those with a will or topic filters.

A packet is a `frame`: its first byte, the length of the rest, and the rest.  Every
`encode` computes that length from the fields, before it writes them; `writes_frame`
is what there is to show for each.
-/

namespace Toucan.Mqtt

open BuffWriter BuffReader

/-! ## `PacketType` -/

inductive PacketType where
  | reserved
  | connect
  | connack
  | publish
  | puback
  | pubrec
  | pubrel
  | pubcomp
  | subscribe
  | suback
  | unsubscribe
  | unsuback
  | pingreq
  | pingresp
  | disconnect
  | auth
deriving DecidableEq

namespace PacketType

/-- `PacketType::from` -/
def ofU8 (orig : UInt8) : PacketType :=
  match orig &&& 0xF0 with
  | 0x10 => .connect
  | 0x20 => .connack
  | 0x00 => .reserved
  | 0x30 => .publish
  | 0x40 => .puback
  | 0x50 => .pubrec
  | 0x60 => .pubrel
  | 0x70 => .pubcomp
  | 0x80 => .subscribe
  | 0x90 => .suback
  | 0xA0 => .unsubscribe
  | 0xB0 => .unsuback
  | 0xC0 => .pingreq
  | 0xD0 => .pingresp
  | 0xE0 => .disconnect
  | 0xF0 => .auth
  | _ => .reserved

/-- `u8::from` -/
def toU8 : PacketType → UInt8
  | .connect => 0x10
  | .connack => 0x20
  | .publish => 0x30
  | .puback => 0x40
  | .pubrec => 0x50
  | .pubrel => 0x62
  | .pubcomp => 0x70
  | .subscribe => 0x82
  | .suback => 0x90
  | .unsubscribe => 0xA2
  | .unsuback => 0xB0
  | .pingreq => 0xC0
  | .pingresp => 0xD0
  | .disconnect => 0xE0
  | .auth => 0xF0
  | .reserved => 0x00

theorem ofU8_toU8 (t : PacketType) : ofU8 t.toU8 = t := by
  cases t <;> rfl

end PacketType

/-! ## Encoding and decoding -/

/-- `encode` of a packet: a writer on a buffer of `bufferLen`; what it returns, and the
buffer. -/
def encodeWith (m : Method BuffWriter Fault Unit) (buffer : List UInt8) (bufferLen : Nat) :
    Except Fault Nat × List UInt8 :=
  match m (.new buffer bufferLen) with
  | (.ok (), w) => (.ok w.position, w.buffer)
  | (.error e, w) => (.error e, w.buffer)

/-- How many bytes the length of the properties takes. -/
def propertyLenLen (propertyLen : UInt32) : Except Fault UInt32 := do
  let propertyLenEnc ← VariableByteIntegerEncoder.encode propertyLen
  let n ← VariableByteIntegerEncoder.len propertyLenEnc
  return UInt32.ofNat n

/-- `decode_fixed_header`: what is set in the packet. -/
def decodeFixedHeader : Method BuffReader Fault (UInt8 × UInt32) := do
  let firstByte ← readU8
  let remainingLen ← readVariableByteInt
  return (firstByte, remainingLen)

/-! ## Acknowledgements -/

/-- PUBACK, PUBREC, PUBREL and PUBCOMP have the same fields. -/
structure AckPacket (cap : Nat) where
  fixedHeader : UInt8
  remainLen : UInt32
  packetIdentifier : UInt16
  reasonCode : UInt8
  propertyLen : UInt32
  properties : BoundedVec Property cap
deriving DecidableEq

namespace AckPacket

def withHeader (fixedHeader : UInt8) : AckPacket cap := ⟨fixedHeader, 0, 0, 0, 0, .empty⟩

/-- `encode`, the same for the four. -/
def write (self : AckPacket cap) : Method BuffWriter Fault Unit := do
  let n ← ofExcept (propertyLenLen self.propertyLen)
  let rmLn := self.propertyLen + n + 3
  writeU8 self.fixedHeader
  writeVariableByteInt rmLn
  writeU16 self.packetIdentifier
  writeU8 self.reasonCode
  writeVariableByteInt self.propertyLen
  writeProperties self.properties.toList

def encode (self : AckPacket cap) := encodeWith self.write

/-- `decode` of PUBREC, PUBREL and PUBCOMP. -/
def decodeAs (type : PacketType) (self : AckPacket cap) :
    Method BuffReader Fault (AckPacket cap) := do
  let (fixedHeader, remainLen) ← decodeFixedHeader
  if PacketType.ofU8 fixedHeader ≠ type then ofExcept (.error (.error .packetTypeMismatch))
  else
    let packetIdentifier ← readU16
    let reasonCode ← readU8
    let (propertyLen, properties) ← decodeProperties self.properties
    return { fixedHeader, remainLen, packetIdentifier, reasonCode, propertyLen, properties }

end AckPacket

abbrev PubrecPacket := AckPacket
abbrev PubrelPacket := AckPacket
abbrev PubcompPacket := AckPacket
abbrev PubackPacket := AckPacket

def PubrecPacket.new : PubrecPacket cap := .withHeader PacketType.pubrec.toU8

def PubrecPacket.decode : PubrecPacket cap → Method BuffReader Fault (PubrecPacket cap) :=
  AckPacket.decodeAs .pubrec

/-- The only packet that does not start with its own type. -/
def PubrelPacket.new : PubrelPacket cap := .withHeader 0

def PubrelPacket.decode : PubrelPacket cap → Method BuffReader Fault (PubrelPacket cap) :=
  AckPacket.decodeAs .pubrel

def PubcompPacket.new : PubcompPacket cap := .withHeader PacketType.pubcomp.toU8

def PubcompPacket.decode : PubcompPacket cap → Method BuffReader Fault (PubcompPacket cap) :=
  AckPacket.decodeAs .pubcomp

def PubackPacket.new : PubackPacket cap := .withHeader PacketType.puback.toU8

/-- A PUBACK may leave out its properties, and its reason code before them. -/
def PubackPacket.decode (self : PubackPacket cap) :
    Method BuffReader Fault (PubackPacket cap) := do
  let (fixedHeader, remainLen) ← decodeFixedHeader
  if PacketType.ofU8 fixedHeader ≠ .puback then ofExcept (.error (.error .packetTypeMismatch))
  else
    let packetIdentifier ← readU16
    let reasonCode ← if remainLen ≠ 2 then readU8 else pure self.reasonCode
    let (propertyLen, properties) ←
      if remainLen < 4 then pure (0, self.properties) else decodeProperties self.properties
    return { fixedHeader, remainLen, packetIdentifier, reasonCode, propertyLen, properties }

/-! ## CONNACK -/

structure ConnackPacket (cap : Nat) where
  fixedHeader : UInt8
  remainLen : UInt32
  ackFlags : UInt8
  connectReasonCode : UInt8
  propertyLen : UInt32
  properties : BoundedVec Property cap
deriving DecidableEq

namespace ConnackPacket

def new : ConnackPacket cap := ⟨PacketType.connack.toU8, 0, 0, 0, 0, .empty⟩

def write (self : ConnackPacket cap) : Method BuffWriter Fault Unit := do
  writeU8 self.fixedHeader
  let n ← ofExcept (propertyLenLen self.propertyLen)
  let rmLen := 2 + self.propertyLen + n
  writeVariableByteInt rmLen
  writeU8 self.ackFlags
  writeU8 self.connectReasonCode
  writeVariableByteInt self.propertyLen
  writeProperties self.properties.toList

def encode (self : ConnackPacket cap) := encodeWith self.write

def decode (self : ConnackPacket cap) : Method BuffReader Fault (ConnackPacket cap) := do
  let (fixedHeader, remainLen) ← decodeFixedHeader
  if PacketType.ofU8 fixedHeader ≠ .connack then ofExcept (.error (.error .packetTypeMismatch))
  else
    let ackFlags ← readU8
    let connectReasonCode ← readU8
    let (propertyLen, properties) ← decodeProperties self.properties
    return { fixedHeader, remainLen, ackFlags, connectReasonCode, propertyLen, properties }

end ConnackPacket

/-! ## DISCONNECT and AUTH -/

structure DisconnectPacket (cap : Nat) where
  fixedHeader : UInt8
  remainLen : UInt32
  disconnectReason : UInt8
  propertyLen : UInt32
  properties : BoundedVec Property cap
deriving DecidableEq

namespace DisconnectPacket

def new : DisconnectPacket cap := ⟨PacketType.disconnect.toU8, 5, 0x00, 0, .empty⟩

def write (self : DisconnectPacket cap) : Method BuffWriter Fault Unit := do
  writeU8 self.fixedHeader
  let n ← ofExcept (propertyLenLen self.propertyLen)
  let rmLen := 1 + self.propertyLen + n
  writeVariableByteInt rmLen
  writeU8 self.disconnectReason
  writeVariableByteInt self.propertyLen
  writeProperties self.properties.toList

def encode (self : DisconnectPacket cap) := encodeWith self.write

def decode (self : DisconnectPacket cap) : Method BuffReader Fault (DisconnectPacket cap) := do
  let (fixedHeader, remainLen) ← decodeFixedHeader
  if PacketType.ofU8 fixedHeader ≠ .disconnect then
    ofExcept (.error (.error .wrongPacketToDecode))
  else if remainLen = 0 then
    return { self with fixedHeader, remainLen, disconnectReason := 0x00 }
  else
    let disconnectReason ← readU8
    let (propertyLen, properties) ← decodeProperties self.properties
    return { fixedHeader, remainLen, disconnectReason, propertyLen, properties }

end DisconnectPacket

structure AuthPacket (cap : Nat) where
  fixedHeader : UInt8
  remainLen : UInt32
  authReason : UInt8
  propertyLen : UInt32
  properties : BoundedVec Property cap
deriving DecidableEq

namespace AuthPacket

def new : AuthPacket cap := ⟨PacketType.auth.toU8, 0, 0x00, 0, .empty⟩

def write (self : AuthPacket cap) : Method BuffWriter Fault Unit := do
  let n ← ofExcept (propertyLenLen self.propertyLen)
  let rmLn := self.propertyLen + n + 1
  writeU8 self.fixedHeader
  writeVariableByteInt rmLn
  writeU8 self.authReason
  writeVariableByteInt self.propertyLen
  writeProperties self.properties.toList

def encode (self : AuthPacket cap) := encodeWith self.write

/-- The type of the packet is not looked at. -/
def decode (self : AuthPacket cap) : Method BuffReader Fault (AuthPacket cap) := do
  let (fixedHeader, remainLen) ← decodeFixedHeader
  let authReason ← readU8
  let (propertyLen, properties) ← decodeProperties self.properties
  return { fixedHeader, remainLen, authReason, propertyLen, properties }

end AuthPacket

/-! ## PINGREQ and PINGRESP -/

structure PingPacket where
  fixedHeader : UInt8
  remainLen : UInt32
deriving DecidableEq

abbrev PingreqPacket := PingPacket
abbrev PingrespPacket := PingPacket

def PingreqPacket.new : PingreqPacket := ⟨PacketType.pingreq.toU8, 0⟩

def PingreqPacket.write (self : PingreqPacket) : Method BuffWriter Fault Unit := do
  writeU8 self.fixedHeader
  writeVariableByteInt 0

def PingreqPacket.encode (self : PingreqPacket) := encodeWith (PingreqPacket.write self)

def PingrespPacket.new : PingrespPacket := ⟨PacketType.pingresp.toU8, 0⟩

def PingrespPacket.decode : Method BuffReader Fault PingrespPacket := do
  let (fixedHeader, remainLen) ← decodeFixedHeader
  if PacketType.ofU8 fixedHeader ≠ .pingresp then ofExcept (.error (.error .packetTypeMismatch))
  else if remainLen ≠ 0 then ofExcept (.error (.error .packetTypeMismatch))
  else return { fixedHeader, remainLen }

/-! ## SUBACK and UNSUBACK -/

/-- A vector of reason codes with one more, if there is room. -/
def pushReason (reasonCodes : BoundedVec UInt8 n) (code : UInt8) : BoundedVec UInt8 n :=
  (reasonCodes.push code).getD reasonCodes

structure SubackPacket (maxReasons cap : Nat) where
  fixedHeader : UInt8
  remainLen : UInt32
  packetIdentifier : UInt16
  propertyLen : UInt32
  properties : BoundedVec Property cap
  reasonCodes : BoundedVec UInt8 maxReasons
deriving DecidableEq

namespace SubackPacket

def new : SubackPacket n cap := ⟨PacketType.suback.toU8, 0, 0, 0, .empty, .empty⟩

/-- The loop of `read_reason_codes`, a byte a turn. -/
def readReasonCodesLoop (max : Nat) :
    Nat → BoundedVec UInt8 n → Method BuffReader Fault (BoundedVec UInt8 n)
  | 0, _ => ofExcept (.error (.error .insufficientBufferSize))
  | turns + 1, reasonCodes => do
    let code ← readU8
    let reasonCodes := pushReason reasonCodes code
    let position ← fun r => (.ok r.position, r)
    if position = max then return reasonCodes else readReasonCodesLoop max turns reasonCodes

def readReasonCodes (remainLen : UInt32) (reasonCodes : BoundedVec UInt8 n) :
    Method BuffReader Fault (BoundedVec UInt8 n) := do
  let rmLnLn ← ofExcept (propertyLenLen remainLen)
  let max := remainLen.toNat + rmLnLn.toNat + 1
  let position ← fun r => (.ok r.position, r)
  if position ≥ max then return reasonCodes
  else fun r => readReasonCodesLoop max (r.len - r.position + 1) reasonCodes r

def decode (self : SubackPacket n cap) : Method BuffReader Fault (SubackPacket n cap) := do
  let (fixedHeader, remainLen) ← decodeFixedHeader
  if PacketType.ofU8 fixedHeader ≠ .suback then ofExcept (.error (.error .packetTypeMismatch))
  else
    let packetIdentifier ← readU16
    let (propertyLen, properties) ← decodeProperties self.properties
    let reasonCodes ← readReasonCodes remainLen self.reasonCodes
    return { fixedHeader, remainLen, packetIdentifier, propertyLen, properties, reasonCodes }

end SubackPacket

abbrev UnsubackPacket := SubackPacket

namespace UnsubackPacket

def new : UnsubackPacket n cap := ⟨PacketType.unsuback.toU8, 0, 0, 0, .empty, .empty⟩

/-- The loop of `read_reason_codes`: `n` codes, whatever the length of the packet says, and
with `n = 0` as many as there are bytes. -/
def readReasonCodesLoop :
    Nat → Nat → BoundedVec UInt8 n → Method BuffReader Fault (BoundedVec UInt8 n)
  | 0, _, _ => ofExcept (.error (.error .insufficientBufferSize))
  | turns + 1, i, reasonCodes => do
    let code ← readU8
    let reasonCodes := pushReason reasonCodes code
    if i + 1 = n then return reasonCodes else readReasonCodesLoop turns (i + 1) reasonCodes

def decode (self : UnsubackPacket n cap) : Method BuffReader Fault (UnsubackPacket n cap) := do
  let (fixedHeader, remainLen) ← decodeFixedHeader
  if PacketType.ofU8 fixedHeader ≠ .unsuback then ofExcept (.error (.error .packetTypeMismatch))
  else
    let packetIdentifier ← readU16
    let (propertyLen, properties) ← decodeProperties self.properties
    let reasonCodes ← fun r =>
      readReasonCodesLoop (r.len - r.position + 1) 0 self.reasonCodes r
    return { fixedHeader, remainLen, packetIdentifier, propertyLen, properties, reasonCodes }

end UnsubackPacket

/-! ## Frames -/

/-- The first byte, the length of the rest, and the rest. -/
def frame (header : UInt8) (body : List UInt8) : List UInt8 :=
  header :: (VarInt.encode 4 body.length ++ body)

theorem length_frame (header : UInt8) (body : List UInt8) :
    (frame header body).length = 1 + (VarInt.encode 4 body.length).length + body.length := by
  rw [frame, List.length_cons, List.length_append]
  omega

theorem toNat_add {a b : UInt32} (h : a.toNat + b.toNat < 4294967296) :
    (a + b).toNat = a.toNat + b.toNat := by
  rw [UInt32.toNat_add]
  exact Nat.mod_eq_of_lt h

/-- A packet is written as a frame, when the length it computes is that of what follows. -/
theorem writes_frame {header : UInt8} {body : List UInt8} {rmLn : UInt32}
    {m : Method BuffWriter Fault Unit} (hlen : rmLn.toNat = body.length)
    (hmax : body.length ≤ 268435455) (hm : sheet.Writes full m body) :
    sheet.Writes full (do
      writeU8 header
      writeVariableByteInt rmLn
      m) (frame header body) := by
  have hint := writes_writeVariableByteInt (n := rmLn) (by omega)
  rw [hlen] at hint
  exact (writes_writeU8 header).bind (hint.bind hm)

theorem toNat_ofNat_of_le {n : Nat} (h : n ≤ 268435455) : (UInt32.ofNat n).toNat = n := by
  rw [UInt32.toNat_ofNat']
  exact Nat.mod_eq_of_lt (by omega)

/-- The header of a packet, whose length is written in any way. -/
theorem reads_decodeFixedHeader {header : UInt8} {code zeros : List UInt8}
    (h : VarInt.split 4 (code ++ zeros) = some (code, zeros)) :
    tape.Reads decodeFixedHeader (header :: code) (header, UInt32.ofNat (VarInt.value code)) :=
  (reads_readU8 header).bind
    (Tape.Reads.map (f := fun remainingLen => (header, remainingLen)) (reads_code h))

theorem reads_decodeFixedHeader_frame (header : UInt8) {n : Nat} (hn : n ≤ 268435455) :
    tape.Reads decodeFixedHeader (header :: VarInt.encode 4 n) (header, UInt32.ofNat n) := by
  have hval : VarInt.value (VarInt.encode 4 n) = n :=
    VarInt.value_encode (by rw [limit_four]; omega)
  have hreads : tape.Reads decodeFixedHeader (header :: VarInt.encode 4 n)
      (header, UInt32.ofNat (VarInt.value (VarInt.encode 4 n))) :=
    reads_decodeFixedHeader (split_encode hn [])
  rwa [hval] at hreads

/-! ### Properties in a frame -/

/-- The announced length is that of the properties. -/
structure Announced (propertyLen : UInt32) (ps : List Property) : Prop where
  sound : ∀ p ∈ ps, p.Sound
  toNat_eq : propertyLen.toNat = (propertyBytes ps).length

/-- The length of the properties, and the properties. -/
def propertyBlock (ps : List Property) : List UInt8 :=
  VarInt.encode 4 (propertyBytes ps).length ++ propertyBytes ps

section Block

variable {propertyLen : UInt32} {ps : List Property}

theorem propertyLenLen_eq (h : propertyLen.toNat ≤ 268435455) :
    propertyLenLen propertyLen =
      .ok (UInt32.ofNat (VarInt.encode 4 propertyLen.toNat).length) := by
  rw [propertyLenLen, encode_eq_ok h]
  show (do
    let n ← VariableByteIntegerEncoder.len (.ofBytes (VarInt.encode 4 propertyLen.toNat))
    return UInt32.ofNat n) = _
  rw [len_ofBytes (split_encode h [])]
  rfl

/-- What `encode` adds up for the properties. -/
theorem toNat_propertyLenLen (h : propertyLen.toNat = (propertyBytes ps).length)
    (hmax : (propertyBlock ps).length ≤ 268435455) :
    ∃ n, propertyLenLen propertyLen = .ok n ∧ n.toNat ≤ 4 ∧
      propertyLen.toNat + n.toNat = (propertyBlock ps).length := by
  have hblock : (propertyBlock ps).length =
      (VarInt.encode 4 propertyLen.toNat).length + propertyLen.toNat := by
    rw [propertyBlock, List.length_append, h]
  have hle := VarInt.length_encode_le 4 propertyLen.toNat
  refine ⟨_, propertyLenLen_eq (by omega), ?_, ?_⟩
  · rw [toNat_ofNat_of_le (by omega)]
    exact hle
  · rw [toNat_ofNat_of_le (by omega)]
    omega

theorem writes_propertyBlock (h : Announced propertyLen ps)
    (hmax : (propertyBlock ps).length ≤ 268435455) :
    sheet.Writes full (do
      writeVariableByteInt propertyLen
      writeProperties ps) (propertyBlock ps) := by
  have hle : propertyLen.toNat ≤ 268435455 := by
    rw [propertyBlock, List.length_append] at hmax
    rw [h.toNat_eq]
    omega
  have hint := writes_writeVariableByteInt hle
  rw [h.toNat_eq] at hint
  exact hint.bind (writes_writeProperties h.sound)

theorem reads_propertyBlock (self : BoundedVec Property cap) (h : Announced propertyLen ps)
    (hb : ∀ p ∈ ps, ¬ p.IsBinary) (hmax : (propertyBlock ps).length ≤ 268435455) :
    tape.Reads (decodeProperties self) (propertyBlock ps)
      (propertyLen, ps.foldl pushToProperties self) := by
  have hle : propertyLen.toNat ≤ 268435455 := by
    rw [propertyBlock, List.length_append] at hmax
    rw [h.toNat_eq]
    omega
  have hreads := reads_decodeProperties self (fun p hp => ⟨h.sound p hp, hb p hp⟩) h.toNat_eq hle
  rwa [h.toNat_eq] at hreads

end Block

/-! ### Encoding into a buffer -/

/-- Into a buffer with room for them `enc` writes `bytes`; in a smaller one it fails. -/
structure Encodes (enc : List UInt8 → Nat → Except Fault Nat × List UInt8)
    (bytes : List UInt8) : Prop where
  fits : ∀ buffer bufferLen, bufferLen ≤ buffer.length → bytes.length ≤ bufferLen →
    ∃ buf, enc buffer bufferLen = (.ok bytes.length, buf) ∧ buf.take bytes.length = bytes ∧
      buf.length = buffer.length
  full : ∀ buffer bufferLen, bufferLen ≤ buffer.length → bufferLen < bytes.length →
    ∃ buf, enc buffer bufferLen = (.error full, buf)

theorem encodes_of_writes {m : Method BuffWriter Fault Unit} {bytes : List UInt8}
    (h : sheet.Writes full m bytes) : Encodes (encodeWith m) bytes where
  fits := by
    intro buffer bufferLen hbuf hroom
    obtain ⟨w, hw, hwrote⟩ := (h _ (BuffWriter.valid_new hbuf)).1 hroom
    have hwritten : w.written = bytes := hwrote.written.trans (by simp [sheet])
    have hpos : w.position = bytes.length := by
      rw [← length_written hwrote.valid, hwritten]
    refine ⟨w.buffer, ?_, ?_, hwrote.extent⟩
    · rw [encodeWith, hw]
      simp only [hpos]
    · rw [← hpos]
      exact hwritten
  full := by
    intro buffer bufferLen hbuf hroom
    obtain ⟨w, hw⟩ := (h _ (BuffWriter.valid_new hbuf)).2 hroom
    exact ⟨w.buffer, by rw [encodeWith, hw]⟩

/-- `m` makes `a` of the packet `bytes`, whatever is behind it in the buffer. -/
def Decodes (m : Method BuffReader Fault α) (bytes : List UInt8) (a : α) : Prop :=
  ∀ buf n, n ≤ buf.length → buf.take n = bytes → ∃ r, m (.new buf n) = (.ok a, r)

theorem decodes_of_reads {m : Method BuffReader Fault α} {bytes : List UInt8} {a : α}
    (h : tape.Reads m bytes a) : Decodes m bytes a := by
  intro buf n hn hbuf
  obtain ⟨r, hr, -⟩ := h (.new buf n) [] (BuffReader.valid_new hn)
    (by rw [ahead_new, hbuf, List.append_nil])
  exact ⟨r, hr⟩

theorem length_of_take_eq {buf bytes : List UInt8} (h : buf.take bytes.length = bytes) :
    bytes.length ≤ buf.length := by
  have hlen := congrArg List.length h
  rw [List.length_take] at hlen
  omega

end Toucan.Mqtt
