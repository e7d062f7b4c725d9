import Toucan.Lib.BoundedVec
import Toucan.Mqtt.Buffer

/-!
# Toucan.Mqtt.Property

The properties of MQTT packets (`rust-mqtt`, `packet/v5/property.rs`), and what
packets do with lists of them (`packet/v5/mqtt_packet.rs`).

A property is an identifier and a value of one of seven shapes, so what holds of the
27 kinds is proved of the shapes.  The reader of a list counts the lengths of what it
read up to the announced one; it takes up what the writer put down, except for
properties with binary data (`reads_decodeProperties`).
-/

namespace Toucan.Mqtt

open HttpMessage BuffWriter BuffReader

/-! ## Shapes -/

/-- The value of a property, by what it is on the wire. -/
inductive Value where
  | byte (u : UInt8)
  | word (u : UInt16)
  | long (u : UInt32)
  | varint (u : UInt32)
  | text (u : EncodedString)
  | pair (u : StringPair)
  | binary (u : BinaryData)
deriving DecidableEq

/-! ## Properties -/

inductive Property where
  | payloadFormat (u : UInt8)
  | messageExpiryInterval (u : UInt32)
  | contentType (u : EncodedString)
  | responseTopic (u : EncodedString)
  | correlationData (u : BinaryData)
  | subscriptionIdentifier (u : UInt32)
  | sessionExpiryInterval (u : UInt32)
  | assignedClientIdentifier (u : EncodedString)
  | serverKeepAlive (u : UInt16)
  | authenticationMethod (u : EncodedString)
  | authenticationData (u : BinaryData)
  | requestProblemInformation (u : UInt8)
  | willDelayInterval (u : UInt32)
  | requestResponseInformation (u : UInt8)
  | responseInformation (u : EncodedString)
  | serverReference (u : EncodedString)
  | reasonString (u : EncodedString)
  | receiveMaximum (u : UInt16)
  | topicAliasMaximum (u : UInt16)
  | topicAlias (u : UInt16)
  | maximumQoS (u : UInt8)
  | retainAvailable (u : UInt8)
  | userProperty (u : StringPair)
  | maximumPacketSize (u : UInt32)
  | wildcardSubscriptionAvailable (u : UInt8)
  | subscriptionIdentifierAvailable (u : UInt8)
  | sharedSubscriptionAvailable (u : UInt8)
  | reserved
deriving DecidableEq

namespace Property

/-- `u8::from` -/
def toU8 : Property → UInt8
  | .payloadFormat _ => 0x01
  | .messageExpiryInterval _ => 0x02
  | .contentType _ => 0x03
  | .responseTopic _ => 0x08
  | .correlationData _ => 0x09
  | .subscriptionIdentifier _ => 0x0B
  | .sessionExpiryInterval _ => 0x11
  | .assignedClientIdentifier _ => 0x12
  | .serverKeepAlive _ => 0x13
  | .authenticationMethod _ => 0x15
  | .authenticationData _ => 0x16
  | .requestProblemInformation _ => 0x17
  | .willDelayInterval _ => 0x18
  | .requestResponseInformation _ => 0x19
  | .responseInformation _ => 0x1A
  | .serverReference _ => 0x1C
  | .reasonString _ => 0x1F
  | .receiveMaximum _ => 0x21
  | .topicAliasMaximum _ => 0x22
  | .topicAlias _ => 0x23
  | .maximumQoS _ => 0x24
  | .retainAvailable _ => 0x25
  | .userProperty _ => 0x26
  | .maximumPacketSize _ => 0x27
  | .wildcardSubscriptionAvailable _ => 0x28
  | .subscriptionIdentifierAvailable _ => 0x29
  | .sharedSubscriptionAvailable _ => 0x2A
  | .reserved => 0x00

/-- The length of a subscription identifier; the `unwrap` panics above the largest one. -/
def subscriptionLen (u : UInt32) : Except Fault UInt16 :=
  match VariableByteIntegerEncoder.encode u with
  | .ok x => (VariableByteIntegerEncoder.len x).map UInt16.ofNat
  | .error _ => .error .panic

def encodedLen : Property → Except Fault UInt16
  | .payloadFormat _ => .ok 1
  | .messageExpiryInterval _ => .ok 4
  | .contentType u => .ok u.encodedLen
  | .responseTopic u => .ok u.encodedLen
  | .correlationData u => .ok u.encodedLen
  | .subscriptionIdentifier u => subscriptionLen u
  | .sessionExpiryInterval _ => .ok 4
  | .assignedClientIdentifier u => .ok u.encodedLen
  | .serverKeepAlive _ => .ok 2
  | .authenticationMethod u => .ok u.encodedLen
  | .authenticationData u => .ok u.encodedLen
  | .requestProblemInformation _ => .ok 1
  | .willDelayInterval _ => .ok 4
  | .requestResponseInformation _ => .ok 1
  | .responseInformation u => .ok u.encodedLen
  | .serverReference u => .ok u.encodedLen
  | .reasonString u => .ok u.encodedLen
  | .receiveMaximum _ => .ok 2
  | .topicAliasMaximum _ => .ok 2
  | .topicAlias _ => .ok 2
  | .maximumQoS _ => .ok 1
  | .retainAvailable _ => .ok 1
  | .userProperty u => .ok u.encodedLen
  | .maximumPacketSize _ => .ok 4
  | .wildcardSubscriptionAvailable _ => .ok 1
  | .subscriptionIdentifierAvailable _ => .ok 1
  | .sharedSubscriptionAvailable _ => .ok 1
  | .reserved => .ok 0

def encode : Property → Method BuffWriter Fault Unit
  | .payloadFormat u => writeU8 u
  | .messageExpiryInterval u => writeU32 u
  | .contentType u => writeStringRef u
  | .responseTopic u => writeStringRef u
  | .correlationData u => writeBinaryRef u
  | .subscriptionIdentifier u => writeVariableByteInt u
  | .sessionExpiryInterval u => writeU32 u
  | .assignedClientIdentifier u => writeStringRef u
  | .serverKeepAlive u => writeU16 u
  | .authenticationMethod u => writeStringRef u
  | .authenticationData u => writeBinaryRef u
  | .requestProblemInformation u => writeU8 u
  | .willDelayInterval u => writeU32 u
  | .requestResponseInformation u => writeU8 u
  | .responseInformation u => writeStringRef u
  | .serverReference u => writeStringRef u
  | .reasonString u => writeStringRef u
  | .receiveMaximum u => writeU16 u
  | .topicAliasMaximum u => writeU16 u
  | .topicAlias u => writeU16 u
  | .maximumQoS u => writeU8 u
  | .retainAvailable u => writeU8 u
  | .userProperty u => writeStringPairRef u
  | .maximumPacketSize u => writeU32 u
  | .wildcardSubscriptionAvailable u => writeU8 u
  | .subscriptionIdentifierAvailable u => writeU8 u
  | .sharedSubscriptionAvailable u => writeU8 u
  | .reserved => ofExcept (.error (.error .propertyNotFound))

/-- The value behind an identifier. -/
def decodeValue : UInt8 → Method BuffReader Fault Property
  | 0x01 => do return .payloadFormat (← readU8)
  | 0x02 => do return .messageExpiryInterval (← readU32)
  | 0x03 => do return .contentType (← readString)
  | 0x08 => do return .responseTopic (← readString)
  | 0x09 => do return .correlationData (← readBinary)
  | 0x0B => do return .subscriptionIdentifier (← readVariableByteInt)
  | 0x11 => do return .sessionExpiryInterval (← readU32)
  | 0x12 => do return .assignedClientIdentifier (← readString)
  | 0x13 => do return .serverKeepAlive (← readU16)
  | 0x15 => do return .authenticationMethod (← readString)
  | 0x16 => do return .authenticationData (← readBinary)
  | 0x17 => do return .requestProblemInformation (← readU8)
  | 0x18 => do return .willDelayInterval (← readU32)
  | 0x19 => do return .requestResponseInformation (← readU8)
  | 0x1A => do return .responseInformation (← readString)
  | 0x1C => do return .serverReference (← readString)
  | 0x1F => do return .reasonString (← readString)
  | 0x21 => do return .receiveMaximum (← readU16)
  | 0x22 => do return .topicAliasMaximum (← readU16)
  | 0x23 => do return .topicAlias (← readU16)
  | 0x24 => do return .maximumQoS (← readU8)
  | 0x25 => do return .retainAvailable (← readU8)
  | 0x26 => do return .userProperty (← readStringPair)
  | 0x27 => do return .maximumPacketSize (← readU32)
  | 0x28 => do return .wildcardSubscriptionAvailable (← readU8)
  | 0x29 => do return .subscriptionIdentifierAvailable (← readU8)
  | 0x2A => do return .sharedSubscriptionAvailable (← readU8)
  | _ => ofExcept (.error (.error .idNotFound))

def decode : Method BuffReader Fault Property := do
  let propertyIdentifier ← readU8
  decodeValue propertyIdentifier

def connectProperty : Property → Bool
  | .sessionExpiryInterval _ => true
  | .receiveMaximum _ => true
  | .maximumPacketSize _ => true
  | .topicAliasMaximum _ => true
  | .requestResponseInformation _ => true
  | .requestProblemInformation _ => true
  | .userProperty _ => true
  | .authenticationMethod _ => true
  | .authenticationData _ => true
  | _ => false

end Property

namespace BuffWriter

def writeProperty (property : Property) : Method BuffWriter Fault Unit := do
  writeU8 property.toU8
  property.encode

/-- Writes all properties from the `properties` Vec into the buffer. -/
def writeProperties (properties : List Property) : Method BuffWriter Fault Unit :=
  properties.forM writeProperty

end BuffWriter

/-! ## Lists of properties in a packet -/

/-- `push_to_properties`: what does not fit is dropped. -/
def pushToProperties (properties : BoundedVec Property cap) (property : Property) :
    BoundedVec Property cap :=
  (properties.push property).getD properties

/-- The loop of `add_properties`: those the packet allows are pushed, and their lengths
summed up. -/
def addProperties (allowed : Property → Bool) :
    List Property → UInt32 → BoundedVec Property cap →
      Except Fault (UInt32 × BoundedVec Property cap)
  | [], res, self => .ok (res, self)
  | prop :: properties, res, self =>
    if allowed prop then
      match prop.encodedLen with
      | .ok n =>
        addProperties allowed properties (res + n.toUInt32 + 1) (pushToProperties self prop)
      | .error e => .error e
    else addProperties allowed properties res self

/-- The loop of `decode_properties`.  A turn takes at least one byte, so there are no more
turns than bytes. -/
def decodePropertiesLoop (propertyLen : UInt32) :
    Nat → UInt32 → BoundedVec Property cap → Method BuffReader Fault (BoundedVec Property cap)
  | 0, _, _ => ofExcept (.error (.error .insufficientBufferSize))
  | turns + 1, x, self => do
    let prop ← Property.decode
    let n ← ofExcept prop.encodedLen
    let x := x + n.toUInt32 + 1
    let self := pushToProperties self prop
    if x = propertyLen then return self else decodePropertiesLoop propertyLen turns x self

/-- `decode_properties`: the announced length and the properties. -/
def decodeProperties (self : BoundedVec Property cap) :
    Method BuffReader Fault (UInt32 × BoundedVec Property cap) := do
  let propertyLen ← readVariableByteInt
  if propertyLen ≠ 0 then
    let self ← fun r => decodePropertiesLoop propertyLen (r.len - r.position + 1) 0 self r
    return (propertyLen, self)
  else return (propertyLen, self)

/-! ## One property -/

namespace Value

/-- The length fields are those of the texts and data; an integer of variable length is not
too large. -/
def Exact : Value → Prop
  | .varint u => u.toNat ≤ 268435455
  | .text u => u.Exact
  | .pair u => u.name.Exact ∧ u.value.Exact
  | .binary u => u.Exact
  | _ => True

def IsBinary : Value → Prop
  | .binary _ => True
  | _ => False

def bytes : Value → List UInt8
  | .byte u => [u]
  | .word u => toBeBytes u
  | .long u => toBeBytes32 u
  | .varint u => VarInt.encode 4 u.toNat
  | .text u => u.bytes
  | .pair u => u.bytes
  | .binary u => u.bytes

def write : Value → Method BuffWriter Fault Unit
  | .byte u => writeU8 u
  | .word u => writeU16 u
  | .long u => writeU32 u
  | .varint u => writeVariableByteInt u
  | .text u => writeStringRef u
  | .pair u => writeStringPairRef u
  | .binary u => writeBinaryRef u

def encodedLen : Value → Except Fault UInt16
  | .byte _ => .ok 1
  | .word _ => .ok 2
  | .long _ => .ok 4
  | .varint u => Property.subscriptionLen u
  | .text u => .ok u.encodedLen
  | .pair u => .ok u.encodedLen
  | .binary u => .ok u.encodedLen

theorem writes_write {v : Value} (h : v.Exact) : sheet.Writes full v.write v.bytes := by
  cases v with
  | byte u => exact writes_writeU8 u
  | word u => exact writes_writeU16 u
  | long u => exact writes_writeU32 u
  | varint u => exact writes_writeVariableByteInt h
  | text u => exact writes_writeStringRef (Nat.le_of_eq h)
  | pair u => exact writes_writeStringPairRef (Nat.le_of_eq h.1) (Nat.le_of_eq h.2)
  | binary u => exact writes_writeBinaryRef (Nat.le_of_eq h)

theorem toNat_encodedLen {s : EncodedString} (h : s.Exact)
    (hlen : s.bytes.length < 65536) : s.encodedLen.toNat = s.bytes.length := by
  rw [EncodedString.length_bytes (Nat.le_of_eq h)] at hlen ⊢
  rw [EncodedString.encodedLen, UInt16.toNat_add]
  exact Nat.mod_eq_of_lt hlen

/-- The computed length is that of the bytes, when it is a `u16`. -/
theorem encodedLen_eq {v : Value} (h : v.Exact) (hlen : v.bytes.length < 65536) :
    v.encodedLen = .ok (UInt16.ofNat v.bytes.length) := by
  cases v with
  | byte u => rfl
  | word u => rfl
  | long u => simp only [encodedLen, bytes, length_toBeBytes32]; rfl
  | varint u =>
      simp only [encodedLen, Property.subscriptionLen, encode_eq_ok h,
        len_ofBytes (split_encode h [])]
      rfl
  | text u =>
      rw [encodedLen, bytes, ← toNat_encodedLen h hlen, UInt16.ofNat_toNat]
  | pair u =>
      have hbytes : u.bytes.length = u.name.bytes.length + u.value.bytes.length :=
        List.length_append
      have hsum : u.bytes.length < 65536 := hlen
      have hname := toNat_encodedLen h.1 (by omega)
      have hvalue := toNat_encodedLen h.2 (by omega)
      have hlen' : u.encodedLen.toNat = u.bytes.length := by
        rw [StringPair.encodedLen, UInt16.toNat_add, hname, hvalue, hbytes]
        exact Nat.mod_eq_of_lt (by omega)
      rw [encodedLen, bytes, ← hlen', UInt16.ofNat_toNat]
  | binary u =>
      have hbytes := BinaryData.length_bytes (Nat.le_of_eq h)
      have hsum : u.bytes.length < 65536 := hlen
      have hlen' : u.encodedLen.toNat = u.bytes.length := by
        rw [hbytes] at hsum
        rw [BinaryData.encodedLen, UInt16.toNat_add, hbytes]
        exact Nat.mod_eq_of_lt hsum
      rw [encodedLen, bytes, ← hlen', UInt16.ofNat_toNat]

end Value

namespace Property

/-- The value of a property. -/
def value : Property → Option Value
  | .payloadFormat u => some (.byte u)
  | .messageExpiryInterval u => some (.long u)
  | .contentType u => some (.text u)
  | .responseTopic u => some (.text u)
  | .correlationData u => some (.binary u)
  | .subscriptionIdentifier u => some (.varint u)
  | .sessionExpiryInterval u => some (.long u)
  | .assignedClientIdentifier u => some (.text u)
  | .serverKeepAlive u => some (.word u)
  | .authenticationMethod u => some (.text u)
  | .authenticationData u => some (.binary u)
  | .requestProblemInformation u => some (.byte u)
  | .willDelayInterval u => some (.long u)
  | .requestResponseInformation u => some (.byte u)
  | .responseInformation u => some (.text u)
  | .serverReference u => some (.text u)
  | .reasonString u => some (.text u)
  | .receiveMaximum u => some (.word u)
  | .topicAliasMaximum u => some (.word u)
  | .topicAlias u => some (.word u)
  | .maximumQoS u => some (.byte u)
  | .retainAvailable u => some (.byte u)
  | .userProperty u => some (.pair u)
  | .maximumPacketSize u => some (.long u)
  | .wildcardSubscriptionAvailable u => some (.byte u)
  | .subscriptionIdentifierAvailable u => some (.byte u)
  | .sharedSubscriptionAvailable u => some (.byte u)
  | .reserved => none

/-- What is written for a property: its identifier and its value. -/
def bytes (p : Property) : List UInt8 := p.toU8 :: (p.value.map Value.bytes).getD []

variable {p : Property} {v : Value}

theorem bytes_eq (h : p.value = some v) : p.bytes = [p.toU8] ++ v.bytes := by
  rw [bytes, h]
  rfl

theorem encode_eq (h : p.value = some v) : p.encode = v.write := by
  cases p <;> cases h <;> rfl

theorem writes_writeProperty (h : p.value = some v) (hv : v.Exact) :
    sheet.Writes full (writeProperty p) p.bytes := by
  rw [bytes_eq h]
  apply (writes_writeU8 p.toU8).bind
  rw [encode_eq h]
  exact Value.writes_write hv

theorem reads_decodeValue (h : p.value = some v) (hv : v.Exact) (hb : ¬ v.IsBinary) :
    tape.Reads (decodeValue p.toU8) v.bytes p := by
  cases p <;> cases h <;> first
    | exact (reads_readU8 _).map
    | exact (reads_readU16 _).map
    | exact (reads_readU32 _).map
    | exact (reads_readVariableByteInt hv).map
    | exact (reads_readString hv).map
    | exact (reads_readStringPair hv.1 hv.2).map
    | exact absurd trivial hb

/-- What is written for a property is read as the property. -/
theorem reads_decode (h : p.value = some v) (hv : v.Exact) (hb : ¬ v.IsBinary) :
    tape.Reads decode p.bytes p := by
  rw [bytes_eq h]
  exact (reads_readU8 p.toU8).bind (reads_decodeValue h hv hb)

/-- A property that can be written as it is counted. -/
structure Sound (p : Property) : Prop where
  value : ∃ v, p.value = some v ∧ v.Exact
  short : p.bytes.length ≤ 65536

/-- A property with data that the reader leaves behind. -/
def IsBinary (p : Property) : Prop := ∃ v, p.value = some v ∧ v.IsBinary

theorem Sound.writes (h : p.Sound) : sheet.Writes full (writeProperty p) p.bytes := by
  obtain ⟨v, hv, hexact⟩ := h.value
  exact writes_writeProperty hv hexact

theorem Sound.reads (h : p.Sound) (hb : ¬ p.IsBinary) : tape.Reads decode p.bytes p := by
  obtain ⟨v, hv, hexact⟩ := h.value
  exact reads_decode hv hexact fun hbin => hb ⟨v, hv, hbin⟩

theorem length_bytes_pos (p : Property) : 0 < p.bytes.length := Nat.succ_pos _

theorem encodedLen_eq_value (h : p.value = some v) : p.encodedLen = v.encodedLen := by
  cases p <;> cases h <;> rfl

/-- The computed length and the identifier are the bytes. -/
theorem Sound.exists_encodedLen (h : p.Sound) :
    ∃ n, p.encodedLen = .ok n ∧ n.toNat + 1 = p.bytes.length := by
  obtain ⟨v, hv, hexact⟩ := h.value
  have hshort := h.short
  have hlen : p.bytes.length = v.bytes.length + 1 := by
    rw [bytes_eq hv, List.length_append, List.length_singleton, Nat.add_comm]
  refine ⟨UInt16.ofNat v.bytes.length, ?_, ?_⟩
  · rw [encodedLen_eq_value hv, Value.encodedLen_eq hexact (by omega)]
  · rw [hlen, UInt16.toNat_ofNat', Nat.mod_eq_of_lt (show v.bytes.length < 65536 by omega)]

end Property

/-! ## Lists of properties -/

/-- The properties of a packet, one after the other. -/
def propertyBytes (ps : List Property) : List UInt8 := ps.flatMap Property.bytes

theorem propertyBytes_cons (p : Property) (ps : List Property) :
    propertyBytes (p :: ps) = p.bytes ++ propertyBytes ps := List.flatMap_cons

theorem length_le_length_propertyBytes (ps : List Property) :
    ps.length ≤ (propertyBytes ps).length := by
  induction ps with
  | nil => exact Nat.le_refl 0
  | cons p ps ih =>
      have hpos := p.length_bytes_pos
      rw [propertyBytes_cons, List.length_append, List.length_cons]
      omega

theorem writes_writeProperties {ps : List Property} (h : ∀ p ∈ ps, p.Sound) :
    sheet.Writes full (writeProperties ps) (propertyBytes ps) :=
  Sheet.Writes.forM fun p hp => (h p hp).writes

/-- One turn of the loop, whose count does not pass the announced length. -/
theorem decodePropertiesLoop_succ {p : Property} {propertyLen x : UInt32} {r r' : BuffReader}
    (turns : Nat) (self : BoundedVec Property cap) (hp : p.Sound)
    (hread : Property.decode r = (.ok p, r'))
    (hx : x.toNat + p.bytes.length ≤ propertyLen.toNat) :
    ∃ x' : UInt32, x'.toNat = x.toNat + p.bytes.length ∧
      decodePropertiesLoop propertyLen (turns + 1) x self r =
        if x' = propertyLen then (.ok (pushToProperties self p), r')
        else decodePropertiesLoop propertyLen turns x' (pushToProperties self p) r' := by
  obtain ⟨n, hn, hbytes⟩ := hp.exists_encodedLen
  have hlt := propertyLen.toNat_lt
  refine ⟨x + n.toUInt32 + 1, ?_, ?_⟩
  · rw [UInt32.toNat_add, UInt32.toNat_add, UInt16.toNat_toUInt32]
    rw [Nat.mod_eq_of_lt (show x.toNat + n.toNat < 4294967296 by omega), ← hbytes]
    exact Nat.mod_eq_of_lt (show x.toNat + n.toNat + 1 < 4294967296 by omega)
  · rw [decodePropertiesLoop, Method.bind_of_ok hread, hn, ofExcept_ok_bind]
    split <;> rfl

/-- The loop takes the properties before the last. -/
theorem decodePropertiesLoop_append {ps : List Property} {propertyLen x : UInt32} {r : BuffReader}
    {rest : List UInt8} (turns : Nat) (self : BoundedVec Property cap)
    (h : ∀ p ∈ ps, p.Sound ∧ ¬ p.IsBinary) (hr : tape.valid r)
    (hs : tape.ahead r = propertyBytes ps ++ rest)
    (hx : x.toNat + (propertyBytes ps).length < propertyLen.toNat) :
    ∃ (x' : UInt32) (r' : BuffReader), x'.toNat = x.toNat + (propertyBytes ps).length ∧
      tape.Moved r (propertyBytes ps) r' ∧
      decodePropertiesLoop propertyLen (ps.length + turns) x self r =
        decodePropertiesLoop propertyLen turns x' (ps.foldl pushToProperties self) r' := by
  induction ps generalizing x self r with
  | nil => exact ⟨x, r, rfl, Tape.Moved.refl hr, by rw [List.length_nil, Nat.zero_add]; rfl⟩
  | cons p ps ih =>
      obtain ⟨hsound, hbin⟩ := h p List.mem_cons_self
      rw [propertyBytes_cons, List.append_assoc] at hs
      rw [propertyBytes_cons, List.length_append] at hx
      obtain ⟨r₁, hread, hmoved⟩ := hsound.reads hbin r _ hr hs
      obtain ⟨x₁, hx₁, hturn⟩ := decodePropertiesLoop_succ (ps.length + turns) self hsound hread
        (show x.toNat + p.bytes.length ≤ propertyLen.toNat by omega)
      have hmore : x₁ ≠ propertyLen := by
        rintro rfl
        omega
      obtain ⟨x', r', hx', hmoved', hloop⟩ := ih (x := x₁) (pushToProperties self p)
        (fun q hq => h q (List.mem_cons_of_mem p hq)) hmoved.valid (hmoved.ahead_eq hs) (by omega)
      refine ⟨x', r', ?_, ?_, ?_⟩
      · rw [hx', hx₁, propertyBytes_cons, List.length_append, Nat.add_assoc]
      · rw [propertyBytes_cons]
        exact hmoved.trans hmoved'
      · have hlen : (p :: ps).length + turns = ps.length + turns + 1 := by
          rw [List.length_cons]
          omega
        rw [hlen, hturn, if_neg hmore, hloop]
        rfl

/-- The loop ends behind the property that completes the announced length, wherever its
reader leaves the cursor. -/
theorem decodePropertiesLoop_last {ps : List Property} {p : Property} {propertyLen : UInt32}
    {turns : Nat} {r : BuffReader} {rest : List UInt8} (self : BoundedVec Property cap)
    (h : ∀ q ∈ ps, q.Sound ∧ ¬ q.IsBinary) (hp : p.Sound) (hr : tape.valid r)
    (hs : tape.ahead r = propertyBytes ps ++ rest)
    (hlen : (propertyBytes ps).length + p.bytes.length = propertyLen.toNat)
    (hturns : ps.length < turns) :
    ∃ r', tape.Moved r (propertyBytes ps) r' ∧ ∀ r'', Property.decode r' = (.ok p, r'') →
      decodePropertiesLoop propertyLen turns 0 self r =
        (.ok ((ps ++ [p]).foldl pushToProperties self), r'') := by
  have hpos := p.length_bytes_pos
  obtain ⟨more, rfl⟩ : ∃ more, turns = ps.length + (more + 1) := ⟨turns - ps.length - 1, by omega⟩
  have hbefore : (0 : UInt32).toNat + (propertyBytes ps).length < propertyLen.toNat := by
    show 0 + _ < _
    omega
  obtain ⟨x', r', hx', hmoved, hloop⟩ := decodePropertiesLoop_append (more + 1) self h hr hs hbefore
  refine ⟨r', hmoved, fun r'' hread => ?_⟩
  have hx'' : x'.toNat = (propertyBytes ps).length := hx'.trans (Nat.zero_add _)
  obtain ⟨x₂, hx₂, hturn⟩ := decodePropertiesLoop_succ more (ps.foldl pushToProperties self) hp
    hread (show x'.toNat + p.bytes.length ≤ propertyLen.toNat by omega)
  have hdone : x₂ = propertyLen := by
    rw [← UInt32.toNat_inj]
    omega
  rw [hloop, hturn, if_pos hdone, List.foldl_append]
  rfl

theorem reads_decodePropertiesLoop {ps : List Property} {propertyLen : UInt32} {turns : Nat}
    (self : BoundedVec Property cap) (hne : ps ≠ []) (h : ∀ p ∈ ps, p.Sound ∧ ¬ p.IsBinary)
    (hlen : (propertyBytes ps).length = propertyLen.toNat) (hturns : ps.length ≤ turns) :
    tape.Reads (decodePropertiesLoop propertyLen turns 0 self) (propertyBytes ps)
      (ps.foldl pushToProperties self) := by
  obtain ⟨init, p, rfl⟩ : ∃ init p, ps = init ++ [p] :=
    ⟨ps.dropLast, ps.getLast hne, (List.dropLast_concat_getLast hne).symm⟩
  have hbytes : propertyBytes (init ++ [p]) = propertyBytes init ++ p.bytes := by
    simp [propertyBytes]
  obtain ⟨hp, hbin⟩ := h p (by simp)
  rw [hbytes] at hlen ⊢
  intro r rest hr hs
  rw [List.append_assoc] at hs
  rw [List.length_append] at hlen
  rw [List.length_append, List.length_singleton] at hturns
  obtain ⟨r', hmoved, hlast⟩ := decodePropertiesLoop_last (p := p) self
    (fun q hq => h q (List.mem_append_left [p] hq)) hp hr hs hlen hturns
  obtain ⟨r'', hread, hmoved'⟩ := hp.reads hbin r' rest hmoved.valid (hmoved.ahead_eq hs)
  exact ⟨r'', hlast r'' hread, hmoved.trans hmoved'⟩

/-- The list that was announced and written is read, as far as there is room for it. -/
theorem reads_decodeProperties {ps : List Property} {propertyLen : UInt32}
    (self : BoundedVec Property cap) (h : ∀ p ∈ ps, p.Sound ∧ ¬ p.IsBinary)
    (hlen : propertyLen.toNat = (propertyBytes ps).length) (hmax : propertyLen.toNat ≤ 268435455) :
    tape.Reads (decodeProperties self) (VarInt.encode 4 propertyLen.toNat ++ propertyBytes ps)
      (propertyLen, ps.foldl pushToProperties self) := by
  apply (reads_readVariableByteInt hmax).bind
  have hzero : propertyLen = 0 ↔ ps = [] := by
    have hle := length_le_length_propertyBytes ps
    rw [← UInt32.toNat_inj, hlen, ← List.length_eq_zero_iff]
    constructor
    · intro hz
      have hz' : (propertyBytes ps).length = 0 := hz
      omega
    · intro hnil
      rw [List.length_eq_zero_iff.mp hnil]
      rfl
  by_cases hnil : ps = []
  · rw [if_neg (not_not_intro (hzero.mpr hnil)), hnil]
    exact Tape.Reads.pure _
  · rw [if_pos (mt hzero.mp hnil)]
    refine Tape.Reads.map (f := fun self => (propertyLen, self)) ?_
    intro r rest hr hs
    have hroom := room_of_ahead hr hs
    have hle := length_le_length_propertyBytes ps
    have hturns : ps.length ≤ r.len - r.position + 1 := by omega
    exact reads_decodePropertiesLoop self hnil h hlen.symm hturns r rest hr hs

/-! ### Data in a list -/

/-- The two kinds of properties with binary data. -/
theorem decodeValue_binary {p : Property} {b : BinaryData} (h : p.value = some (.binary b))
    (hb : b.Exact) {r : BuffReader} {rest : List UInt8} (hr : tape.valid r)
    (hs : tape.ahead r = b.bytes ++ rest) :
    ∃ r', Property.decodeValue p.toU8 r = (.ok p, r') ∧ tape.Moved r (toBeBytes b.len) r' := by
  obtain ⟨r', hread, hmoved⟩ := reads_readBinary hb hr hs
  refine ⟨r', ?_, hmoved⟩
  cases p <;> cases h <;> exact Method.bind_of_ok hread

/-- Behind a list that ends in a property with data, the cursor is in front of the data. -/
theorem decodeProperties_binary {ps : List Property} {p : Property} {b : BinaryData}
    {propertyLen : UInt32} {r : BuffReader} {rest : List UInt8} (self : BoundedVec Property cap)
    (h : ∀ q ∈ ps, q.Sound ∧ ¬ q.IsBinary) (hp : p.Sound) (hvalue : p.value = some (.binary b))
    (hlen : propertyLen.toNat = (propertyBytes (ps ++ [p])).length)
    (hmax : propertyLen.toNat ≤ 268435455) (hr : tape.valid r)
    (hs : tape.ahead r =
      VarInt.encode 4 propertyLen.toNat ++ propertyBytes (ps ++ [p]) ++ rest) :
    ∃ r', decodeProperties self r =
        (.ok (propertyLen, (ps ++ [p]).foldl pushToProperties self), r') ∧
      tape.Moved r (VarInt.encode 4 propertyLen.toNat ++ (propertyBytes ps ++
        ([p.toU8] ++ toBeBytes b.len))) r' := by
  have hb : b.Exact := by
    obtain ⟨v, hv, hexact⟩ := hp.value
    rw [hvalue, Option.some.injEq] at hv
    rw [← hv] at hexact
    exact hexact
  have hbytes : propertyBytes (ps ++ [p]) = propertyBytes ps ++ ([p.toU8] ++ b.bytes) := by
    rw [propertyBytes, List.flatMap_append, List.flatMap_singleton, Property.bytes_eq hvalue]
    rfl
  have hpos := p.length_bytes_pos
  have hlen' : (propertyBytes ps).length + p.bytes.length = propertyLen.toNat := by
    rw [hlen, hbytes, List.length_append, Property.bytes_eq hvalue]
    rfl
  have hne : propertyLen ≠ 0 := by
    intro hzero
    have hzero' : propertyLen.toNat = 0 := by rw [hzero]; rfl
    omega
  rw [List.append_assoc] at hs
  obtain ⟨r₁, hread, hmoved⟩ := reads_readVariableByteInt hmax r _ hr hs
  have hs₁ := hmoved.ahead_eq hs
  have hroom := room_of_ahead hmoved.valid hs₁
  have hle := length_le_length_propertyBytes (ps ++ [p])
  rw [hbytes, List.append_assoc] at hs₁
  have hturns : ps.length < r₁.len - r₁.position + 1 := by
    rw [List.length_append, List.length_singleton] at hle
    omega
  obtain ⟨r₂, hmoved₂, hlast⟩ := decodePropertiesLoop_last self h hp hmoved.valid hs₁ hlen' hturns
  have hs₂ := hmoved₂.ahead_eq hs₁
  rw [List.append_assoc] at hs₂
  obtain ⟨r₃, hid, hmoved₃⟩ := reads_readU8 p.toU8 r₂ _ hmoved₂.valid hs₂
  obtain ⟨r₄, hdata, hmoved₄⟩ := decodeValue_binary hvalue hb hmoved₃.valid (hmoved₃.ahead_eq hs₂)
  have hdecode : Property.decode r₂ = (.ok p, r₄) := by
    rw [Property.decode, Method.bind_of_ok hid, hdata]
  refine ⟨r₄, ?_, hmoved.trans (hmoved₂.trans (hmoved₃.trans hmoved₄))⟩
  rw [decodeProperties, Method.bind_of_ok hread, if_pos hne]
  exact Method.bind_of_ok (hlast r₄ hdecode)

end Toucan.Mqtt
