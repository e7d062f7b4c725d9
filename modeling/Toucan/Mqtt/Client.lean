import Toucan.Lib.AsyncSpec
import Toucan.Mqtt.Connect

/-!
# Toucan.Mqtt.Client

The MQTT client (`rust-mqtt`, `client` and `network`): requests are encoded into a
buffer and sent, and `poll` takes one packet from the connection and says what it was.

The methods are modelled with their await points.  A read gets some of the bytes that
it asked for, or none at the end of the stream; a write may take less than it was
given, and `send` does not look at how much.  Tracing is left out.
-/

namespace Toucan.Mqtt

open HttpMessage Async

/-! ## Reason codes -/

inductive ReasonCode where
  | success
  | grantedQoS1
  | grantedQoS2
  | disconnectWithWillMessage
  | noMatchingSubscribers
  | noSubscriptionExisted
  | continueAuth
  | reAuthenticate
  | unspecifiedError
  | malformedPacket
  | protocolError
  | implementationSpecificError
  | unsupportedProtocolVersion
  | clientIdNotValid
  | badUserNameOrPassword
  | notAuthorized
  | serverUnavailable
  | serverBusy
  | banned
  | serverShuttingDown
  | badAuthMethod
  | keepAliveTimeout
  | sessionTakeOver
  | topicFilterInvalid
  | topicNameInvalid
  | packetIdentifierInUse
  | packetIdentifierNotFound
  | receiveMaximumExceeded
  | topicAliasInvalid
  | packetTooLarge
  | messageRateTooHigh
  | quotaExceeded
  | administrativeAction
  | payloadFormatInvalid
  | retainNotSupported
  | qoSNotSupported
  | useAnotherServer
  | serverMoved
  | sharedSubscriptionNotSupported
  | connectionRateExceeded
  | maximumConnectTime
  | subscriptionIdentifiersNotSupported
  | wildcardSubscriptionNotSupported
  | timerNotSupported
  | buffError
  | networkError
deriving DecidableEq

namespace ReasonCode

/-- `u8::from` -/
def toU8 : ReasonCode → UInt8
  | .success => 0x00
  | .grantedQoS1 => 0x01
  | .grantedQoS2 => 0x02
  | .disconnectWithWillMessage => 0x04
  | .noMatchingSubscribers => 0x10
  | .noSubscriptionExisted => 0x11
  | .continueAuth => 0x18
  | .reAuthenticate => 0x19
  | .unspecifiedError => 0x80
  | .malformedPacket => 0x81
  | .protocolError => 0x82
  | .implementationSpecificError => 0x83
  | .unsupportedProtocolVersion => 0x84
  | .clientIdNotValid => 0x85
  | .badUserNameOrPassword => 0x86
  | .notAuthorized => 0x87
  | .serverUnavailable => 0x88
  | .serverBusy => 0x89
  | .banned => 0x8A
  | .serverShuttingDown => 0x8B
  | .badAuthMethod => 0x8C
  | .keepAliveTimeout => 0x8D
  | .sessionTakeOver => 0x8E
  | .topicFilterInvalid => 0x8F
  | .topicNameInvalid => 0x90
  | .packetIdentifierInUse => 0x91
  | .packetIdentifierNotFound => 0x92
  | .receiveMaximumExceeded => 0x93
  | .topicAliasInvalid => 0x94
  | .packetTooLarge => 0x95
  | .messageRateTooHigh => 0x96
  | .quotaExceeded => 0x97
  | .administrativeAction => 0x98
  | .payloadFormatInvalid => 0x99
  | .retainNotSupported => 0x9A
  | .qoSNotSupported => 0x9B
  | .useAnotherServer => 0x9C
  | .serverMoved => 0x9D
  | .sharedSubscriptionNotSupported => 0x9E
  | .connectionRateExceeded => 0x9F
  | .maximumConnectTime => 0xA0
  | .subscriptionIdentifiersNotSupported => 0xA1
  | .wildcardSubscriptionNotSupported => 0xA2
  | .timerNotSupported => 0xFD
  | .buffError => 0xFE
  | .networkError => 0xFF

/-- `ReasonCode::from`; the code 0x9F is missing. -/
def ofU8 : UInt8 → ReasonCode
  | 0x00 => .success
  | 0x01 => .grantedQoS1
  | 0x02 => .grantedQoS2
  | 0x04 => .disconnectWithWillMessage
  | 0x10 => .noMatchingSubscribers
  | 0x11 => .noSubscriptionExisted
  | 0x18 => .continueAuth
  | 0x19 => .reAuthenticate
  | 0x80 => .unspecifiedError
  | 0x81 => .malformedPacket
  | 0x82 => .protocolError
  | 0x83 => .implementationSpecificError
  | 0x84 => .unsupportedProtocolVersion
  | 0x85 => .clientIdNotValid
  | 0x86 => .badUserNameOrPassword
  | 0x87 => .notAuthorized
  | 0x88 => .serverUnavailable
  | 0x89 => .serverBusy
  | 0x8A => .banned
  | 0x8B => .serverShuttingDown
  | 0x8C => .badAuthMethod
  | 0x8D => .keepAliveTimeout
  | 0x8E => .sessionTakeOver
  | 0x8F => .topicFilterInvalid
  | 0x90 => .topicNameInvalid
  | 0x91 => .packetIdentifierInUse
  | 0x92 => .packetIdentifierNotFound
  | 0x93 => .receiveMaximumExceeded
  | 0x94 => .topicAliasInvalid
  | 0x95 => .packetTooLarge
  | 0x96 => .messageRateTooHigh
  | 0x97 => .quotaExceeded
  | 0x98 => .administrativeAction
  | 0x99 => .payloadFormatInvalid
  | 0x9A => .retainNotSupported
  | 0x9B => .qoSNotSupported
  | 0x9C => .useAnotherServer
  | 0x9D => .serverMoved
  | 0x9E => .sharedSubscriptionNotSupported
  | 0xA0 => .maximumConnectTime
  | 0xA1 => .subscriptionIdentifiersNotSupported
  | 0xA2 => .wildcardSubscriptionNotSupported
  | 0xFD => .timerNotSupported
  | 0xFE => .buffError
  | _ => .networkError

end ReasonCode

/-! ## The network -/

/-- What the client awaits.  Where the number of turns of a loop is bounded in the model,
`unfinished` stands for the turns beyond; it has no answer. -/
inductive Io where
  | write (buffer : List UInt8)
  | read (n : Nat)
  | unfinished
deriving DecidableEq

/-- A write says how much it took, a read what it got. -/
abbrev Answer : Io → Type
  | .write _ => Except Unit Nat
  | .read n => Except Unit (BoundedVec UInt8 n)
  | .unfinished => Empty

/-! ## The configuration -/

/-- `CountingRng` -/
structure CountingRng where
  count : UInt64
deriving DecidableEq

/-- `next_u64`: from 1 to `u16::MAX` and around. -/
def CountingRng.next (rng : CountingRng) : CountingRng :=
  if rng.count + 1 > 65535 then ⟨1⟩ else ⟨rng.count + 1⟩

inductive MqttVersion where
  | mqttv3
  | mqttv5
deriving DecidableEq

structure ClientConfig (cap : Nat) where
  maxSubscribeQos : QualityOfService
  keepAlive : UInt16
  usernameFlag : Bool
  username : EncodedString
  passwordFlag : Bool
  password : BinaryData
  properties : BoundedVec Property cap
  maxPacketSize : UInt32
  mqttVersion : MqttVersion
  rng : CountingRng
  willFlag : Bool
  willTopic : EncodedString
  willPayload : BinaryData
  willRetain : Bool
  clientId : EncodedString
deriving DecidableEq

namespace ClientConfig

def new (version : MqttVersion) (rng : CountingRng) : ClientConfig cap where
  maxSubscribeQos := .qoS0
  keepAlive := 60
  usernameFlag := false
  username := .new
  passwordFlag := false
  password := .new
  properties := .empty
  maxPacketSize := 265000
  mqttVersion := version
  rng := rng
  willFlag := false
  willTopic := .new
  willPayload := .new
  willRetain := false
  clientId := .new

/-- A text with its length, cut to a `u16`. -/
def encodedString (s : String) : EncodedString := ⟨s, UInt16.ofNat (asBytes s).length⟩

def binaryData (bs : List UInt8) : BinaryData := ⟨bs, UInt16.ofNat bs.length⟩

def addWill (config : ClientConfig cap) (topic : String) (payload : List UInt8) (retain : Bool) :
    ClientConfig cap :=
  { config with
    willFlag := true
    willRetain := retain
    willTopic := encodedString topic
    willPayload := binaryData payload }

def addUsername (config : ClientConfig cap) (username : String) : ClientConfig cap :=
  { config with usernameFlag := true, username := encodedString username }

def addPassword (config : ClientConfig cap) (password : String) : ClientConfig cap :=
  { config with passwordFlag := true, password := binaryData (asBytes password) }

def addClientId (config : ClientConfig cap) (clientId : String) : ClientConfig cap :=
  { config with clientId := encodedString clientId }

/-- Method encode the `max_packet_size` attribute as property to the properties Vec. -/
def addMaxPacketSizeAsProp (config : ClientConfig cap) : ClientConfig cap :=
  { config with
    properties := pushToProperties config.properties (.maximumPacketSize config.maxPacketSize) }

end ClientConfig

/-! ## The client -/

/-- `RawMqttClient`; of the connection only whether it is there. -/
structure RawMqttClient (cap : Nat) where
  connection : Bool
  buffer : List UInt8
  bufferLen : Nat
  recvBuffer : List UInt8
  recvBufferLen : Nat
  config : ClientConfig cap

/-- A client on a new connection. -/
def RawMqttClient.new (buffer : List UInt8) (bufferLen : Nat) (recvBuffer : List UInt8)
    (recvBufferLen : Nat) (config : ClientConfig cap) : RawMqttClient cap where
  connection := true
  buffer := buffer
  bufferLen := bufferLen
  recvBuffer := recvBuffer
  recvBufferLen := recvBufferLen
  config := config

/-- What a packet from the broker means. -/
inductive Event where
  | connack
  | puback (identifier : UInt16)
  | suback (identifier : UInt16)
  | unsuback (identifier : UInt16)
  | pingresp
  | message (topic : String) (payload : List UInt8)
  | disconnect (reason : ReasonCode)
deriving DecidableEq

/-- A method of the client. -/
abbrev ClientM (cap : Nat) := Async (RawMqttClient cap) ReasonCode Answer

namespace RawMqttClient

/-- More turns than the model follows. -/
def unfinished : ClientM cap α := do
  let never ← await .unfinished
  nomatch never

/-- `map_err(|_| ReasonCode::NetworkError)?` -/
def orNetworkError : Except Unit α → ClientM cap α
  | .ok a => pure a
  | .error () => fail .networkError

/-- Send the data from `buffer` via TCP connection. -/
def send (buffer : List UInt8) : ClientM cap Unit := do
  let _ ← orNetworkError (← await (.write buffer))

/-- Receive data to a buffer of `n` bytes. -/
def receive (n : Nat) : ClientM cap (List UInt8) := do
  let got ← orNetworkError (← await (.read n))
  return got.toList

/-- A result of the buffers: an error is `BuffError`. -/
def orBuffError : Except Fault α → ClientM cap α
  | .ok a => pure a
  | .error (.error _) => fail .buffError
  | .error .panic => panic

/-! ### `receive_packet` -/

/-- Read into `recv_buffer` from `position` on, `n` bytes at most: how many were read. -/
def receiveAt (position n : Nat) : ClientM cap Nat := do
  let recvBuffer ← gets (·.recvBuffer)
  if position + n > recvBuffer.length then panic
  else
    let got ← receive n
    modify fun c => { c with
      recvBuffer := recvBuffer.take position ++ got ++ recvBuffer.drop (position + got.length) }
    return got.length

/-- `writer.insert_ref(len, &recv_buffer[from..to])` -/
def insertReceived (writer : BuffWriter) (len start stop : Nat) : ClientM cap BuffWriter := do
  let recvBuffer ← gets (·.recvBuffer)
  if start > stop ∨ stop > recvBuffer.length then panic
  else
    match BuffWriter.insertRef len ((recvBuffer.take stop).drop start) writer with
    | (.ok (), writer) =>
      modify fun c => { c with buffer := writer.buffer }
      return writer
    | (.error e, _) => orBuffError (.error e)

/-- The first loop, a byte a turn: the first byte and the length. -/
def receiveHeader : Nat → BuffWriter → Nat → ClientM cap (BuffWriter × Nat × VariableByteInteger)
  | 0, _, _ => unfinished
  | turns + 1, writer, i => do
    let len ← receiveAt writer.position 1
    if len = 0 then fail .networkError
    else
      let i := i + len
      let writer ← insertReceived writer len writer.position i
      if i > 1 then
        match writer.getRemLen with
        | some remLen => return (writer, i, remLen)
        | none => if i ≥ 5 then fail .networkError else receiveHeader turns writer i
      else receiveHeader turns writer i

/-- The second loop: as many bytes as the length says.  The end of the stream is not
noticed here. -/
def receiveBody (targetLen remLenLen : Nat) : Nat → BuffWriter → Nat → ClientM cap Nat
  | turns, writer, i =>
    if writer.position = targetLen + remLenLen then return targetLen + remLenLen
    else match turns with
      | 0 => unfinished
      | turns + 1 => do
        let len ← receiveAt writer.position (targetLen - i)
        let i := i + len
        let writer ← insertReceived writer len writer.position (writer.position + i)
        receiveBody targetLen remLenLen turns writer i

/-- One packet into `buffer`; its length.  The first loop has five turns at most, the second
`turns` here. -/
def receivePacket (turns : Nat) : ClientM cap Nat := do
  let buffer ← gets (·.buffer)
  let bufferLen ← gets (·.bufferLen)
  let (writer, remLenLen, remLen) ← receiveHeader 5 (.new buffer bufferLen) 0
  let targetLen ← orBuffError (VariableByteIntegerDecoder.decode remLen)
  receiveBody targetLen.toNat remLenLen turns writer 0

/-! ### `poll` -/

/-- Decode the packet of `read` bytes in `buffer`. -/
def decodeBuffer (m : Method BuffReader Fault α) (read : Nat) : ClientM cap α := do
  let buffer ← gets (·.buffer)
  orBuffError (m (.new buffer read)).1

/-- A PUBACK is put together in `recv_buffer`. -/
def sendPuback (identifier : UInt16) : ClientM cap Unit := do
  let recvBuffer ← gets (·.recvBuffer)
  let recvBufferLen ← gets (·.recvBufferLen)
  let puback : PubackPacket cap :=
    { PubackPacket.new with packetIdentifier := identifier, reasonCode := 0x00 }
  let (len, recvBuffer) := AckPacket.encode puback recvBuffer recvBufferLen
  modify fun c => { c with recvBuffer }
  let len ← orBuffError len
  send (recvBuffer.take len)

/-- The event of a packet of `read` bytes in `buffer`, by its type. -/
def eventOf (type : PacketType) (maxTopics read : Nat) : ClientM cap Event := do
  match type with
  | .reserved | .connect | .subscribe | .unsubscribe | .pingreq => fail .protocolError
  | .pubrec | .pubrel | .pubcomp | .auth => fail .implementationSpecificError
  | .connack =>
    let packet ← decodeBuffer (ConnackPacket.new : ConnackPacket cap).decode read
    if packet.connectReasonCode ≠ 0x00 then fail (.ofU8 packet.connectReasonCode)
    else return .connack
  | .puback =>
    let packet ← decodeBuffer (PubackPacket.new : PubackPacket cap).decode read
    if packet.reasonCode ≠ 0 then fail (.ofU8 packet.reasonCode)
    else return .puback packet.packetIdentifier
  | .suback =>
    let packet ← decodeBuffer (SubackPacket.new : SubackPacket maxTopics cap).decode read
    let qos ← gets (·.config.maxSubscribeQos)
    match packet.reasonCodes.toList.find? (· ≠ qos.toU8 >>> 1) with
    | some reasonCode => fail (.ofU8 reasonCode)
    | none => return .suback packet.packetIdentifier
  | .unsuback =>
    let packet ← decodeBuffer (UnsubackPacket.new : UnsubackPacket 1 cap).decode read
    return .unsuback packet.packetIdentifier
  | .pingresp =>
    let _ ← decodeBuffer PingrespPacket.decode read
    return .pingresp
  | .publish =>
    let packet ← decodeBuffer (PublishPacket.new : PublishPacket 5).decode read
    if packet.fixedHeader &&& 0x06 = QualityOfService.qoS1.toU8 then
      sendPuback packet.packetIdentifier
    let payload ← ofOption packet.message
    return .message packet.topicName.string payload
  | .disconnect =>
    let packet ← decodeBuffer (DisconnectPacket.new : DisconnectPacket 5).decode read
    return .disconnect (.ofU8 packet.disconnectReason)

def dispatch (maxTopics read : Nat) : ClientM cap Event := do
  let buffer ← gets (·.buffer)
  let firstByte ← orBuffError (BuffReader.new buffer read).peekU8
  eventOf (PacketType.ofU8 firstByte) maxTopics read

/-- The next packet from the connection. -/
def poll (maxTopics turns : Nat) : ClientM cap Event := do
  let connection ← gets (·.connection)
  if connection then
    let read ← receivePacket turns
    dispatch maxTopics read
  else fail .networkError

/-! ### Requests -/

/-- Only version 5 is there, and only while there is a connection. -/
def onConnection (request : ClientM cap α) : ClientM cap α := do
  let version ← gets (·.config.mqttVersion)
  match version with
  | .mqttv3 => fail .unsupportedProtocolVersion
  | .mqttv5 =>
    let connection ← gets (·.connection)
    if connection then request else fail .networkError

/-- Encode a request into `buffer` and send it. -/
def sendEncoded (enc : List UInt8 → Nat → Except Fault Nat × List UInt8) : ClientM cap Unit := do
  let buffer ← gets (·.buffer)
  let bufferLen ← gets (·.bufferLen)
  let (len, buffer) := enc buffer bufferLen
  modify fun c => { c with buffer }
  let len ← orBuffError len
  send (buffer.take len)

/-- The next packet identifier. -/
def nextIdentifier : ClientM cap UInt16 := do
  modify fun c => { c with config.rng := c.config.rng.next }
  let rng ← gets (·.config.rng)
  return UInt16.ofNat rng.count.toNat

/-- The CONNECT for a configuration. -/
def connectPacket (config : ClientConfig cap) : Except Fault (ConnectPacket cap 0) := do
  let connect : ConnectPacket cap 0 := { ConnectPacket.new with keepAlive := config.keepAlive }
  let (propertyLen, properties) ← addProperties Property.connectProperty config.properties.toList 0
    connect.properties
  let connect := { connect with propertyLen, properties }
  let connect := if config.usernameFlag then connect.addUsername config.username else connect
  let connect := if config.passwordFlag then connect.addPassword config.password else connect
  let connect := if config.willFlag then
    connect.addWill config.willTopic config.willPayload config.willRetain else connect
  return connect.addClientId config.clientId

def connectToBroker : ClientM cap Unit := onConnection do
  modify fun c => { c with config := c.config.addMaxPacketSizeAsProp }
  let config ← gets (·.config)
  let connect ← orBuffError (connectPacket config)
  sendEncoded connect.encode

/-- The connection is dropped, whether the packet was sent or not. -/
def disconnect : ClientM cap Unit := onConnection do
  let buffer ← gets (·.buffer)
  let bufferLen ← gets (·.bufferLen)
  let (len, buffer) := (DisconnectPacket.new : DisconnectPacket cap).encode buffer bufferLen
  modify fun c => { c with buffer }
  match len with
  | .ok len =>
    let _ ← await (.write (buffer.take len))
    modify fun c => { c with connection := false }
  | .error (.error _) =>
    modify fun c => { c with connection := false }
    fail .buffError
  | .error .panic => panic

def sendMessage (topicName : String) (message : List UInt8) (qos : QualityOfService)
    (retain : Bool) : ClientM cap UInt16 := onConnection do
  let identifier ← nextIdentifier
  let packet : PublishPacket cap := ((((PublishPacket.new.addTopicName topicName).addQos
    qos).addIdentifier identifier).addMessage message).addRetain retain
  sendEncoded packet.encode
  return identifier

def subscribeToTopics (topicNames : BoundedVec String n) : ClientM cap UInt16 := onConnection do
  let identifier ← nextIdentifier
  let qos ← gets (·.config.maxSubscribeQos)
  let subs : SubscriptionPacket n cap := topicNames.toList.foldl
    (fun subs topicName => SubscriptionPacket.addNewFilter subs topicName qos)
    { SubscriptionPacket.new with packetIdentifier := identifier }
  sendEncoded (SubscriptionPacket.encode subs)
  return identifier

def unsubscribeFromTopic (topicName : String) : ClientM cap UInt16 := onConnection do
  let identifier ← nextIdentifier
  let unsub : UnsubscriptionPacket 1 cap := UnsubscriptionPacket.addNewFilter
    { UnsubscriptionPacket.new with packetIdentifier := identifier } topicName
  sendEncoded (UnsubscriptionPacket.encode unsub)
  return identifier

def sendPing : ClientM cap Unit := onConnection do
  sendEncoded (PingreqPacket.encode .new)

end RawMqttClient

/-! ## `MqttClient` -/

namespace MqttClient

open RawMqttClient

/-- What is left of a call once its request is sent: the packet that comes next has to be
the answer to it.  An application message that comes at this moment is lost. -/
def answered (maxTopics turns : Nat) (accept : Event → Except ReasonCode α) : ClientM cap α := do
  let event ← poll maxTopics turns
  match event with
  | .disconnect reason => fail reason
  | event => ofExcept (accept event)

/-- An acknowledgement of this request. -/
def acknowledges (identifier ack : UInt16) : Except ReasonCode Unit :=
  if identifier = ack then .ok () else .error .packetIdentifierNotFound

def connectToBroker (turns : Nat) : ClientM cap Unit := do
  RawMqttClient.connectToBroker
  answered 0 turns fun
    | .connack => .ok ()
    | _ => .error .implementationSpecificError

def disconnect : ClientM cap Unit := RawMqttClient.disconnect

def sendMessage (turns : Nat) (topicName : String) (message : List UInt8) (qos : QualityOfService)
    (retain : Bool) : ClientM cap Unit := do
  let identifier ← RawMqttClient.sendMessage topicName message qos retain
  if qos = .qoS1 then
    answered 0 turns fun
      | .puback ack => acknowledges identifier ack
      | _ => .error .implementationSpecificError
  else return ()

def subscribeToTopics (turns : Nat) (topicNames : BoundedVec String n) : ClientM cap Unit := do
  let identifier ← RawMqttClient.subscribeToTopics topicNames
  answered n turns fun
    | .suback ack => acknowledges identifier ack
    | _ => .error .implementationSpecificError

def unsubscribeFromTopic (turns : Nat) (topicName : String) : ClientM cap Unit := do
  let identifier ← RawMqttClient.unsubscribeFromTopic topicName
  answered 0 turns fun
    | .unsuback ack => acknowledges identifier ack
    | _ => .error .implementationSpecificError

def receiveMessage (turns : Nat) : ClientM cap (String × List UInt8) :=
  answered 0 turns fun
    | .message topic payload => .ok (topic, payload)
    | _ => .error .implementationSpecificError

def sendPing (turns : Nat) : ClientM cap Unit := do
  RawMqttClient.sendPing
  answered 0 turns fun
    | .pingresp => .ok ()
    | _ => .error .implementationSpecificError

end MqttClient

end Toucan.Mqtt
