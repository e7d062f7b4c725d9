import Toucan.Mqtt.Poll

/-!
# Toucan.Mqtt.Requests

What the client sends (`rust-mqtt`, `client/raw_client.rs`): every request is one frame, put
together in the client's buffer and written in one piece, or nothing is written at all.
-/

namespace Toucan.Mqtt

open HttpMessage Async BuffWriter

/-! ## CONNECT -/

/-- The allowed properties are taken over, and their lengths summed up. -/
theorem addProperties_eq {allowed : Property → Bool} {ps : List Property} (res : UInt32)
    (self : BoundedVec Property cap) (h : ∀ p ∈ ps, allowed p = true → p.Sound)
    (hroom : self.toList.length + ps.length ≤ cap)
    (hlen : res.toNat + (propertyBytes (ps.filter allowed)).length < 4294967296) :
    ∃ n v, addProperties allowed ps res self = .ok (n, v) ∧
      n.toNat = res.toNat + (propertyBytes (ps.filter allowed)).length ∧
      v.toList = self.toList ++ ps.filter allowed := by
  induction ps generalizing res self with
  | nil => exact ⟨res, self, rfl, rfl, (List.append_nil _).symm⟩
  | cons p ps ih =>
      rw [List.length_cons] at hroom
      have hps : ∀ q ∈ ps, allowed q = true → q.Sound := fun q hq =>
        h q (List.mem_cons_of_mem p hq)
      rw [addProperties]
      by_cases hp : allowed p = true
      · obtain ⟨n, hn, hbytes⟩ := (h p List.mem_cons_self hp).exists_encodedLen
        rw [List.filter_cons_of_pos hp, propertyBytes_cons, List.length_append] at hlen ⊢
        have hsum : (res + n.toUInt32 + 1).toNat = res.toNat + p.bytes.length := by
          rw [UInt32.toNat_add, UInt32.toNat_add, UInt16.toNat_toUInt32]
          rw [Nat.mod_eq_of_lt (show res.toNat + n.toNat < 4294967296 by omega), ← hbytes]
          exact Nat.mod_eq_of_lt (show res.toNat + n.toNat + 1 < 4294967296 by omega)
        have hpush : (pushToProperties self p).toList = self.toList ++ [p] := by
          rw [pushToProperties, BoundedVec.toList_push_getD, if_pos (by omega)]
        obtain ⟨m, v, hadd, hm, hv⟩ := ih (res + n.toUInt32 + 1) (pushToProperties self p) hps
          (by rw [hpush, List.length_append, List.length_singleton]; omega) (by omega)
        refine ⟨m, v, ?_, by omega, ?_⟩
        · rw [if_pos hp, hn]
          exact hadd
        · rw [hv, hpush, List.append_assoc]
          rfl
      · rw [List.filter_cons_of_neg hp] at hlen ⊢
        rw [if_neg hp]
        exact ih res self hps (by omega) hlen

/-! ## SUBSCRIBE and UNSUBSCRIBE -/

/-- The filter of a topic. -/
def topicFilter (subOptions : UInt8) (topicName : String) : TopicFilter :=
  ⟨⟨topicName, UInt16.ofNat (asBytes topicName).length⟩, subOptions⟩

theorem encodedString_fits (s : String) : (ClientConfig.encodedString s).Fits := by
  rw [EncodedString.Fits, ClientConfig.encodedString, UInt16.toNat_ofNat']
  exact Nat.mod_le _ _

namespace FilterPacket

variable (self : FilterPacket n cap)

/-- Filters that there is room for are all taken. -/
theorem foldl_addFilter (subOptions : UInt8) {topicNames : List String}
    (hroom : self.topicFilters.toList.length + topicNames.length ≤ n) :
    ∃ filters count, topicNames.foldl (fun p topicName => p.addFilter topicName subOptions) self =
        { self with topicFilters := filters, topicFilterLen := count } ∧
      filters.toList = self.topicFilters.toList ++ topicNames.map (topicFilter subOptions) ∧
      count = self.topicFilterLen + UInt16.ofNat topicNames.length := by
  induction topicNames generalizing self with
  | nil => exact ⟨self.topicFilters, self.topicFilterLen, rfl, (List.append_nil _).symm, by simp⟩
  | cons topicName topicNames ih =>
      rw [List.length_cons] at hroom
      have hpush : (self.addFilter topicName subOptions).topicFilters.toList =
          self.topicFilters.toList ++ [topicFilter subOptions topicName] := by
        rw [addFilter, BoundedVec.toList_push_getD, if_pos (by omega)]
        rfl
      obtain ⟨filters, count, hfold, hfilters, hcount⟩ := ih
        (self.addFilter topicName subOptions)
        (by rw [hpush, List.length_append, List.length_singleton]; omega)
      refine ⟨filters, count, hfold, ?_, ?_⟩
      · rw [hfilters, hpush, List.append_assoc]
        rfl
      · rw [hcount]
        show self.topicFilterLen + 1 + _ = _
        rw [List.length_cons, UInt16.ofNat_add, UInt16.add_assoc, UInt16.add_comm (UInt16.ofNat _)]
        rfl

/-- The bytes of some topics. -/
def topicBytes (sub : Bool) (subOptions : UInt8) (topicNames : List String) : List UInt8 :=
  (topicNames.map (topicFilter subOptions)).flatMap (TopicFilter.bytes sub)

theorem length_le_topicBytes (sub : Bool) (subOptions : UInt8) (topicNames : List String) :
    topicNames.length ≤ (topicBytes sub subOptions topicNames).length := by
  induction topicNames with
  | nil => exact Nat.zero_le _
  | cons topicName topicNames ih =>
      have hlen : (topicBytes sub subOptions (topicName :: topicNames)).length =
          ((topicFilter subOptions topicName).bytes sub).length +
            (topicBytes sub subOptions topicNames).length := by
        simp [topicBytes]
      have hone := length_bytes sub (t := topicFilter subOptions topicName)
        (encodedString_fits topicName)
      rw [hlen, List.length_cons]
      split at hone <;> omega

/-- A packet for some topics. -/
theorem wellFormed_topics (sub : Bool) (subOptions : UInt8) {topicNames : List String}
    (hnone : self.topicFilters.toList = []) (hzero : self.topicFilterLen = 0)
    (hprops : self.propertyLen = 0) (hempty : self.properties.toList = [])
    (hne : topicNames ≠ []) (hroom : topicNames.length ≤ n)
    (hshort : (topicBytes sub subOptions topicNames).length < 65536) :
    ∃ p, topicNames.foldl (fun p topicName => p.addFilter topicName subOptions) self = p ∧
      p.WellFormed sub ∧ p.fixedHeader = self.fixedHeader ∧
      p.body sub =
        toBeBytes self.packetIdentifier ++ (0 :: topicBytes sub subOptions topicNames) := by
  obtain ⟨filters, count, hfold, hfilters, hcount⟩ := foldl_addFilter self subOptions
    (show self.topicFilters.toList.length + topicNames.length ≤ n by
      rw [hnone, List.length_nil, Nat.zero_add]
      exact hroom)
  have hlen := length_le_topicBytes sub subOptions topicNames
  rw [hnone, List.nil_append] at hfilters
  rw [hzero, UInt16.zero_add] at hcount
  have hbytes : filters.toList.flatMap (TopicFilter.bytes sub) =
      topicBytes sub subOptions topicNames := by rw [hfilters, topicBytes]
  have hbody : ({ self with topicFilters := filters, topicFilterLen := count } :
      FilterPacket n cap).body sub =
        toBeBytes self.packetIdentifier ++ (0 :: topicBytes sub subOptions topicNames) := by
    rw [body, hempty, filterBytes, hbytes]
    rfl
  refine ⟨_, hfold, ?_, rfl, hbody⟩
  constructor
  · rw [hprops, hempty]
    exact ConnectPacket.announced_nil
  · intro t ht
    rw [hfilters] at ht
    obtain ⟨topicName, -, rfl⟩ := List.mem_map.mp ht
    exact encodedString_fits topicName
  · rw [hcount, hfilters, List.length_map, UInt16.toNat_ofNat']
    exact Nat.mod_eq_of_lt (by omega)
  · rw [hfilters, List.length_map]
    exact List.length_pos_iff.mpr hne
  · rw [filterBytes, hbytes]
    exact hshort
  · rw [hbody, List.length_append, List.length_cons, length_toBeBytes]
    omega

end FilterPacket

namespace ClientConfig

/-- A configuration whose texts and data are as the setters put them in, and whose properties
have the lengths they say. -/
structure Sound (config : ClientConfig cap) : Prop where
  properties : ∀ p ∈ config.properties.toList, p.connectProperty = true → p.Sound
  short : (propertyBytes (config.properties.toList.filter Property.connectProperty)).length ≤
    268435455
  username : config.username.Fits
  password : config.password.Fits
  willTopic : config.willTopic.Fits
  willPayload : config.willPayload.Fits
  clientId : config.clientId.Fits

end ClientConfig

namespace RawMqttClient

/-- The CONNECT of a configuration. -/
theorem connectPacket_eq {config : ClientConfig cap} (h : config.Sound) :
    ∃ p, connectPacket config = .ok p ∧ p.fixedHeader = 0x10 ∧ p.Parts ∧
      p.properties.toList = config.properties.toList.filter Property.connectProperty ∧
      p.willProperties.toList = [] := by
  have hshort := h.short
  obtain ⟨n, v, hadd, hn, hv⟩ := addProperties_eq 0 (.empty : BoundedVec Property cap) h.properties
    (by
      rw [BoundedVec.toList_empty, List.length_nil, Nat.zero_add]
      exact config.properties.length_le)
    (by show 0 + _ < _; omega)
  have hann : Announced n v.toList := by
    rw [hv]
    refine ⟨fun p hp => ?_, hn.trans (Nat.zero_add _)⟩
    obtain ⟨hmem, hallowed⟩ := List.mem_filter.mp hp
    exact h.properties p hmem hallowed
  rw [connectPacket, show addProperties _ _ _ (ConnectPacket.new : ConnectPacket cap 0).properties =
    _ from hadd]
  refine ⟨_, rfl, ?_, ?_, ?_, ?_⟩
  · cases config.usernameFlag <;> cases config.passwordFlag <;> cases config.willFlag <;> rfl
  · have hnew : (ConnectPacket.new : ConnectPacket cap 0).Parts := ConnectPacket.parts_new
    have h₀ : ({ (ConnectPacket.new : ConnectPacket cap 0) with
        keepAlive := config.keepAlive
        propertyLen := n
        properties := v }).Parts := { hnew with announced := hann }
    have h₁ := h₀.optional (h₀.addUsername h.username) config.usernameFlag
    have h₂ := h₁.optional (h₁.addPassword h.password) config.passwordFlag
    have h₃ := h₂.optional (h₂.addWill h.willTopic h.willPayload config.willRetain) config.willFlag
    exact h₃.addClientId h.clientId
  · rw [BoundedVec.toList_empty, List.nil_append] at hv
    rw [← hv]
    cases config.usernameFlag <;> cases config.passwordFlag <;> cases config.willFlag <;> rfl
  · cases config.usernameFlag <;> cases config.passwordFlag <;> cases config.willFlag <;> rfl

/-! ## PUBLISH -/

/-- The PUBLISH of a message. -/
def publishPacket (cap : Nat) (identifier : UInt16) (topicName : String) (message : List UInt8)
    (qos : QualityOfService) (retain : Bool) : PublishPacket cap :=
  ((((PublishPacket.new.addTopicName topicName).addQos qos).addIdentifier identifier).addMessage
    message).addRetain retain

/-- The first byte tells quality of service and retention. -/
def publishHeader (qos : QualityOfService) (retain : Bool) : UInt8 :=
  0x30 ||| qos.toU8 ||| if retain then 1 else 0

theorem ofU8_publishHeader (qos : QualityOfService) (retain : Bool) :
    PacketType.ofU8 (publishHeader qos retain) = .publish := by
  cases qos <;> cases retain <;> decide

theorem encodes_publishPacket (identifier : UInt16) (topicName : String) {message : List UInt8}
    (qos : QualityOfService) (retain : Bool)
    (hmax : ((publishPacket cap identifier topicName message qos retain).body message).length ≤
      268435455) :
    Encodes (publishPacket cap identifier topicName message qos retain).encode
      (frame (publishPacket cap identifier topicName message qos retain).fixedHeader
        ((publishPacket cap identifier topicName message qos retain).body message)) :=
  encodes_of_writes (PublishPacket.writes_write rfl (encodedString_fits topicName)
    ConnectPacket.announced_nil hmax)

/-! ## Every request -/

/-- What the client can ask for. -/
inductive Request where
  | connect
  | disconnect
  | publish (topicName : String) (message : List UInt8) (qos : QualityOfService) (retain : Bool)
  | subscribe (n : Nat) (topicNames : BoundedVec String n)
  | unsubscribe (topicName : String)
  | ping

namespace Request

/-- The method for it. -/
def perform : Request → ClientM cap Unit
  | connect => connectToBroker
  | disconnect => RawMqttClient.disconnect
  | publish topicName message qos retain => do let _ ← sendMessage topicName message qos retain
  | subscribe _ topicNames => do let _ ← subscribeToTopics topicNames
  | unsubscribe topicName => do let _ ← unsubscribeFromTopic topicName
  | ping => sendPing

def header : Request → UInt8
  | connect => 0x10
  | disconnect => 0xE0
  | publish _ _ qos retain => publishHeader qos retain
  | subscribe _ _ => 0x82
  | unsubscribe _ => 0xA2
  | ping => 0xC0

/-- The identifier that a configuration has for the next request. -/
def identifier (config : ClientConfig cap) : UInt16 := UInt16.ofNat config.rng.next.count.toNat

/-- The frame without its header, as the client puts it together. -/
def body (config : ClientConfig cap) : Request → List UInt8
  | connect =>
    match connectPacket config.addMaxPacketSizeAsProp with
    | .ok p => p.body
    | .error _ => []
  | disconnect => [0, 0]
  | publish topicName message qos retain =>
    (publishPacket cap (identifier config) topicName message qos retain).body message
  | subscribe _ topicNames => toBeBytes (identifier config) ++
    (0 :: FilterPacket.topicBytes true (config.maxSubscribeQos.toU8 >>> 1) topicNames.toList)
  | unsubscribe topicName => toBeBytes (identifier config) ++
    (0 :: FilterPacket.topicBytes false 0x01 [topicName])
  | ping => []

/-- Its frame. -/
def bytes (config : ClientConfig cap) (r : Request) : List UInt8 := frame r.header (r.body config)

/-- A request that the protocol has a packet for: of a length that can be written, with at
least one topic, and no more topics than a `u16` counts the bytes of. -/
def Valid (config : ClientConfig cap) : Request → Prop
  | connect => config.addMaxPacketSizeAsProp.Sound ∧ (connect.body config).length ≤ 268435455
  | subscribe _ topicNames => topicNames.toList ≠ [] ∧
    (FilterPacket.topicBytes true (config.maxSubscribeQos.toU8 >>> 1) topicNames.toList).length <
      65536
  | unsubscribe topicName => (FilterPacket.topicBytes false 0x01 [topicName]).length < 65536
  | r => (r.body config).length ≤ 268435455

/-- The client afterwards, but for what is in its buffers. -/
def after (c : RawMqttClient cap) : Request → RawMqttClient cap
  | connect => { c with config := c.config.addMaxPacketSizeAsProp }
  | disconnect => { c with connection := false }
  | ping => c
  | _ => { c with config.rng := c.config.rng.next }

end Request

/-- The texts of a CONNECT are short enough; what it has in properties has to be. -/
theorem Request.valid_connect {config : ClientConfig cap} (h : config.addMaxPacketSizeAsProp.Sound)
    (hshort : (propertyBytes (config.addMaxPacketSizeAsProp.properties.toList.filter
      Property.connectProperty)).length ≤ 268000000) : Request.connect.Valid config := by
  obtain ⟨p, hp, -, hparts, hprops, hnone⟩ := connectPacket_eq h
  have hlen := hparts.length_body_le hnone
  rw [hprops] at hlen
  refine ⟨h, ?_⟩
  rw [Request.body, hp]
  show p.body.length ≤ 268435455
  omega

/-- A client that may send. -/
structure Online (c : RawMqttClient cap) : Prop where
  version : c.config.mqttVersion = .mqttv5
  connection : c.connection = true
  buffer : c.bufferLen ≤ c.buffer.length

theorem onConnection_eq {m : ClientM cap α} {c : RawMqttClient cap} (hc : Online c) :
    onConnection m c = m c := by
  rw [onConnection, gets_bind, hc.version]
  show (do
    let connection ← gets (·.connection)
    if connection then m else fail .networkError : ClientM cap α) c = _
  rw [gets_bind, if_pos hc.connection]

/-- How a request goes, if `bytes` are its frame: one write of the whole of it, and nothing else,
or it is refused for want of room. -/
structure SendsFrame (m : ClientM cap α) (a : α) (c after : RawMqttClient cap) (bytes : List UInt8) :
    Prop where
  sent : bytes.length ≤ c.bufferLen → ∃ c₁ c₂ k, m c = .await (.write bytes) c₁ k ∧
    Refilled after c₂ ∧ (∀ n, k (.ok n) = .done (.ok a) c₂) ∧
    ∃ r, k (.error ()) = .done r c₂ ∧ ∀ b, r = .ok b → b = a
  refused : c.bufferLen < bytes.length → ∃ c₁, m c = .done (.error .buffError) c₁

namespace SendsFrame

variable {c after : RawMqttClient cap} {bytes : List UInt8}

/-- What is encoded is written as a whole, or not at all. -/
theorem sendEncoded {enc : List UInt8 → Nat → Except Fault Nat × List UInt8}
    (h : Encodes enc bytes) (hbuf : c.bufferLen ≤ c.buffer.length) :
    SendsFrame (RawMqttClient.sendEncoded enc) () c c bytes := by
  constructor
  · intro hroom
    obtain ⟨buf, henc, htake, hlen⟩ := h.fits c.buffer c.bufferLen hbuf hroom
    have hrefilled : Refilled c { c with buffer := buf } := ⟨hlen, rfl, rfl⟩
    rw [RawMqttClient.sendEncoded, gets_bind, gets_bind, henc]
    show ∃ c₁ c₂ k, (send (buf.take bytes.length) : ClientM cap Unit) { c with buffer := buf } =
      .await (.write bytes) c₁ k ∧ _
    rw [htake]
    exact ⟨_, _, _, rfl, hrefilled, fun _ => rfl, _, rfl, fun _ _ => rfl⟩
  · intro hroom
    obtain ⟨buf, henc⟩ := h.full c.buffer c.bufferLen hbuf hroom
    rw [RawMqttClient.sendEncoded, gets_bind, gets_bind]
    simp only [henc]
    exact ⟨_, rfl⟩

/-- What is returned has nothing to do with what is sent. -/
theorem map {m : ClientM cap α} {a : α} (h : SendsFrame m a c after bytes) (f : α → β) :
    SendsFrame (do return f (← m)) (f a) c after bytes where
  sent := by
    intro hroom
    obtain ⟨c₁, c₂, k, hm, hrefilled, hok, r, herror, hr⟩ := h.sent hroom
    refine ⟨c₁, c₂, fun answer => (k answer).andThen fun a s => .done (.ok (f a)) s, ?_, hrefilled,
      ?_, (do return f (← r)), ?_, ?_⟩
    · show (m c).andThen _ = _
      rw [hm]
      rfl
    · intro n
      show (k (.ok n)).andThen _ = _
      rw [hok]
      rfl
    · show (k (.error ())).andThen _ = _
      rw [herror]
      cases r <;> rfl
    · intro b hb
      cases r with
      | error e => contradiction
      | ok a' =>
          rw [hr a' rfl] at hb
          injection hb with hb
          exact hb.symm
  refused := by
    intro hroom
    obtain ⟨c₁, hm⟩ := h.refused hroom
    refine ⟨c₁, ?_⟩
    show (m c).andThen _ = _
    rw [hm]
    rfl

/-- Steps before, that neither read nor write. -/
theorem of_eq {m m' : ClientM cap α} {a : α} {c₁ : RawMqttClient cap}
    (h : SendsFrame m a c₁ after bytes) (hlen : c₁.bufferLen = c.bufferLen) (hm : m' c = m c₁) :
    SendsFrame m' a c after bytes where
  sent := by
    rw [hm, ← hlen]
    exact h.sent
  refused := by
    rw [hm, ← hlen]
    exact h.refused

end SendsFrame

section Frames

variable {c : RawMqttClient cap} (hc : Online c)

include hc

theorem sendsFrame_connectToBroker (hvalid : Request.connect.Valid c.config) :
    SendsFrame connectToBroker () c (Request.connect.after c) (Request.connect.bytes c.config) := by
  obtain ⟨hsound, hshort⟩ := hvalid
  obtain ⟨p, hp, hheader, hparts, -, -⟩ := connectPacket_eq hsound
  have hbody : Request.connect.body c.config = p.body := by
    rw [Request.body, hp]
  have hmax : p.body.length ≤ 268435455 := by
    rw [← hbody]
    exact hshort
  have henc : Encodes p.encode (Request.connect.bytes c.config) := by
    rw [Request.bytes, hbody, Request.header, ← hheader]
    exact encodes_of_writes (ConnectPacket.writes_write ⟨hparts, hmax⟩)
  apply (SendsFrame.sendEncoded (c := Request.connect.after c) henc hc.buffer).of_eq (c := c)
    rfl
  rw [connectToBroker, onConnection_eq hc, modify_bind, gets_bind]
  simp only [hp]
  rfl

theorem sendsFrame_sendMessage {topicName : String} {message : List UInt8} {qos : QualityOfService}
    {retain : Bool} (hvalid : (Request.publish topicName message qos retain).Valid c.config) :
    SendsFrame (sendMessage topicName message qos retain) (Request.identifier c.config) c
      { c with config.rng := c.config.rng.next }
      ((Request.publish topicName message qos retain).bytes c.config) := by
  have henc := encodes_publishPacket (Request.identifier c.config) topicName qos retain hvalid
  apply ((SendsFrame.sendEncoded (c := { c with config.rng := c.config.rng.next }) henc
    hc.buffer).map fun _ => Request.identifier c.config).of_eq (c := c) rfl
  rw [sendMessage, onConnection_eq hc]
  rfl

theorem sendsFrame_subscribeToTopics {n : Nat} {topicNames : BoundedVec String n}
    (hvalid : (Request.subscribe n topicNames).Valid c.config) :
    SendsFrame (subscribeToTopics topicNames) (Request.identifier c.config) c
      { c with config.rng := c.config.rng.next }
      ((Request.subscribe n topicNames).bytes c.config) := by
  obtain ⟨hne, hshort⟩ := hvalid
  obtain ⟨p, hfold, hwf, hheader, hbody⟩ := FilterPacket.wellFormed_topics
    ({ SubscriptionPacket.new with packetIdentifier := Request.identifier c.config } :
      SubscriptionPacket n cap) true (c.config.maxSubscribeQos.toU8 >>> 1) rfl rfl rfl rfl hne
    topicNames.length_le hshort
  have henc : Encodes (SubscriptionPacket.encode p)
      ((Request.subscribe n topicNames).bytes c.config) := by
    have h := encodes_of_writes (FilterPacket.writes_write hwf)
    rwa [hheader, hbody] at h
  apply ((SendsFrame.sendEncoded (c := { c with config.rng := c.config.rng.next }) henc
    hc.buffer).map fun _ => Request.identifier c.config).of_eq (c := c) rfl
  rw [subscribeToTopics, onConnection_eq hc, ← hfold]
  rfl

theorem sendsFrame_unsubscribeFromTopic {topicName : String}
    (hvalid : (Request.unsubscribe topicName).Valid c.config) :
    SendsFrame (unsubscribeFromTopic topicName) (Request.identifier c.config) c
      { c with config.rng := c.config.rng.next }
      ((Request.unsubscribe topicName).bytes c.config) := by
  obtain ⟨p, hfold, hwf, hheader, hbody⟩ := FilterPacket.wellFormed_topics
    ({ UnsubscriptionPacket.new with packetIdentifier := Request.identifier c.config } :
      UnsubscriptionPacket 1 cap) false 0x01 rfl rfl rfl rfl (List.cons_ne_nil topicName [])
    (Nat.le_refl 1) hvalid
  have henc : Encodes (UnsubscriptionPacket.encode p)
      ((Request.unsubscribe topicName).bytes c.config) := by
    have h := encodes_of_writes (FilterPacket.writes_write hwf)
    rwa [hheader, hbody] at h
  apply ((SendsFrame.sendEncoded (c := { c with config.rng := c.config.rng.next }) henc
    hc.buffer).map fun _ => Request.identifier c.config).of_eq (c := c) rfl
  rw [unsubscribeFromTopic, onConnection_eq hc, ← hfold]
  rfl

theorem sendsFrame_sendPing : SendsFrame sendPing () c c (Request.ping.bytes c.config) := by
  have henc : Encodes (PingreqPacket.encode .new) (frame 0xC0 []) := by
    apply encodes_of_writes
    exact (writes_writeU8 0xC0).bind (writes_writeVariableByteInt (by decide))
  apply (SendsFrame.sendEncoded (c := c) henc hc.buffer).of_eq rfl
  rw [sendPing, onConnection_eq hc]

/-- The connection is gone, whether the packet was sent or not. -/
theorem sendsFrame_disconnect :
    SendsFrame RawMqttClient.disconnect () c { c with connection := false }
      (Request.disconnect.bytes c.config) := by
  have henc : Encodes (DisconnectPacket.new : DisconnectPacket cap).encode
      (Request.disconnect.bytes c.config) :=
    encodes_of_writes (DisconnectPacket.writes_write ConnectPacket.announced_nil (by
      show 1 + (propertyBlock []).length ≤ 268435455
      decide))
  constructor
  · intro hroom
    obtain ⟨buf, hok, htake, hlen⟩ := henc.fits c.buffer c.bufferLen hc.buffer hroom
    have hrefilled : Refilled { c with connection := false }
        { c with buffer := buf, connection := false } := ⟨hlen, rfl, rfl⟩
    rw [RawMqttClient.disconnect, onConnection_eq hc, gets_bind, gets_bind, hok]
    show ∃ c₁ c₂ k, ((await (.write (buf.take (Request.disconnect.bytes c.config).length)) :
      ClientM cap _) >>= fun _ => Async.modify fun c => { c with connection := false })
        { c with buffer := buf } = .await (.write (Request.disconnect.bytes c.config)) c₁ k ∧ _
    rw [htake]
    exact ⟨_, _, _, rfl, hrefilled, fun _ => rfl, _, rfl, fun _ _ => rfl⟩
  · intro hroom
    obtain ⟨buf, hfull⟩ := henc.full c.buffer c.bufferLen hc.buffer hroom
    rw [RawMqttClient.disconnect, onConnection_eq hc, gets_bind, gets_bind, hfull]
    exact ⟨_, rfl⟩

/-- **Every request is one frame**: it is written in one piece where it fits in the client's
buffer, and refused where it does not, and then nothing has been written. -/
theorem sendsFrame_perform (r : Request) (hvalid : r.Valid c.config) :
    SendsFrame r.perform () c (r.after c) (r.bytes c.config) := by
  cases r with
  | connect => exact sendsFrame_connectToBroker hc hvalid
  | disconnect => exact sendsFrame_disconnect hc
  | publish topicName message qos retain =>
      exact (sendsFrame_sendMessage hc hvalid).map fun _ => ()
  | subscribe n topicNames => exact (sendsFrame_subscribeToTopics hc hvalid).map fun _ => ()
  | unsubscribe topicName => exact (sendsFrame_unsubscribeFromTopic hc hvalid).map fun _ => ()
  | ping => exact sendsFrame_sendPing hc

end Frames

theorem sendsFrame_perform_sample :
    SendsFrame (Request.publish "soc" [1, 2] .qoS1 true).perform () (sampleClient 40)
      { sampleClient 40 with config.rng := ⟨1⟩ } [0x33, 10, 0, 3, 115, 111, 99, 0, 1, 0, 1, 2] := by
  have hbytes : (Request.publish "soc" [1, 2] .qoS1 true).bytes (sampleClient 40).config =
      [0x33, 10, 0, 3, 115, 111, 99, 0, 1, 0, 1, 2] := by decide +kernel
  have hc : Online (sampleClient 40) := ⟨rfl, rfl, Nat.le_of_eq List.length_replicate.symm⟩
  have hvalid : ((Request.publish "soc" [1, 2] .qoS1 true).body (sampleClient 40).config).length ≤
      268435455 := by decide +kernel
  rw [← hbytes]
  exact sendsFrame_perform hc (.publish "soc" [1, 2] .qoS1 true) hvalid

end RawMqttClient

end Toucan.Mqtt
