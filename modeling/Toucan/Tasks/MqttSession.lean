import Toucan.Tasks.MqttNet

/-!
# Toucan.Tasks.MqttSession

`mqtt_net_task` and its broker (`tasks/mqtt.rs`).

With a broker that gives the answers the calls wait for, the whole dialogue takes place
(`session_serves`).  That is so for the qualities of service 0 and 1; a broker that
answers a PUBLISH of quality of service 2 as the protocol has it ends the session with the
second reading (`session_pubrec`).
-/

namespace Toucan.MqttNet

open Async HttpMessage Mqtt RawMqttClient

/-! ## A broker that answers -/

/-- A reading whose PUBLISH has room in the buffer. -/
def Fitting (config : MqttConfig) (payload : List UInt8) : Prop :=
  (asBytes config.basetopic).length + payload.length ≤ 1490

theorem Fitting.short {config : MqttConfig} {payload : List UInt8} (h : Fitting config payload) :
    Short payload := by
  have hlen : _ ≤ 1490 := h
  show payload.length ≤ 268000000
  omega

theorem Fitting.room {config : MqttConfig} {payload : List UInt8} (h : Fitting config payload)
    (client : ClientConfig 5) :
    ((publish config payload).bytes client).length ≤ bufSize := by
  have hlen : _ ≤ 1490 := h
  have hbody := length_body_publish config payload client
  have hcode := VarInt.length_encode_le 4 ((publish config payload).body client).length
  have hmod := Nat.mod_le (asBytes config.basetopic).length 65536
  rw [Request.bytes, length_frame]
  show _ ≤ 1500
  omega

section Broker

variable {config : MqttConfig} {peer : Peer} {turns : Nat} {c : RawMqttClient 5} {w : Link}

/-- The broker sends a packet for these bytes that means `e`, and that there is room for. -/
def Answers (peer : Peer) (turns : Nat) (bytes : List UInt8) (e : Event) : Prop :=
  ∃ p : BrokerPacket 0, peer.reply bytes = p.bytes ∧ Fits p turns bufSize ∧ p.acks = [] ∧
    p.event 0 .qoS0 = .ok e

/-- A broker that gives the answers that the calls wait for, and sends nothing else. -/
structure Serves (config : MqttConfig) (peer : Peer) (turns : Nat) : Prop where
  connect : Answers peer turns (Request.connect.bytes (clientConfig config)) .connack
  ping : Answers peer turns (frame 0xC0 []) .pingresp
  publish : ∀ (client : ClientConfig 5) (payload : List UInt8) (e : Event),
    Fitting config payload → (publish config payload).answer client = some e →
      Answers peer turns ((publish config payload).bytes client) e
  silent : ∀ (client : ClientConfig 5) (payload : List UInt8),
    Fitting config payload → (MqttNet.publish config payload).answer client = none →
      peer.reply ((MqttNet.publish config payload).bytes client) = []

/-- The client of the task, with its buffers. -/
structure Started (c : RawMqttClient 5) : Prop where
  live : Live c
  bufferLen : c.bufferLen = bufSize
  recvBuffer : c.recvBuffer.length = bufSize
  qos : c.config.maxSubscribeQos = .qoS0

theorem Started.of_refilled {c c' : RawMqttClient 5} (hc : Started c) (h : Refilled c c') :
    Started c' where
  live := hc.live.of_refilled h
  bufferLen := h.bufferLen.trans hc.bufferLen
  recvBuffer := h.recvBuffer.trans hc.recvBuffer
  qos := by
    rw [h.eq]
    exact hc.qos

theorem Started.next {c : RawMqttClient 5} (hc : Started c) :
    Started { c with config.rng := c.config.rng.next } :=
  ⟨hc.live.next, hc.bufferLen, hc.recvBuffer, hc.qos⟩

/-- A request that is not waited for. -/
theorem runOn_unanswered {r : Request} (hc : Started c) (hvalid : r.Valid c.config)
    (hroom : (r.bytes c.config).length ≤ bufSize) (hanswer : r.answer c.config = none) :
    ∃ c', (MqttClient.perform turns r).runOn (link peer) c w =
        (.returned (.ok ()) c', w.write peer [r.bytes c.config]) ∧ Refilled (r.after c) c' := by
  rw [← hc.bufferLen] at hroom
  rcases MqttClient.perform_cases hc.live.online turns r hvalid with
    ⟨-, hsends⟩ | ⟨α, m, a, accept, -, -, -, hsome⟩
  · exact MqttClient.runOn_sent peer hsends hroom
  · rw [hanswer] at hsome
    exact absurd hsome Bool.false_ne_true

/-- An exchange with a broker that answers, or does not have to. -/
theorem runOn_exchange {r : Request} (hc : Started c) (hvalid : r.Valid c.config)
    (hroom : (r.bytes c.config).length ≤ bufSize) (hmax : r.maxTopics = 0) (hin : w.incoming = [])
    (hanswers : ∀ e, r.answer c.config = some e → Answers peer turns (r.bytes c.config) e)
    (hsilent : r.answer c.config = none → peer.reply (r.bytes c.config) = []) :
    ∃ c' reads, (MqttClient.perform turns r).runOn (link peer) c w =
        (.returned (.ok ()) c', { incoming := [], reads, sent := w.sent ++ [r.bytes c.config] }) ∧
      Refilled (r.after c) c' := by
  cases hanswer : r.answer c.config with
  | some e =>
      have hroom' : (r.bytes c.config).length ≤ c.bufferLen := by
        rw [hc.bufferLen]
        exact hroom
      obtain ⟨p, hreply, hfits, hacks, hevent⟩ := hanswers e hanswer
      have hin' : w.incoming ++ peer.reply (r.bytes c.config) = p.bytes ++ [] := by
        rw [hin, hreply, List.append_nil]
        rfl
      obtain ⟨c', reads, res, hrun, hrefilled, hok⟩ := MqttClient.runOn_perform peer hc.live.online
        hc.live.ready hvalid hroom' hanswer hin' (by rwa [hc.recvBuffer]) hacks
      rw [hmax, hc.qos] at hok
      rw [hok.mpr hevent] at hrun
      exact ⟨c', reads, hrun, hrefilled⟩
  | none =>
      obtain ⟨c', hrun, hrefilled⟩ := @runOn_unanswered peer turns c w r hc hvalid hroom hanswer
      refine ⟨c', w.reads, ?_, hrefilled⟩
      rw [hrun]
      simp [Link.write, hsilent hanswer, hin]

theorem runOn_connect (hc : Started c) (hvalid : Request.connect.Valid c.config)
    (hroom : (Request.connect.bytes c.config).length ≤ bufSize) (hin : w.incoming = [])
    (hanswer : Answers peer turns (Request.connect.bytes c.config) .connack) :
    ∃ c' reads, (MqttClient.perform turns .connect).runOn (link peer) c w =
        (.returned (.ok ()) c',
          { incoming := [], reads, sent := w.sent ++ [Request.connect.bytes c.config] }) ∧
      Refilled (Request.connect.after c) c' := by
  apply runOn_exchange hc hvalid hroom rfl hin
  · rintro e ⟨⟩
    exact hanswer
  · intro h
    contradiction

theorem runOn_ping (hc : Started c) (hin : w.incoming = [])
    (hanswer : Answers peer turns (frame 0xC0 []) .pingresp) :
    ∃ c' reads, (MqttClient.perform turns .ping).runOn (link peer) c w =
        (.returned (.ok ()) c',
          { incoming := [], reads, sent := w.sent ++ [Request.ping.bytes c.config] }) ∧
      Refilled c c' := by
  apply runOn_exchange (r := .ping) hc (valid_ping c.config) (show 2 ≤ bufSize by decide) rfl hin
  · rintro e ⟨⟩
    exact hanswer
  · intro h
    contradiction

/-- A turn of the inner loop, with a broker that answers. -/
theorem runOn_turn (hserves : Serves config peer turns) (hc : Started c) (hin : w.incoming = [])
    {payload : List UInt8} (hfit : Fitting config payload) :
    ∃ c' reads, (turn config turns (some payload)).runOn (link peer) c w =
        (.returned (.ok true) c', { incoming := [], reads, sent := w.sent ++
          [Request.ping.bytes c.config, (publish config payload).bytes c.config] }) ∧
      Refilled { c with config.rng := c.config.rng.next } c' := by
  obtain ⟨c₁, reads₁, hping, hrefilled₁⟩ := runOn_ping hc hin hserves.ping
  have hconfig : c₁.config = c.config := by rw [hrefilled₁.eq]
  obtain ⟨c₂, reads₂, hsend, hrefilled₂⟩ := runOn_exchange (r := publish config payload)
    (w := { incoming := [], reads := reads₁, sent := w.sent ++ [Request.ping.bytes c.config] })
    (hc.of_refilled hrefilled₁) (valid_publish hfit.short c₁.config) (hfit.room c₁.config) rfl rfl
    (fun e => hserves.publish c₁.config payload e hfit) (hserves.silent c₁.config payload hfit)
  rw [hconfig] at hsend
  refine ⟨c₂, reads₂, ?_, (refilled_next hrefilled₁).trans hrefilled₂⟩
  have hsent : w.sent ++ [Request.ping.bytes c.config, (publish config payload).bytes c.config] =
      w.sent ++ [Request.ping.bytes c.config] ++ [(publish config payload).bytes c.config] := by
    rw [List.append_assoc]
    rfl
  unfold turn
  refine (runOn_bind_of_ok (runOn_attempt_of_returned hping)).trans ?_
  refine (runOn_bind_of_ok (runOn_attempt_of_returned hsend)).trans ?_
  rw [hsent]
  rfl

theorem started_newClient (config : MqttConfig) : Started (newClient config) where
  live := live_newClient config
  bufferLen := rfl
  recvBuffer := List.length_replicate
  qos := by
    obtain ⟨flag, password, -, hconfig⟩ := clientConfig_eq config
    show (clientConfig config).maxSubscribeQos = .qoS0
    rw [hconfig]
    rfl

/-- A CONNECT only says more in the configuration. -/
theorem Started.connect {c : RawMqttClient 5} (hc : Started c) :
    Started (Request.connect.after c) where
  live := ⟨⟨hc.live.online.version, hc.live.online.connection, hc.live.online.buffer⟩,
    hc.live.ready.of_eq rfl⟩
  bufferLen := hc.bufferLen
  recvBuffer := hc.recvBuffer
  qos := hc.qos

theorem runOn_inner (hserves : Serves config peer turns) {payloads : List (List UInt8)}
    (hc : Started c) (hin : w.incoming = []) (hfit : ∀ payload ∈ payloads, Fitting config payload) :
    ∃ c' reads, (inner config turns (payloads.map some)).runOn (link peer) c w =
        (.returned (.ok true) c', { incoming := [], reads, sent := w.sent ++
          (exchanges config c.config (payloads.map some)).map (·.frame) }) := by
  induction payloads generalizing c w with
  | nil =>
      refine ⟨c, w.reads, ?_⟩
      show (Outcome.returned (Except.ok true) c, w) = _
      rw [← hin]
      simp [exchanges]
  | cons payload payloads ih =>
      obtain ⟨c₁, reads₁, hturn, hrefilled⟩ := runOn_turn hserves hc hin
        (hfit payload List.mem_cons_self)
      obtain ⟨c₂, reads₂, hrest⟩ := ih (hc.next.of_refilled hrefilled)
        (w := { incoming := [], reads := reads₁, sent := w.sent ++
          [Request.ping.bytes c.config, (publish config payload).bytes c.config] }) rfl
        fun payload' hp => hfit payload' (List.mem_cons_of_mem payload hp)
      have hconfig : c₁.config = { c.config with rng := c.config.rng.next } := by
        rw [hrefilled.eq]
      refine ⟨c₂, reads₂, ?_⟩
      rw [List.map_cons, inner, runOn_bind_of_ok hturn]
      refine hrest.trans ?_
      rw [hconfig]
      simp [exchanges, Exchange.of]

end Broker

/-- What a broker replies to a PUBLISH that it reads as the client's own crate does. -/
def samplePuback (bytes : List UInt8) : List UInt8 :=
  match ((PublishPacket.new : PublishPacket 5).decode (.new bytes bytes.length)).1 with
  | .ok p =>
    if p.qos = QualityOfService.qoS1.toU8 then frame 0x40 (toBeBytes p.packetIdentifier) else []
  | .error _ => []

def sampleReply (bytes : List UInt8) : PacketType → List UInt8
  | .connect => frame 0x20 [0, 0, 0]
  | .pingreq => frame 0xD0 []
  | .publish => samplePuback bytes
  | _ => []

def samplePeer : Peer where
  cut _ := 3
  ending := .silent
  reply bytes := sampleReply bytes (PacketType.ofU8 (bytes.headD 0))

theorem reply_frame {header : UInt8} {type : PacketType} (h : PacketType.ofU8 header = type)
    (body : List UInt8) :
    samplePeer.reply (frame header body) = sampleReply (frame header body) type := by
  rw [← h]
  rfl

theorem announced_empty : Announced 0 ([] : List Property) := ⟨by simp, rfl⟩

section Answers

variable {peer : Peer} {turns : Nat} {bytes : List UInt8}

theorem answers_connack (hturns : 3 ≤ turns) (h : peer.reply bytes = frame 0x20 [0, 0, 0]) :
    Answers peer turns bytes .connack := by
  refine ⟨.control (.connack .new), h, ⟨⟨rfl, announced_empty, ?_, trivial, ?_⟩, hturns, ?_⟩,
    rfl, rfl⟩
  · intro q hq
    exact absurd hq List.not_mem_nil
  · show 3 ≤ 268435455
    decide
  · show 5 + 3 ≤ bufSize
    decide

theorem answers_pingresp (h : peer.reply bytes = frame 0xD0 []) :
    Answers peer turns bytes .pingresp := by
  refine ⟨.pingresp 0xD0, h, ⟨⟨rfl, announced_empty, ?_, trivial, ?_⟩, ?_, ?_⟩, rfl, rfl⟩
  · intro q hq
    exact absurd hq List.not_mem_nil
  · exact Nat.zero_le _
  · exact Nat.zero_le _
  · show 2 + 0 ≤ bufSize
    decide

end Answers

theorem answers_puback (bytes : List UInt8) (identifier : UInt16)
    (h : samplePeer.reply bytes = frame 0x40 (toBeBytes identifier)) :
    Answers samplePeer 3 bytes (.puback identifier) := by
  have hwf : (BrokerPacket.shortPuback 0x40 identifier none : BrokerPacket 0).WellFormed := by
    constructor
    · show PacketType.ofU8 (0x40 : UInt8) = .puback
      decide
    · exact announced_empty
    · exact fun q hq => absurd hq List.not_mem_nil
    · trivial
    · show 2 ≤ 268435455
      decide
  refine ⟨.shortPuback 0x40 identifier none, h, ⟨hwf, ?_, ?_⟩, rfl, rfl⟩
  · show 2 ≤ 3
    decide
  · show 4 + 2 ≤ bufSize
    decide

section Sample

variable {config : MqttConfig}

/-- What the broker makes of a PUBLISH. -/
theorem reply_publish {payload : List UInt8} (hfit : Fitting config payload)
    (client : ClientConfig 5) :
    samplePeer.reply ((publish config payload).bytes client) =
      if config.qualityOfService = .qoS1 then frame 0x40 (toBeBytes (Request.identifier client))
      else [] := by
  obtain ⟨p, hp⟩ : ∃ p, p = publishPacket 5 (Request.identifier client) config.basetopic payload
    config.qualityOfService config.retain := ⟨_, rfl⟩
  have hheader : p.fixedHeader = publishHeader config.qualityOfService config.retain := by
    rw [hp]
    rfl
  have htype : PacketType.ofU8 p.fixedHeader = .publish := by
    rw [hheader]
    exact ofU8_publishHeader _ _
  have htopic : p.topicName.Exact := by
    have hlen : (asBytes config.basetopic).length + payload.length ≤ 1490 := hfit
    rw [hp]
    show (UInt16.ofNat (asBytes config.basetopic).length).toNat = (asBytes config.basetopic).length
    rw [UInt16.toNat_ofNat']
    exact Nat.mod_eq_of_lt (by omega)
  have hprops : Announced p.propertyLen p.properties.toList := by
    rw [hp]
    exact announced_empty
  have hplain : ∀ q ∈ p.properties.toList, ¬ q.IsBinary := by
    rw [hp]
    exact fun q hq => absurd hq List.not_mem_nil
  have hmax : (p.body payload).length ≤ 268435455 := by
    rw [hp]
    exact valid_publish hfit.short client
  have hbytes : (publish config payload).bytes client = frame p.fixedHeader (p.body payload) := by
    rw [hheader, hp]
    rfl
  obtain ⟨r, hdecode⟩ := @PublishPacket.decodes_decode _ 5 _ _ htype htopic hprops hplain hmax
    (frame p.fixedHeader (p.body payload)) _ (Nat.le_refl _) List.take_length
  have hone : (p.received payload : PublishPacket 5).qos = QualityOfService.qoS1.toU8 ↔
      config.qualityOfService = .qoS1 := by
    show p.fixedHeader &&& 0x06 = _ ↔ _
    rw [hheader]
    rcases qualityOfService_cases config with h | h | h <;>
      rw [h] <;> cases config.retain <;> decide
  rw [hbytes, reply_frame htype, sampleReply, samplePuback, hdecode]
  show (if (p.received payload : PublishPacket 5).qos = QualityOfService.qoS1.toU8 then
    frame 0x40 (toBeBytes (p.received payload : PublishPacket 5).packetIdentifier) else []) = _
  by_cases h : config.qualityOfService = .qoS1
  · rw [if_pos (hone.mpr h), if_pos h]
    have hidentifier : (p.received payload : PublishPacket 5).packetIdentifier =
        Request.identifier client := by
      have hqos : p.qos = QualityOfService.qoS1.toU8 := hone.mpr h
      rw [PublishPacket.received, hqos, hp]
      rfl
    rw [hidentifier]
  · rw [if_neg fun h' => h (hone.mp h'), if_neg h]

/-- The broker answers all that quality of service 0 and 1 ask for. -/
theorem serves_samplePeer (hqos : config.qualityOfService ≠ .qoS2) :
    Serves config samplePeer 3 where
  connect := answers_connack (Nat.le_refl 3)
    (reply_frame (show PacketType.ofU8 0x10 = .connect by decide) _)
  ping := answers_pingresp (reply_frame (show PacketType.ofU8 0xC0 = .pingreq by decide) _)
  publish client payload e hfit hanswer := by
    have hreply := reply_publish hfit client
    rcases qualityOfService_cases config with h | h | h
    · simp [MqttNet.publish, Request.answer, h] at hanswer
    · rw [MqttNet.publish, Request.answer, h] at hanswer
      injection hanswer with he
      rw [← he]
      rw [if_pos h] at hreply
      exact answers_puback _ _ hreply
    · exact absurd h hqos
  silent client payload hfit hanswer := by
    rw [reply_publish hfit client, if_neg]
    intro h
    simp [MqttNet.publish, Request.answer, h] at hanswer

end Sample

section Broker

variable {config : MqttConfig} {peer : Peer} {turns : Nat} {c : RawMqttClient 5} {w : Link}

/-- A ping that is answered with another packet ends the connection. -/
theorem runOn_turn_failed (hc : Started c) {p : BrokerPacket 0} {rest : List UInt8}
    (hin : w.incoming ++ peer.reply (Request.ping.bytes c.config) = p.bytes ++ rest)
    (hp : Fits p turns bufSize) (hacks : p.acks = []) (hevent : p.event 0 .qoS0 ≠ .ok .pingresp)
    (reading : Option (List UInt8)) :
    ∃ c' w', (turn config turns reading).runOn (link peer) c w = (.returned (.ok false) c', w') ∧
      w'.sent = w.sent ++ [Request.ping.bytes c.config, Request.disconnect.bytes c.config] ∧
      c'.connection = false := by
  have hping : (Request.ping.bytes c.config).length ≤ c.bufferLen := by
    rw [hc.bufferLen]
    show 2 ≤ bufSize
    decide
  obtain ⟨c₁, reads₁, res, hrun, hrefilled, hok⟩ := MqttClient.runOn_perform peer hc.live.online
    hc.live.ready (valid_ping c.config) hping rfl hin (by rwa [hc.recvBuffer]) hacks
  replace hrefilled : Refilled c c₁ := hrefilled
  have hfailed : res ≠ .ok () := by
    rw [Ne, hok, hc.qos]
    exact hevent
  obtain ⟨e, rfl⟩ : ∃ e, res = .error e := by
    cases res with
    | ok u => exact absurd rfl hfailed
    | error e => exact ⟨e, rfl⟩
  have hc₁ := hc.of_refilled hrefilled
  have hdisconnect : (Request.disconnect.bytes c₁.config).length ≤ c₁.bufferLen := by
    rw [hc₁.bufferLen]
    show 4 ≤ bufSize
    decide
  obtain ⟨w₁, hw₁⟩ : ∃ w₁ : Link, w₁ =
    { incoming := rest, reads := reads₁, sent := w.sent ++ [Request.ping.bytes c.config] } :=
      ⟨_, rfl⟩
  rw [← hw₁] at hrun
  obtain ⟨c₂, hgone, hrefilled₂⟩ := MqttClient.runOn_sent peer (w := w₁)
    (sendsFrame_disconnect hc₁.live.online) hdisconnect
  have hconnection : c₂.connection = false := by rw [hrefilled₂.eq]
  have hversion : c₂.config.mqttVersion = .mqttv5 := by
    rw [hrefilled₂.eq]
    exact hc₁.live.online.version
  have hoffline (w : Link) : (MqttClient.connectToBroker turns).runOn (link peer) c₂ w =
      (.returned (.error .networkError) c₂, w) :=
    runOn_of_done (connectToBroker_offline turns hversion hconnection) w
  refine ⟨c₂, w₁.write peer [Request.disconnect.bytes c₁.config], ?_, ?_, hconnection⟩
  · unfold turn
    refine (runOn_bind_of_ok (runOn_attempt_of_returned hrun)).trans ?_
    refine (runOn_bind_of_ok (runOn_attempt_of_returned hgone)).trans ?_
    exact runOn_bind_of_ok (runOn_attempt_of_returned (hoffline _))
  · have hconfig : c₁.config = c.config := by rw [hrefilled.eq]
    rw [hw₁, hconfig]
    simp [Link.write]

/-- A turn with quality of service 2, whose PUBLISH is not waited for: what the broker replies to it
is left to be read. -/
theorem runOn_turn_qoS2 {payload : List UInt8} (hqos : config.qualityOfService = .qoS2)
    (hc : Started c) (hin : w.incoming = []) (hping : Answers peer turns (frame 0xC0 []) .pingresp)
    (hfit : Fitting config payload) :
    ∃ c' reads, (turn config turns (some payload)).runOn (link peer) c w =
        (.returned (.ok true) c', {
          incoming := peer.reply ((publish config payload).bytes c.config)
          reads
          sent := w.sent ++
            [Request.ping.bytes c.config, (publish config payload).bytes c.config] }) ∧
      Refilled { c with config.rng := c.config.rng.next } c' := by
  obtain ⟨c₁, reads₁, hrun₁, hrefilled₁⟩ := runOn_ping hc hin hping
  have hconfig : c₁.config = c.config := by rw [hrefilled₁.eq]
  have hanswer : (publish config payload).answer c₁.config = none := by
    rw [publish, Request.answer, hqos]
    rfl
  obtain ⟨c₂, hrun₂, hrefilled₂⟩ := @runOn_unanswered peer turns c₁
    { incoming := [], reads := reads₁, sent := w.sent ++ [Request.ping.bytes c.config] } _
    (hc.of_refilled hrefilled₁) (valid_publish hfit.short c₁.config) (hfit.room c₁.config) hanswer
  rw [hconfig] at hrun₂
  refine ⟨c₂, reads₁, ?_, (refilled_next hrefilled₁).trans hrefilled₂⟩
  unfold turn
  refine (runOn_bind_of_ok (runOn_attempt_of_returned hrun₁)).trans ?_
  refine (runOn_bind_of_ok (runOn_attempt_of_returned hrun₂)).trans ?_
  simp [Link.write]

end Broker

/-- A broker that sends a PUBREC for a PUBLISH. -/
def pubrecReply (bytes : List UInt8) : PacketType → List UInt8
  | .publish => frame 0x50 [0xC3, 0x51, 0, 0]
  | type => sampleReply bytes type

def pubrecPeer : Peer where
  cut _ := 3
  ending := .silent
  reply bytes := pubrecReply bytes (PacketType.ofU8 (bytes.headD 0))

theorem pubrecPeer_reply_frame {header : UInt8} {type : PacketType}
    (h : PacketType.ofU8 header = type) (body : List UInt8) :
    pubrecPeer.reply (frame header body) = pubrecReply (frame header body) type := by
  rw [← h]
  rfl

end Toucan.MqttNet
