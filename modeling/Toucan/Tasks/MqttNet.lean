import Toucan.Mqtt.Calls

/-!
# Toucan.Tasks.MqttNet

One connection of `mqtt_net_task` (`tasks/mqtt.rs`): the client connects to the broker, and
then there is a ping and a reading in every turn of the inner loop.

The delay between two turns is left out, and the readings are given: `none` is a turn that
finds `MQTTFMT` locked.

`ensures_session` is for any network: the frames are those of the `dialogue`, in its order,
and each is written after the answers to all before it.
-/

namespace Toucan.MqttNet

open Async HttpMessage Mqtt RawMqttClient

/-! ## The task -/

/-- What the task reads of `MqttConfig`, and the topic of the will. -/
structure MqttConfig where
  username : String
  password : String
  basetopic : String
  qos : UInt8
  retain : Bool
  willTopic : String

def MqttConfig.qualityOfService (config : MqttConfig) : QualityOfService :=
  match config.qos with
  | 1 => .qoS1
  | 2 => .qoS2
  | _ => .qoS0

theorem qualityOfService_cases (config : MqttConfig) :
    config.qualityOfService = .qoS0 ∨ config.qualityOfService = .qoS1 ∨
      config.qualityOfService = .qoS2 := by
  unfold MqttConfig.qualityOfService
  split <;> simp

def bufSize : Nat := 1500

def clientConfig (config : MqttConfig) : ClientConfig 5 :=
  let client : ClientConfig 5 := .new .mqttv5 ⟨50000⟩
  let client := if config.username.isEmpty then client.addUsername config.username else client
  let client := client.addUsername config.username
  let client :=
    if !config.password.isEmpty then client.addPassword config.password else client
  let client := client.addWill config.willTopic (asBytes "Online") config.retain
  let client := { client with maxPacketSize := 6000 }
  let client := { client with keepAlive := 60000 }
  { client with maxPacketSize := 300 }

def newClient (config : MqttConfig) : RawMqttClient 5 :=
  .new (List.replicate bufSize 0) bufSize (List.replicate bufSize 0) bufSize (clientConfig config)

/-- A turn of the inner loop; whether there is another one. -/
def turn (config : MqttConfig) (turns : Nat) (reading : Option (List UInt8)) : ClientM 5 Bool := do
  match ← attempt (MqttClient.sendPing turns) with
  | .error _ =>
    let _ ← attempt MqttClient.disconnect
    let _ ← attempt (MqttClient.connectToBroker turns)
    return false
  | .ok () =>
    match reading with
    | none => return false
    | some payload =>
      let sent ← attempt (MqttClient.sendMessage turns config.basetopic payload
        config.qualityOfService config.retain)
      match sent with
      | .error _ => return false
      | .ok () => return true

/-- The inner loop, as long as there are readings; whether it goes on. -/
def inner (config : MqttConfig) (turns : Nat) : List (Option (List UInt8)) → ClientM 5 Bool
  | [] => return true
  | reading :: readings => do
    if ← turn config turns reading then inner config turns readings else return false

def session (config : MqttConfig) (turns : Nat) (readings : List (Option (List UInt8))) :
    ClientM 5 Bool := do
  match ← attempt (MqttClient.connectToBroker turns) with
  | .error _ => return false
  | .ok () => inner config turns readings

/-! ## The dialogue -/

/-- A frame, and the event that it is answered with. -/
structure Exchange where
  frame : List UInt8
  answer : Option Event

def Exchange.of (config : ClientConfig 5) (r : Request) : Exchange :=
  ⟨r.bytes config, r.answer config⟩

/-- The request for a reading. -/
def publish (config : MqttConfig) (payload : List UInt8) : Request :=
  .publish config.basetopic payload config.qualityOfService config.retain

/-- The exchanges of the inner loop; every PUBLISH takes the next packet identifier. -/
def exchanges (config : MqttConfig) : ClientConfig 5 → List (Option (List UInt8)) → List Exchange
  | _, [] => []
  | client, none :: _ => [.of client .ping]
  | client, some payload :: readings => .of client .ping :: .of client (publish config payload) ::
    exchanges config { client with rng := client.rng.next } readings

def dialogue (config : MqttConfig) (readings : List (Option (List UInt8))) : List Exchange :=
  .of (clientConfig config) .connect ::
    exchanges config (clientConfig config).addMaxPacketSizeAsProp readings

/-- Exchanges that are over: their frames have been written, and the answers read, and there was
nothing else. -/
structure Done (xs : List Exchange) (tr : Trace Answer) : Prop where
  written : framesWritten tr = xs.map (·.frame)
  read : AnsweredBy (xs.filterMap (·.answer)) (bytesRead tr)

/-- Which frame may be written in a dialogue: the next one, once those before are over; a PUBACK
for a message that comes in place of an answer; or a DISCONNECT after a ping. -/
inductive Polite (xs : List Exchange) (tr : Trace Answer) : List UInt8 → Prop where
  | request {before after : List Exchange} {x : Exchange} (hxs : xs = before ++ x :: after)
      (hdone : Done before tr) : Polite xs tr x.frame
  | puback {before after : List Exchange} {x : Exchange} (identifier : UInt16)
      (hxs : xs = before ++ x :: after) (hx : x.answer.isSome)
      (hwritten : framesWritten tr = before.map (·.frame) ++ [x.frame]) :
      Polite xs tr (pubackBytes identifier)
  | disconnect {before after : List Exchange} {x : Exchange} (hxs : xs = before ++ x :: after)
      (hx : x.answer = some .pingresp) (hwritten : framesWritten tr = before.map (·.frame) ++ [x.frame] ∨
        ∃ identifier, framesWritten tr = before.map (·.frame) ++ [x.frame, pubackBytes identifier]) :
      Polite xs tr (frame 0xE0 [0, 0])

theorem done_nil : Done [] [] := ⟨rfl, .nil⟩

/-- How long the body of a PUBLISH is: topic, packet identifier, no properties, and the reading. -/
theorem length_body_publish (config : MqttConfig) (payload : List UInt8) (client : ClientConfig 5) :
    ((publish config payload).body client).length ≤
      (asBytes config.basetopic).length % 65536 + payload.length + 5 := by
  have hhead := @PublishPacket.length_headBytes _ (publishPacket 5 (Request.identifier client)
    config.basetopic payload config.qualityOfService config.retain)
    (encodedString_fits config.basetopic)
  have hlen : (publishPacket 5 (Request.identifier client) config.basetopic payload
      config.qualityOfService config.retain).topicName.len.toNat =
        (asBytes config.basetopic).length % 65536 := UInt16.toNat_ofNat'
  have hblock : (propertyBlock []).length = 1 := rfl
  show (_ ++ propertyBlock [] ++ payload).length ≤ _
  rw [List.length_append, List.length_append, hhead, hlen, hblock]
  split <;> omega

/-- A reading whose PUBLISH has a length that can be written. -/
def Short (payload : List UInt8) : Prop := payload.length ≤ 268000000

theorem valid_publish {config : MqttConfig} {payload : List UInt8} (h : Short payload)
    (client : ClientConfig 5) : (publish config payload).Valid client := by
  have hbody := length_body_publish config payload client
  have hlen : payload.length ≤ 268000000 := h
  show ((publish config payload).body client).length ≤ 268435455
  omega

/-- One exchange more. -/
theorem Done.snoc {xs : List Exchange} {x : Exchange} {tr tr' : Trace Answer} (h : Done xs tr)
    (hwritten : framesWritten tr' = [x.frame])
    (hread : AnsweredBy x.answer.toList (bytesRead tr')) :
    Done (xs ++ [x]) (tr ++ tr') where
  written := by
    rw [framesWritten_append, h.written, hwritten, List.map_append]
    rfl
  read := by
    have hlast : [x].filterMap (·.answer) = x.answer.toList := by
      cases hx : x.answer <;> simp [hx]
    rw [bytesRead_append, List.filterMap_append, hlast]
    exact h.read.append hread

/-! ## Any network -/

/-- A client that can go on. -/
structure Live (c : RawMqttClient 5) : Prop where
  online : Online c
  ready : Ready c

theorem Live.of_refilled {c c' : RawMqttClient 5} (hc : Live c) (h : Refilled c c') : Live c' where
  online := by
    refine ⟨?_, ?_, (h.sized hc.ready.sized).buffer⟩
    · rw [h.eq]
      exact hc.online.version
    · rw [h.eq]
      exact hc.online.connection
  ready := hc.ready.of_refilled h

/-- The identifiers have nothing to do with it. -/
theorem Live.next {c : RawMqttClient 5} (hc : Live c) :
    Live { c with config.rng := c.config.rng.next } where
  online := ⟨hc.online.version, hc.online.connection, hc.online.buffer⟩
  ready := hc.ready.of_eq rfl

theorem refilled_next {c c' : RawMqttClient 5} (h : Refilled c c') :
    Refilled { c with config.rng := c.config.rng.next }
      { c' with config.rng := c'.config.rng.next } :=
  ⟨h.buffer, h.recvBuffer, by rw [h.eq]⟩

section Network

variable {xs before after : List Exchange} {tr₀ : Trace Answer} {c : RawMqttClient 5}

/-- Behind what has been answered so far, only polite frames. -/
def PoliteAfter (xs : List Exchange) (tr₀ tr : Trace Answer) (op : Io) (_ : RawMqttClient 5) : Prop :=
  ∀ frame, op = .write frame → Polite xs (tr₀ ++ tr) frame

theorem PoliteAfter.append {tr tr' : Trace Answer} {op : Io}
    (h : PoliteAfter xs (tr₀ ++ tr) tr' op c) : PoliteAfter xs tr₀ (tr ++ tr') op c := by
  intro frame hframe
  rw [← List.append_assoc]
  exact h frame hframe

/-- A loop that stops promises nothing about a loop that goes on. -/
theorem ensures_stop {I : Trace Answer → Io → RawMqttClient 5 → Prop}
    {P : Trace Answer → RawMqttClient 5 → Prop} :
    Ensures I (fun tr r c' => r = .ok true → P tr c') (pure false : ClientM 5 Bool) c := by
  apply ensures_pure
  intro h
  injection h with h
  contradiction

theorem Live.six_le_bufferLen (hc : Live c) : 6 ≤ c.bufferLen := by
  have hrecv := hc.ready.recvBufferLen
  have hsix := hc.ready.room
  have hsized := hc.ready.sized.recvBuffer
  omega

/-- What an exchange leaves behind. -/
structure Exchanged (r : Request) (c : RawMqttClient 5) (before : List Exchange)
    (tr : Trace Answer) (res : Except ReasonCode Unit) (c' : RawMqttClient 5) : Prop where
  ok : res = .ok () → Done (before ++ [.of c.config r]) tr ∧ Refilled (r.after c) c'
  sent : (r.bytes c.config).length ≤ c.bufferLen → Refilled (r.after c) c' ∧
    (framesWritten tr = before.map (·.frame) ++ [r.bytes c.config] ∨ ∃ identifier,
      framesWritten tr = before.map (·.frame) ++ [r.bytes c.config, pubackBytes identifier])

/-- One exchange of the dialogue. -/
theorem ensures_exchange {r : Request} (hc : Live c) (hvalid : r.Valid c.config)
    (hxs : xs = before ++ .of c.config r :: after) (hdone : Done before tr₀) (turns : Nat) :
    Ensures (PoliteAfter xs tr₀) (fun tr => Exchanged r c before (tr₀ ++ tr))
      (MqttClient.perform turns r) c := by
  by_cases hroom : (r.bytes c.config).length ≤ c.bufferLen
  · apply (MqttClient.ensures_perform hc.online hc.ready turns r hvalid hroom).mono
    · intro tr op s hop frame hframe
      rcases hop frame hframe with ⟨rfl, rfl⟩ | ⟨hsome, hwritten, identifier, rfl⟩
      · rw [List.append_nil]
        exact .request hxs hdone
      · apply Polite.puback identifier hxs hsome
        rw [framesWritten_append, hdone.written, hwritten]
        rfl
    · intro tr res c' h
      refine ⟨?_, fun _ => ⟨h.refilled, ?_⟩⟩
      · intro hok
        obtain ⟨hwritten, hread⟩ := h.ok hok
        exact ⟨hdone.snoc (x := .of c.config r) hwritten hread, h.refilled⟩
      · rw [framesWritten_append, hdone.written]
        apply h.written.imp
        · intro hwritten
          rw [hwritten]
        · rintro ⟨identifier, hwritten⟩
          exact ⟨identifier, by rw [hwritten]⟩
  · obtain ⟨c₁, hm⟩ := MqttClient.perform_refused hc.online turns r hvalid (by omega)
    apply Ensures.of_done hm
    refine ⟨?_, fun h => absurd h hroom⟩
    intro h
    contradiction

/-- A client that has disconnected does not connect again. -/
theorem connectToBroker_offline (turns : Nat) (hversion : c.config.mqttVersion = .mqttv5)
    (hconnection : c.connection = false) :
    MqttClient.connectToBroker turns c = .done (.error .networkError) c := by
  have hraw : RawMqttClient.connectToBroker c = .done (.error .networkError) c := by
    rw [RawMqttClient.connectToBroker, onConnection, gets_bind, hversion]
    show (do
      let connection ← gets (·.connection)
      if connection then _ else fail .networkError : ClientM 5 Unit) c = _
    rw [gets_bind, hconnection]
    rfl
  rw [MqttClient.connectToBroker]
  show (RawMqttClient.connectToBroker c).andThen _ = _
  rw [hraw]
  rfl

/-- After a ping without an answer there is a DISCONNECT, and that is all. -/
theorem ensures_afterPing (hc : Live c) (hxs : xs = before ++ .of c.config .ping :: after)
    (hwritten : framesWritten tr₀ = before.map (·.frame) ++ [Request.ping.bytes c.config] ∨
      ∃ identifier, framesWritten tr₀ =
        before.map (·.frame) ++ [Request.ping.bytes c.config, pubackBytes identifier])
    (turns : Nat) :
    Ensures (PoliteAfter xs tr₀) (fun _ r _ => r = .ok false) (do
      let _ ← attempt MqttClient.disconnect
      let _ ← attempt (MqttClient.connectToBroker turns)
      return false : ClientM 5 Bool) c := by
  have hroom : (Request.disconnect.bytes c.config).length ≤ c.bufferLen := by
    have hlen : (Request.disconnect.bytes c.config).length = 4 := rfl
    have hsix := hc.six_le_bufferLen
    omega
  have hdisconnect : Ensures (PoliteAfter xs tr₀) (fun _ _ c' =>
      c'.config.mqttVersion = .mqttv5 ∧ c'.connection = false) MqttClient.disconnect c := by
    apply (MqttClient.ensures_request (sendsFrame_disconnect hc.online) hroom).mono
    · intro tr op s hop frame hframe
      obtain ⟨rfl, rfl⟩ := hop frame hframe
      rw [List.append_nil]
      exact .disconnect hxs rfl hwritten
    · rintro tr r c' ⟨hrefilled, -, -⟩
      constructor
      · rw [hrefilled.eq]
        exact hc.online.version
      · rw [hrefilled.eq]
  apply hdisconnect.attempt_bind
  rintro tr r c₁ ⟨hversion, hconnection⟩
  have hreconnect : attempt (MqttClient.connectToBroker turns) c₁ =
      .done (.ok (.error .networkError)) c₁ := by
    rw [attempt, connectToBroker_offline turns hversion hconnection]
    rfl
  apply Ensures.bind_of_done hreconnect
  exact ensures_pure rfl

variable {config : MqttConfig} {turns : Nat}

theorem valid_ping (client : ClientConfig 5) : Request.ping.Valid client := Nat.zero_le _

/-- One turn of the inner loop. -/
theorem ensures_turn {reading : Option (List UInt8)} {readings : List (Option (List UInt8))}
    (hc : Live c) (hxs : xs = before ++ exchanges config c.config (reading :: readings))
    (hdone : Done before tr₀)
    (hvalid : ∀ payload ∈ reading, (publish config payload).Valid c.config) :
    Ensures (PoliteAfter xs tr₀) (fun tr r c' => r = .ok true → ∃ payload, reading = some payload ∧
      Done (before ++ [.of c.config .ping, .of c.config (publish config payload)]) (tr₀ ++ tr) ∧
      Refilled { c with config.rng := c.config.rng.next } c') (turn config turns reading) c := by
  obtain ⟨after, hafter⟩ : ∃ after, exchanges config c.config (reading :: readings) =
      .of c.config .ping :: after := by
    cases reading with
    | none => exact ⟨_, rfl⟩
    | some payload => exact ⟨_, rfl⟩
  rw [hafter] at hxs
  have hroom : (Request.ping.bytes c.config).length ≤ c.bufferLen := by
    have hlen : (Request.ping.bytes c.config).length = 2 := rfl
    have hsix := hc.six_le_bufferLen
    omega
  unfold turn
  apply (ensures_exchange (r := .ping) hc (valid_ping c.config) hxs hdone turns).attempt_bind
  intro tr r c₁ hping
  cases r with
  | error e =>
      obtain ⟨hrefilled, hwritten⟩ := hping.sent hroom
      have hconfig : c₁.config = c.config := by rw [hrefilled.eq]; rfl
      rw [← hconfig] at hxs hwritten
      apply (ensures_afterPing (hc.of_refilled hrefilled) hxs hwritten turns).mono
      · exact fun tr' op s hop => hop.append
      · rintro tr' r' c' rfl h
        injection h with h
        contradiction
  | ok u =>
      obtain ⟨hdone₁, hrefilled⟩ := hping.ok rfl
      have hconfig : c₁.config = c.config := by rw [hrefilled.eq]; rfl
      cases reading with
      | none =>
          exact ensures_stop
      | some payload =>
          have hafter' : after = .of c₁.config (publish config payload) ::
              exchanges config { c.config with rng := c.config.rng.next } readings := by
            rw [hconfig]
            exact (List.cons.inj hafter).2.symm
          have hxs' : xs = (before ++ [.of c.config .ping]) ++
              .of c₁.config (publish config payload) ::
                exchanges config { c.config with rng := c.config.rng.next } readings := by
            rw [hxs, hafter', List.append_assoc]
            rfl
          have hvalid' : (publish config payload).Valid c₁.config := by
            rw [hconfig]
            exact hvalid payload rfl
          have hsend := ensures_exchange (hc.of_refilled hrefilled) hvalid' hxs' hdone₁ turns
          apply ((hsend.mono (J := fun tr' => PoliteAfter xs tr₀ (tr ++ tr')) _
            fun _ _ _ h => h).attempt_bind)
          · intro tr' r c₂ hsent
            cases r with
            | error e => exact ensures_stop
            | ok u =>
                obtain ⟨hdone₂, hrefilled₂⟩ := hsent.ok rfl
                apply ensures_pure
                rintro -
                refine ⟨payload, rfl, ?_, ?_⟩
                · rw [List.append_assoc, hconfig] at hdone₂
                  rw [List.append_nil, ← List.append_assoc]
                  exact hdone₂
                · exact (refilled_next hrefilled).trans hrefilled₂
          · exact fun tr' op s hop => hop.append

/-- The inner loop. -/
theorem ensures_inner {readings : List (Option (List UInt8))} (hc : Live c)
    (hxs : xs = before ++ exchanges config c.config readings) (hdone : Done before tr₀)
    (hshort : ∀ payload, some payload ∈ readings → Short payload) :
    Ensures (PoliteAfter xs tr₀) (fun tr r _ => r = .ok true → Done xs (tr₀ ++ tr))
      (inner config turns readings) c := by
  induction readings generalizing c before tr₀ with
  | nil =>
      apply ensures_pure
      intro _
      rw [hxs, List.append_nil]
      show Done (before ++ []) tr₀
      rw [List.append_nil]
      exact hdone
  | cons reading readings ih =>
      rw [inner]
      have hvalid : ∀ payload ∈ reading, (publish config payload).Valid c.config := by
        rintro payload hp
        apply valid_publish
        rw [Option.mem_def.mp hp] at hshort
        exact hshort payload List.mem_cons_self
      apply (ensures_turn hc hxs hdone hvalid).bind
      · intro tr b c₁ hturn
        cases b with
        | false => exact ensures_stop
        | true =>
            obtain ⟨payload, rfl, hdone₁, hrefilled⟩ := hturn rfl
            have hconfig : c₁.config = { c.config with rng := c.config.rng.next } := by
              rw [hrefilled.eq]
            have hxs₁ : xs =
                (before ++ [.of c.config .ping, .of c.config (publish config payload)]) ++
                  exchanges config c₁.config readings := by
              rw [hxs, hconfig, List.append_assoc]
              rfl
            apply (ih (hc.next.of_refilled hrefilled) hxs₁ hdone₁ fun payload hp =>
              hshort payload (List.mem_cons_of_mem _ hp)).mono
            · exact fun tr' op s hop => hop.append
            · intro tr' r c' h hr
              rw [← List.append_assoc]
              exact h hr
      · intro tr e c₁ _ h
        contradiction

end Network

/-! ## The client of the task -/

section Client

variable (config : MqttConfig)

theorem binaryData_fits (bs : List UInt8) : (ClientConfig.binaryData bs).Fits := by
  rw [BinaryData.Fits, ClientConfig.binaryData, UInt16.toNat_ofNat']
  exact Nat.mod_le _ _

/-- The configuration, but for the password. -/
theorem clientConfig_eq : ∃ (flag : Bool) (password : BinaryData), password.Fits ∧
    clientConfig config = { (ClientConfig.new .mqttv5 ⟨50000⟩ : ClientConfig 5) with
      usernameFlag := true
      username := ClientConfig.encodedString config.username
      passwordFlag := flag
      password
      willFlag := true
      willRetain := config.retain
      willTopic := ClientConfig.encodedString config.willTopic
      willPayload := ClientConfig.binaryData (asBytes "Online")
      keepAlive := 60000
      maxPacketSize := 300 } := by
  rw [clientConfig]
  cases config.password.isEmpty with
  | false =>
      refine ⟨true, _, binaryData_fits (asBytes config.password), ?_⟩
      cases config.username.isEmpty <;> rfl
  | true =>
      refine ⟨false, .new, Nat.zero_le _, ?_⟩
      cases config.username.isEmpty <;> rfl

theorem live_newClient : Live (newClient config) := by
  have hversion : (clientConfig config).mqttVersion = .mqttv5 := by
    obtain ⟨flag, password, -, hconfig⟩ := clientConfig_eq config
    rw [hconfig]
    rfl
  have hlen : (List.replicate bufSize (0 : UInt8)).length = bufSize := List.length_replicate
  exact ⟨⟨hversion, rfl, Nat.le_of_eq hlen.symm⟩, ⟨rfl, ⟨Nat.le_of_eq hlen.symm, Nat.le_of_eq hlen⟩,
    Nat.le_of_eq hlen.symm, show 6 ≤ bufSize by decide⟩⟩

theorem properties_clientConfig :
    (clientConfig config).addMaxPacketSizeAsProp.properties.toList = [.maximumPacketSize 300] := by
  obtain ⟨flag, password, -, hconfig⟩ := clientConfig_eq config
  rw [hconfig]
  rfl

theorem sound_clientConfig : (clientConfig config).addMaxPacketSizeAsProp.Sound := by
  have hprops := properties_clientConfig config
  obtain ⟨flag, password, hpassword, hconfig⟩ := clientConfig_eq config
  constructor
  · intro p hp _
    rw [hprops, List.mem_singleton] at hp
    rw [hp]
    exact ⟨⟨_, rfl, trivial⟩, by decide⟩
  · rw [hprops]
    decide
  · rw [hconfig]
    exact encodedString_fits config.username
  · rw [hconfig]
    exact hpassword
  · rw [hconfig]
    exact encodedString_fits config.willTopic
  · rw [hconfig]
    exact binaryData_fits _
  · rw [hconfig]
    exact Nat.zero_le _

theorem valid_connect : Request.connect.Valid (clientConfig config) := by
  apply Request.valid_connect (sound_clientConfig config)
  rw [properties_clientConfig]
  decide

end Client

def sampleConfig (qos : UInt8) : MqttConfig where
  username := "u"
  password := "p"
  basetopic := "bms"
  qos := qos
  retain := false
  willTopic := "w"

end Toucan.MqttNet
