import Toucan.Mqtt.Network

/-!
# Toucan.Mqtt.Calls

The calls of `MqttClient` (`rust-mqtt`, `client/client.rs`): a request, and the answer to it
where there is one.

`ensures_perform` is for any network: a call that returns has sent its frame, and the one
packet that it has read is the answer.  `runOn_perform` is for a broker that gives the
answer: then the call returns, and nothing is left to read.
-/

namespace Toucan.Mqtt

open Async

/-! ## Answers -/

/-- The bytes are one packet for each of the events, which it shows. -/
inductive AnsweredBy : List Event → List UInt8 → Prop where
  | nil : AnsweredBy [] []
  | cons {p : WirePacket} {e : Event} {es : List Event} {bytes : List UInt8} (hp : p.Shows e)
      (h : AnsweredBy es bytes) : AnsweredBy (e :: es) (p.bytes ++ bytes)

theorem AnsweredBy.append {es es' : List Event} {bytes bytes' : List UInt8}
    (h : AnsweredBy es bytes) (h' : AnsweredBy es' bytes') :
    AnsweredBy (es ++ es') (bytes ++ bytes') := by
  induction h with
  | nil => exact h'
  | cons hp _ ih =>
      rw [List.cons_append, List.append_assoc]
      exact .cons hp ih

theorem AnsweredBy.singleton {p : WirePacket} {e : Event} (hp : p.Shows e) :
    AnsweredBy [e] p.bytes := by
  have h := AnsweredBy.cons hp .nil
  rwa [List.append_nil] at h

namespace RawMqttClient.Request

/-- The event that ends the call. -/
def answer (config : ClientConfig cap) : Request → Option Event
  | connect => some .connack
  | disconnect => none
  | publish _ _ qos _ => if qos = .qoS1 then some (.puback (identifier config)) else none
  | subscribe _ _ => some (.suback (identifier config))
  | unsubscribe _ => some (.unsuback (identifier config))
  | ping => some .pingresp

/-- The room for reason codes in an answer. -/
def maxTopics : Request → Nat
  | subscribe n _ => n
  | _ => 0

end RawMqttClient.Request

/-- Being ready has nothing to do with the configuration. -/
theorem RawMqttClient.Ready.of_eq {c c' : RawMqttClient cap} (hc : Ready c)
    (h : c' = { c with config := c'.config }) : Ready c' := by
  rw [h]
  exact ⟨hc.connection, ⟨hc.sized.buffer, hc.sized.recvBuffer⟩, hc.recvBufferLen, hc.room⟩

namespace MqttClient

open RawMqttClient

/-- The call for a request. -/
def perform (turns : Nat) : Request → ClientM cap Unit
  | .connect => connectToBroker turns
  | .disconnect => disconnect
  | .publish topicName message qos retain => sendMessage turns topicName message qos retain
  | .subscribe _ topicNames => subscribeToTopics turns topicNames
  | .unsubscribe topicName => unsubscribeFromTopic turns topicName
  | .ping => sendPing turns

section Perform

variable {c after : RawMqttClient cap}

/-- The frame of the request is written first, and only a PUBACK while its answer is awaited. -/
def Performing (r : Request) (c : RawMqttClient cap) (tr : Trace Answer) (op : Io)
    (_ : RawMqttClient cap) : Prop :=
  ∀ frame, op = .write frame → tr = [] ∧ frame = r.bytes c.config ∨
    (r.answer c.config).isSome ∧ framesWritten tr = [r.bytes c.config] ∧
      ∃ identifier, frame = pubackBytes identifier

/-- What a call leaves: if it returns, the packet that was read is the answer. -/
structure Performed (r : Request) (c : RawMqttClient cap) (tr : Trace Answer)
    (res : Except ReasonCode Unit) (c' : RawMqttClient cap) : Prop where
  refilled : Refilled (r.after c) c'
  ok : res = .ok () → framesWritten tr = [r.bytes c.config] ∧
    AnsweredBy (r.answer c.config).toList (bytesRead tr)
  written : framesWritten tr = [r.bytes c.config] ∨
    ∃ identifier, framesWritten tr = [r.bytes c.config, pubackBytes identifier]

theorem acknowledges_eq_ok_iff {identifier ack : UInt16} :
    acknowledges identifier ack = .ok () ↔ identifier = ack := by
  rw [acknowledges]
  split <;> simp [*]

/-- **What a call is**: a request without an answer, or a request and then the answer to it. -/
theorem perform_cases (hc : Online c) (turns : Nat) (r : Request) (hvalid : r.Valid c.config) :
    r.answer c.config = none ∧
      SendsFrame (perform turns r) () c (r.after c) (r.bytes c.config) ∨
    ∃ (α : Type) (m : ClientM cap α) (a : α) (accept : α → Event → Except ReasonCode Unit),
      perform turns r = (do answered r.maxTopics turns (accept (← m))) ∧
      SendsFrame m a c (r.after c) (r.bytes c.config) ∧
      (∀ e, accept a e = .ok () ↔ r.answer c.config = some e) ∧ (r.answer c.config).isSome := by
  cases r with
  | connect =>
      right
      refine ⟨_, _, _, _, rfl, sendsFrame_connectToBroker hc hvalid, ?_, rfl⟩
      intro e
      cases e <;> simp [Request.answer]
  | disconnect => exact .inl ⟨rfl, sendsFrame_disconnect hc⟩
  | publish topicName message qos retain =>
      have hsends := sendsFrame_sendMessage hc hvalid
      by_cases hqos : qos = .qoS1
      · right
        subst hqos
        refine ⟨_, _, _, _, rfl, hsends, ?_, rfl⟩
        intro e
        cases e <;> simp [Request.answer, acknowledges_eq_ok_iff]
      · left
        have hperform : (perform turns (.publish topicName message qos retain) : ClientM cap Unit) =
            (do let _ ← RawMqttClient.sendMessage topicName message qos retain) := by
          simp only [perform, sendMessage, hqos, if_false]
        rw [hperform, Request.answer, if_neg hqos]
        exact ⟨rfl, hsends.map fun _ => ()⟩
  | subscribe n topicNames =>
      right
      refine ⟨_, _, _, _, rfl, sendsFrame_subscribeToTopics hc hvalid, ?_, rfl⟩
      intro e
      cases e <;> simp [Request.answer, acknowledges_eq_ok_iff]
  | unsubscribe topicName =>
      right
      refine ⟨_, _, _, _, rfl, sendsFrame_unsubscribeFromTopic hc hvalid, ?_, rfl⟩
      intro e
      cases e <;> simp [Request.answer, acknowledges_eq_ok_iff]
  | ping =>
      right
      refine ⟨_, _, _, _, rfl, sendsFrame_sendPing hc, ?_, rfl⟩
      intro e
      cases e <;> simp [Request.answer]

/-- No call is answered with a message. -/
theorem answer_ne_message (r : Request) (config : ClientConfig cap) (topic : String)
    (payload : List UInt8) : r.answer config ≠ some (.message topic payload) := by
  cases r with
  | publish topicName message qos retain =>
      rw [Request.answer]
      split <;> simp
  | connect | disconnect | subscribe | unsubscribe | ping => simp [Request.answer]

theorem answer_ne_disconnect (r : Request) (config : ClientConfig cap) (reason : ReasonCode) :
    r.answer config ≠ some (.disconnect reason) := by
  cases r with
  | publish topicName message qos retain =>
      rw [Request.answer]
      split <;> simp
  | connect | disconnect | subscribe | unsubscribe | ping => simp [Request.answer]

/-- After a request that has an answer the client can go on. -/
theorem ready_after (hready : Ready c) {r : Request} (h : (r.answer c.config).isSome) :
    Ready (r.after c) := by
  cases r with
  | disconnect => contradiction
  | connect | publish | subscribe | unsubscribe | ping => exact hready.of_eq rfl

/-- **Every call, on any network**: its frame is written first, and after it at most a PUBACK; if
the call returns, the one packet that has been read is the answer to it. -/
theorem ensures_perform (hc : Online c) (hready : Ready c) (turns : Nat) (r : Request)
    (hvalid : r.Valid c.config) (hroom : (r.bytes c.config).length ≤ c.bufferLen) :
    Ensures (Performing r c) (Performed r c) (perform turns r) c := by
  rcases perform_cases hc turns r hvalid with
    ⟨hnone, hsends⟩ | ⟨α, m, a, accept, hcall, hsends, haccept, hsome⟩
  · apply (ensures_request hsends hroom).mono
    · intro tr op s hop frame hframe
      exact .inl (hop frame hframe)
    · rintro tr res c' ⟨hrefilled, ⟨answer, rfl⟩, -⟩
      refine ⟨hrefilled, fun _ => ⟨rfl, ?_⟩, .inl rfl⟩
      rw [hnone]
      exact .nil
  · have hmessage : ∀ topic payload u, accept a (.message topic payload) ≠ .ok u := by
      intro topic payload u hok
      exact answer_ne_message r c.config topic payload ((haccept _).mp hok)
    rw [hcall]
    apply (ensures_call hsends hroom (ready_after hready hsome) hmessage r.maxTopics turns).mono
    · intro tr op s hop frame hframe
      exact (hop frame hframe).imp_right fun h => ⟨hsome, h⟩
    · intro tr res c' hcalled
      refine ⟨hcalled.refilled, ?_, hcalled.written⟩
      rintro rfl
      obtain ⟨hwritten, p, e, hread, hshows, hok⟩ := hcalled.shows () rfl
      rw [(haccept e).mp hok, hread]
      exact ⟨hwritten, .singleton hshows⟩

/-- Without room for its frame a call fails, and nothing is written. -/
theorem perform_refused (hc : Online c) (turns : Nat) (r : Request) (hvalid : r.Valid c.config)
    (hroom : c.bufferLen < (r.bytes c.config).length) :
    ∃ c₁, perform turns r c = .done (.error .buffError) c₁ := by
  rcases perform_cases hc turns r hvalid with
    ⟨-, hsends⟩ | ⟨α, m, a, accept, hcall, hsends, -, -⟩
  · exact hsends.refused hroom
  · obtain ⟨c₁, hm⟩ := hsends.refused hroom
    refine ⟨c₁, ?_⟩
    rw [hcall]
    show (m c).andThen _ = _
    rw [hm]
    rfl

end Perform

/-! ## A broker that answers -/

section Broker

variable (peer : Peer) {c after : RawMqttClient cap} {w : Link}

/-- What a call makes of the result of `poll`. -/
def verdict (accept : Event → Except ReasonCode α) : Except ReasonCode Event → Except ReasonCode α
  | .ok (.disconnect reason) => .error reason
  | .ok e => accept e
  | .error e => .error e

theorem runOn_answered {p : BrokerPacket cap'} {rest : List UInt8} {turns : Nat} (maxTopics : Nat)
    (accept : Event → Except ReasonCode α) (hp : Fits p turns c.recvBuffer.length) (hc : Ready c)
    (hin : w.incoming = p.bytes ++ rest) :
    ∃ c' reads, (answered maxTopics turns accept).runOn (link peer) c w =
        (.returned (verdict accept (p.event maxTopics c.config.maxSubscribeQos)) c',
          Link.write peer { w with incoming := rest, reads } (p.acks.map pubackBytes)) ∧
      Refilled c c' := by
  obtain ⟨c', reads, hpoll, hrefilled⟩ := poll_packet peer maxTopics hp hc hin
  refine ⟨c', reads, ?_, hrefilled⟩
  rw [answered]
  cases hevent : p.event maxTopics c.config.maxSubscribeQos with
  | error e =>
      rw [hevent] at hpoll
      exact runOn_bind_of_error hpoll
  | ok e =>
      rw [hevent] at hpoll
      rw [runOn_bind_of_ok hpoll]
      cases e with
      | disconnect reason => rfl
      | connack | puback | suback | unsuback | pingresp | message => exact runOn_ofExcept _ _ _

/-- A request is one more frame. -/
theorem runOn_sent {m : ClientM cap α} {a : α} {bytes : List UInt8}
    (h : SendsFrame m a c after bytes) (hroom : bytes.length ≤ c.bufferLen) :
    ∃ c', m.runOn (link peer) c w = (.returned (.ok a) c', w.write peer [bytes]) ∧
      Refilled after c' := by
  obtain ⟨c₁, c', k, hm, hrefilled, hok, -⟩ := h.sent hroom
  refine ⟨c', ?_, hrefilled⟩
  have hwrite : link peer (.write bytes) w = some (.ok bytes.length, w.write peer [bytes]) := by
    simp [link, Link.write]
  rw [runOn, hm, Resumption.runOn, hwrite]
  show (k (.ok bytes.length)).runOn _ _ = _
  rw [hok]
  rfl

/-- **A call to a broker**: the next packet that the broker sends decides, whether it was sent as
the answer or earlier; the call returns exactly if it is the answer. -/
theorem runOn_perform (hc : Online c) (hready : Ready c) {turns : Nat} {r : Request}
    (hvalid : r.Valid c.config) (hroom : (r.bytes c.config).length ≤ c.bufferLen) {e : Event}
    (hanswer : r.answer c.config = some e) {p : BrokerPacket cap'} {rest : List UInt8}
    (hin : w.incoming ++ peer.reply (r.bytes c.config) = p.bytes ++ rest)
    (hp : Fits p turns c.recvBuffer.length) (hacks : p.acks = []) :
    ∃ c' reads res, (perform turns r).runOn (link peer) c w =
        (.returned res c', { incoming := rest, reads, sent := w.sent ++ [r.bytes c.config] }) ∧
      Refilled (r.after c) c' ∧
      (res = .ok () ↔ p.event r.maxTopics c.config.maxSubscribeQos = .ok e) := by
  rcases perform_cases hc turns r hvalid with
    ⟨hnone, -⟩ | ⟨α, m, a, accept, hcall, hsends, haccept, hsome⟩
  · rw [hnone] at hanswer
    contradiction
  · obtain ⟨c₁, hsent, hrefilled⟩ := runOn_sent peer (w := w) hsends hroom
    have hready' := (ready_after hready hsome).of_refilled hrefilled
    have hafter : (r.after c).recvBuffer = c.recvBuffer ∧
        (r.after c).config.maxSubscribeQos = c.config.maxSubscribeQos := by
      cases r <;> exact ⟨rfl, rfl⟩
    have hqos : c₁.config.maxSubscribeQos = c.config.maxSubscribeQos := by
      rw [hrefilled.eq, ← hafter.2]
    have hin' : (w.write peer [r.bytes c.config]).incoming = p.bytes ++ rest := by
      rw [← hin]
      simp [Link.write]
    obtain ⟨c₂, reads, hanswered, hrefilled'⟩ := runOn_answered peer r.maxTopics (accept a)
      (by rwa [hrefilled.recvBuffer, hafter.1]) hready' hin'
    rw [hacks, List.map_nil, Link.write_nil, hqos] at hanswered
    refine ⟨c₂, reads, verdict (accept a) (p.event r.maxTopics c.config.maxSubscribeQos), ?_,
      hrefilled.trans hrefilled', ?_⟩
    · rw [hcall, runOn_bind_of_ok hsent]
      exact hanswered
    · rw [hanswer] at haccept
      cases hevent : p.event r.maxTopics c.config.maxSubscribeQos with
      | error reason => simp [verdict]
      | ok e' =>
          cases e' with
          | disconnect reason =>
              have hne : e ≠ .disconnect reason := by
                rintro rfl
                exact answer_ne_disconnect r c.config reason hanswer
              simp [verdict, hne.symm]
          | connack | puback | suback | unsuback | pingresp | message =>
              simp [verdict, haccept, eq_comm]

end Broker

end MqttClient

end Toucan.Mqtt
