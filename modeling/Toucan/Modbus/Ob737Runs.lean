import Mathlib.Data.List.Chain
import Toucan.Modbus.ClientRuns
import Toucan.Modbus.Ob737

/-!
# Toucan.Modbus.Ob737Runs

Client mode with the OB737 filter (`process_flow` in `modbus/flow.rs`), and its runs.

Every flow begins with a new filter, so every flow asks the meter for the same registers
(`meets_processFlow`) and none has what the one before was answered.
`along_complementary_iff` says in which runs two flows make up the whole set of data.
-/

namespace Toucan.Modbus.Ob737

open Async

/-! ## The flow -/

/-- A filter's result; its panic is that of the flow. -/
def ofFilter : Option (Except ModbusError α × FoxOb737 F) → Bridge (α × FoxOb737 F)
  | some (.ok a, ob737) => pure (a, ob737)
  | some (.error e, _) => fail e
  | none => panic

/-- `process_flow` with the filter. -/
def processFlow (F : Type) [MeterFloat F] : Bridge Unit := do
  let ob737 : FoxOb737 F := .default
  Client.listen
  let request ← gets (·.rtuRequest)
  let request ← convertRtuRequestPayloadToTcpRequestPayload request
  let (tcpPayload, ob737) ← ofFilter (ob737.foxToOm737TcpRequestFilter request)
  Client.sendAndReceive tcpPayload
  let response ← gets (·.tcpResponse)
  let response ← convertTcpReponsePayloadToRtuResponsePayload response
  let (rtuSend, _) ← ofFilter (ob737.om737ToFoxRtuRequestFilter response)
  Client.send rtuSend

/-! ## What a flow can do -/

/-- A frame that gets to the filter and passes it. -/
def passesFilter (frame : List UInt8) : Bool := (crcCheck frame).isOk && frame.take 2 == [1, 3]

/-- Is this the answer with a request that passes? -/
def accepts : (op : Op) × Ans op → Bool
  | ⟨.uartRead _, .ok buf⟩ => passesFilter buf.toList
  | _ => false

/-- Start and count of the registers of the meters. -/
def metersBlock : List UInt8 := [0, 144, 0, 6]

/-- Start and count of those of the total. -/
def totalBlock : List UInt8 := [1, 16, 0, 8]

/-- What a request to the meter asks for. -/
def block (adu : List UInt8) : List UInt8 := adu.drop 8

/-- What is awaited behind the request to the meter. -/
def Exchanges : Op → Prop
  | .sockRead _ => True
  | .uartFlush => True
  | .uartWrite _ => True
  | _ => False

/-- The awaits of a flow: the meter is asked once, for the total. -/
inductive Ob737Await : Trace Ans → Op → Prop
  | listen : Ob737Await [] (.uartRead 8)
  | request (x) (adu : List UInt8) (hx : accepts x = true) (hadu : block adu = totalBlock) :
    Ob737Await [x] (.sockWrite adu)
  | exchange (x y tr) (op : Op) (hx : accepts x = true) (hop : Exchanges op) :
    Ob737Await (x :: y :: tr) op

/-- The ends of a flow: before the meter is asked, with an error, or later. -/
inductive Ob737End : Trace Ans → Outcome Gateway (Except ModbusError Unit) → Prop
  | refused (x) (e : ModbusError) (g : Gateway) (hx : accepts x = false) :
    Ob737End [x] (.returned (.error e) g)
  | exchange (x y tr o) (hx : accepts x = true) : Ob737End (x :: y :: tr) o

section Rules

variable {F : Type} {I : Trace Ans → Op → Gateway → Prop}
  {Q : Trace Ans → Outcome Gateway (Except ModbusError Unit) → Prop} {tr : Trace Ans} {g : Gateway}
  {k : α × FoxOb737 F → Bridge Unit}

theorem meets_ofFilter_ok_bind {a : α} {ob737 : FoxOb737 F} :
    Meets I Q (ofFilter (some (.ok a, ob737)) >>= k) tr g ↔ Meets I Q (k (a, ob737)) tr g := Iff.rfl

theorem meets_ofFilter_error_bind {e : ModbusError} {ob737 : FoxOb737 F} :
    Meets I Q (ofFilter (some (.error e, ob737)) >>= k) tr g ↔
      Q tr (.returned (.error e) g) := Iff.rfl

theorem meets_ofFilter_none_bind :
    Meets I Q (ofFilter none >>= k) tr g ↔ Q tr (.panicked g) := Iff.rfl

end Rules

section Flow

variable {F : Type} [MeterFloat F]

theorem accepts_of_crc {buf : Vector UInt8 n} (h : crcCheck buf.toList = .ok ()) :
    accepts ⟨.uartRead n, .ok buf⟩ = (buf.toList.take 2 == [1, 3]) := by
  simp [accepts, passesFilter, h, Except.isOk, Except.toBool]

theorem accepts_eq_false_of_crc {buf : Vector UInt8 n} {e : ModbusError}
    (h : crcCheck buf.toList = .error e) : accepts ⟨.uartRead n, .ok buf⟩ = false := by
  simp [accepts, passesFilter, h, Except.isOk, Except.toBool]

/-- The TCP request made of a frame has the frame's first bytes behind its header. -/
theorem convertFox (g : Gateway) {buf : Vector UInt8 8}
    (hrequest : g.rtuRequest.toList = buf.toList) :
    ∃ (request : TcpRequestPayload) (b0 b1 u f : UInt8) (rest : List UInt8),
      request.toList = b0 :: b1 :: 0 :: 0 :: 0 :: 6 :: u :: f :: rest ∧
        buf.toList.take 2 = [u, f] ∧
        convertRtuRequestPayloadToTcpRequestPayload g.rtuRequest g =
          .done (.ok request) { g with counter := g.counter + 1 } := by
  have hlen : g.rtuRequest.toList.length = 8 := by
    rw [hrequest, Vector.length_toList]
  have hfour : 4 ≤ g.rtuRequest.toList.length := by omega
  obtain ⟨request, hadu, hconvert⟩ := convertRtuRequest_apply g hfour
  obtain ⟨u, f, b2, b3, b4, b5, b6, b7, rest, hbuf⟩ := exists_cons_of_length (Nat.le_of_eq hlen.symm)
  obtain ⟨hi, lo, hid⟩ : ∃ hi lo, toBeBytes (g.counter + 1) = [hi, lo] := ⟨_, _, rfl⟩
  refine ⟨request, hi, lo, u, f, [b2, b3, b4, b5], ?_, ?_, hconvert⟩
  · rw [hadu, hlen, hbuf, mbap, hid]
    rfl
  · rw [← hrequest, hbuf]
    rfl

/-- The flow once the response is complete. -/
theorem meets_reply {x y : (op : Op) × Ans op} (hx : accepts x = true) {g : Gateway}
    {got : BoundedVec UInt8 6} {reads : Client.Reads} (hreads : reads.length = Client.bodyLength got)
    (hresponse : g.tcpResponse.toList = (Client.headerBuf got).toList ++ Client.pushed 0 reads)
    (ob737 : FoxOb737 F) :
    Meets (fun tr op _ => Ob737Await tr op) Ob737End
      (do
        let response ← convertTcpReponsePayloadToRtuResponsePayload g.tcpResponse
        let (rtuSend, _) ← ofFilter (ob737.om737ToFoxRtuRequestFilter response)
        Client.send rtuSend) ([x, y] ++ Client.arrived got reads) g := by
  rw [meets_bind]
  rcases Client.convertTcpReponse_cases hreads hresponse with
    ⟨-, hconvert⟩ | ⟨-, hconvert | ⟨-, response, -, hconvert⟩⟩
  · rw [meets_of_done hconvert]
    exact .exchange x y _ _ hx
  · rw [meets_of_done hconvert]
    exact .exchange x y _ _ hx
  · rw [meets_of_done hconvert, onOk_ok]
    cases hreply : ob737.om737ToFoxRtuRequestFilter response with
    | none =>
        rw [meets_ofFilter_none_bind]
        exact .exchange x y _ _ hx
    | some result =>
        obtain ⟨rtuSend | rtuSend, ob737'⟩ := result
        · rw [meets_ofFilter_error_bind]
          exact .exchange x y _ _ hx
        · rw [meets_ofFilter_ok_bind]
          exact meets_transmit (.exchange x y _ _ hx trivial) (.exchange x y _ _ hx)
            (.exchange x y _ _ hx trivial) (.exchange x y _ _ hx)
            (.exchange x y _ _ hx trivial) (.exchange x y _ _ hx) (.exchange x y _ _ hx)

/-- **A flow with the filter**, whatever it is answered. -/
theorem meets_processFlow (g : Gateway) :
    Meets (fun tr op _ => Ob737Await tr op) Ob737End (processFlow F) [] g := by
  rw [processFlow, meets_bind]
  refine Client.meets_listen (fun _ _ => .listen) (fun g1 _ => .refused _ _ g1 rfl) ?_
  intro buf g1 _ hrequest
  cases hcrc : crcCheck buf.toList with
  | error e => exact .refused _ e g1 (accepts_eq_false_of_crc hcrc)
  | ok u =>
      obtain ⟨request, b0, b1, u, f, rest, hadu, hpass, hconvert⟩ := convertFox g1 hrequest
      rw [onOk_ok, meets_gets_bind, meets_bind, meets_of_done hconvert, onOk_ok]
      obtain ⟨hfox, output, houtput, hfilter⟩ | ⟨hfox, hfilter⟩ :=
        FoxOb737.default.foxToOm737_eq (F := F) hadu
      · have hx : accepts ⟨.uartRead 8, .ok buf⟩ = true := by
          rw [accepts_of_crc hcrc, hpass, hfox]
          rfl
        have hblock : block output.toList = totalBlock := by
          rw [houtput]
          rfl
        rw [hfilter, meets_ofFilter_ok_bind, meets_bind, Client.sendAndReceive, meets_modify_bind,
          meets_await_bind]
        refine ⟨.request _ output.toList hx hblock, fun r => ?_⟩
        cases r with
        | error e => exact .exchange _ _ [] _ hx
        | ok n =>
            rw [meets_orFail_ok_bind, meets_bind]
            refine Client.meets_receive (fun _ _ => .exchange _ _ [] _ hx trivial)
              (fun _ _ => .exchange _ _ _ _ hx)
              (fun got reads _ _ _ => .exchange _ _ _ _ hx trivial)
              (fun got reads _ _ => .exchange _ _ _ _ hx)
              (fun got reads _ _ _ => .exchange _ _ _ _ hx) ?_
            intro got reads g3 _ hreads hresponse
            exact meets_reply hx hreads hresponse _
      · have hx : accepts ⟨.uartRead 8, .ok buf⟩ = false := by
          rw [accepts_of_crc hcrc, hpass]
          exact beq_false_of_ne hfox
        rw [hfilter, meets_ofFilter_error_bind]
        exact .refused _ _ _ hx

end Flow

/-! ### One answer more -/

/-- Behind the first answer no other request is read. -/
theorem Ob737Await.accepts_eq_false {x : (op : Op) × Ans op} (h : Ob737Await (x :: tr) op)
    (a : Ans op) : accepts ⟨op, a⟩ = false := by
  cases h with
  | request _ adu hx hadu => rfl
  | exchange _ y tr _ hx hop =>
      cases op with
      | uartRead n => exact hop.elim
      | uartReadUntilIdle n => rfl
      | uartFlush => rfl
      | uartWrite payload => rfl
      | sockReadExact n => rfl
      | sockRead n => rfl
      | sockWrite payload => rfl

/-- A flow goes on: it got a request that passes and asks the meter, or it got something else
and asks nothing. -/
theorem Ob737Await.next (h : Ob737Await tr op) (a : Ans op)
    (hnext : Ob737Await (tr ++ [⟨op, a⟩]) op') :
    (accepts ⟨op, a⟩ = true ∧ ∃ adu, op' = .sockWrite adu ∧ block adu = totalBlock) ∨
      accepts ⟨op, a⟩ = false ∧ Exchanges op' := by
  cases tr with
  | nil =>
      cases hnext with
      | request _ adu hx hadu => exact Or.inl ⟨hx, adu, rfl, hadu⟩
  | cons x tr =>
      have hfalse := h.accepts_eq_false a
      cases tr with
      | nil =>
          cases hnext with
          | exchange _ _ _ _ hx hop => exact Or.inr ⟨hfalse, hop⟩
      | cons y tr =>
          cases hnext with
          | exchange _ _ _ _ hx hop => exact Or.inr ⟨hfalse, hop⟩

/-- A flow ends: with something else than a request that passes, and well only if it got one
before. -/
theorem Ob737Await.last (h : Ob737Await tr op) (a : Ans op)
    (hend : Ob737End (tr ++ [⟨op, a⟩]) o) :
    accepts ⟨op, a⟩ = false ∧ ∀ g, o = .returned (.ok ()) g → 1 ≤ tr.countP accepts := by
  cases tr with
  | nil =>
      cases hend with
      | refused _ e g hx => exact ⟨hx, fun g' heq => by simp at heq⟩
  | cons x tr =>
      refine ⟨h.accepts_eq_false a, fun g heq => ?_⟩
      have hx : accepts x = true := by
        cases h with
        | request _ adu hx hadu => exact hx
        | exchange _ y tr _ hx hop => exact hx
      simp [hx]

/-! ## What a run did -/

/-- A record of a run: how many requests passed the filter, the requests to the meter, and the
flows that are over, each with its answers and whether it succeeded. -/
structure Record where
  accepted : Nat
  requests : List (List UInt8)
  ended : List (Trace Ans × Bool)

def acceptsInput : TaskInput → Bool
  | .answer op a => accepts ⟨op, a⟩
  | _ => false

def meterRequest : TaskOutput → Option (List UInt8)
  | .awaits _ (.sockWrite adu) _ => some adu
  | _ => none

def endedFlow : TaskOutput → Option (Trace Ans × Bool)
  | .returned f result _ => some (f.answers, result.isOk)
  | .panicked f _ => some (f.answers, false)
  | .cancelled f _ _ => some (f.answers, false)
  | _ => none

def Record.empty : Record := ⟨0, [], []⟩

def Record.update (r : Record) (i : TaskInput) (os : List TaskOutput) : Record where
  accepted := r.accepted + if acceptsInput i then 1 else 0
  requests := r.requests ++ os.filterMap meterRequest
  ended := r.ended ++ os.filterMap endedFlow

/-- The task with the record of its run. -/
def recordingTask (F : Type) [MeterFloat F] : Machine (Task × Record) TaskInput TaskOutput :=
  (task (processFlow F)).withHistory fun r _ i os => r.update i os

/-! ### Both halves of the data -/

/-- Each request is for the one block or the other, and for another than the one before. -/
structure Alternate (requests : List (List UInt8)) : Prop where
  blocks : ∀ adu ∈ requests, block adu = metersBlock ∨ block adu = totalBlock
  chain : requests.IsChain fun adu adu' => block adu ≠ block adu'

/-- The meter's response in a flow, behind the header. -/
def meterResponse (tr : Trace Ans) : List UInt8 := (Client.tcpBytes tr).drop 6

section Data

variable (F : Type) [MeterFloat F]

/-- The meters in a reply are those of a response that has all of them. -/
def MetersFrom (reply response : List UInt8) : Prop :=
  response[2]? = some 12 ∧ 15 ≤ response.length ∧ ∃ ob737 : FoxOb737 F,
    FoxOb737.default.decode response = some (some ob737) ∧
      (reply.drop 3).take 12 = ob737.data.take 12

/-- The total in a reply is that of a response that has it. -/
def ReactiveFrom (reply response : List UInt8) : Prop :=
  response[2]? = some 16 ∧ 19 ≤ response.length ∧ ∃ ob737 : FoxOb737 F,
    FoxOb737.default.decode response = some (some ob737) ∧
      (reply.drop 15).take 2 = ob737.data.drop 12

/-- The reply of the second of two flows has its data from what the meter sent in them. -/
def FromMeter (first second : Trace Ans) : Prop :=
  ∃ reply ∈ Client.repliesSent second,
    (MetersFrom F reply (meterResponse first) ∨ MetersFrom F reply (meterResponse second)) ∧
      (ReactiveFrom F reply (meterResponse first) ∨ ReactiveFrom F reply (meterResponse second))

/-- The requests alternate, and after two successful flows in a row the data are complete. -/
structure Complementary (r : Record) : Prop where
  alternate : Alternate r.requests
  fromMeter : r.ended.IsChain fun first second =>
    first.2 = true → second.2 = true → FromMeter F first.1 second.1

end Data

/-! ### The invariant -/

/-- The requests that passed in the flow under way. -/
def passed : Task → Nat
  | .connecting _ => 0
  | .inner f _ => f.answers.countP accepts

/-- Each request that passed was one to the meter, always for the total; a flow that succeeded
had one. -/
structure Recorded (r : Record) (s : Task) : Prop where
  length : r.requests.length = r.accepted
  total : ∀ adu ∈ r.requests, block adu = totalBlock
  succeeded : r.ended.countP (·.2) + passed s ≤ r.accepted

/-- What a step has to add to the record. -/
theorem Recorded.update {r : Record} (h : Recorded r s)
    (hlen : (os.filterMap meterRequest).length = if acceptsInput i then 1 else 0)
    (htotal : ∀ adu ∈ os.filterMap meterRequest, block adu = totalBlock)
    (hpassed : (os.filterMap endedFlow).countP (·.2) + passed s' ≤
      passed s + if acceptsInput i then 1 else 0) : Recorded (r.update i os) s' := by
  have hsucceeded := h.succeeded
  refine ⟨?_, fun adu hadu => ?_, ?_⟩
  · rw [Record.update, List.length_append, h.length, hlen]
  · rcases List.mem_append.mp hadu with hold | hnew
    · exact h.total adu hold
    · exact htotal adu hnew
  · simp only [Record.update, List.countP_append]
    omega

/-- A step without a request that passes asks the meter nothing. -/
theorem Recorded.silent {r : Record} (h : Recorded r s) (hfalse : acceptsInput i = false)
    (hnone : os.filterMap meterRequest = [])
    (hpassed : (os.filterMap endedFlow).countP (·.2) + passed s' ≤ passed s) :
    Recorded (r.update i os) s' := by
  refine h.update ?_ ?_ ?_
  · simp [hnone, hfalse]
  · simp [hnone]
  · simpa [hfalse] using hpassed

section Runs

variable {F : Type} [MeterFloat F]

/-- The specification of the flow, wherever it began. -/
abbrev Meets (s : Task) : Prop := s.Meets (fun _ tr op _ => Ob737Await tr op) fun _ => Ob737End

/-- A flow that ends was not given a request that passes at last. -/
theorem countP_endedFlow {f : Flow} (h : Ob737Await f.answers op) (a : Ans op)
    (hend : Ob737End (f.answers ++ [⟨op, a⟩]) (.returned result g)) :
    acceptsInput (.answer op a) = false ∧
      [((f.answered op a).answers, result.isOk)].countP (·.2) ≤ f.answers.countP accepts := by
  obtain ⟨hfalse, hok⟩ := h.last a hend
  refine ⟨hfalse, ?_⟩
  cases result with
  | error e => exact Nat.zero_le _
  | ok u => exact hok g rfl

theorem passed_answered (f : Flow) (op : Op) (a : Ans op) (left) :
    passed (.inner (f.answered op a) left) =
      f.answers.countP accepts + if acceptsInput (.answer op a) then 1 else 0 := by
  rw [passed, Flow.answered, List.countP_append, List.countP_singleton]
  rfl

/-- **Step lemma**: a request that passes the filter becomes a request for the total. -/
theorem recorded_step {r : Record} (hs : Meets s) (hr : Recorded r s)
    (h : (task (processFlow F)).step s i = some (s', os)) : Recorded (r.update i os) s' := by
  cases takes_of_step h with
  | refused g => exact hr.silent rfl rfl (Nat.le_refl _)
  | connected g => exact hr.silent rfl rfl (Nat.le_refl _)
  | cancelled f op g k => exact hr.silent rfl rfl (Nat.zero_le _)
  | goesOn f op g k a hk =>
      have hmeets := hs.2 a
      have hpassed := passed_answered f op a (k a)
      cases hka : k a with
      | done result g' => exact absurd hka (hk result g')
      | panicked g' =>
          rw [hka] at hmeets hpassed
          obtain ⟨hfalse, -⟩ := hs.1.last a hmeets
          have hinput : acceptsInput (.answer op a) = false := hfalse
          refine hr.silent hinput rfl ?_
          show 0 + passed _ ≤ f.answers.countP accepts
          simp [hpassed, hinput]
      | await op' g' k' =>
          rw [hka] at hmeets hpassed
          rcases hs.1.next a hmeets.1 with ⟨haccepts, adu, rfl, hadu⟩ | ⟨hfalse, hop⟩
          · have hinput : acceptsInput (.answer op a) = true := haccepts
            refine hr.update ?_ ?_ ?_
            · rw [hinput]
              rfl
            · intro adu' hadu'
              rw [List.mem_singleton.mp hadu']
              exact hadu
            · rw [hpassed]
              exact Nat.le_of_eq (Nat.zero_add _)
          · have hinput : acceptsInput (.answer op a) = false := hfalse
            have hnone : [report (f.answered op a) (.await op' g' k')].filterMap meterRequest = [] := by
              cases op' with
              | sockWrite adu => exact hop.elim
              | _ => rfl
            refine hr.silent hinput hnone ?_
            show 0 + passed _ ≤ f.answers.countP accepts
            simp [hpassed, hinput]
  | breaks f op g k a result g' hk hb =>
      have hmeets := hs.2 a
      rw [hk] at hmeets
      obtain ⟨hfalse, hcount⟩ := countP_endedFlow hs.1 a hmeets
      exact hr.silent hfalse rfl hcount
  | turns f op g k a result g' hk hb =>
      have hmeets := hs.2 a
      rw [hk] at hmeets
      obtain ⟨hfalse, hcount⟩ := countP_endedFlow hs.1 a hmeets
      exact hr.silent hfalse rfl hcount

end Runs

/-! ### Runs -/

section Chains

variable {α β : Type}

/-- Equal values alternate only where there is one. -/
theorem isChain_ne_iff {f : α → β} {b : β} {l : List α} (h : ∀ a ∈ l, f a = b) :
    (l.IsChain fun a a' => f a ≠ f a') ↔ l.length ≤ 1 := by
  cases l with
  | nil => simp
  | cons a l =>
      cases l with
      | nil => simp
      | cons a' l => simp [h a (by simp), h a' (by simp)]

/-- With one element of `p` no two in a row are. -/
theorem isChain_of_countP_le_one {p : α → Bool} {R : α → α → Prop} {l : List α}
    (h : l.countP p ≤ 1) : l.IsChain fun a a' => p a = true → p a' = true → R a a' := by
  induction l with
  | nil => exact .nil
  | cons a l ih =>
      cases l with
      | nil => exact .singleton a
      | cons a' l =>
          rw [List.countP_cons] at h
          refine List.isChain_cons_cons.mpr ⟨fun ha ha' => ?_, ih (by omega)⟩
          rw [List.countP_cons, if_pos ha, if_pos ha'] at h
          omega

end Chains

theorem Recorded.complementary_iff {F : Type} [MeterFloat F] {r : Record} (h : Recorded r s) :
    Complementary F r ↔ r.accepted ≤ 1 := by
  have hchain := isChain_ne_iff h.total
  rw [h.length] at hchain
  constructor
  · intro hc
    exact hchain.mp hc.alternate.chain
  · intro hle
    have hsucceeded := h.succeeded
    have hcount : r.ended.countP (·.2) ≤ 1 := by omega
    exact ⟨⟨fun adu hadu => Or.inr (h.total adu hadu), hchain.mpr hle⟩,
      isChain_of_countP_le_one hcount⟩

/-- **Both halves of the data**: along every run the requests to the meter alternate, and two
successful flows in a row have the whole set of data, exactly as long as no more than one
request of the inverter passes the filter. -/
theorem along_complementary_iff (F : Type) [MeterFloat F] (g : Gateway) (is : List TaskInput) :
    (recordingTask F).Along (fun _ _ _ p' => Complementary F p'.2 ↔ p'.2.accepted ≤ 1)
      (.connecting g, .empty) is := by
  have hstart : Meets (.connecting g) ∧ Recorded .empty (.connecting g) :=
    ⟨trivial, rfl, by simp [Record.empty], Nat.le_refl _⟩
  refine Machine.along_of_invariant (I := fun p => Meets p.1 ∧ Recorded p.2 p.1)
    (fun p i p' os hp hstep => ?_) hstart
  obtain ⟨hs, hrecord⟩ := Machine.withHistory_step_eq_some.mp hstep
  have hmeets := (meets_step (fun g => meets_processFlow g) hp.1 hs).2
  have hrecorded := recorded_step hp.1 hp.2 hs
  rw [← hrecord] at hrecorded
  exact ⟨hrecorded.complementary_iff, hmeets, hrecorded⟩

/-- A request of the inverter for ten registers. -/
def foxFrame : Vector UInt8 8 := #v[1, 3, 0, 0, 0, 10, 0xC5, 0xCD]

/-- The request passes, the timer drops the flow, and the same again. -/
def twoRequests : List TaskInput :=
  [.connect true, .answer (.uartRead 8) (.ok foxFrame), .timeout,
    .connect true, .answer (.uartRead 8) (.ok foxFrame)]

theorem requests_twoRequests :
    ((recordingTask Float32).run (.connecting .initial, .empty) twoRequests).map
        (fun r => r.1.2.requests) =
      some [[0, 1, 0, 0, 0, 6, 1, 4, 1, 16, 0, 8], [0, 2, 0, 0, 0, 6, 1, 4, 1, 16, 0, 8]] := by
  decide +kernel

/-- Both requests to the meter are for the total. -/
theorem not_along_complementary :
    ¬ ∀ is, (recordingTask Float32).Along (fun _ _ _ p' => Complementary Float32 p'.2)
      (.connecting .initial, .empty) is := by
  intro h
  obtain ⟨r, hrun, hrequests⟩ := Option.map_eq_some_iff.mp requests_twoRequests
  have hstart : Complementary Float32 .empty := ⟨⟨by simp [Record.empty], .nil⟩, .nil⟩
  have hend := Machine.of_along_of_run (P := fun p => Complementary Float32 p.2) hstart
    (h twoRequests) hrun
  have hchain := hend.alternate.chain
  rw [hrequests] at hchain
  revert hchain
  decide

end Toucan.Modbus.Ob737
