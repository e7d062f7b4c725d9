import Toucan.Modbus.Conversions
import Toucan.Modbus.Receive

/-!
# Toucan.Modbus.Listen

What the bridge makes of a stream of TCP requests.  `listen` reads twelve bytes
at a time and never looks at the length field, so a request that is not twelve
bytes long shifts the boundaries of all that follow.

`servesInOrder_iff` says for which streams the requests are kept apart.
-/

namespace Toucan.Modbus

open Async

/-! ## The client's stream -/

/-- A client that sends these bytes and then closes: `read_exact` fails on what
is left when it is too short. -/
def client : Handler (List UInt8) Ans
  | .sockReadExact n, stream =>
    if h : n ≤ stream.length then some (.ok (takeVector stream n h), stream.drop n)
    else some (.error (), [])
  | _, _ => none

/-- A well-formed request: a transaction id, and the unit id and PDU that the
length field counts. -/
structure Adu where
  transactionId : UInt16
  body : List UInt8
  two_le : 2 ≤ body.length
  le : body.length ≤ 254

/-- The MBAP header and the body. -/
def Adu.bytes (a : Adu) : List UInt8 :=
  toBeBytes a.transactionId ++ modbusProto ++ toBeBytes (UInt16.ofNat a.body.length) ++ a.body

/-- The requests on the wire, one after the other. -/
def stream (adus : List Adu) : List UInt8 := adus.flatMap Adu.bytes

/-- What a call of `listen` and of the conversion leaves: the RTU request or the
error, and the gateway. -/
abbrev Call := Except ModbusError RtuRequestPayload × Gateway

/-- The first `n` calls in the inner loop of `modbus_task`; an error that breaks
the loop is the last. -/
def calls : Nat → Gateway → List UInt8 → List Call
  | 0, _, _ => []
  | n + 1, g, bytes =>
    match nextRequest.runOn client g bytes with
    | (.returned (.ok request) g', bytes') => (.ok request, g') :: calls n g' bytes'
    | (.returned (.error e) g', bytes') =>
      (.error e, g') :: if breaksInner e then [] else calls n g' bytes'
    | (.pending _, _) => []
    | (.panicked _, _) => []

/-! ## Requests in order -/

/-- The RTU request of an ADU, or an error; a request takes its transaction id. -/
def Treats (c : Call) (a : Adu) : Prop :=
  ∀ request, c.1 = .ok request →
    request.toList = a.body ++ createCrc a.body ∧ c.2.counter = a.transactionId

/-- The `k`-th call treats the `k`-th ADU; a later one gets no request; and every
transaction id on the way is one that was there before or comes from an ADU. -/
structure ServesInOrder (g : Gateway) (adus : List Adu) : Prop where
  treats : ∀ (k : Nat) (a : Adu), adus[k]? = some a →
    ∃ c, (calls adus.length g (stream adus))[k]? = some c ∧ Treats c a
  nothingElse : ∀ (n k : Nat) (c : Call), adus.length ≤ k →
    (calls n g (stream adus))[k]? = some c →
    ∃ e, c.1 = .error e
  transactionIds : ∀ (n : Nat), ∀ c ∈ calls n g (stream adus),
    c.2.counter = g.counter ∨ ∃ a ∈ adus, c.2.counter = a.transactionId

/-- Twelve bytes each, but the last may be shorter: `listen` then fails on it. -/
def TwelveBytes (adus : List Adu) : Prop :=
  (∀ a ∈ adus.dropLast, a.body.length = 6) ∧ ∀ a, adus.getLast? = some a → a.body.length ≤ 6

/-! ## One call -/

theorem client_sockReadExact {bytes : List UInt8} (h : n ≤ bytes.length) :
    client (.sockReadExact n) bytes = some (.ok (takeVector bytes n h), bytes.drop n) := by
  rw [client, dif_pos h]

theorem client_sockReadExact_eof {bytes : List UInt8} (h : bytes.length < n) :
    client (.sockReadExact n) bytes = some (.error (), []) := by
  rw [client, dif_neg (Nat.not_le.mpr h)]

/-- Too few bytes are left: the call fails, and nothing is taken for an id. -/
theorem runOn_nextRequest_eof (g : Gateway) {bytes : List UInt8} (h : bytes.length < 12) :
    nextRequest.runOn client g bytes =
      (.returned (.error .readExactError) { g with tcpRequest := .empty }, []) := by
  have hlisten : listen.runOn client g bytes =
      (.returned (.error .readExactError) { g with tcpRequest := .empty }, []) := by
    rw [listen, runOn_bind_of_ok (runOn_modify _ _ _)]
    rw [runOn_bind_of_ok (runOn_await_of_some (client_sockReadExact_eof h) _)]
    exact runOn_bind_of_error (runOn_orFail_error _ _ _)
  rw [nextRequest]
  exact runOn_bind_of_error hlisten

theorem runOn_listen (g : Gateway) {bytes : List UInt8} (h : 12 ≤ bytes.length) :
    ∃ request : TcpRequestPayload, request.toList = bytes.take 12 ∧
      listen.runOn client g bytes =
        (.returned (.ok ()) { g with tcpRequest := request }, bytes.drop 12) := by
  have hlen : (bytes.take 12).length = 12 := by
    rw [List.length_take, Nat.min_eq_left h]
  let request : TcpRequestPayload := ⟨bytes.take 12, Nat.le_of_eq hlen⟩
  have hextend : BoundedVec.empty.extend (takeVector bytes 12 h).toList = some request := by
    rw [BoundedVec.extend_eq_extendFromSlice]
    exact BoundedVec.extendFromSlice_eq_some.mpr rfl
  refine ⟨request, rfl, ?_⟩
  rw [listen, runOn_bind_of_ok (runOn_modify _ _ _)]
  rw [runOn_bind_of_ok (runOn_await_of_some (client_sockReadExact h) _)]
  rw [runOn_bind_of_ok (runOn_orFail_ok _ _ _ _), runOn_bind_of_ok (runOn_gets _ _ _)]
  rw [hextend, runOn_bind_of_ok (runOn_ofOption_some _ _ _)]
  rfl

/-- A call with twelve bytes or more before it: six for a header, six for a body. -/
theorem runOn_nextRequest (g : Gateway) {rest : List UInt8} (hrest : 6 ≤ rest.length) :
    ∃ request : RtuRequestPayload, ∃ g',
      request.toList = rest.take 6 ++ createCrc (rest.take 6) ∧
      g'.counter = fromBeBytes b0 b1 ∧
      nextRequest.runOn client g (b0 :: b1 :: b2 :: b3 :: b4 :: b5 :: rest) =
        (.returned (.ok request) g', rest.drop 6) := by
  have hlen : 12 ≤ (b0 :: b1 :: b2 :: b3 :: b4 :: b5 :: rest).length := by
    simp only [List.length_cons]
    omega
  obtain ⟨input, hinput, hlisten⟩ := runOn_listen g hlen
  have hpdu : 1 ≤ (rest.take 6).length := by
    rw [List.length_take, Nat.min_eq_left hrest]
    decide
  obtain ⟨request, hlist, hconvert⟩ :=
    convertTcpRequest_apply { g with tcpRequest := input } hinput hpdu
  refine ⟨request, { g with counter := fromBeBytes b0 b1, tcpRequest := input }, hlist, rfl, ?_⟩
  rw [nextRequest, runOn_bind_of_ok hlisten, runOn_bind_of_ok (runOn_gets _ _ _)]
  exact runOn_of_done hconvert (rest.drop 6)

/-! ## All calls -/

theorem Adu.bytes_append (a : Adu) (rest : List UInt8) :
    a.bytes ++ rest =
      UInt8.ofNat (a.transactionId.toNat / 256) :: UInt8.ofNat a.transactionId.toNat :: 0 :: 0 ::
        UInt8.ofNat ((UInt16.ofNat a.body.length).toNat / 256) ::
        UInt8.ofNat (UInt16.ofNat a.body.length).toNat :: (a.body ++ rest) := by
  simp [bytes, toBeBytes, modbusProto]

theorem stream_cons (a : Adu) (adus : List Adu) : stream (a :: adus) = a.bytes ++ stream adus := rfl

/-- The first call on an ADU takes six bytes after its header for the body. -/
theorem calls_cons (g : Gateway) {a : Adu} {adus : List Adu}
    (h : 6 ≤ (a.body ++ stream adus).length) :
    ∃ request g', request.toList = (a.body ++ stream adus).take 6 ++
        createCrc ((a.body ++ stream adus).take 6) ∧ g'.counter = a.transactionId ∧
      ∀ n, calls (n + 1) g (stream (a :: adus)) =
        (.ok request, g') :: calls n g' ((a.body ++ stream adus).drop 6) := by
  obtain ⟨request, g', hlist, hcounter, hrun⟩ := runOn_nextRequest g h
  refine ⟨request, g', hlist, ?_, fun n => ?_⟩
  · rw [hcounter]
    exact fromBeBytes_toBeBytes a.transactionId
  · rw [calls, stream_cons, a.bytes_append, hrun]

theorem calls_eof (n : Nat) (g : Gateway) {bytes : List UInt8} (h : bytes.length < 12) :
    calls (n + 1) g bytes = [(.error .readExactError, { g with tcpRequest := .empty })] := by
  rw [calls, runOn_nextRequest_eof g h]
  rfl

/-- A request of twelve bytes is one call, and the next call begins after it. -/
theorem calls_cons_of_twelve (g : Gateway) {a : Adu} (ha : a.body.length = 6) (adus : List Adu) :
    ∃ request g', request.toList = a.body ++ createCrc a.body ∧ g'.counter = a.transactionId ∧
      ∀ n, calls (n + 1) g (stream (a :: adus)) = (.ok request, g') :: calls n g' (stream adus) := by
  have hlen : 6 ≤ (a.body ++ stream adus).length := by
    rw [List.length_append]
    omega
  obtain ⟨request, g', hlist, hcounter, hcalls⟩ := calls_cons g hlen
  rw [List.take_left' ha] at hlist
  rw [List.drop_left' ha] at hcalls
  exact ⟨request, g', hlist, hcounter, hcalls⟩

/-! ## Streams that are kept apart -/

/-- Too few bytes left: whatever calls follow, the only one fails. -/
theorem eq_of_mem_calls_eof {g : Gateway} {bytes : List UInt8} (h : bytes.length < 12) {c : Call}
    (hc : c ∈ calls n g bytes) : c = (.error .readExactError, { g with tcpRequest := .empty }) := by
  cases n with
  | zero => contradiction
  | succ n =>
      rw [calls_eof n g h] at hc
      exact List.mem_singleton.mp hc

theorem length_stream_nil : (stream []).length < 12 := Nat.succ_pos 11

theorem servesInOrder_nil (g : Gateway) : ServesInOrder g [] where
  treats := by
    intro k a h
    contradiction
  nothingElse := by
    intro n k c _ h
    have hc := eq_of_mem_calls_eof length_stream_nil (List.mem_of_getElem? h)
    exact ⟨.readExactError, by rw [hc]⟩
  transactionIds := by
    intro n c h
    have hc := eq_of_mem_calls_eof length_stream_nil h
    exact Or.inl (by rw [hc])

theorem length_bytes (a : Adu) : a.bytes.length = 6 + a.body.length := by
  have h := a.bytes_append []
  rw [List.append_nil, List.append_nil] at h
  rw [h]
  simp only [List.length_cons]
  omega

/-- A last request of less than twelve bytes gets the error of `read_exact`. -/
theorem servesInOrder_short (g : Gateway) {a : Adu} (ha : a.body.length < 6) :
    ServesInOrder g [a] := by
  have hlen : (stream [a]).length < 12 := by
    show (a.bytes ++ []).length < 12
    rw [List.append_nil, length_bytes]
    omega
  have herror : ∀ n, ∀ c ∈ calls n g (stream [a]),
      c = (.error .readExactError, { g with tcpRequest := .empty }) :=
    fun n c hc => eq_of_mem_calls_eof hlen hc
  refine ⟨fun k b hk => ?_, fun n k c _ hc => ?_, fun n c hc => ?_⟩
  · have hk0 : k = 0 := by
      have := (List.getElem?_eq_some_iff.mp hk).1
      simpa using this
    rw [hk0]
    refine ⟨(.error .readExactError, { g with tcpRequest := .empty }), ?_, ?_⟩
    · show (calls (0 + 1) g (stream [a]))[0]? = _
      rw [calls_eof 0 g hlen]
      rfl
    · intro request h
      contradiction
  · exact ⟨.readExactError, by rw [herror n c (List.mem_of_getElem? hc)]⟩
  · exact Or.inl (by rw [herror n c hc])

/-- A request of twelve bytes in front of requests that are kept apart. -/
theorem servesInOrder_cons (g : Gateway) {a : Adu} (ha : a.body.length = 6) {adus : List Adu}
    (h : ∀ g', ServesInOrder g' adus) : ServesInOrder g (a :: adus) := by
  obtain ⟨request, g', hlist, hcounter, hcalls⟩ := calls_cons_of_twelve g ha adus
  refine ⟨fun k b hk => ?_, fun n k c hk hc => ?_, fun n c hc => ?_⟩
  · rw [List.length_cons, hcalls]
    cases k with
    | zero =>
        have hb : a = b := by simpa using hk
        rw [← hb]
        refine ⟨(.ok request, g'), rfl, fun request' hr => ?_⟩
        have hr' : request = request' := by simpa using hr
        rw [← hr']
        exact ⟨hlist, hcounter⟩
    | succ k => exact (h g').treats k b (by simpa using hk)
  · cases n with
    | zero => contradiction
    | succ n =>
        rw [hcalls] at hc
        cases k with
        | zero => contradiction
        | succ k =>
            have hk' : adus.length ≤ k := by simpa using hk
            exact (h g').nothingElse n k c hk' (by simpa using hc)
  · cases n with
    | zero => contradiction
    | succ n =>
        rw [hcalls, List.mem_cons] at hc
        rcases hc with hc | hc
        · rw [hc]
          exact Or.inr ⟨a, List.mem_cons_self, hcounter⟩
        · rcases (h g').transactionIds n c hc with hid | ⟨b, hb, hid⟩
          · exact Or.inr ⟨a, List.mem_cons_self, by rw [hid, hcounter]⟩
          · exact Or.inr ⟨b, List.mem_cons_of_mem a hb, hid⟩

theorem twelveBytes_cons {a b : Adu} {adus : List Adu} :
    TwelveBytes (a :: b :: adus) ↔ a.body.length = 6 ∧ TwelveBytes (b :: adus) := by
  unfold TwelveBytes
  rw [List.dropLast_cons_cons, List.forall_mem_cons, List.getLast?_cons_cons, and_assoc]

theorem twelveBytes_singleton {a : Adu} : TwelveBytes [a] ↔ a.body.length ≤ 6 := by
  unfold TwelveBytes
  simp

/-- Requests of twelve bytes, the last perhaps shorter, are kept apart. -/
theorem servesInOrder_of_twelveBytes {adus : List Adu} (h : TwelveBytes adus) (g : Gateway) :
    ServesInOrder g adus := by
  induction adus generalizing g with
  | nil => exact servesInOrder_nil g
  | cons a adus ih =>
      cases adus with
      | nil =>
          have hle := twelveBytes_singleton.mp h
          by_cases hlt : a.body.length < 6
          · exact servesInOrder_short g hlt
          · have ha : a.body.length = 6 := by omega
            exact servesInOrder_cons g ha servesInOrder_nil
      | cons b adus =>
          obtain ⟨ha, htail⟩ := twelveBytes_cons.mp h
          exact servesInOrder_cons g ha fun g' => ih htail g'

/-- No request fits in less than eight bytes. -/
theorem eq_nil_of_length_stream {adus : List Adu} (h : (stream adus).length < 8) : adus = [] := by
  cases adus with
  | nil => rfl
  | cons a adus =>
      have htwo := a.two_le
      rw [stream_cons, List.length_append, length_bytes] at h
      omega

/-- Requests that are treated one by one have twelve bytes: the first call takes
as many for the first request, and the next call goes on from there. -/
theorem twelveBytes_of_treats {adus : List Adu} {g : Gateway}
    (h : ∀ (k : Nat) (a : Adu), adus[k]? = some a →
      ∃ c, (calls adus.length g (stream adus))[k]? = some c ∧ Treats c a) : TwelveBytes adus := by
  induction adus generalizing g with
  | nil => exact ⟨by simp, by simp⟩
  | cons a adus ih =>
      by_cases hshort : (a.body ++ stream adus).length < 6
      · have hnil : adus = [] := by
          refine eq_nil_of_length_stream ?_
          rw [List.length_append] at hshort
          omega
        rw [hnil]
        refine twelveBytes_singleton.mpr ?_
        rw [List.length_append] at hshort
        omega
      · obtain ⟨request, g', hlist, _, hcalls⟩ := calls_cons g (Nat.not_lt.mp hshort)
        rw [List.length_cons, hcalls] at h
        obtain ⟨c, hc, htreats⟩ := h 0 a rfl
        have hc' : (.ok request, g') = c := by simpa using hc
        obtain ⟨hbody, _⟩ := htreats request (by rw [← hc'])
        have hlen := congrArg List.length (hlist.symm.trans hbody)
        have hsix : ((a.body ++ stream adus).take 6).length = 6 := by
          rw [List.length_take, Nat.min_eq_left (Nat.not_lt.mp hshort)]
        have ha : a.body.length = 6 := by
          rw [List.length_append, List.length_append, hsix, length_createCrc,
            length_createCrc] at hlen
          omega
        rw [List.drop_left' ha] at h
        have htail : TwelveBytes adus := by
          refine ih (g := g') fun k b hk => ?_
          obtain ⟨d, hd, hdtreats⟩ := h (k + 1) b (by simpa using hk)
          exact ⟨d, by simpa using hd, hdtreats⟩
        cases adus with
        | nil => exact twelveBytes_singleton.mpr (Nat.le_of_eq ha)
        | cons b adus => exact twelveBytes_cons.mpr ⟨ha, htail⟩

/-- **Requests in order**: the bridge treats the `k`-th request of a stream as
the `k`-th exactly when every request has twelve bytes, but for the last, which
may have less. -/
theorem servesInOrder_iff (g : Gateway) (adus : List Adu) :
    ServesInOrder g adus ↔ TwelveBytes adus :=
  ⟨fun h => twelveBytes_of_treats h.treats, fun h => servesInOrder_of_twelveBytes h g⟩

/-! ### A request to write two registers -/

/-- Function 16 with two registers: seventeen bytes. -/
def writeRegisters : Adu where
  transactionId := 7
  body := [1, 16, 0, 16, 0, 2, 4, 0, 1, 0, 2]
  two_le := by decide
  le := by decide

/-- The request is cut after its register count, and the rest of it is taken for
the next one. -/
theorem not_servesInOrder :
    ¬ ∀ (g : Gateway) (adus : List Adu), ServesInOrder g adus := by
  intro h
  have hserves := h { counter := 0, txEn := false, rtuResponse := .empty, tcpRequest := .empty }
    [writeRegisters]
  have hle := twelveBytes_singleton.mp (twelveBytes_of_treats hserves.treats)
  exact absurd hle (by decide)

end Toucan.Modbus
