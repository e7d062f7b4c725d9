import Toucan.Modbus.Task

/-!
# Toucan.Modbus.ClientRuns

Runs of the gateway in client mode: the transaction ids of the requests, one after
the other through all flows, and the reply to each request.

The ids are numbered consecutively however the flows end, which is the invariant
`Numbered`; so 65536 requests in a row have different ids.
-/

namespace Toucan.Modbus.Client

open Async

/-! ## What a flow was answered -/

/-- The requests handed to the socket. -/
def requestsSent (tr : Trace Ans) : List (List UInt8) :=
  tr.filterMap fun
    | ⟨.sockWrite adu, _⟩ => some adu
    | _ => none

/-- The replies handed to the serial line. -/
def repliesSent (tr : Trace Ans) : List (List UInt8) :=
  tr.filterMap fun
    | ⟨.uartWrite reply, _⟩ => some reply
    | _ => none

/-- The bytes read from the socket. -/
def tcpBytes (tr : Trace Ans) : List UInt8 :=
  tr.flatMap fun
    | ⟨.sockRead _, .ok got⟩ => got.toList
    | _ => []

theorem requestsSent_append (tr tr' : Trace Ans) :
    requestsSent (tr ++ tr') = requestsSent tr ++ requestsSent tr' := List.filterMap_append

theorem repliesSent_append (tr tr' : Trace Ans) :
    repliesSent (tr ++ tr') = repliesSent tr ++ repliesSent tr' := List.filterMap_append

theorem tcpBytes_append (tr tr' : Trace Ans) :
    tcpBytes (tr ++ tr') = tcpBytes tr ++ tcpBytes tr' := List.flatMap_append

theorem requestsSent_arrived (got : BoundedVec UInt8 6) (reads : Reads) :
    requestsSent (arrived got reads) = [] := by
  induction reads with
  | nil => rfl
  | cons b reads ih => exact ih

theorem repliesSent_arrived (got : BoundedVec UInt8 6) (reads : Reads) :
    repliesSent (arrived got reads) = [] := by
  induction reads with
  | nil => rfl
  | cons b reads ih => exact ih

/-! ## Transaction ids -/

/-- The transaction id of an ADU. -/
def aduId : List UInt8 → Option UInt16
  | hi :: lo :: _ => some (fromBeBytes hi lo)
  | _ => none

/-- The transaction id of a request for the socket. -/
def sentId : TaskOutput → Option UInt16
  | .awaits _ (.sockWrite adu) _ => aduId adu
  | _ => none

theorem aduId_requestAdu (g : Gateway) (buf : Vector UInt8 8) :
    aduId (requestAdu g buf) = some (g.counter + 1) :=
  congrArg some (fromBeBytes_toBeBytes (g.counter + 1))

/-- How many ids a flow has taken by an await: one, with its first answer. -/
def idsTaken : Trace Ans → Nat
  | [] => 0
  | _ :: _ => 1

/-- The id it sends next: that of the request, once it has read one. -/
def idToSend (g : Gateway) : Trace Ans → Option UInt16
  | [_] => some (g.counter + 1)
  | _ => none

theorem ClientAwait.counter_eq {g g' : Gateway} {tr : Trace Ans} {op : Op}
    (h : ClientAwait g tr op g') : g'.counter = g.counter + UInt16.ofNat (idsTaken tr) := by
  have hzero : g.counter = g.counter + UInt16.ofNat 0 := (UInt16.add_zero g.counter).symm
  cases h with
  | listen _ hg => exact hg.counter.trans hzero
  | request buf _ hcrc hg => exact hg.counter
  | header buf n _ hg => exact hg.counter
  | body buf n got reads _ hg hlen => exact hg.counter
  | drain buf n got reads _ hg hr => exact hg.counter
  | write buf n got reads _ hg hr => exact hg.counter
  | flush buf n got reads _ hg hr => exact hg.counter

/-- An error of the first read, or a CRC error, takes no id. -/
theorem ClientEnd.counter_eq {g g' : Gateway} {tr : Trace Ans} {result : Except ModbusError Unit}
    (h : ClientEnd g tr (.returned result g')) :
    g'.counter = g.counter + UInt16.ofNat (idsTaken tr.tail) := by
  have hzero : g.counter = g.counter + UInt16.ofNat 0 := (UInt16.add_zero g.counter).symm
  cases h with
  | listen _ hg => exact hg.counter.trans hzero
  | crc buf e _ hcrc hg => exact hg.counter.trans hzero
  | request buf _ hg => exact hg.counter
  | header buf n _ hg => exact hg.counter
  | body buf n got reads _ hg => exact hg.counter
  | full buf n got reads _ hg => exact hg.counter
  | short buf n got _ hg hlen => exact hg.counter
  | id buf n got reads _ hg hlen => exact hg.counter
  | drain buf n got reads _ hg => exact hg.counter
  | write buf n got reads _ hg => exact hg.counter
  | flush buf n got reads _ hg => exact hg.counter
  | replied buf n got reads _ hg => exact hg.counter

theorem ClientAwait.sentId_eq {start g : Gateway} {tr : Trace Ans} {op : Op}
    (h : ClientAwait start tr op g) : sentId (.awaits ⟨start, tr⟩ op g) = idToSend start tr := by
  cases h with
  | listen => rfl
  | request buf => exact aduId_requestAdu start buf
  | header => rfl
  | body => rfl
  | drain => rfl
  | write => rfl
  | flush => rfl

theorem idsTaken_concat (tr : Trace Ans) (x : (op : Op) × Ans op) : idsTaken (tr ++ [x]) = 1 := by
  cases tr with
  | nil => rfl
  | cons y tr => rfl

theorem idToSend_concat_of_cons (g : Gateway) (x y : (op : Op) × Ans op) (tr : Trace Ans) :
    idToSend g (x :: tr ++ [y]) = none := by
  cases tr with
  | nil => rfl
  | cons z tr => rfl

theorem idsTaken_tail_concat (tr : Trace Ans) (x : (op : Op) × Ans op) :
    idsTaken (tr ++ [x]).tail = idsTaken tr := by
  cases tr with
  | nil => rfl
  | cons y tr => exact idsTaken_concat tr x

/-- The ids in the order of the requests: after `n` requests from `first` on. -/
structure Numbered (first : UInt16) (ids : List UInt16) (n : Nat) : Prop where
  length : ids.length = n
  ids : ∀ i id, ids[i]? = some id → id = first + 1 + UInt16.ofNat i

/-- The counter is the last id, except that a flow has already counted its own. -/
def CountsIds (first : UInt16) (ids : List UInt16) : Task → Prop
  | .connecting g => ∃ n, Numbered first ids n ∧ g.counter = first + UInt16.ofNat n
  | .inner f _ =>
    ∃ n, Numbered first ids (n + idsTaken f.answers) ∧ f.start.counter = first + UInt16.ofNat n

theorem Numbered.concat {first id : UInt16} {ids : List UInt16} {n : Nat}
    (h : Numbered first ids n) (hid : id = first + UInt16.ofNat n + 1) :
    Numbered first (ids ++ [id]) (n + 1) := by
  have hlen := h.length
  refine ⟨by rw [List.length_append, hlen]; rfl, fun i id' hi => ?_⟩
  by_cases hlt : i < ids.length
  · rw [List.getElem?_append_left hlt] at hi
    exact h.ids i id' hi
  · rw [List.getElem?_append_right (Nat.not_lt.mp hlt), hlen] at hi
    have hlt' : i - n < [id].length := (List.getElem?_eq_some_iff.mp hi).1
    have heq : i = n := by
      rw [List.length_singleton] at hlt'
      omega
    rw [heq, Nat.sub_self] at hi
    have hid' : id = id' := Option.some.inj hi
    rw [← hid', hid, heq, UInt16.add_assoc, UInt16.add_assoc, UInt16.add_comm 1]

/-- Fewer than 65536 apart, the ids differ. -/
theorem Numbered.ne {first : UInt16} {ids : List UInt16} {n i j : Nat} {a b : UInt16}
    (h : Numbered first ids n) (ha : ids[i]? = some a) (hb : ids[j]? = some b) (hlt : i < j)
    (hnear : j < i + 65536) : a ≠ b := by
  intro hab
  rw [h.ids i a ha, h.ids j b hb] at hab
  have hsum := congrArg UInt16.toNat hab
  simp only [UInt16.toNat_add, UInt16.toNat_ofNat'] at hsum
  omega

/-! ## The step -/

theorem countsIds_turn {first : UInt16} {ids : List UInt16} {n : Nat} {g : Gateway}
    (h : Numbered first ids n) (hg : g.counter = first + UInt16.ofNat n) :
    CountsIds first (ids ++ (turn processFlow g).2.filterMap sentId) (turn processFlow g).1 := by
  have hlisten : (turn processFlow g).2.filterMap sentId = [] := rfl
  rw [hlisten, List.append_nil]
  exact ⟨n, h, hg⟩

/-- **Step lemma**: every step keeps the ids numbered. -/
theorem countsIds_step {first : UInt16} {ids : List UInt16} (hs : s.Meets ClientAwait ClientEnd)
    (hids : CountsIds first ids s) (h : (task processFlow).step s i = some (s', os)) :
    CountsIds first (ids ++ os.filterMap sentId) s' := by
  cases takes_of_step h with
  | refused g =>
      rw [List.filterMap_nil, List.append_nil]
      exact hids
  | connected g =>
      obtain ⟨n, hn, hg⟩ := hids
      exact countsIds_turn hn hg
  | cancelled f op g k =>
      obtain ⟨n, hn, hstart⟩ := hids
      have hcounter := hs.1.counter_eq
      have hnone : [TaskOutput.cancelled f op g].filterMap sentId = [] := rfl
      rw [hnone, List.append_nil]
      refine ⟨n + idsTaken f.answers, hn, ?_⟩
      rw [hcounter, hstart, UInt16.add_assoc, ← UInt16.ofNat_add]
  | goesOn f op g k a hk =>
      obtain ⟨n, hn, hstart⟩ := hids
      have hmeets := hs.2 a
      cases hka : k a with
      | done result g' => exact absurd hka (hk result g')
      | panicked g' =>
          rw [hka] at hmeets
          exact absurd hmeets ClientEnd.ne_panicked
      | await op' g' k' =>
          rw [hka] at hmeets
          obtain ⟨start, answers⟩ := f
          have htaken := idsTaken_concat answers ⟨op, a⟩
          have hsent : sentId (report (Flow.answered ⟨start, answers⟩ op a) (.await op' g' k')) =
              idToSend start (answers ++ [⟨op, a⟩]) := hmeets.1.sentId_eq
          cases answers with
          | nil =>
              -- the first answer: the request goes out with a new id
              have hnew : [report (Flow.answered ⟨start, []⟩ op a) (.await op' g' k')].filterMap
                  sentId = [start.counter + 1] := List.filterMap_cons_some hsent
              rw [hnew]
              exact ⟨n, hn.concat (congrArg (· + 1) hstart), hstart⟩
          | cons x tr =>
              rw [idToSend_concat_of_cons] at hsent
              have hnone : [report (Flow.answered ⟨start, x :: tr⟩ op a) (.await op' g' k')].filterMap
                  sentId = [] := List.filterMap_cons_none hsent
              rw [hnone, List.append_nil]
              refine ⟨n, ?_, hstart⟩
              rw [Flow.answered, htaken]
              exact hn
  | breaks f op g k a result g' hk hb =>
      obtain ⟨n, hn, hstart⟩ := hids
      have hmeets := hs.2 a
      rw [hk] at hmeets
      have hcounter := hmeets.counter_eq
      have hnone : [TaskOutput.returned (f.answered op a) result g'].filterMap sentId = [] := rfl
      rw [hnone, List.append_nil]
      refine ⟨n + idsTaken f.answers, hn, ?_⟩
      rw [hcounter, idsTaken_tail_concat, hstart, UInt16.add_assoc, ← UInt16.ofNat_add]
  | turns f op g k a result g' hk hb =>
      obtain ⟨n, hn, hstart⟩ := hids
      have hmeets := hs.2 a
      rw [hk] at hmeets
      have hcounter := hmeets.counter_eq
      rw [idsTaken_tail_concat, hstart, UInt16.add_assoc, ← UInt16.ofNat_add] at hcounter
      exact countsIds_turn hn hcounter

/-! ## Replies -/

/-- A request goes out once its CRC is checked, and it is the only one of its flow.
A reply is the only one of its flow too; it is made of what `receive` got from the
socket, which begins with the id of the request. -/
def RepliesToRequest : TaskOutput → Prop
  | .awaits f (.sockWrite _) _ =>
    ∃ buf : Vector UInt8 8, f.answers = [⟨.uartRead 8, .ok buf⟩] ∧ crcCheck buf.toList = .ok ()
  | .awaits f (.uartWrite rtuSend) _ =>
    repliesSent f.answers = [] ∧ ∃ adu id got reads, requestsSent f.answers = [adu] ∧
      aduId adu = some id ∧ arrived got reads <:+: f.answers ∧
      (tcpBytes f.answers).take 2 = toBeBytes id ∧ rtuSend = reply got reads
  | _ => True

/-- A header that announces a body has its first two bytes from the socket: the
length is zero unless five bytes were read. -/
theorem take_two_of_bodyLength {got : BoundedVec UInt8 6} (h : 0 < bodyLength got)
    (rest : List UInt8) :
    (got.toList ++ rest).take 2 = [(headerBuf got)[0], (headerBuf got)[1]] := by
  have hzero : ¬ 0 < (fromBeBytes 0 0).toNat := by decide
  obtain ⟨bytes, hle⟩ := got
  rcases bytes with _ | ⟨b0, _ | ⟨b1, _ | ⟨b2, _ | ⟨b3, _ | ⟨b4, bytes⟩⟩⟩⟩⟩
  · exact absurd h hzero
  · exact absurd h hzero
  · exact absurd h hzero
  · exact absurd h hzero
  · exact absurd h hzero
  · rfl

theorem Replies.tcpBytes_take_two {g : Gateway} {got : BoundedVec UInt8 6} {reads : Reads}
    (h : Replies g got reads) (rest : Trace Ans) :
    (tcpBytes (arrived got reads ++ rest)).take 2 = toBeBytes (accepted g).counter := by
  have hbody : 0 < bodyLength got := by
    rw [← h.complete]
    exact h.body
  rw [← h.id, toBeBytes_fromBeBytes, ← take_two_of_bodyLength hbody (tcpBytes (readTrace reads ++ rest))]
  rfl

theorem ClientAwait.repliesToRequest {start g : Gateway} {tr : Trace Ans} {op : Op}
    (h : ClientAwait start tr op g) : RepliesToRequest (.awaits ⟨start, tr⟩ op g) := by
  cases h with
  | listen => trivial
  | request buf _ hcrc => exact ⟨buf, rfl, hcrc⟩
  | header => trivial
  | body => trivial
  | drain => trivial
  | flush => trivial
  | write buf n got reads _ hg hr =>
      have hreplies : repliesSent (asked start buf n ++ arrived got reads ++
          [⟨.uartFlush, .ok ()⟩]) = [] := by
        rw [repliesSent_append, repliesSent_append, repliesSent_arrived]
        rfl
      have hrequests : requestsSent (asked start buf n ++ arrived got reads ++
          [⟨.uartFlush, .ok ()⟩]) = [requestAdu start buf] := by
        rw [requestsSent_append, requestsSent_append, requestsSent_arrived]
        rfl
      have hbytes : (tcpBytes (asked start buf n ++ arrived got reads ++
          [⟨.uartFlush, .ok ()⟩])).take 2 = toBeBytes (accepted start).counter := by
        rw [List.append_assoc, tcpBytes_append]
        exact hr.tcpBytes_take_two _
      have hinfix : arrived got reads <:+: asked start buf n ++ arrived got reads ++
          [⟨.uartFlush, .ok ()⟩] := ⟨asked start buf n, [⟨.uartFlush, .ok ()⟩], rfl⟩
      exact ⟨hreplies, requestAdu start buf, (accepted start).counter, got, reads, hrequests,
        aduId_requestAdu start buf, hinfix, hbytes, rfl⟩

/-! ## Runs -/

/-- The task with the ids of all requests so far. -/
def countingTask : Machine (Task × List UInt16) TaskInput TaskOutput :=
  (task processFlow).withHistory fun ids _ _ os => ids ++ os.filterMap sentId

/-- Any two requests fewer than 65536 requests apart have different ids. -/
def DistinctIds (ids : List UInt16) : Prop :=
  ∀ i j a b, ids[i]? = some a → ids[j]? = some b → i < j → j < i + 65536 → a ≠ b

theorem CountsIds.distinctIds {first : UInt16} {ids : List UInt16} (h : CountsIds first ids s) :
    DistinctIds ids := by
  cases s with
  | connecting g =>
      obtain ⟨n, hn, _⟩ := h
      exact fun i j a b => hn.ne
  | inner f left =>
      obtain ⟨n, hn, _⟩ := h
      exact fun i j a b => hn.ne

end Toucan.Modbus.Client
