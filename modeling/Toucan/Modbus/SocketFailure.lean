import Toucan.Modbus.Task

/-!
# Toucan.Modbus.SocketFailure

The flows that `modbus_task` begins on a socket that has failed.  In bridge mode a
flow reads the socket first and its error ends the inner loop.  In client mode a
flow comes to the socket by way of the serial line, and of all that can go wrong
on the way only a response without a body ends the loop.

`along_further_iff` counts the flows for any flow and the answers that start it
again; `furtherFlows_iff` is about the two modes.
-/

namespace Toucan.Modbus

/-! ## A socket, from the answers -/

/-- A read or write of the socket fails, or a read finds the end of the stream. -/
def socketFailed : (op : Op) × Ans op → Bool
  | ⟨.sockReadExact _, .error _⟩ => true
  | ⟨.sockRead _, .error _⟩ => true
  | ⟨.sockRead _, .ok got⟩ => got.toList.isEmpty
  | ⟨.sockWrite _, .error _⟩ => true
  | _ => false

/-- A read of the socket gives something. -/
def socketDelivers : (op : Op) × Ans op → Bool
  | ⟨.sockReadExact _, .ok _⟩ => true
  | ⟨.sockRead _, .ok got⟩ => !got.toList.isEmpty
  | _ => false

def isStarted : TaskOutput → Bool
  | .started _ => true
  | _ => false

/-- What was seen of a socket: whether it failed, and the flows begun on it since. -/
structure Socket where
  failed : Bool
  further : Nat

def Socket.new : Socket := ⟨false, 0⟩

def Socket.observe (k : Socket) : TaskInput → List TaskOutput → Socket
  | .connect _, _ => .new
  | .timeout, _ => k
  | .answer op a, os =>
    let failed := k.failed || socketFailed ⟨op, a⟩
    { failed, further := k.further + if failed then os.countP isStarted else 0 }

/-- A socket that has failed gives nothing to read any more.  It may still take what
is written, as one that the peer has closed on its side. -/
def Socket.allows (k : Socket) : TaskInput → Bool
  | .answer op a => !(k.failed && socketDelivers ⟨op, a⟩)
  | _ => true

/-- `modbus_task`, with what was seen of the socket, where sockets do not recover. -/
def onSocket (process : Bridge Unit) : Machine (Task × Socket) TaskInput TaskOutput :=
  ((task process).withHistory fun k _ i os => k.observe i os).guard fun s i => s.2.allows i

theorem onSocket_step_eq_some {process : Bridge Unit} :
    (onSocket process).step p i = some (q, os) ↔ p.2.allows i = true ∧
      (task process).step p.1 i = some (q.1, os) ∧ q.2 = p.2.observe i os := by
  rw [onSocket, Machine.guard_step_eq_some, Machine.withHistory_step_eq_some]

theorem isStarted_report (f : Flow) (left : Resumption Gateway (Except ModbusError Unit) Ans) :
    isStarted (report f left) = false := by
  cases left <;> rfl

/-- A turn begins one flow. -/
theorem countP_turn (process : Bridge Unit) (g : Gateway) :
    (turn process g).2.countP isStarted = 1 := by
  show List.countP isStarted [.started g, report ⟨g, []⟩ (process g)] = 1
  rw [List.countP_cons, List.countP_singleton, isStarted_report]
  rfl

/-! ## Ways out of the loop -/

def endsIn (again : (op : Op) × Ans op → Bool) (tr : Trace Ans) : Bool := tr.getLast?.any again

theorem endsIn_concat (again : (op : Op) × Ans op → Bool) (tr : Trace Ans) (x : (op : Op) × Ans op) :
    endsIn again (tr ++ [x]) = again x := by
  rw [endsIn, List.getLast?_concat]
  rfl

/-- While the socket gives nothing, a flow goes on or ends the inner loop, unless it
gets one of the answers `again`. -/
structure LeavesLoop (again : (op : Op) × Ans op → Bool)
    (I : Gateway → Trace Ans → Op → Gateway → Prop)
    (Q : Gateway → Trace Ans → Outcome Gateway (Except ModbusError Unit) → Prop) : Prop where
  awaits : ∀ g tr op g', I g tr op g' → endsIn again tr = false
  panics : ∀ g tr g', Q g tr (.panicked g') → endsIn again tr = false
  returns : ∀ g tr result g', Q g tr (.returned result g') → tr.any socketDelivers = false →
    breaksWith result = !endsIn again tr

/-- A flow of bridge mode that gets nothing from the socket ends the loop at once. -/
theorem leavesLoop_bridge (overflowChecks : Bool) :
    LeavesLoop (fun _ => false) BridgeAwait (BridgeEnd overflowChecks) := by
  have hnever : ∀ tr : Trace Ans, endsIn (fun _ => false) tr = false := by
    intro tr
    rw [endsIn]
    cases tr.getLast? <;> rfl
  refine ⟨fun _ tr _ _ _ => hnever tr, fun _ tr _ _ => hnever tr,
    fun g tr result g' h hsilent => ?_⟩
  rw [hnever]
  cases h with
  | listen => rfl
  | _ => contradiction

section Client

open Client

/-- The answers after which client mode tries another flow: a serial read that fails
or whose frame does not pass the CRC check, a socket read or write that fails. -/
def triesAgain : (op : Op) × Ans op → Bool
  | ⟨.uartRead _, .error _⟩ => true
  | ⟨.uartRead _, .ok buf⟩ => !(crcCheck buf.toList).isOk
  | ⟨.sockRead _, .error _⟩ => true
  | ⟨.sockWrite _, .error _⟩ => true
  | _ => false

/-- A header that is not there announces no body. -/
theorem bodyLength_eq_zero {got : BoundedVec UInt8 6} (h : got.toList = []) :
    bodyLength got = 0 := by
  have hempty : got = .empty := BoundedVec.ext h
  subst hempty
  rfl

theorem bodyLength_of_silent (got : BoundedVec UInt8 6) {tr : Trace Ans}
    (hmem : ⟨.sockRead 6, .ok got⟩ ∈ tr) (h : tr.any socketDelivers = false) :
    bodyLength got = 0 := by
  have hgot : ¬ socketDelivers ⟨.sockRead 6, .ok got⟩ = true := List.any_eq_false.mp h _ hmem
  apply bodyLength_eq_zero
  simpa [socketDelivers] using hgot

theorem not_replies_of_silent {g : Gateway} {got : BoundedVec UInt8 6} {reads : Reads}
    {tr : Trace Ans} (hmem : ⟨.sockRead 6, .ok got⟩ ∈ tr) (h : tr.any socketDelivers = false) :
    ¬ Replies g got reads := by
  intro hr
  have hbody := bodyLength_of_silent got hmem h
  have hcomplete := hr.complete
  have hpos := hr.body
  omega

theorem endsIn_arrived (g : Gateway) (buf : Vector UInt8 8) (n : Nat) (got : BoundedVec UInt8 6)
    (reads : Reads) : endsIn triesAgain (asked g buf n ++ arrived got reads) = false := by
  rcases List.eq_nil_or_concat reads with rfl | ⟨reads, last, rfl⟩
  · rfl
  · rw [List.concat_eq_append, arrived, readTrace, List.map_append, List.map_singleton,
      ← List.cons_append, ← List.append_assoc, endsIn_concat]
    rfl

/-- A flow of client mode that gets nothing from the socket ends the loop unless one
of these answers turns it away before. -/
theorem leavesLoop_client : LeavesLoop triesAgain ClientAwait ClientEnd := by
  refine ⟨fun g tr op g' h => ?_, fun g tr g' h => absurd h ClientEnd.ne_panicked,
    fun g tr result g' h hsilent => ?_⟩
  · cases h with
    | listen => rfl
    | request buf _ hcrc =>
        show (!(crcCheck buf.toList).isOk) = false
        rw [hcrc]
        rfl
    | header => rfl
    | body buf n got reads => exact endsIn_arrived g buf n got reads
    | drain buf n got reads => exact endsIn_arrived g buf n got reads
    | write => rw [endsIn_concat]; rfl
    | flush => rw [endsIn_concat]; rfl
  · cases h with
    | listen => rfl
    | crc buf e _ hcrc =>
        show breaksInner e = !!(crcCheck buf.toList).isOk
        rw [hcrc]
        rcases crcCheck_eq_error hcrc with rfl | rfl <;> rfl
    | request => rfl
    | header => rfl
    | body buf n got reads => rw [endsIn_concat]; rfl
    | short => rfl
    | full buf n got reads _ _ hlen =>
        have hbody := bodyLength_of_silent got (by simp [arrived]) hsilent
        omega
    | id buf n got reads _ _ hlen hread =>
        have hbody := bodyLength_of_silent got (by simp [arrived]) hsilent
        omega
    | drain buf n got reads _ _ hr =>
        exact absurd hr (not_replies_of_silent (by simp [arrived]) hsilent)
    | write buf n got reads _ _ hr =>
        exact absurd hr (not_replies_of_silent (by simp [arrived]) hsilent)
    | flush buf n got reads _ _ hr =>
        exact absurd hr (not_replies_of_silent (by simp [arrived]) hsilent)
    | replied buf n got reads _ _ hr =>
        exact absurd hr (not_replies_of_silent (by simp [arrived]) hsilent)

end Client

/-! ## Runs -/

/-- A flow begun on a failed socket does not get one of the answers `again`. -/
def OnCourse (again : (op : Op) × Ans op → Bool) (p : Task × Socket) : TaskInput → Prop
  | .answer op a => 0 < p.2.further → again ⟨op, a⟩ = false
  | _ => True

/-- The flow under way was given nothing by the socket. -/
def Silent : Task → Prop
  | .connecting _ => True
  | .inner f _ => f.answers.any socketDelivers = false

section Runs

variable {process : Bridge Unit} {again : (op : Op) × Ans op → Bool}
  {I : Gateway → Trace Ans → Op → Gateway → Prop}
  {Q : Gateway → Trace Ans → Outcome Gateway (Except ModbusError Unit) → Prop}

/-- What is known in a run that began at most one flow on each failed socket. -/
structure OneFurther (I : Gateway → Trace Ans → Op → Gateway → Prop)
    (Q : Gateway → Trace Ans → Outcome Gateway (Except ModbusError Unit) → Prop)
    (p : Task × Socket) : Prop where
  meets : p.1.Meets I Q
  further : p.2.further ≤ 1
  failed : 0 < p.2.further → p.2.failed = true
  silent : 0 < p.2.further → Silent p.1

theorem silent_answered {f : Flow} {op : Op} {a : Ans op} {k : Socket} (hfailed : k.failed = true)
    (hsilent : f.answers.any socketDelivers = false) (hallows : k.allows (.answer op a) = true) :
    (f.answered op a).answers.any socketDelivers = false := by
  rw [Socket.allows, hfailed, Bool.true_and, Bool.not_eq_true'] at hallows
  rw [Flow.answered, List.any_append, hsilent, List.any_cons, hallows]
  rfl

/-- How an answer that begins `n` flows changes what was seen. -/
theorem observe_further {k : Socket} {op : Op} {a : Ans op} {os : List TaskOutput} {n : Nat}
    (hn : os.countP isStarted = n) :
    (k.observe (.answer op a) os).further =
      k.further + if k.failed || socketFailed ⟨op, a⟩ then n else 0 := by
  rw [Socket.observe, hn]

theorem countP_started_report (f : Flow)
    (left : Resumption Gateway (Except ModbusError Unit) Ans) :
    [report f left].countP isStarted = 0 := by
  rw [List.countP_singleton, isStarted_report]
  rfl

/-- **Step lemma**: with at most one flow begun on the failed socket, a step begins
another one exactly when it gets one of the answers `again` there. -/
theorem further_step (hspec : LeavesLoop again I Q) (hp : OneFurther I Q p)
    (h : (onSocket process).step p i = some (q, os)) :
    q.2.further ≤ 1 ↔ OnCourse again p i := by
  obtain ⟨hallows, hstep, hq⟩ := onSocket_step_eq_some.mp h
  obtain ⟨s, k⟩ := p
  obtain ⟨s', k'⟩ := q
  have hk : k.further ≤ 1 := hp.further
  subst hq
  cases takes_of_step hstep with
  | refused g => exact iff_of_true (Nat.zero_le 1) trivial
  | connected g => exact iff_of_true (Nat.zero_le 1) trivial
  | cancelled f op g left => exact iff_of_true hk trivial
  | goesOn f op g left a hleft =>
      have hagain : again ⟨op, a⟩ = false := by
        have hmeets := hp.meets.2 a
        rw [← endsIn_concat again f.answers]
        cases hla : left a with
        | done result g' => exact absurd hla (hleft result g')
        | await op' g' k' =>
            rw [hla] at hmeets
            exact hspec.awaits _ _ _ _ hmeets.1
        | panicked g' =>
            rw [hla] at hmeets
            exact hspec.panics _ _ _ hmeets
      refine iff_of_true ?_ fun _ => hagain
      show (k.observe _ _).further ≤ 1
      rw [observe_further (countP_started_report (f.answered op a) (left a))]
      simpa using hk
  | breaks f op g left a result g' hleft hb =>
      refine iff_of_true ?_ fun hpos => ?_
      · show (k.observe _ _).further ≤ 1
        rw [observe_further (n := 0) rfl]
        simpa using hk
      · have hmeets := hp.meets.2 a
        rw [hleft] at hmeets
        have hsilent := silent_answered (hp.failed hpos) (hp.silent hpos) hallows
        have hout := hspec.returns _ _ _ _ hmeets hsilent
        rw [hb, endsIn_concat] at hout
        simpa using hout
  | turns f op g left a result g' hleft hb =>
      have hone : (TaskOutput.returned (f.answered op a) result g' :: (turn process g').2).countP
          isStarted = 1 := by
        rw [List.countP_cons, countP_turn]
        rfl
      show (k.observe _ _).further ≤ 1 ↔ _
      rw [observe_further hone]
      by_cases hpos : 0 < k.further
      · have hmeets := hp.meets.2 a
        rw [hleft] at hmeets
        have hfailed : k.failed = true := hp.failed hpos
        have hsilent := silent_answered hfailed (hp.silent hpos) hallows
        have hout := hspec.returns _ _ _ _ hmeets hsilent
        rw [hb, endsIn_concat] at hout
        have hagain : again ⟨op, a⟩ = true := by simpa using hout.symm
        rw [hfailed, Bool.true_or, if_pos rfl]
        refine iff_of_false (by omega) fun hcourse => ?_
        rw [hcourse hpos] at hagain
        contradiction
      · refine iff_of_true ?_ fun h => absurd h hpos
        split <;> omega

theorem oneFurther_step (hprocess : ∀ g, Async.Meets (I g) (Q g) process [] g)
    (hp : OneFurther I Q p) (h : (onSocket process).step p i = some (q, os))
    (hq : q.2.further ≤ 1) : OneFurther I Q q := by
  obtain ⟨hallows, hstep, hobserve⟩ := onSocket_step_eq_some.mp h
  obtain ⟨s, k⟩ := p
  obtain ⟨s', k'⟩ := q
  have hmeets := (meets_step hprocess hp.meets hstep).2
  have hfailed : 0 < k'.further → k'.failed = true := by
    subst hobserve
    intro hpos
    cases i with
    | connect accepted => exact absurd hpos (Nat.lt_irrefl 0)
    | timeout => exact hp.failed hpos
    | answer op a =>
        rw [observe_further rfl] at hpos
        show (k.failed || socketFailed ⟨op, a⟩) = true
        cases hf : k.failed || socketFailed ⟨op, a⟩ with
        | true => rfl
        | false =>
            rw [hf] at hpos
            have hbefore : k.failed = true := hp.failed hpos
            rw [hbefore] at hf
            contradiction
  refine ⟨hmeets, hq, hfailed, fun hpos => ?_⟩
  cases takes_of_step hstep with
  | refused g => trivial
  | connected g => rfl
  | cancelled f op g left => trivial
  | breaks f op g left a result g' hleft hb => trivial
  | turns f op g left a result g' hleft hb => rfl
  | goesOn f op g left a hleft =>
      subst hobserve
      have hpos' : 0 < k.further := by
        have h' : 0 < (k.observe _ _).further := hpos
        rw [observe_further (countP_started_report (f.answered op a) (left a))] at h'
        simpa using h'
      exact silent_answered (hp.failed hpos') (hp.silent hpos') hallows

theorem along_further_iff (hspec : LeavesLoop again I Q)
    (hprocess : ∀ g, Async.Meets (I g) (Q g) process [] g) (g : Gateway) (is : List TaskInput) :
    (onSocket process).Along (fun _ _ _ q => q.2.further ≤ 1) (.connecting g, .new) is ↔
      (onSocket process).Along (fun p i _ _ => OnCourse again p i) (.connecting g, .new) is := by
  have hstart : OneFurther I Q (.connecting g, .new) :=
    ⟨trivial, Nat.zero_le 1, fun h => absurd h (Nat.lt_irrefl 0), fun _ => trivial⟩
  exact Machine.along_iff_along (I := OneFurther I Q)
    (fun p i q os hp h => further_step hspec hp h)
    (fun p i q os hp h hq => oneFurther_step hprocess hp h hq) hstart

end Runs

/-- **Flows on a failed socket**: once a read or write of the socket has failed, or a
read has found the end of the stream, and nothing more can be read, bridge mode
begins at most one further flow on the socket.  Client mode does so exactly when
the further flow is answered with a frame that passes the CRC check, a write that
succeeds and the end of the stream, or the timer fires before. -/
theorem furtherFlows_iff (overflowChecks : Bool) (g : Gateway) (is : List TaskInput) :
    (onSocket (processFlow overflowChecks)).Along (fun _ _ _ q => q.2.further ≤ 1)
        (.connecting g, .new) is ∧
      ((onSocket Client.processFlow).Along (fun _ _ _ q => q.2.further ≤ 1)
          (.connecting g, .new) is ↔
        (onSocket Client.processFlow).Along (fun p i _ _ => OnCourse triesAgain p i)
          (.connecting g, .new) is) := by
  refine ⟨?_, along_further_iff leavesLoop_client Client.meets_processFlow g is⟩
  rw [along_further_iff (leavesLoop_bridge overflowChecks) (meets_processFlow overflowChecks)]
  refine Machine.along_of_invariant (I := fun _ => True) (fun p i q os _ _ => ⟨?_, trivial⟩) trivial
  cases i with
  | answer op a => exact fun _ => rfl
  | _ => trivial

/-! ### A master that polls a broken connection -/

/-- A request to read one register. -/
def poll : Vector UInt8 8 := #v[1, 3, 0, 0, 0, 1, 0x84, 0x0a]

/-- The server is connected, and the write of each of two requests fails. -/
def brokenConnection : List TaskInput :=
  let next := Client.accepted .initial
  [.connect true,
    .answer (.uartRead 8) (.ok poll),
    .answer (.sockWrite (Client.requestAdu .initial poll)) (.error ()),
    .answer (.uartRead 8) (.ok poll),
    .answer (.sockWrite (Client.requestAdu next poll)) (.error ())]

/-- The second failure begins a second flow. -/
theorem not_furtherFlows :
    ¬ ∀ is, (onSocket Client.processFlow).Along (fun _ _ _ q => q.2.further ≤ 1)
      (.connecting .initial, .new) is := by
  intro h
  have hrun : ((onSocket Client.processFlow).run (.connecting .initial, .new) brokenConnection).any
      (fun r => !decide (r.1.2.further ≤ 1)) = true := by decide +kernel
  obtain ⟨r, hr, hmore⟩ := Option.any_eq_true _ _ |>.mp hrun
  have hone : r.1.2.further ≤ 1 :=
    Machine.of_along_of_run (P := fun q => q.2.further ≤ 1) (Nat.zero_le 1) (h brokenConnection) hr
  rw [decide_eq_true hone] at hmore
  exact Bool.false_ne_true hmore

end Toucan.Modbus
