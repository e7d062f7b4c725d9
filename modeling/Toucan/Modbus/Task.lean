import Toucan.Lib.Machine
import Toucan.Modbus.BridgeFlow
import Toucan.Modbus.ClientFlow

/-!
# Toucan.Modbus.Task

`modbus_task` (`modbus/modbus_tcp_gateway.rs`): it connects, or accepts a
connection, and runs one flow after the other on it, each against a timer.  A flow
that returns is followed by the next unless its error breaks the inner loop; the
timer drops a flow where it awaits and breaks the loop as well.  The gateway
survives, with new TCP buffers.

An input of the machine is the outcome of a connection attempt, the answer to the
operation awaited, or the timer.
-/

namespace Toucan.Modbus

/-! ## The task -/

/-- A flow under way: the gateway it began on and what it was answered so far.
This is a record for the statements below; no step depends on it. -/
structure Flow where
  start : Gateway
  answers : Trace Ans

inductive Task where
  /-- At the top of the outer loop. -/
  | connecting (g : Gateway)
  /-- In the inner loop, with what is left of a flow. -/
  | inner (f : Flow) (left : Resumption Gateway (Except ModbusError Unit) Ans)

inductive TaskInput where
  | connect (accepted : Bool)
  | answer (op : Op) (a : Ans op)
  | timeout

inductive TaskOutput where
  | started (g : Gateway)
  | awaits (f : Flow) (op : Op) (g : Gateway)
  | returned (f : Flow) (result : Except ModbusError Unit) (g : Gateway)
  | panicked (f : Flow) (g : Gateway)
  | cancelled (f : Flow) (op : Op) (g : Gateway)

/-- Where a flow has come to. -/
def report (f : Flow) : Resumption Gateway (Except ModbusError Unit) Ans → TaskOutput
  | .await op g _ => .awaits f op g
  | .done result g => .returned f result g
  | .panicked g => .panicked f g

/-- `ModbusTcp::new` -/
def Gateway.newTcp (g : Gateway) : Gateway :=
  { g with tcpRequest := .empty, tcpResponse := .empty }

/-- Does the inner loop end with this result of `process_flow`? -/
def breaksWith : Except ModbusError Unit → Bool
  | .ok _ => false
  | .error e => breaksInner e

/-- One more turn of the inner loop. -/
def turn (process : Bridge Unit) (g : Gateway) : Task × List TaskOutput :=
  let f : Flow := { start := g, answers := [] }
  (.inner f (process g), [.started g, report f (process g)])

/-- What the task does when the flow has got an answer: it awaits what the flow
awaits next or, when the flow is over, goes on with the loop. -/
def resume (process : Bridge Unit) (f : Flow) :
    Resumption Gateway (Except ModbusError Unit) Ans → Task × List TaskOutput
  | .done result g =>
    if breaksWith result then (.connecting g, [.returned f result g])
    else
      let next := turn process g
      (next.1, .returned f result g :: next.2)
  | left => (.inner f left, [report f left])

def Flow.answered (f : Flow) (op : Op) (a : Ans op) : Flow :=
  { f with answers := f.answers ++ [⟨op, a⟩] }

/-- `modbus_task` with either flow. -/
def task (process : Bridge Unit) : Machine Task TaskInput TaskOutput where
  step
    | .connecting g, .connect false => some (.connecting g, [])
    | .connecting g, .connect true => some (turn process g.newTcp)
    | .inner f left, .answer op a => (left.answer op a).map (resume process (f.answered op a))
    | .inner f (.await op g _), .timeout => some (.connecting g, [.cancelled f op g])
    | _, _ => none

/-! ## Steps -/

section Steps

variable {process : Bridge Unit}

/-- The ways to take an input. -/
inductive Takes (process : Bridge Unit) : Task → TaskInput → Task → List TaskOutput → Prop
  | refused (g : Gateway) : Takes process (.connecting g) (.connect false) (.connecting g) []
  | connected (g : Gateway) :
    Takes process (.connecting g) (.connect true) (turn process g.newTcp).1
      (turn process g.newTcp).2
  | cancelled (f : Flow) (op : Op) (g : Gateway) (k) :
    Takes process (.inner f (.await op g k)) .timeout (.connecting g) [.cancelled f op g]
  | goesOn (f : Flow) (op : Op) (g : Gateway) (k) (a : Ans op)
      (h : ∀ result g', k a ≠ .done result g') :
    Takes process (.inner f (.await op g k)) (.answer op a) (.inner (f.answered op a) (k a))
      [report (f.answered op a) (k a)]
  | breaks (f : Flow) (op : Op) (g : Gateway) (k) (a : Ans op) (result g')
      (h : k a = .done result g') (hb : breaksWith result = true) :
    Takes process (.inner f (.await op g k)) (.answer op a) (.connecting g')
      [.returned (f.answered op a) result g']
  | turns (f : Flow) (op : Op) (g : Gateway) (k) (a : Ans op) (result g')
      (h : k a = .done result g') (hb : breaksWith result = false) :
    Takes process (.inner f (.await op g k)) (.answer op a) (turn process g').1
      (.returned (f.answered op a) result g' :: (turn process g').2)

theorem takes_of_step (h : (task process).step s i = some (s', os)) : Takes process s i s' os := by
  cases s with
  | connecting g =>
      cases i with
      | connect accepted =>
          cases accepted with
          | true =>
              obtain ⟨rfl, rfl⟩ := Prod.mk.inj (Option.some.inj h)
              exact .connected g
          | false =>
              obtain ⟨rfl, rfl⟩ := Prod.mk.inj (Option.some.inj h)
              exact .refused g
      | answer op a => contradiction
      | timeout => contradiction
  | inner f left =>
      cases i with
      | connect accepted =>
          cases left <;> contradiction
      | timeout =>
          cases left with
          | done result g => contradiction
          | panicked g => contradiction
          | await op g k =>
              obtain ⟨rfl, rfl⟩ := Prod.mk.inj (Option.some.inj h)
              exact .cancelled f op g k
      | answer op a =>
          have hstep : (left.answer op a).map (resume process (f.answered op a)) = some (s', os) := by
            cases left <;> exact h
          obtain ⟨left', hleft, hresume⟩ := Option.map_eq_some_iff.mp hstep
          obtain ⟨g, k, rfl, rfl⟩ := Resumption.answer_eq_some hleft
          cases hk : k a with
          | await op' g' k' =>
              rw [hk] at hresume
              obtain ⟨rfl, rfl⟩ := Prod.mk.inj hresume
              rw [← hk]
              exact .goesOn f op g k a (by simp [hk])
          | panicked g' =>
              rw [hk] at hresume
              obtain ⟨rfl, rfl⟩ := Prod.mk.inj hresume
              rw [← hk]
              exact .goesOn f op g k a (by simp [hk])
          | done result g' =>
              rw [hk, resume] at hresume
              by_cases hb : breaksWith result = true
              · rw [if_pos hb] at hresume
                obtain ⟨rfl, rfl⟩ := Prod.mk.inj hresume
                exact .breaks f op g k a result g' hk hb
              · rw [if_neg hb] at hresume
                obtain ⟨rfl, rfl⟩ := Prod.mk.inj hresume
                exact .turns f op g k a result g' hk (Bool.eq_false_iff.mpr hb)

end Steps

/-! ## Specifications of flows, along runs -/

section Specs

variable {process : Bridge Unit} {I : Gateway → Trace Ans → Op → Gateway → Prop}
  {Q : Gateway → Trace Ans → Outcome Gateway (Except ModbusError Unit) → Prop}

/-- What is left of the flow meets the specification. -/
def Task.Meets (I : Gateway → Trace Ans → Op → Gateway → Prop)
    (Q : Gateway → Trace Ans → Outcome Gateway (Except ModbusError Unit) → Prop) : Task → Prop
  | .connecting _ => True
  | .inner f left => left.Meets (I f.start) (Q f.start) f.answers

/-- The specification holds where the flow has come to. -/
def TaskOutput.Meets (I : Gateway → Trace Ans → Op → Gateway → Prop)
    (Q : Gateway → Trace Ans → Outcome Gateway (Except ModbusError Unit) → Prop) :
    TaskOutput → Prop
  | .started _ => True
  | .awaits f op g => I f.start f.answers op g
  | .returned f result g => Q f.start f.answers (.returned result g)
  | .panicked f g => Q f.start f.answers (.panicked g)
  | .cancelled f op g => I f.start f.answers op g

theorem meets_report {f : Flow} {left : Resumption Gateway (Except ModbusError Unit) Ans}
    (h : left.Meets (I f.start) (Q f.start) f.answers) : (report f left).Meets I Q := by
  cases left with
  | await op g k => exact h.1
  | done result g => exact h
  | panicked g => exact h

theorem meets_turn (hprocess : ∀ g, Async.Meets (I g) (Q g) process [] g) (g : Gateway) :
    (∀ o ∈ (turn process g).2, o.Meets I Q) ∧ (turn process g).1.Meets I Q := by
  refine ⟨fun o ho => ?_, hprocess g⟩
  rcases List.mem_cons.mp ho with rfl | ho
  · trivial
  · rw [List.mem_singleton.mp ho]
    exact meets_report (f := ⟨g, []⟩) (hprocess g)

/-- **Step lemma**: a step keeps what is left of the flow within its specification,
and reports nothing else. -/
theorem meets_step (hprocess : ∀ g, Async.Meets (I g) (Q g) process [] g) (hs : s.Meets I Q)
    (h : (task process).step s i = some (s', os)) : (∀ o ∈ os, o.Meets I Q) ∧ s'.Meets I Q := by
  cases takes_of_step h with
  | refused g => exact ⟨fun o ho => absurd ho List.not_mem_nil, trivial⟩
  | connected g => exact meets_turn hprocess g.newTcp
  | cancelled f op g k =>
      refine ⟨fun o ho => ?_, trivial⟩
      rw [List.mem_singleton.mp ho]
      exact hs.1
  | goesOn f op g k a hk =>
      refine ⟨fun o ho => ?_, hs.2 a⟩
      rw [List.mem_singleton.mp ho]
      exact meets_report (f := f.answered op a) (hs.2 a)
  | breaks f op g k a result g' hk hb =>
      refine ⟨fun o ho => ?_, trivial⟩
      have hdone := hs.2 a
      rw [hk] at hdone
      rw [List.mem_singleton.mp ho]
      exact hdone
  | turns f op g k a result g' hk hb =>
      obtain ⟨hnext, hstate⟩ := meets_turn hprocess g'
      have hdone := hs.2 a
      rw [hk] at hdone
      refine ⟨fun o ho => ?_, hstate⟩
      rcases List.mem_cons.mp ho with rfl | ho
      · exact hdone
      · exact hnext o ho

/-- **Run lemma**: what holds of every output within the specification holds along
every run. -/
theorem along_outputs {P : TaskOutput → Prop} (hprocess : ∀ g, Async.Meets (I g) (Q g) process [] g)
    (hP : ∀ o, TaskOutput.Meets I Q o → P o) (g : Gateway) (is : List TaskInput) :
    (task process).Along (fun _ _ os _ => ∀ o ∈ os, P o) (.connecting g) is := by
  refine Machine.along_of_invariant (I := Task.Meets I Q) (fun s i s' os hs h => ?_) trivial
  obtain ⟨houtputs, hs'⟩ := meets_step hprocess hs h
  exact ⟨fun o ho => hP o (houtputs o ho), hs'⟩

end Specs

/-! ## Panics -/

theorem BridgeEnd.ne_panicked {g g' : Gateway} {tr : Trace Ans} :
    ¬ BridgeEnd false g tr (.panicked g') := by
  intro h
  cases h
  contradiction

theorem Client.ClientEnd.ne_panicked {g g' : Gateway} {tr : Trace Ans} :
    ¬ Client.ClientEnd g tr (.panicked g') := by
  intro h
  cases h

/-- A flow that no specification lets panic does not, in any run. -/
theorem along_not_panicked {process : Bridge Unit}
    {I : Gateway → Trace Ans → Op → Gateway → Prop}
    {Q : Gateway → Trace Ans → Outcome Gateway (Except ModbusError Unit) → Prop}
    (hprocess : ∀ g, Async.Meets (I g) (Q g) process [] g)
    (hQ : ∀ g tr g', ¬ Q g tr (.panicked g')) (g : Gateway) (is : List TaskInput) :
    (task process).Along (fun _ _ os _ => ∀ o ∈ os, ∀ f g', o ≠ .panicked f g')
      (.connecting g) is := by
  refine along_outputs hprocess (fun o ho f g' heq => ?_) g is
  rw [heq] at ho
  exact hQ f.start f.answers g' ho

/-- **No panics**: without overflow checks, no flow of either mode panics, whatever
the serial line and the socket answer and whenever the timer fires. -/
theorem not_panicked (g : Gateway) (is : List TaskInput) :
    (task (processFlow false)).Along (fun _ _ os _ => ∀ o ∈ os, ∀ f g', o ≠ .panicked f g')
        (.connecting g) is ∧
      (task Client.processFlow).Along (fun _ _ os _ => ∀ o ∈ os, ∀ f g', o ≠ .panicked f g')
        (.connecting g) is :=
  ⟨along_not_panicked (meets_processFlow false) (fun _ _ _ => BridgeEnd.ne_panicked) g is,
    along_not_panicked Client.meets_processFlow (fun _ _ _ => Client.ClientEnd.ne_panicked) g is⟩

end Toucan.Modbus
