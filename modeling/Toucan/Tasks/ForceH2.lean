import Toucan.Tasks.Inverter

/-!
# Toucan.Tasks.ForceH2

The Force H2 inverter loop (`can_processors_pylontech_forceh2.rs`): the inverter
polls with extended identifier `0x4210`, the loop answers from the state of the
pack and commands the contactor.

As for the other loops, one step goes from one await point to the next, and the
protocol crate's `parser` is a parameter.
-/

namespace Toucan.ForceH2

open Inverter

/-- `inverter.parser(&bms, frame)`, on a parser state `I` with errors `X`. -/
abbrev Parser (I F B X : Type) := Bms F B → Frame → Method I X (List Frame)

/-- Locals of the loop; `sending` is the frame whose `trans.send` is awaited and
those after it, `none` while the loop waits for a frame. -/
structure State (I : Type) where
  inverter : I
  inverterCommsValid : Bool
  sending : Option (Frame × List Frame)
deriving Inhabited

def State.start (inverter : I) : State I :=
  { inverter, inverterCommsValid := false, sending := none }

/-- Extended identifiers only. -/
def canid (frame : Frame) : Option UInt32 :=
  match frame.id with
  | .standard _ => none
  | .extended id => some id.asRaw

/-- The identifier filter. -/
def wanted (frame : Frame) : Bool := canid frame == some 0x4210

/-- The bottom of the loop body. -/
def endCycle (cfg : Features) (s : State I) : State I × List Out :=
  ({ s with sending := none },
    .contactorState s.inverterCommsValid :: if cfg.mqtt then [.sendMqtt] else [])

/-- Queue the frames of an answer; the cycle ends after the last. -/
def sendFrames (cfg : Features) (s : State I) : List Frame → State I × List Out
  | [] => endCycle cfg s
  | frame :: rest => ({ s with sending := some (frame, rest) }, [])

/-- `match inverter.parser(…)`, up to the first suspension. -/
def handleResponse (cfg : Features) (s : State I) : Except X (List Frame) → State I × List Out
  | .ok iter => sendFrames cfg { s with inverterCommsValid := true } iter
  | .error _ => endCycle cfg s

/-- One pass of the loop body over `frame`, up to the first suspension. -/
def receive (cfg : Features) (parser : Parser I F B X) (st : Statics F B) (s₀ : State I)
    (frame : Frame) : State I × List Out :=
  if !wanted frame then (s₀, [])
  else
    let s := { s₀ with inverterCommsValid := false }
    if st.stale then (s, [.contactorState s.inverterCommsValid])
    else if !st.bms.valid then (s, [])
    else
      let r := parser st.bms frame s.inverter
      handleResponse cfg { s with inverter := r.2 } r.1

/-- `inverter_rx` from one await point to the next. -/
def inverterRx (cfg : Features) (parser : Parser I F B X) (st : Statics F B) (s : State I) :
    Input → Option (State I × List Out)
  | .frame frame =>
    match s.sending with
    | some _ => none
    | none => some (receive cfg parser st s frame)
  | .sent =>
    match s.sending with
    | some (frame, rest) =>
      let r := sendFrames cfg s rest
      some (r.1, .send frame :: r.2)
    | none => none

end Toucan.ForceH2
