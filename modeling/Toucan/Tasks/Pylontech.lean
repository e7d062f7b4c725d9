import Toucan.Tasks.Inverter

/-!
# Toucan.Tasks.Pylontech

The PylonTech/BYD/GoodWe inverter loop (`can_processors_pylontech.rs`).  It
listens to nobody: once a second it sends the state of the pack and commands the
contactor.

The loop is modelled from one await point to the next.  The frame that
`try_receive` takes off `INVERTER_CHANNEL_RX` at the top of the loop is only
logged, and left out.  The protocol crate's `iter` is a parameter.
-/

namespace Toucan.Pylontech

open Inverter

/-- `INVERTER_SEND_MS` -/
def inverterSendMs : Nat := 1000

/-- The await the loop is suspended in: its timer, or the send of a frame of the
answer. -/
inductive Await where
  | timer (wake : Nat)
  | sending (frame : Frame) (rest : List Frame)
deriving Inhabited

/-- Locals of the loop. -/
structure State where
  inverterCommsValid : Bool
  await : Await
deriving Inhabited

/-- What resumes the loop: its timer, or its own send. -/
inductive Input where
  | timer
  | sent

/-- The top of the loop. -/
def State.sleep (s : State) (now : Nat) : State :=
  { s with await := .timer (now + fromMillis inverterSendMs) }

def State.start (now : Nat) : State :=
  { inverterCommsValid := false, await := .timer (now + fromMillis inverterSendMs) }

/-- The bottom of the loop body. -/
def endCycle (cfg : Features) (now : Nat) (s : State) : State × List Out :=
  (s.sleep now, .contactorState s.inverterCommsValid :: if cfg.mqtt then [.sendMqtt] else [])

/-- Queue the frames of `iter`; the cycle ends after the last. -/
def sendFrames (cfg : Features) (now : Nat) (s : State) : List Frame → State × List Out
  | [] => endCycle cfg now s
  | frame :: rest => ({ s with await := .sending frame rest }, [])

/-- One pass of the loop body after the timer, up to the next suspension. -/
def cycle (cfg : Features) (iter : Bms F B → List Frame) (st : Statics F B) (s₀ : State) :
    State × List Out :=
  let s := { s₀ with inverterCommsValid := false }
  if st.stale then (s.sleep st.now, [.contactorState s.inverterCommsValid])
  else if !st.bms.valid then (s.sleep st.now, [])
  else sendFrames cfg st.now s (iter st.bms)

/-- `inverter_rx` from one await point to the next. -/
def inverterRx (cfg : Features) (iter : Bms F B → List Frame) (st : Statics F B) (s : State) :
    Input → Option (State × List Out)
  | .timer =>
    match s.await with
    | .timer wake => if wake ≤ st.now then some (cycle cfg iter st s) else none
    | .sending _ _ => none
  | .sent =>
    match s.await with
    | .timer _ => none
    | .sending frame rest =>
      let r := sendFrames cfg st.now s rest
      some (r.1, .send frame :: r.2)

end Toucan.Pylontech
