import Toucan.Statics

/-!
# Toucan.Tasks.Inverter

What the inverter loops have in common: the effects they have on their
surroundings, and the last command given to `CONTACTOR_STATE`.
-/

namespace Toucan.Inverter

/-- What an inverter loop does: queue a frame for the inverter, command the
contactor, wake the MQTT task, report a fault. -/
inductive Out where
  | send (frame : Frame)
  | contactorState (closed : Bool)
  | sendMqtt
  | setFault (fault : Fault)
deriving DecidableEq

/-- What resumes a loop that waits for inverter frames: a frame from
`INVERTER_CHANNEL_RX`, or its own send. -/
inductive Input where
  | frame (frame : Frame)
  | sent

/-- The last value given to `CONTACTOR_STATE.signal` after the effects `os`. -/
def contactorAfter : Option Bool → List Out → Option Bool
  | last, [] => last
  | _, .contactorState closed :: os => contactorAfter (some closed) os
  | last, _ :: os => contactorAfter last os

@[simp] theorem contactorAfter_nil (last : Option Bool) : contactorAfter last [] = last := rfl

@[simp] theorem contactorAfter_contactorState (last : Option Bool) (closed : Bool)
    (os : List Out) :
    contactorAfter last (.contactorState closed :: os) = contactorAfter (some closed) os := rfl

@[simp] theorem contactorAfter_send (last : Option Bool) (frame : Frame) (os : List Out) :
    contactorAfter last (.send frame :: os) = contactorAfter last os := rfl

@[simp] theorem contactorAfter_sendMqtt (last : Option Bool) (os : List Out) :
    contactorAfter last (.sendMqtt :: os) = contactorAfter last os := rfl

@[simp] theorem contactorAfter_setFault (last : Option Bool) (fault : Fault) (os : List Out) :
    contactorAfter last (.setFault fault :: os) = contactorAfter last os := rfl

@[simp] theorem contactorAfter_append (last : Option Bool) (os ps : List Out) :
    contactorAfter last (os ++ ps) = contactorAfter (contactorAfter last os) ps := by
  induction os generalizing last with
  | nil => rfl
  | cons o os ih => cases o <;> simp [ih]

/-- Without a command among the effects the last one stands. -/
theorem contactorAfter_of_forall_ne (last : Option Bool)
    (h : ∀ closed, Out.contactorState closed ∉ os) : contactorAfter last os = last := by
  induction os generalizing last with
  | nil => rfl
  | cons o os ih =>
      have hos : ∀ closed, Out.contactorState closed ∉ os :=
        fun closed hm => h closed (List.mem_cons_of_mem o hm)
      cases o with
      | contactorState closed => exact absurd List.mem_cons_self (h closed)
      | send frame => simpa using ih last hos
      | sendMqtt => simpa using ih last hos
      | setFault fault => simpa using ih last hos

end Toucan.Inverter
