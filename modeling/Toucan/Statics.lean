import Toucan.BmsStandard

/-!
# Toucan.Statics

The process-wide cells (`statics/mod.rs`) the CAN tasks meet in, and the build
features that change what the tasks do.

The executor is cooperative and every mutex is released before the next await
point, so a `lock().await` never suspends: a task reads and writes these cells
in one go between two of its await points.
-/

namespace Toucan

/-- Build features that change a modelled task. -/
structure Features where
  teslaM3 : Bool
  mqtt : Bool
  v65 : Bool
deriving DecidableEq, Inhabited

/-- Oldest BMS message an inverter loop works with, in whole seconds. -/
def lastReadingTimeoutSecs : Nat := 10

/-- The cells the tasks share, and the clock. -/
structure Statics (F B : Type) where
  now : Nat
  lastBmsMessage : Option Nat
  bms : Bms F B
deriving Inhabited

namespace Statics

/-- `*LAST_BMS_MESSAGE.lock().await = Some(Instant::now())` -/
def touch (st : Statics F B) : Statics F B := { st with lastBmsMessage := some st.now }

@[simp] theorem touch_now (st : Statics F B) : st.touch.now = st.now := rfl
@[simp] theorem touch_lastBmsMessage (st : Statics F B) :
    st.touch.lastBmsMessage = some st.now := rfl

/-- The staleness test of the inverter loops:
`time.elapsed().as_secs() > LAST_READING_TIMEOUT_SECS`. -/
def readingTimedOut (st : Statics F B) (time : Nat) : Bool :=
  lastReadingTimeoutSecs < asSecs (elapsed st.now time)

/-- The test counts whole seconds, so it fires from the eleventh on. -/
theorem readingTimedOut_iff (st : Statics F B) (time : Nat) :
    st.readingTimedOut time = true ↔ time + 11 * tickHz ≤ st.now := by
  unfold readingTimedOut
  rw [decide_eq_true_iff]
  simp only [lastReadingTimeoutSecs, asSecs, elapsed, tickHz]
  omega

theorem not_readingTimedOut_iff (st : Statics F B) (time : Nat) :
    st.readingTimedOut time = false ↔ st.now < time + 11 * tickHz := by
  rw [← Bool.not_eq_true, readingTimedOut_iff]
  omega

/-- The pack was heard, but not recently: `if let Some(time) = …` around the
test, so a pack that was never heard is not stale. -/
def stale (st : Statics F B) : Bool :=
  match st.lastBmsMessage with
  | some time => st.readingTimedOut time
  | none => false

/-- The pack was heard recently. -/
def fresh (st : Statics F B) : Bool :=
  match st.lastBmsMessage with
  | some time => !st.readingTimedOut time
  | none => false

theorem fresh_of_stale {st : Statics F B} (h : st.stale = true) : st.fresh = false := by
  unfold stale at h
  unfold fresh
  cases hl : st.lastBmsMessage with
  | none => rfl
  | some time => simpa [hl] using h

/-- Past the staleness test, the pack is fresh as soon as it was heard at all. -/
theorem fresh_of_not_stale {st : Statics F B} (h : st.stale = false) :
    st.fresh = st.lastBmsMessage.isSome := by
  unfold stale at h
  unfold fresh
  cases hl : st.lastBmsMessage with
  | none => rfl
  | some time => simpa [hl] using h

end Statics

/-- What `GLOBALSTATE` reports about the exchange with the inverter. -/
inductive Fault where
  | invFault
  | bmsFault
  | none
deriving DecidableEq, Inhabited

end Toucan
