/-!
# Toucan.Types

What the controller shares with its peripherals: CAN frames as the `bxcan`
crate hands them out, the tick clock of `embassy_time`, and the `f32` operations
the tasks use.
-/

namespace Toucan

/-! ## CAN frames -/

/-- An 11-bit CAN identifier. -/
structure StandardId where
  asRaw : UInt16
  le : asRaw ≤ 0x7FF
deriving DecidableEq

/-- A 29-bit CAN identifier. -/
structure ExtendedId where
  asRaw : UInt32
  le : asRaw ≤ 0x1FFFFFFF
deriving DecidableEq

inductive Id where
  | standard (id : StandardId)
  | extended (id : ExtendedId)
deriving DecidableEq

/-- The payload of a data frame: at most eight bytes. -/
structure Data where
  bytes : List UInt8
  length_le : bytes.length ≤ 8
deriving DecidableEq

/-- Eight zero bytes. -/
def Data.zeros : Data := ⟨List.replicate 8 0, by decide⟩

/-- A CAN frame; a remote frame carries no data. -/
structure Frame where
  id : Id
  data : Option Data
deriving DecidableEq

/-- Slots of every CAN channel (`FRAME_BUFFER`). -/
def frameBuffer : Nat := 10

/-! ## The tick clock -/

/-- Ticks of the `embassy_time` driver in a second (feature `tick-hz-32_768`). -/
def tickHz : Nat := 32768

/- Instants (ticks since boot) and durations (ticks) are plain `Nat`s. -/

/-- `Duration::as_secs`: whole seconds, the fraction is dropped. -/
def asSecs (d : Nat) : Nat := d / tickHz

/-- `Duration::from_millis`: milliseconds in ticks, rounded up. -/
def fromMillis (ms : Nat) : Nat := (ms * tickHz + 999) / 1000

/-- `Instant::elapsed`: the time passed since `time`. -/
def elapsed (now time : Nat) : Nat := now - time

/-! ## Floats -/

/-- The `f32` operations the tasks use. -/
class F32 (F : Type) extends Add F, Sub F, Mul F, Div F, OfScientific F where
  ofU16 : UInt16 → F

instance : F32 Rat where
  ofU16 n := n.toNat

end Toucan
