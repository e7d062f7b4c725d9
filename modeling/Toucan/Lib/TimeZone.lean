/-!
# Toucan.Lib.TimeZone

Dates and times as the seconds since 1970-01-01T00:00:00, and the zones of the tz database:
an offset from UTC that changes at certain instants.

Where the clocks are put back a local time is shown twice, and where they are put forward
some are never shown.  `single` is the instant of a local time when there is just one
(`single_eq_some_iff`).
-/

namespace Toucan.TimeZone

/-! ## Dates and times -/

/-- The first second of the year -262143 and the last of 262142. -/
def minTimestamp : Int := -8334601228800

def maxTimestamp : Int := 8210266876799

/-- A date and a time of day, of whatever zone. -/
structure NaiveDateTime where
  timestamp : Int
  nanos : Nat
  minTimestamp_le : minTimestamp ≤ timestamp
  le_maxTimestamp : timestamp ≤ maxTimestamp
  nanos_lt : nanos < 1000000000
deriving DecidableEq

namespace NaiveDateTime

/-- `from_timestamp_opt` with no nanoseconds. -/
def fromTimestampOpt (secs : Int) : Option NaiveDateTime :=
  if h : minTimestamp ≤ secs ∧ secs ≤ maxTimestamp then
    some ⟨secs, 0, h.1, h.2, by decide⟩
  else
    none

def timestampSubsecMicros (d : NaiveDateTime) : Nat := d.nanos / 1000

/-- The microseconds since 1970. -/
def timestampMicros (d : NaiveDateTime) : Int := d.timestamp * 1000000 + d.timestampSubsecMicros

theorem exists_fromTimestampOpt (h : minTimestamp ≤ secs) (h' : secs ≤ maxTimestamp) :
    ∃ d, fromTimestampOpt secs = some d ∧ d.timestamp = secs := by
  simp [fromTimestampOpt, h, h']

end NaiveDateTime

/-! ## Zones -/

/-- The offset before the first transition, and each later one with its beginning. -/
structure Zone where
  first : Int
  transitions : List (Int × Int)
  sorted : transitions.Pairwise (·.1 < ·.1)

namespace Zone

/-- The offset in force at an instant: that of the last transition so far. -/
def offset (z : Zone) (u : Int) : Int :=
  z.transitions.foldl (fun o t => if t.1 ≤ u then t.2 else o) z.first

/-- All offsets that are ever in force. -/
def offsets (z : Zone) : List Int := z.first :: z.transitions.map Prod.snd

theorem offset_mem (z : Zone) (u : Int) : z.offset u ∈ z.offsets := by
  have hfold : ∀ (ts : List (Int × Int)) (o : Int),
      ts.foldl (fun o t => if t.1 ≤ u then t.2 else o) o ∈ o :: ts.map Prod.snd := by
    intro ts
    induction ts with
    | nil => simp
    | cons t ts ih =>
        intro o
        have hrest := ih (if t.1 ≤ u then t.2 else o)
        grind
  exact hfold z.transitions z.first

/-- The instants at which a local time is shown. -/
def instants (z : Zone) (time : Int) : List Int :=
  (z.offsets.map fun o => time - o).filter fun u => u + z.offset u == time

theorem mem_instants {z : Zone} : u ∈ z.instants time ↔ u + z.offset u = time := by
  simp only [instants, List.mem_filter, List.mem_map, beq_iff_eq, and_iff_right_iff_imp]
  intro hu
  exact ⟨z.offset u, z.offset_mem u, by omega⟩

/-- The instant of a local time that is shown once. -/
def single (z : Zone) (time : Int) : Option Int :=
  match z.instants time with
  | [] => none
  | u :: us => if us.all (· == u) then some u else none

theorem single_eq_some_iff {z : Zone} :
    z.single time = some u ↔ u + z.offset u = time ∧ ∀ v, v + z.offset v = time → v = u := by
  simp only [← mem_instants, single]
  cases z.instants time with
  | nil => simp
  | cons v vs =>
      simp only [List.mem_cons, Option.ite_none_right_eq_some, List.all_eq_true, beq_iff_eq,
        Option.some.injEq]
      constructor
      · rintro ⟨hall, rfl⟩
        exact ⟨Or.inl rfl, fun w hw => hw.elim id (hall w)⟩
      · rintro ⟨-, hu⟩
        have hv : v = u := hu v (Or.inl rfl)
        exact ⟨fun w hw => (hu w (Or.inr hw)).trans hv.symm, hv⟩

end Zone

end Toucan.TimeZone
