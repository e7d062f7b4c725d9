/-!
# Toucan.Lib.Fifo

Bounded first-in first-out channels.  The bound is a field, so a channel that
holds more than its capacity cannot be built; `push` fails on a full channel and
`pop` on an empty one, which is where a sender and a receiver suspend.
-/

namespace Toucan

universe u

/-- A channel with room for `cap` items, the oldest first. -/
structure Fifo (α : Type u) (cap : Nat) where
  items : List α
  length_le : items.length ≤ cap

namespace Fifo

variable {α : Type u} {cap : Nat}

def empty : Fifo α cap := ⟨[], Nat.zero_le cap⟩

/-- No room for another item. -/
def isFull (q : Fifo α cap) : Bool := q.items.length == cap

/-- Put an item behind the others, if there is room. -/
def push (q : Fifo α cap) (a : α) : Option (Fifo α cap) :=
  if h : q.items.length < cap then
    some ⟨q.items ++ [a], by rw [List.length_append]; exact h⟩
  else none

/-- Take the oldest item. -/
def pop (q : Fifo α cap) : Option (α × Fifo α cap) :=
  match q with
  | ⟨[], _⟩ => none
  | ⟨a :: rest, h⟩ => some (a, ⟨rest, Nat.le_of_succ_le h⟩)

theorem isFull_iff (q : Fifo α cap) : q.isFull = true ↔ q.items.length = cap := by
  rw [isFull, beq_iff_eq]

theorem isFull_eq_false_iff (q : Fifo α cap) : q.isFull = false ↔ q.items.length < cap := by
  have hle := q.length_le
  rw [← Bool.not_eq_true, isFull_iff]
  omega

/-- A sender gets through exactly when the channel is not full. -/
theorem push_eq_some {q q' : Fifo α cap} :
    q.push a = some q' ↔ q.isFull = false ∧ q'.items = q.items ++ [a] := by
  rw [isFull_eq_false_iff, push]
  by_cases h : q.items.length < cap
  · rw [dif_pos h]
    obtain ⟨items', h'⟩ := q'
    simp [h, eq_comm]
  · simp [h]

theorem push_eq_none {q : Fifo α cap} : q.push a = none ↔ q.isFull = true := by
  have hle := q.length_le
  rw [isFull_iff, push]
  by_cases h : q.items.length < cap
  · simp [h]
    omega
  · simp [h]
    omega

/-- A receiver gets the head, and the rest stays. -/
theorem pop_eq_some {q q' : Fifo α cap} : q.pop = some (a, q') ↔ q.items = a :: q'.items := by
  obtain ⟨items, h⟩ := q
  obtain ⟨items', h'⟩ := q'
  cases items with
  | nil => simp [pop]
  | cons b rest => simp [pop]

/-- There is room after a receive. -/
theorem isFull_of_pop {q q' : Fifo α cap} (h : q.pop = some (a, q')) : q'.isFull = false := by
  have hitems := pop_eq_some.mp h
  have hle := q.length_le
  rw [hitems, List.length_cons] at hle
  rw [isFull_eq_false_iff]
  omega

/-- A send fills the channel exactly when it takes the last slot. -/
theorem isFull_push {q q' : Fifo α cap} (h : q.push a = some q') :
    q'.isFull = true ↔ q.items.length + 1 = cap := by
  rw [isFull_iff, (push_eq_some.mp h).2, List.length_append, List.length_singleton]

end Fifo

end Toucan
