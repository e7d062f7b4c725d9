import Mathlib.Algebra.Order.Group.Abs
import Mathlib.Tactic.Abel

/-!
# Toucan.Lib.ClockSync

Two clocks compared by an exchange of messages.  The client notes on its own clock when it
asks and when the answer is there, the server on its own when it is asked and when it
answers.  The four times give the time on the way exactly (`roundtrip_eq`), and the offset
of the clocks up to half of that (`abs_twiceOffset_sub_le`), since they do not tell how it
is shared between the two ways.
-/

namespace Toucan.ClockSync

variable {α : Type*}

/-- The time on the way that the four times give. -/
def roundtrip [Sub α] (t₁ t₂ t₃ t₄ : α) : α := t₄ - t₁ - (t₃ - t₂)

/-- Twice the offset of the server's clock that they give. -/
def twiceOffset [Sub α] [Add α] (t₁ t₂ t₃ t₄ : α) : α := t₂ - t₁ + (t₃ - t₄)

/-- What really happened. -/
structure Exchange (α : Type*) where
  /-- when the client asked, by its clock -/
  asked : α
  /-- how far the server's clock is ahead -/
  offset : α
  there : α
  served : α
  back : α

namespace Exchange

section Times

variable [AddCommGroup α] (x : Exchange α)

def t₁ : α := x.asked

def t₂ : α := x.asked + x.there + x.offset

def t₃ : α := x.asked + x.there + x.served + x.offset

def t₄ : α := x.asked + x.there + x.served + x.back

theorem roundtrip_eq : roundtrip x.t₁ x.t₂ x.t₃ x.t₄ = x.there + x.back := by
  simp only [roundtrip, t₁, t₂, t₃, t₄]
  abel

theorem twiceOffset_eq :
    twiceOffset x.t₁ x.t₂ x.t₃ x.t₄ = x.offset + x.offset + (x.there - x.back) := by
  simp only [twiceOffset, t₁, t₂, t₃, t₄]
  abel

end Times

variable [AddCommGroup α] [LinearOrder α] [IsOrderedAddMonoid α]

/-- **How good the offset is**: the error is at most half of the time on the way. -/
theorem abs_twiceOffset_sub_le (x : Exchange α) (hthere : 0 ≤ x.there) (hback : 0 ≤ x.back) :
    |twiceOffset x.t₁ x.t₂ x.t₃ x.t₄ - (x.offset + x.offset)| ≤ roundtrip x.t₁ x.t₂ x.t₃ x.t₄ := by
  rw [roundtrip_eq, twiceOffset_eq, add_sub_cancel_left, abs_le]
  constructor
  · calc -(x.there + x.back) ≤ -x.back := neg_le_neg (le_add_of_nonneg_left hthere)
      _ ≤ x.there - x.back := by
        rw [neg_eq_zero_sub]
        exact sub_le_sub_right hthere _
  · exact (sub_le_self _ hback).trans (le_add_of_nonneg_right hback)

end Exchange

end Toucan.ClockSync
