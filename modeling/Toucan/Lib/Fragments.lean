/-!
# Toucan.Lib.Fragments

A stream that is read in fragments.  A read gets at least one element and never more
than it asks for; how many of the others it gets is up to the environment, which is a
function `cut` of the number of reads so far.

`beforeLast` is for a reader that asks for all it still lacks of `n` elements, until it
has them.
-/

namespace Toucan.Fragments

variable {cut : Nat → Nat} {reads n : Nat}

/-- What a read of at most `n` elements gets. -/
def size (cut : Nat → Nat) (reads n : Nat) : Nat := min (max 1 (cut reads)) n

theorem size_le : size cut reads n ≤ n := Nat.min_le_right _ _

theorem size_pos (h : 0 < n) : 0 < size cut reads n := by
  rw [size]
  omega

@[simp] theorem size_one : size cut reads 1 = 1 := by
  rw [size]
  omega

/-- How many of `n` elements are there before the read that gets the last of them. -/
def beforeLast (cut : Nat → Nat) (reads n : Nat) : Nat :=
  if size cut reads n = n then 0
  else size cut reads n + beforeLast cut (reads + 1) (n - size cut reads n)
termination_by n
decreasing_by
  simp only [size] at *
  omega

theorem beforeLast_of_eq (h : size cut reads n = n) : beforeLast cut reads n = 0 := by
  rw [beforeLast, if_pos h]

theorem beforeLast_of_ne (h : size cut reads n ≠ n) : beforeLast cut reads n =
    size cut reads n + beforeLast cut (reads + 1) (n - size cut reads n) := by
  rw [beforeLast, if_neg h]

theorem beforeLast_lt (h : 0 < n) : beforeLast cut reads n < n := by
  induction n using Nat.strongRecOn generalizing reads with
  | ind n ih =>
      by_cases hall : size cut reads n = n
      · rw [beforeLast_of_eq hall]
        exact h
      · have hpos : 0 < size cut reads n := size_pos h
        have hle : size cut reads n ≤ n := size_le
        have hrest : beforeLast cut (reads + 1) (n - size cut reads n) < n - size cut reads n :=
          ih _ (by omega) (by omega)
        rw [beforeLast_of_ne hall]
        omega

end Toucan.Fragments
