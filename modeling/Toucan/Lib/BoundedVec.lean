/-!
# Toucan.Lib.BoundedVec

Vectors of bounded length, as `heapless::Vec` has them: the capacity is part of
the type and the bound a field, so a vector that exceeds it cannot be built.
What does not fit is refused -- `push` and `extendFromSlice` then leave the
vector alone -- except by `extend`, which panics.
-/

namespace Toucan

universe u

/-- A vector of at most `cap` elements. -/
structure BoundedVec (α : Type u) (cap : Nat) where
  toList : List α
  length_le : toList.length ≤ cap
deriving DecidableEq

namespace BoundedVec

variable {α : Type u} {cap : Nat}

def empty : BoundedVec α cap := ⟨[], Nat.zero_le cap⟩

@[simp] theorem toList_empty : (empty : BoundedVec α cap).toList = [] := rfl

@[ext] theorem ext {v w : BoundedVec α cap} (h : v.toList = w.toList) : v = w := by
  cases v
  cases w
  cases h
  rfl

/-- All of the slice, or none of it. -/
def extendFromSlice (v : BoundedVec α cap) (s : List α) : Option (BoundedVec α cap) :=
  if h : (v.toList ++ s).length ≤ cap then some ⟨v.toList ++ s, h⟩ else none

/-- One element more, if there is room. -/
def push (v : BoundedVec α cap) (a : α) : Option (BoundedVec α cap) := v.extendFromSlice [a]

/-- One element after the other; `none` is the panic on the first without room. -/
def extend (v : BoundedVec α cap) : List α → Option (BoundedVec α cap)
  | [] => some v
  | a :: s =>
    match v.push a with
    | some v' => v'.extend s
    | none => none

theorem extendFromSlice_eq_some {v v' : BoundedVec α cap} {s : List α} :
    v.extendFromSlice s = some v' ↔ v'.toList = v.toList ++ s := by
  unfold extendFromSlice
  by_cases h : (v.toList ++ s).length ≤ cap
  · rw [dif_pos h, Option.some.injEq, BoundedVec.ext_iff, eq_comm]
  · rw [dif_neg h]
    have hle := v'.length_le
    constructor
    · intro h'
      contradiction
    · intro h'
      rw [h'] at hle
      contradiction

theorem extendFromSlice_isSome_iff {v : BoundedVec α cap} {s : List α} :
    (v.extendFromSlice s).isSome = true ↔ v.toList.length + s.length ≤ cap := by
  rw [← List.length_append, extendFromSlice]
  by_cases h : (v.toList ++ s).length ≤ cap
  · rw [dif_pos h]
    simpa using h
  · rw [dif_neg h]
    simpa using h

/-- What fits is appended. -/
theorem exists_extendFromSlice {v : BoundedVec α cap} {s : List α}
    (h : v.toList.length + s.length ≤ cap) :
    ∃ v', v.extendFromSlice s = some v' ∧ v'.toList = v.toList ++ s := by
  obtain ⟨v', hv'⟩ := Option.isSome_iff_exists.mp (extendFromSlice_isSome_iff.mpr h)
  exact ⟨v', hv', extendFromSlice_eq_some.mp hv'⟩

theorem exists_push {v : BoundedVec α cap} (a : α) (h : v.toList.length < cap) :
    ∃ v', v.push a = some v' ∧ v'.toList = v.toList ++ [a] :=
  exists_extendFromSlice h

/-- `extend` panics exactly where `extendFromSlice` would refuse. -/
theorem extend_eq_extendFromSlice (v : BoundedVec α cap) (s : List α) :
    v.extend s = v.extendFromSlice s := by
  induction s generalizing v with
  | nil =>
      have hs : v.extendFromSlice [] = some v := extendFromSlice_eq_some.mpr (by simp)
      rw [hs]
      rfl
  | cons a s ih =>
      rw [extend]
      cases hp : v.push a with
      | some v' =>
          have hv' : v'.toList = v.toList ++ [a] := extendFromSlice_eq_some.mp hp
          show v'.extend s = v.extendFromSlice (a :: s)
          rw [ih v']
          unfold extendFromSlice
          simp [hv']
      | none =>
          have hfull : ¬ v.toList.length + [a].length ≤ cap := by
            rw [← extendFromSlice_isSome_iff]
            show ¬ (v.push a).isSome = true
            simp [hp]
          show none = v.extendFromSlice (a :: s)
          cases hs : v.extendFromSlice (a :: s) with
          | none => rfl
          | some v' =>
              have hle := v'.length_le
              rw [extendFromSlice_eq_some.mp hs, List.length_append, List.length_cons] at hle
              simp only [List.length_singleton] at hfull
              omega

theorem exists_extend {v : BoundedVec α cap} {s : List α} (h : v.toList.length + s.length ≤ cap) :
    ∃ v', v.extend s = some v' ∧ v'.toList = v.toList ++ s := by
  rw [extend_eq_extendFromSlice]
  exact exists_extendFromSlice h

/-- A push that drops what does not fit. -/
theorem toList_push_getD (v : BoundedVec α cap) (a : α) :
    ((v.push a).getD v).toList = if v.toList.length < cap then v.toList ++ [a] else v.toList := by
  by_cases hroom : v.toList.length < cap
  · obtain ⟨v', hpush, hlist⟩ := exists_push a hroom
    rw [hpush, if_pos hroom]
    exact hlist
  · have hfull : v.push a = none := by
      rw [← Option.not_isSome_iff_eq_none, push, extendFromSlice_isSome_iff, List.length_singleton]
      omega
    rw [hfull, if_neg hroom]
    rfl

/-- As many as there is room for are kept. -/
theorem toList_foldl_push (v : BoundedVec α cap) (s : List α) :
    (s.foldl (fun v a => (v.push a).getD v) v).toList = v.toList ++ s.take (cap - v.toList.length) := by
  induction s generalizing v with
  | nil => simp
  | cons a s ih =>
      rw [List.foldl_cons, ih, toList_push_getD]
      by_cases hroom : v.toList.length < cap
      · obtain ⟨k, hk⟩ : ∃ k, cap - v.toList.length = k + 1 :=
          ⟨cap - v.toList.length - 1, by omega⟩
        have hk' : cap - (v.toList ++ [a]).length = k := by
          rw [List.length_append, List.length_singleton]
          omega
        rw [if_pos hroom, hk', hk, List.take_succ_cons, List.append_assoc, List.singleton_append]
      · have hzero : cap - v.toList.length = 0 := by omega
        rw [if_neg hroom, hzero, List.take_zero, List.take_zero]

end BoundedVec

end Toucan
