/-!
# Toucan.Lib.Netmask

Contiguous masks over addresses of any width, and the prefix length that one stands for.
-/

namespace Toucan.Netmask

/-- The mask of a prefix length: the ones first. -/
def netmask (w p : Nat) : BitVec w := BitVec.allOnes w <<< (w - p)

def IsNetmask (mask : BitVec w) : Prop := ∃ p, p ≤ w ∧ mask = netmask w p

/-- How many ones a word begins with. -/
def leadingOnes (x : BitVec w) : Nat := ((List.range w).takeWhile x.getMsbD).length

theorem getMsbD_netmask (h : p ≤ w) : (netmask w p).getMsbD i = decide (i < p) := by
  rw [netmask, BitVec.getMsbD_shiftLeft, BitVec.getMsbD_allOnes, Bool.eq_iff_iff]
  simp only [decide_eq_true_eq]
  omega

@[simp] theorem leadingOnes_netmask (h : p ≤ w) : leadingOnes (netmask w p) = p := by
  have hsplit : List.range w = List.range p ++ (List.range (w - p)).map (p + ·) := by
    rw [← List.range_add, Nat.add_sub_cancel' h]
  rw [leadingOnes, hsplit, List.takeWhile_append_of_pos]
  · cases hrest : w - p with
    | zero => simp
    | succ k => simp [List.range_succ_eq_map, getMsbD_netmask h]
  · intro i hi
    simpa [getMsbD_netmask h] using hi

/-- A mask is known by its length. -/
theorem leadingOnes_eq_iff {mask : BitVec w} (h : IsNetmask mask) (hp : p ≤ w) :
    leadingOnes mask = p ↔ mask = netmask w p := by
  obtain ⟨q, hq, rfl⟩ := h
  rw [leadingOnes_netmask hq]
  constructor
  · rintro rfl
    rfl
  · intro heq
    have hlen := congrArg leadingOnes heq
    rwa [leadingOnes_netmask hq, leadingOnes_netmask hp] at hlen

end Toucan.Netmask
