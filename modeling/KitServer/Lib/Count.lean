import Mathlib

/-!
# How many of the first `n` values have a property

* `count_update`        what a change of one value does to the number;
* `count_pos_of_lt`     one value that has it;
* `sum_update`          what a change of one value does to a sum over the values.
-/

set_option linter.unusedVariables false

namespace KitServer
variable {A : Type} {P : A → Bool} {f : Nat → A} {i n : Nat}

theorem count_update_of_le (h : n ≤ i) (x : A) :
    Nat.count (fun j => P (Function.update f i x j) = true) n
      = Nat.count (fun j => P (f j) = true) n := by
  induction n with
  | zero => rfl
  | succ n ih =>
    rw [Nat.count_succ, Nat.count_succ, ih (by omega), Function.update_of_ne (by omega)]

theorem count_update (h : i < n) (x : A) :
    Nat.count (fun j => P (Function.update f i x j) = true) n + (P (f i)).toNat
      = Nat.count (fun j => P (f j) = true) n + (P x).toNat := by
  have hone : ∀ b : Bool, (if b = true then 1 else 0) = b.toNat := by
    intro b
    cases b <;> rfl
  induction n with
  | zero => omega
  | succ n ih =>
    rw [Nat.count_succ, Nat.count_succ]
    by_cases hin : i = n
    · subst hin
      rw [count_update_of_le (Nat.le_refl i), Function.update_self, hone, hone]
      omega
    · have hstep := ih (by omega)
      rw [Function.update_of_ne (show n ≠ i by omega)]
      omega

theorem count_pos_of_lt (h : i < n) (hi : P (f i) = true) :
    0 < Nat.count (fun j => P (f j) = true) n := by
  refine Nat.pos_of_ne_zero fun h0 => ?_
  exact (Nat.count_iff_forall_not.mp h0) i h hi

theorem sum_update (w : A → Nat) (h : i < n) (x : A) :
    ∑ j ∈ Finset.range n, w (Function.update f i x j) + w (f i)
      = ∑ j ∈ Finset.range n, w (f j) + w x := by
  have hi : i ∈ Finset.range n := Finset.mem_range.mpr h
  rw [← Finset.sum_erase_add _ _ hi, ← Finset.sum_erase_add _ (fun j => w (f j)) hi,
    Function.update_self]
  have hrest : ∑ j ∈ (Finset.range n).erase i, w (Function.update f i x j)
      = ∑ j ∈ (Finset.range n).erase i, w (f j) := by
    refine Finset.sum_congr rfl fun j hj => ?_
    rw [Function.update_of_ne (Finset.ne_of_mem_erase hj)]
  omega

theorem le_sum_range (w : A → Nat) (h : i < n) : w (f i) ≤ ∑ j ∈ Finset.range n, w (f j) :=
  Finset.single_le_sum (f := fun j => w (f j)) (fun _ _ => Nat.zero_le _) (Finset.mem_range.mpr h)

end KitServer
