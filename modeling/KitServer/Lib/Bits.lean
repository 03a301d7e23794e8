import Mathlib

/-!
# Bits of a word: counting them by clearing the lowest, and the word of the low ones

* `countLoop`            `for(; val; ++count) val &= val - 1`;
* `countLoop_eq`         the loop counts the set bits;
* `low`                  the word whose low `k` bits are set;
* `cpop_not_low`         how many bits its complement has.
-/

set_option linter.unusedVariables false

namespace KitServer.Bits

section
variable {w : Nat}

private theorem concat_true_sub_one (x : BitVec w) : x.concat true - 1#(w + 1) = x.concat false := by
  apply BitVec.eq_of_toNat_eq
  have hx := x.isLt
  have hp : 2 ^ (w + 1) = 2 * 2 ^ w := by ring
  rw [BitVec.toNat_sub, BitVec.toNat_concat, BitVec.toNat_concat, BitVec.toNat_ofNat,
    Nat.mod_eq_of_lt (show 1 < 2 ^ (w + 1) from Nat.one_lt_two_pow (by omega))]
  simp only [Bool.toNat_true, Bool.toNat_false]
  have hsum : 2 ^ (w + 1) - 1 + (x.toNat * 2 + 1) = x.toNat * 2 + 2 ^ (w + 1) := by omega
  rw [hsum, Nat.add_mod_right, Nat.mod_eq_of_lt (by omega)]
  rfl

private theorem concat_false_sub_one (x : BitVec w) (hx : x ≠ 0) :
    x.concat false - 1#(w + 1) = (x - 1).concat true := by
  apply BitVec.eq_of_toNat_eq
  have hlt := x.isLt
  have hpos : 0 < x.toNat := Nat.pos_of_ne_zero fun h => hx (BitVec.eq_of_toNat_eq h)
  have hp : 2 ^ (w + 1) = 2 * 2 ^ w := by ring
  have hpred : (x - 1).toNat = x.toNat - 1 := by
    have hw : w ≠ 0 := by
      rintro rfl
      omega
    have hone : (1 : BitVec w).toNat = 1 := by
      rw [BitVec.ofNat_eq_ofNat, BitVec.toNat_ofNat, Nat.mod_eq_of_lt (Nat.one_lt_two_pow hw)]
    rw [BitVec.toNat_sub, hone]
    have hsum : 2 ^ w - 1 + x.toNat = x.toNat - 1 + 2 ^ w := by omega
    rw [hsum, Nat.add_mod_right, Nat.mod_eq_of_lt (by omega)]
  rw [BitVec.toNat_sub, BitVec.toNat_concat, BitVec.toNat_concat, BitVec.toNat_ofNat,
    Nat.mod_eq_of_lt (show 1 < 2 ^ (w + 1) from Nat.one_lt_two_pow (by omega)), hpred]
  simp only [Bool.toNat_true, Bool.toNat_false]
  have hsum : 2 ^ (w + 1) - 1 + (x.toNat * 2 + 0) = (x.toNat - 1) * 2 + 1 + 2 ^ (w + 1) := by
    omega
  rw [hsum, Nat.add_mod_right, Nat.mod_eq_of_lt (by omega)]

theorem cpop_and_sub_one (x : BitVec w) (hx : x ≠ 0) :
    (x &&& (x - 1)).cpop.toNat + 1 = x.cpop.toNat := by
  -- the last bit decides whether the borrow goes on to the bits above it
  induction x using BitVec.concat_induction with
  | nil => exact absurd rfl hx
  | concat x b ih =>
    cases b with
    | true =>
      have hsub : x.concat true - 1 = x.concat false := concat_true_sub_one x
      rw [hsub, BitVec.concat_and_concat, BitVec.and_self, BitVec.toNat_cpop_concat,
        BitVec.toNat_cpop_concat]
      simp only [Bool.and_false, Bool.toNat_false, Bool.toNat_true]
      omega
    | false =>
      have hx' : x ≠ 0 := by
        rintro rfl
        exact hx BitVec.zero_concat_false
      have hsub : x.concat false - 1 = (x - 1).concat true := concat_false_sub_one x hx'
      rw [hsub, BitVec.concat_and_concat, BitVec.toNat_cpop_concat, BitVec.toNat_cpop_concat,
        ← ih hx']
      simp only [Bool.false_and, Bool.toNat_false]
      omega

private theorem and_sub_one_lt (x : BitVec w) (hx : x ≠ 0) :
    (x &&& (x - 1)).cpop.toNat < x.cpop.toNat := by
  have h := cpop_and_sub_one x hx
  omega

/-- `for(; val; ++count) val &= val - 1` -/
def countLoop (val : BitVec w) (count : Nat) : Nat :=
  if h : val = 0 then count else countLoop (val &&& (val - 1)) (count + 1)
termination_by val.cpop.toNat
decreasing_by exact and_sub_one_lt val h

theorem countLoop_eq (val : BitVec w) (count : Nat) :
    countLoop val count = count + val.cpop.toNat := by
  fun_induction countLoop val count with
  | case1 count =>
    have hz : (0 : BitVec w).cpop.toNat = 0 := by
      rw [BitVec.ofNat_eq_ofNat, BitVec.cpop_zero]
      rfl
    rw [hz]
    rfl
  | case2 val count h ih =>
    have hone := cpop_and_sub_one val h
    rw [ih]
    omega

end

section
variable (w : Nat)

/-- the low `k` bits set -/
def low (k : Nat) : BitVec w := BitVec.ofNat w (2 ^ k - 1)

theorem getLsbD_low (k i : Nat) : (low w k).getLsbD i = (decide (i < w) && decide (i < k)) := by
  rw [low, BitVec.getLsbD_ofNat, Nat.testBit_two_pow_sub_one]

theorem getMsbD_low (k i : Nat) (hk : k ≤ w) :
    (low w k).getMsbD i = (decide (i < w) && decide (w - k ≤ i)) := by
  rw [BitVec.getMsbD_eq_getLsbD, getLsbD_low]
  rcases Nat.lt_or_ge i w with hi | hi
  · have hlt : w - 1 - i < w := by omega
    simp only [hi, hlt, decide_true, Bool.true_and]
    exact decide_eq_decide.mpr (by omega)
  · have hge : ¬ i < w := by omega
    simp [hge]

theorem cpop_low (k : Nat) (hk : k ≤ w) : (low w k).cpop.toNat = k := by
  have happ : low w k = (0#(w - k) ++ BitVec.allOnes k).cast (by omega) := by
    apply BitVec.eq_of_getLsbD_eq
    intro i hi
    rw [getLsbD_low, BitVec.getLsbD_cast, BitVec.getLsbD_append, BitVec.getLsbD_allOnes]
    by_cases hik : i < k <;> simp [hik, hi]
  have hk2 : k < 2 ^ k := Nat.lt_two_pow_self
  rw [happ, BitVec.cpop_cast, BitVec.toNat_cast, BitVec.toNat_cpop_append, BitVec.cpop_zero,
    BitVec.cpop_allOnes]
  simp [Nat.mod_eq_of_lt hk2]

theorem cpop_not_low (k : Nat) (hk : k ≤ w) : (~~~ low w k).cpop.toNat = w - k := by
  rw [BitVec.toNat_cpop_not, cpop_low w k hk]

end
end KitServer.Bits
