import Mathlib

/-!
# The zigzag code on `w`-bit words

`zigzag v` is `2 v` for `v ≥ 0` and `2 (-v) - 1` for `v < 0`, with wrap-around arithmetic;
`unzigzag u` is `(u >> 1) ^ -(u & 1)`.

* `unzigzag_zigzag`   decoding gives back every word, the least one included.
-/

set_option linter.unusedVariables false

namespace KitServer
variable {w : Nat}

def zigzag (v : BitVec w) : BitVec w :=
  if v.msb then -v * 2#w - 1#w else v * 2#w

def unzigzag (u : BitVec w) : BitVec w := (u >>> 1) ^^^ -(u &&& 1#w)

theorem toNat_one (hw : 1 < w) : (1#w).toNat = 1 := by
  rw [BitVec.toNat_ofNat, Nat.mod_eq_of_lt (Nat.one_lt_two_pow (by omega))]

theorem toNat_two (hw : 1 < w) : (2#w).toNat = 2 := by
  have h := Nat.pow_lt_pow_right (show 1 < 2 by decide) hw
  rw [BitVec.toNat_ofNat, Nat.mod_eq_of_lt h]

theorem unzigzag_even (hw : 1 < w) (u x : BitVec w) (h : u.toNat = 2 * x.toNat) :
    unzigzag u = x := by
  have h0 : u &&& 1#w = 0#w := by
    apply BitVec.eq_of_toNat_eq
    rw [BitVec.toNat_and, h, toNat_one hw, Nat.and_one_is_mod, BitVec.toNat_zero]
    omega
  have h1 : u >>> 1 = x := by
    apply BitVec.eq_of_toNat_eq
    rw [BitVec.toNat_ushiftRight, h, Nat.shiftRight_eq_div_pow]
    omega
  rw [unzigzag, h0, h1, BitVec.neg_zero, BitVec.xor_zero]

theorem unzigzag_odd (hw : 1 < w) (u x : BitVec w) (h : u.toNat = 2 * (~~~x).toNat + 1) :
    unzigzag u = x := by
  have h0 : u &&& 1#w = 1#w := by
    apply BitVec.eq_of_toNat_eq
    rw [BitVec.toNat_and, h, toNat_one hw, Nat.and_one_is_mod]
    omega
  have h1 : u >>> 1 = ~~~x := by
    apply BitVec.eq_of_toNat_eq
    rw [BitVec.toNat_ushiftRight, h, Nat.shiftRight_eq_div_pow]
    omega
  rw [unzigzag, h0, h1, BitVec.neg_one_eq_allOnes, BitVec.xor_allOnes, BitVec.not_not]

/-- **The zigzag code is undone by its decoder**, for every word. -/
theorem unzigzag_zigzag (hw : 1 < w) (v : BitVec w) : unzigzag (zigzag v) = v := by
  have hlt := v.isLt
  have hp : 2 ^ w = 2 * 2 ^ (w - 1) := by rw [← Nat.pow_succ']; congr 1; omega
  unfold zigzag
  by_cases hm : v.msb = true
  · have hge : 2 ^ (w - 1) ≤ v.toNat := by
      rw [BitVec.msb_eq_decide] at hm
      exact of_decide_eq_true hm
    rw [if_pos hm]
    apply unzigzag_odd hw
    have hneg : (-v).toNat = 2 ^ w - v.toNat := by
      rw [BitVec.toNat_neg]; exact Nat.mod_eq_of_lt (by omega)
    rw [BitVec.toNat_sub, BitVec.toNat_mul, hneg, toNat_two hw, toNat_one hw, BitVec.toNat_not]
    by_cases hmin : v.toNat = 2 ^ (w - 1)
    -- the least word: `-v` is `v` and the doubling wraps to zero
    · have e : (2 ^ w - v.toNat) * 2 = 2 ^ w := by omega
      rw [e, Nat.mod_self, Nat.add_zero, Nat.mod_eq_of_lt (by omega)]
      omega
    · rw [Nat.mod_eq_of_lt (show (2 ^ w - v.toNat) * 2 < 2 ^ w by omega),
        show 2 ^ w - 1 + (2 ^ w - v.toNat) * 2 = 2 ^ w + ((2 ^ w - v.toNat) * 2 - 1) by omega,
        Nat.add_mod_left, Nat.mod_eq_of_lt (by omega)]
      omega
  · have hl : v.toNat < 2 ^ (w - 1) := by
      rw [BitVec.msb_eq_decide] at hm
      simpa using hm
    rw [if_neg hm]
    apply unzigzag_even hw
    rw [BitVec.toNat_mul, toNat_two hw, Nat.mod_eq_of_lt (by omega), Nat.mul_comm]

end KitServer
