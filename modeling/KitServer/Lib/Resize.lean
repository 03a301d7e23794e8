import Mathlib

/-!
# `std::vector::resize` on a list

* `getElem?_resize`    what stands at an index behind `resize`;
* `toInt_le`           a size converted to `int` is never more than the size.
-/

set_option linter.unusedVariables false

namespace KitServer
variable {α : Type}

/-- `resize(n, x)` -/
def resize (n : Nat) (x : α) (l : List α) : List α := l.take n ++ List.replicate (n - l.length) x

/-- the conversion of a `size_t` to `int` -/
def toInt (n : Nat) : Int :=
  let m : Nat := n % 2 ^ 32
  if m < 2 ^ 31 then m else (m : Int) - 2 ^ 32

/-- the conversion of `fd * 1.5` to `size_t`: all products are exact as `double` -/
def timesOneAndHalf (fd : Nat) : Nat := fd * 3 / 2

theorem length_resize (n : Nat) (x : α) (l : List α) : (resize n x l).length = n := by
  rw [resize, List.length_append, List.length_take, List.length_replicate]
  omega

theorem getElem?_resize (n : Nat) (x : α) (l : List α) (i : Nat) :
    (resize n x l)[i]? = if i < n then some (l[i]?.getD x) else none := by
  by_cases hi : i < n
  · rw [if_pos hi, resize]
    by_cases hl : i < l.length
    · rw [List.getElem?_append_left (by rw [List.length_take]; omega), List.getElem?_take_of_lt hi,
        List.getElem?_eq_getElem hl]
      rfl
    · rw [List.getElem?_append_right (by rw [List.length_take]; omega),
        List.getElem?_eq_none (show l.length ≤ i by omega), List.getElem?_replicate, List.length_take,
        if_pos (by omega)]
      rfl
  · rw [if_neg hi, List.getElem?_eq_none]
    rw [length_resize]
    omega

theorem getElem?_resize_of_le {n : Nat} (x : α) {l : List α} (h : l.length ≤ n) {i : Nat} {y : α}
    (hi : l[i]? = some y) : (resize n x l)[i]? = some y := by
  obtain ⟨hlt, _⟩ := List.getElem?_eq_some_iff.mp hi
  rw [getElem?_resize, if_pos (by omega), hi]
  rfl

theorem toInt_le (n : Nat) : toInt n ≤ n := by
  have hmod := Nat.mod_le n (2 ^ 32)
  unfold toInt
  dsimp only
  split <;> omega

end KitServer
