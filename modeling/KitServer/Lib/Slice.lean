import Mathlib

/-!
# Slices of a list and writing over a slice

`slice l p n` is the part of `l` at `[p, p + n)`; `overwrite l p bs` is `l` with `bs` written over
that part.  A list cut into blocks of one size `b` is addressed by block number and offset:

* `overwrite_append`   writing `a ++ b` is writing `a`, then `b` behind it;
* `slice_overwrite`, `getElem?_overwrite`   what is read back inside and outside the part;
* `flatten_set_overwrite`, `slice_block`   writing into, reading from block `c` at offset `o` is
                       writing, reading the whole list at `b * c + o`.
-/

set_option linter.unusedSectionVars false

namespace KitServer
section
variable {α : Type}

def slice (l : List α) (p n : Nat) : List α := (l.drop p).take n

def overwrite (l : List α) (p : Nat) (bs : List α) : List α :=
  l.take p ++ bs ++ l.drop (p + bs.length)

theorem slice_length (l : List α) (p n : Nat) (h : p + n ≤ l.length) :
    (slice l p n).length = n := by
  simp only [slice, List.length_take, List.length_drop]
  omega

@[simp] theorem slice_zero (l : List α) (p : Nat) : slice l p 0 = [] := by simp [slice]

theorem slice_add (l : List α) (p m n : Nat) :
    slice l p (m + n) = slice l p m ++ slice l (p + m) n := by
  simp only [slice]
  rw [List.take_add, List.drop_drop]

theorem getElem?_slice (l : List α) (p n i : Nat) (hi : i < n) :
    (slice l p n)[i]? = l[p + i]? := by
  simp [slice, hi]

theorem slice_congr (l l' : List α) (p n : Nat) (h : ∀ i, p ≤ i → i < p + n → l[i]? = l'[i]?) :
    slice l p n = slice l' p n := by
  apply List.ext_getElem?
  intro i
  by_cases hi : i < n
  · rw [getElem?_slice l p n i hi, getElem?_slice l' p n i hi]
    exact h (p + i) (by omega) (by omega)
  · simp [slice, hi]

theorem slice_of_drop {l bs rest : List α} {p : Nat} (h : l.drop p = bs ++ rest) :
    slice l p bs.length = bs := by
  simp [slice, h]

@[simp] theorem overwrite_nil (l : List α) (p : Nat) : overwrite l p [] = l := by
  simp [overwrite]

theorem overwrite_length (l : List α) (p : Nat) (bs : List α) (h : p + bs.length ≤ l.length) :
    (overwrite l p bs).length = l.length := by
  simp only [overwrite, List.length_append, List.length_take, List.length_drop]
  omega

theorem getElem?_overwrite (l : List α) (p : Nat) (bs : List α) (i : Nat)
    (h : p + bs.length ≤ l.length) (hi : i < p ∨ p + bs.length ≤ i) :
    (overwrite l p bs)[i]? = l[i]? := by
  have hp : (l.take p).length = p := by rw [List.length_take]; omega
  unfold overwrite
  rcases hi with hi | hi
  · rw [List.append_assoc, List.getElem?_append_left (by omega), List.getElem?_take_of_lt hi]
  · rw [List.getElem?_append_right (by rw [List.length_append, hp]; exact hi),
      List.length_append, hp, List.getElem?_drop]
    congr 1
    omega

theorem slice_overwrite (l : List α) (p : Nat) (bs : List α) (h : p + bs.length ≤ l.length) :
    slice (overwrite l p bs) p bs.length = bs := by
  have hp : (l.take p).length = p := by rw [List.length_take]; omega
  have hd : (overwrite l p bs).drop p = bs ++ l.drop (p + bs.length) := by
    unfold overwrite
    rw [List.append_assoc, List.drop_append_of_le_length (by omega),
      List.drop_of_length_le (by omega), List.nil_append]
  exact slice_of_drop hd

theorem overwrite_append (l : List α) (p : Nat) (a b : List α) (h : p + a.length ≤ l.length) :
    overwrite l p (a ++ b) = overwrite (overwrite l p a) (p + a.length) b := by
  have hp : (l.take p ++ a).length = p + a.length := by
    rw [List.length_append, List.length_take]; omega
  have h1 : (overwrite l p a).take (p + a.length) = l.take p ++ a := by
    unfold overwrite
    rw [List.take_append_of_le_length (by omega), List.take_of_length_le (by omega)]
  have h2 : (overwrite l p a).drop (p + a.length + b.length)
      = l.drop (p + (a ++ b).length) := by
    unfold overwrite
    rw [List.drop_append, List.drop_of_length_le (by omega), List.nil_append, List.drop_drop, hp,
      List.length_append]
    congr 1
    omega
  show l.take p ++ (a ++ b) ++ l.drop (p + (a ++ b).length)
    = (overwrite l p a).take (p + a.length) ++ b ++ (overwrite l p a).drop (p + a.length + b.length)
  rw [h1, h2, ← List.append_assoc]

/-! ## blocks of one size -/

theorem length_flatten_blocks (b : Nat) (bl : List (List α)) (h : ∀ x ∈ bl, x.length = b) :
    bl.flatten.length = b * bl.length := by
  induction bl with
  | nil => simp
  | cons x bl ih =>
    rw [List.flatten_cons, List.length_append, ih (fun y hy => h y (List.mem_cons_of_mem _ hy)),
      h x List.mem_cons_self, List.length_cons, Nat.mul_succ]
    omega

theorem drop_flatten_blocks (b : Nat) (bl : List (List α)) (h : ∀ x ∈ bl, x.length = b) (c : Nat) :
    bl.flatten.drop (b * c) = (bl.drop c).flatten := by
  induction c generalizing bl with
  | zero => simp
  | succ c ih =>
    cases bl with
    | nil => simp
    | cons x bl =>
      have hx : x.length = b := h x List.mem_cons_self
      rw [List.flatten_cons, List.drop_succ_cons, Nat.mul_succ, Nat.add_comm, ← List.drop_drop,
        ← hx, List.drop_left, hx]
      exact ih bl (fun y hy => h y (List.mem_cons_of_mem _ hy))

theorem take_flatten_blocks (b : Nat) (bl : List (List α)) (h : ∀ x ∈ bl, x.length = b) (c : Nat) :
    bl.flatten.take (b * c) = (bl.take c).flatten := by
  induction c generalizing bl with
  | zero => simp
  | succ c ih =>
    cases bl with
    | nil => simp
    | cons x bl =>
      have hx : x.length = b := h x List.mem_cons_self
      rw [List.flatten_cons, List.take_succ_cons, List.flatten_cons, Nat.mul_succ, Nat.add_comm,
        List.take_append, hx, List.take_of_length_le (by omega), Nat.add_sub_cancel_left]
      rw [ih bl (fun y hy => h y (List.mem_cons_of_mem _ hy))]

theorem flatten_split (b : Nat) (bl : List (List α)) (h : ∀ x ∈ bl, x.length = b) (c : Nat)
    (hc : c < bl.length) :
    bl.flatten = bl.flatten.take (b * c) ++ bl[c] ++ bl.flatten.drop (b * (c + 1)) := by
  rw [take_flatten_blocks b bl h, drop_flatten_blocks b bl h]
  have hbl := List.take_append_drop c bl
  rw [List.drop_eq_getElem_cons hc] at hbl
  conv_lhs => rw [← hbl]
  simp only [List.flatten_append, List.flatten_cons, List.append_assoc]

theorem slice_block (b : Nat) (bl : List (List α)) (h : ∀ x ∈ bl, x.length = b) (c o n : Nat)
    (hc : c < bl.length) (hn : o + n ≤ b) :
    slice bl[c] o n = slice bl.flatten (b * c + o) n := by
  have hx : bl[c].length = b := h _ (List.getElem_mem hc)
  unfold slice
  rw [← List.drop_drop, drop_flatten_blocks b bl h, List.drop_eq_getElem_cons hc, List.flatten_cons,
    List.drop_append_of_le_length (by omega), List.take_append_of_le_length]
  rw [List.length_drop]
  omega

theorem flatten_set_overwrite (b : Nat) (bl : List (List α)) (h : ∀ x ∈ bl, x.length = b)
    (c o : Nat) (bs : List α) (hc : c < bl.length) (ho : o + bs.length ≤ b) :
    (bl.set c (overwrite bl[c] o bs)).flatten = overwrite bl.flatten (b * c + o) bs := by
  have hx : bl[c].length = b := h _ (List.getElem_mem hc)
  have hlen : (bl.flatten.take (b * c)).length = b * c := by
    rw [take_flatten_blocks b bl h, length_flatten_blocks b _ (fun x hx => h x (List.mem_of_mem_take hx)),
      List.length_take]
    congr 1
    omega
  have hset : (bl.set c (overwrite bl[c] o bs)).flatten
      = bl.flatten.take (b * c) ++ overwrite bl[c] o bs ++ bl.flatten.drop (b * (c + 1)) := by
    rw [take_flatten_blocks b bl h, drop_flatten_blocks b bl h, List.set_eq_take_append_cons_drop,
      if_pos hc]
    simp
  rw [hset]
  have hsplit := flatten_split b bl h c hc
  generalize bl.flatten.take (b * c) = pre at hlen hsplit ⊢
  generalize bl.flatten.drop (b * (c + 1)) = post at hsplit ⊢
  generalize bl[c] = x at hx hsplit ⊢
  rw [List.append_assoc] at hsplit
  rw [hsplit]
  unfold overwrite
  have ht : (pre ++ (x ++ post)).take (b * c + o) = pre ++ x.take o := by
    rw [List.take_append, List.take_of_length_le (by omega), hlen, Nat.add_sub_cancel_left,
      List.take_append_of_le_length (by omega)]
  have hd : (pre ++ (x ++ post)).drop (b * c + o + bs.length) = x.drop (o + bs.length) ++ post := by
    rw [List.drop_append, List.drop_of_length_le (by omega), List.nil_append, hlen,
      List.drop_append_of_le_length (by omega)]
    congr 2
    omega
  rw [ht, hd]
  simp only [List.append_assoc]

end
end KitServer
