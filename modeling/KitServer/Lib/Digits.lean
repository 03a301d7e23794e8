import Mathlib

/-!
# Numbers as bytes: fixed width and base 128

`leBytes n v` is `v` in `n` bytes, least significant byte first, and `leValue` reads such bytes
back.  `varint room v` is `v` in base 128, low digits first, with the top bit of every byte but the
last one set; it is `none` when the digits do not fit in `room` bytes.

* `leValue_leBytes`, `leBytes_leValue`   the two directions of the fixed-width round trip;
* `varint_some`        the digits of every `v < 128 ^ room` fit;
* `varint_step`        one digit of `v`, and the number the other digits stand for;
* `or_shift`           the accumulator step of a decoder.
-/

set_option linter.unusedVariables false

namespace KitServer

/-! ## fixed width -/

def leBytes : Nat → Nat → List UInt8
  | 0, _ => []
  | n + 1, v => UInt8.ofNat v :: leBytes n (v / 256)

def leValue : List UInt8 → Nat
  | [] => 0
  | b :: bs => b.toNat + 256 * leValue bs

@[simp] theorem leBytes_length (n v : Nat) : (leBytes n v).length = n := by
  induction n generalizing v with
  | zero => rfl
  | succ n ih => rw [leBytes, List.length_cons, ih]

theorem leValue_leBytes (n v : Nat) (h : v < 256 ^ n) : leValue (leBytes n v) = v := by
  induction n generalizing v with
  | zero =>
    rw [Nat.pow_zero] at h
    show 0 = v
    omega
  | succ n ih =>
    rw [Nat.pow_succ] at h
    have h1 : (UInt8.ofNat v).toNat = v % 256 := UInt8.toNat_ofNat'
    rw [leBytes, leValue, ih (v / 256) (by omega), h1]
    omega

theorem leValue_lt (bs : List UInt8) : leValue bs < 256 ^ bs.length := by
  induction bs with
  | nil => exact Nat.one_pos
  | cons b bs ih =>
    have hb := b.toNat_lt
    rw [leValue, List.length_cons, Nat.pow_succ]
    omega

theorem leBytes_leValue (bs : List UInt8) : leBytes bs.length (leValue bs) = bs := by
  induction bs with
  | nil => rfl
  | cons b bs ih =>
    have hb := b.toNat_lt
    have h1 : UInt8.ofNat (b.toNat + 256 * leValue bs) = b := by
      apply UInt8.toNat_inj.mp
      rw [UInt8.toNat_ofNat']
      omega
    have h2 : (b.toNat + 256 * leValue bs) / 256 = leValue bs := by omega
    rw [leValue, List.length_cons, leBytes, h1, h2, ih]

/-! ## base 128 -/

def varint : Nat → Nat → Option (List UInt8)
  | 0, _ => none
  | room + 1, v =>
    if v ≥ 0x80 then (varint room (v >>> 7)).map (UInt8.ofNat ((v &&& 0x7F) ||| 0x80) :: ·)
    else some [UInt8.ofNat v]

theorem varint_some (room v : Nat) (h0 : 1 ≤ room) (h : v < 128 ^ room) :
    ∃ bs, varint room v = some bs ∧ bs ≠ [] := by
  induction room generalizing v with
  | zero => omega
  | succ room ih =>
    unfold varint
    by_cases hv : v ≥ 0x80
    · rw [if_pos hv]
      have hs : v >>> 7 = v / 128 := Nat.shiftRight_eq_div_pow v 7
      have hr : 1 ≤ room := by
        by_contra hno
        have e : room = 0 := by omega
        rw [e] at h
        omega
      obtain ⟨bs, hbs, _⟩ := ih (v >>> 7) hr (by rw [hs]; rw [Nat.pow_succ] at h; omega)
      exact ⟨_ :: bs, by rw [hbs]; rfl, List.cons_ne_nil _ _⟩
    · rw [if_neg hv]
      exact ⟨_, rfl, List.cons_ne_nil _ _⟩

theorem toNat_more (v : Nat) : (UInt8.ofNat ((v &&& 0x7F) ||| 0x80)).toNat = v % 128 + 128 := by
  have h1 : v &&& 0x7F = v % 128 := Nat.and_two_pow_sub_one_eq_mod v 7
  have h2 : 128 + v % 128 = 128 ||| v % 128 :=
    Nat.two_pow_add_eq_or_of_lt (show v % 128 < 2 ^ 7 from Nat.mod_lt v (by decide)) 1
  rw [UInt8.toNat_ofNat', h1, Nat.or_comm, ← h2]
  omega

theorem varint_step {room v : Nat} {bs : List UInt8} (h : varint room v = some bs) :
    ∃ b r, bs = b :: r ∧
      ((b.toNat < 128 ∧ r = [] ∧ v = b.toNat) ∨
       (¬ b.toNat < 128 ∧ 1 ≤ v / 128 ∧ v = b.toNat % 128 + 128 * (v / 128) ∧
          ∃ room', varint room' (v / 128) = some r)) := by
  cases room with
  | zero => cases h
  | succ room =>
    unfold varint at h
    by_cases hv : v ≥ 0x80
    · rw [if_pos hv] at h
      obtain ⟨r, hr, rfl⟩ := Option.map_eq_some_iff.mp h
      have hs : v >>> 7 = v / 128 := Nat.shiftRight_eq_div_pow v 7
      rw [hs] at hr
      refine ⟨_, r, rfl, .inr ⟨?_, by omega, ?_, room, hr⟩⟩
      · rw [toNat_more]; omega
      · rw [toNat_more]; omega
    · rw [if_neg hv] at h
      cases h
      have h1 : (UInt8.ofNat v).toNat = v := by
        rw [UInt8.toNat_ofNat']; exact Nat.mod_eq_of_lt (by omega)
      exact ⟨_, [], rfl, .inl ⟨by rw [h1]; omega, rfl, h1.symm⟩⟩

theorem or_shift (acc d i : Nat) (h : acc < 2 ^ i) : acc ||| (d <<< i) = acc + 2 ^ i * d := by
  rw [Nat.shiftLeft_eq, Nat.mul_comm d, Nat.or_comm, ← Nat.two_pow_add_eq_or_of_lt h, Nat.add_comm]

end KitServer
