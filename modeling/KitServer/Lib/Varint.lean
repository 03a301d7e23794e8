import KitServer.Lib.Digits

/-!
# Base-128 codes of numbers

`Codes bs v`: the byte string `bs` is a code of `v` in base 128, low digits first, where every byte
but the last one has its top bit set.  A number has many codes, since zeros may follow; `varint` is
the shortest.  `unvarint n` reads a code of at most `n` bytes off the front of arbitrary bytes; it
stops behind `n` bytes whatever they are.

* `varint_codes`, `varint_shortest`   the encoder;
* `unvarint_codes`       a code, and whatever follows it;
* `unvarint_eq_none`     the bytes that end inside of a code;
* `unvarint_split`       what is read is a part at the front.
-/

set_option linter.unusedVariables false

namespace KitServer

/-! ## codes -/

inductive Codes : List UInt8 → Nat → Prop where
  | last {b : UInt8} : b.toNat < 128 → Codes [b] b.toNat
  | more {b : UInt8} {bs : List UInt8} {v : Nat} : 128 ≤ b.toNat → Codes bs v →
    Codes (b :: bs) (b.toNat % 128 + 128 * v)

theorem varint_codes {room v : Nat} {bs : List UInt8} (h : varint room v = some bs) :
    Codes bs v := by
  induction bs generalizing room v with
  | nil =>
    obtain ⟨b, r, hnil, _⟩ := varint_step h
    cases hnil
  | cons c cs ih =>
    obtain ⟨b, r, hcons, hstep⟩ := varint_step h
    obtain ⟨rfl, rfl⟩ := List.cons.inj hcons
    rcases hstep with ⟨hlast, rfl, rfl⟩ | ⟨hmore, _, hv, room', hr⟩
    · exact .last hlast
    · rw [hv]
      exact .more (Nat.not_lt.mp hmore) (ih hr)

/-- **No code is shorter.** -/
theorem varint_shortest {room v : Nat} {bs other : List UInt8} (h : varint room v = some bs)
    (ho : Codes other v) : bs.length ≤ other.length := by
  induction ho generalizing room bs with
  | @last c hc =>
    obtain ⟨b, r, rfl, hstep⟩ := varint_step h
    rcases hstep with ⟨_, rfl, _⟩ | ⟨_, hbig, _⟩
    · exact Nat.le_refl _
    · omega
  | @more c cs w hc _ ih =>
    obtain ⟨b, r, rfl, hstep⟩ := varint_step h
    rcases hstep with ⟨_, rfl, _⟩ | ⟨_, _, _, room', hr⟩
    · exact Nat.succ_le_succ (Nat.zero_le _)
    · have hw : (c.toNat % 128 + 128 * w) / 128 = w := by omega
      rw [hw] at hr
      exact Nat.succ_le_succ (ih hr)

theorem varint_length {room v : Nat} {bs : List UInt8} (h : varint room v = some bs) :
    bs.length ≤ room := by
  induction room generalizing v bs with
  | zero => cases h
  | succ room ih =>
    unfold varint at h
    split at h
    · obtain ⟨r, hr, rfl⟩ := Option.map_eq_some_iff.mp h
      exact Nat.succ_le_succ (ih hr)
    · cases h
      exact Nat.succ_le_succ (Nat.zero_le _)

/-! ## reading a code off the front -/

/-- the number, and what is behind its code; `none` when the bytes end inside of the code -/
def unvarint : Nat → List UInt8 → Option (Nat × List UInt8)
  | 0, bs => some (0, bs)
  | _ + 1, [] => none
  | n + 1, b :: bs =>
    if b.toNat < 128 then some (b.toNat, bs)
    else (unvarint n bs).map fun x => (b.toNat % 128 + 128 * x.1, x.2)

theorem unvarint_codes {bs : List UInt8} {v : Nat} (h : Codes bs v) (n : Nat)
    (hn : bs.length ≤ n) (rest : List UInt8) : unvarint n (bs ++ rest) = some (v, rest) := by
  induction h generalizing n with
  | @last b hb =>
    obtain ⟨n, rfl⟩ : ∃ m, n = m + 1 := ⟨n - 1, by rw [List.length_singleton] at hn; omega⟩
    rw [List.singleton_append, unvarint, if_pos hb]
  | @more b bs v hb _ ih =>
    rw [List.length_cons] at hn
    obtain ⟨n, rfl⟩ : ∃ m, n = m + 1 := ⟨n - 1, by omega⟩
    rw [List.cons_append, unvarint, if_neg (by omega), ih n (by omega)]
    rfl

/-- **The bytes end inside of a code.** -/
theorem unvarint_eq_none (n : Nat) (bs : List UInt8) :
    unvarint n bs = none ↔ bs.length < n ∧ ∀ b ∈ bs, 128 ≤ b.toNat := by
  induction n generalizing bs with
  | zero => exact iff_of_false (fun h => by cases h) (fun h => Nat.not_lt_zero _ h.1)
  | succ n ih =>
    cases bs with
    | nil => exact iff_of_true rfl ⟨Nat.succ_pos n, fun b hb => absurd hb List.not_mem_nil⟩
    | cons b bs =>
      rw [unvarint, List.length_cons, List.forall_mem_cons]
      by_cases hb : b.toNat < 128
      · rw [if_pos hb]
        exact iff_of_false (fun h => by cases h) (fun h => by omega)
      · rw [if_neg hb, Option.map_eq_none_iff, ih]
        constructor
        · rintro ⟨hlen, hall⟩
          exact ⟨by omega, by omega, hall⟩
        · rintro ⟨hlen, _, hall⟩
          exact ⟨by omega, hall⟩

theorem unvarint_split {n : Nat} {bs : List UInt8} {x : Nat × List UInt8}
    (h : unvarint n bs = some x) : ∃ code, bs = code ++ x.2 ∧ code.length ≤ n := by
  induction n generalizing bs x with
  | zero =>
    cases h
    exact ⟨[], rfl, Nat.le_refl _⟩
  | succ n ih =>
    cases bs with
    | nil => cases h
    | cons b bs =>
      rw [unvarint] at h
      split at h
      · cases h
        exact ⟨[b], rfl, Nat.succ_le_succ (Nat.zero_le _)⟩
      · obtain ⟨y, hy, rfl⟩ := Option.map_eq_some_iff.mp h
        obtain ⟨code, rfl, hlen⟩ := ih hy
        exact ⟨b :: code, rfl, Nat.succ_le_succ hlen⟩

theorem unvarint_pos {n : Nat} {bs : List UInt8} {x : Nat × List UInt8} (hn : 0 < n)
    (h : unvarint n bs = some x) : x.2.length < bs.length := by
  obtain ⟨n, rfl⟩ : ∃ m, n = m + 1 := ⟨n - 1, by omega⟩
  cases bs with
  | nil => cases h
  | cons b bs =>
    rw [unvarint] at h
    split at h
    · cases h
      exact Nat.lt_succ_self _
    · obtain ⟨y, hy, rfl⟩ := Option.map_eq_some_iff.mp h
      obtain ⟨code, rfl, _⟩ := unvarint_split hy
      rw [List.length_cons, List.length_append]
      dsimp only
      omega

/-! ## digits in a word -/

theorem shiftLeft_mod {i w : Nat} (h : i ≤ w) (d : Nat) :
    (d <<< i) % 2 ^ w = (d % 2 ^ (w - i)) <<< i := by
  rw [Nat.shiftLeft_eq, Nat.shiftLeft_eq, ← Nat.mul_mod_mul_right, ← Nat.pow_add,
    Nat.sub_add_cancel h]

theorem low_digit (d v k : Nat) (hd : d < 128) :
    (d + 128 * v) % 2 ^ k = d % 2 ^ k + 128 * (v % 2 ^ (k - 7)) := by
  by_cases hk : k ≤ 7
  · have hpow : (128 : Nat) = 2 ^ k * 2 ^ (7 - k) := by
      rw [← Nat.pow_add, Nat.add_sub_cancel' hk]
    rw [show k - 7 = 0 by omega, Nat.pow_zero, Nat.mod_one, Nat.mul_zero, Nat.add_zero]
    conv_lhs => rw [hpow, Nat.mul_assoc, Nat.add_mul_mod_self_left]
  · have hpow : 2 ^ k = 128 * 2 ^ (k - 7) := by
      rw [show (128 : Nat) = 2 ^ 7 by decide, ← Nat.pow_add]
      congr 1
      omega
    have hpos := Nat.two_pow_pos (k - 7)
    have hlow : d % (128 * 2 ^ (k - 7)) = d := Nat.mod_eq_of_lt (by omega)
    rw [hpow, hlow, Nat.mod_mul, show (d + 128 * v) % 128 = d by omega,
      show (d + 128 * v) / 128 = v by omega]

end KitServer
