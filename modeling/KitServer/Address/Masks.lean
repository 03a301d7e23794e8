import Mathlib
import KitServer.Lib.Bits
import KitServer.Address.Sockaddr

/-!
# The masks of a prefix length, for both families

* `CreateHostMask_byte`, `CreateHostMask_word`   the lengths at which the mask is computed;
* `IPv4Address.masks_iff_two_le`                 the IPv4 masks are right from the length 2 on;
* `In6Addr.Edged`                                the bits below, in and above the edge byte;
* `IPv6Address.masks_iff_ne`                     the IPv6 masks are right except at 128.
-/

set_option linter.unusedVariables false

namespace KitServer.Address
open Bits

theorem CreateHostMask_byte (bits : Nat) (h : bits < 8) :
    CreateHostMask 8 bits = .ok (low 8 (8 - bits)) := by
  interval_cases bits <;> rfl

theorem CreateHostMask_word (bits : Nat) (h : 2 ≤ bits) (h32 : bits ≤ 32) :
    CreateHostMask 32 bits = .ok (low 32 (32 - bits)) := by
  interval_cases bits <;> rfl

theorem CreateHostMask_short (bits : Nat) (h : bits < 2) :
    CreateHostMask 32 bits = .error (if bits = 0 then .shiftTooFar else .overflow) := by
  interval_cases bits <;> rfl

/-! ## IPv4 -/

section
variable (host : Endian)

def place (host : Endian) (i : Nat) : Nat :=
  match host with
  | .small => 24 - i / 8 * 8 + i % 8
  | .big => i

theorem place_lt {i : Nat} (hi : i < 32) : place host i < 32 := by
  cases host <;> simp only [place] <;> omega

theorem getLsbD_byteswap (x : BitVec 32) (i : Nat) (hi : i < 32) :
    (host.byteswapOnSmallEndian x).getLsbD i = x.getLsbD (place host i) := by
  cases host with
  | small => exact getLsbD_bswap_32 x i hi
  | big => rfl

theorem byteswap_byteswap (x : BitVec 32) :
    host.byteswapOnSmallEndian (host.byteswapOnSmallEndian x) = x := by
  cases host with
  | small => exact bswap_32_bswap_32 x
  | big => rfl

theorem byteswap_or (x y : BitVec 32) :
    host.byteswapOnSmallEndian (x ||| y)
      = host.byteswapOnSmallEndian x ||| host.byteswapOnSmallEndian y := by
  apply BitVec.eq_of_getLsbD_eq
  intro i hi
  rw [BitVec.getLsbD_or, getLsbD_byteswap _ _ _ hi, getLsbD_byteswap _ _ _ hi,
    getLsbD_byteswap _ _ _ hi, BitVec.getLsbD_or]

theorem byteswap_and (x y : BitVec 32) :
    host.byteswapOnSmallEndian (x &&& y)
      = host.byteswapOnSmallEndian x &&& host.byteswapOnSmallEndian y := by
  apply BitVec.eq_of_getLsbD_eq
  intro i hi
  rw [BitVec.getLsbD_and, getLsbD_byteswap _ _ _ hi, getLsbD_byteswap _ _ _ hi,
    getLsbD_byteswap _ _ _ hi, BitVec.getLsbD_and]

theorem byteswap_not (x : BitVec 32) :
    host.byteswapOnSmallEndian (~~~ x) = ~~~ host.byteswapOnSmallEndian x := by
  apply BitVec.eq_of_getLsbD_eq
  intro i hi
  rw [BitVec.getLsbD_not, getLsbD_byteswap _ _ _ hi, getLsbD_byteswap _ _ _ hi,
    BitVec.getLsbD_not, decide_eq_true hi, decide_eq_true (place_lt host hi)]

theorem bytes_of_word (x : BitVec 32) :
    x = x.extractLsb' 24 8 ++ x.extractLsb' 16 8 ++ x.extractLsb' 8 8 ++ x.extractLsb' 0 8 := by
  apply BitVec.eq_of_getLsbD_eq
  intro i hi
  simp only [BitVec.getLsbD_append, BitVec.getLsbD_extractLsb']
  interval_cases i <;> simp

theorem cpop_byteswap (x : BitVec 32) :
    (host.byteswapOnSmallEndian x).cpop.toNat = x.cpop.toNat := by
  cases host with
  | small =>
    have hx : x.cpop.toNat = (x.extractLsb' 24 8 ++ x.extractLsb' 16 8 ++ x.extractLsb' 8 8
        ++ x.extractLsb' 0 8).cpop.toNat := congrArg (fun y : BitVec 32 => y.cpop.toNat)
          (bytes_of_word x)
    show (bswap_32 x).cpop.toNat = _
    rw [hx, bswap_32]
    simp only [BitVec.toNat_cpop_append]
    omega
  | big => rfl

theorem CountBytes_eq {w : Nat} (val : BitVec w) : CountBytes val = val.cpop.toNat := by
  rw [CountBytes, countLoop_eq, Nat.zero_add]

end

namespace IPv4Address
variable (host : Endian) (s : IPv4Address) (len : Nat)

/-- the address in the host's byte order -/
def addr : BitVec 32 := host.byteswapOnSmallEndian s.sin_addr

/-- the three masks of the length `len` are computed, and are the ones it stands for -/
def Masks : Prop :=
  (∃ b, s.broadcastAddress host len = .ok (some b) ∧
    b.addr host = s.addr host ||| BitVec.ofNat 32 (2 ^ (32 - len) - 1)) ∧
  (∃ b, s.subnetAddress host len = .ok (some b) ∧
    ∀ i < 32, (b.addr host).getLsbD i = ((s.addr host).getLsbD i && decide (32 - len ≤ i))) ∧
  ∃ b, subnetMask host len = .ok (some b) ∧
    (∀ i < 32, (b.addr host).getMsbD i = decide (i < len)) ∧ CountBytes b.sin_addr = len

section
variable {len} (h : 2 ≤ len) (h32 : len ≤ 32)
include h h32

theorem broadcastAddress_eq : s.broadcastAddress host len
    = .ok (some { s with
        sin_addr := s.sin_addr ||| host.byteswapOnSmallEndian (low 32 (32 - len)) }) := by
  rw [broadcastAddress, if_neg (by omega), CreateHostMask_word len h h32]
  rfl

theorem subnetAddress_eq : s.subnetAddress host len
    = .ok (some { s with
        sin_addr := s.sin_addr &&& ~~~ host.byteswapOnSmallEndian (low 32 (32 - len)) }) := by
  rw [subnetAddress, if_neg (by omega), CreateHostMask_word len h h32]
  rfl

theorem subnetMask_eq : subnetMask host len
    = .ok (some
        { sin_family := AF_INET
          sin_port := 0
          sin_addr := ~~~ host.byteswapOnSmallEndian (low 32 (32 - len)) }) := by
  rw [subnetMask, if_neg (by omega), CreateHostMask_word len h h32]
  rfl

theorem masks_of_two_le : s.Masks host len := by
  refine ⟨⟨_, broadcastAddress_eq host s h h32, ?_⟩, ⟨_, subnetAddress_eq host s h h32, ?_⟩,
    ⟨_, subnetMask_eq host h h32, ?_, ?_⟩⟩
  · rw [addr, byteswap_or, byteswap_byteswap]
    rfl
  · intro i hi
    rw [addr, byteswap_and, byteswap_not, byteswap_byteswap, BitVec.getLsbD_and,
      BitVec.getLsbD_not, getLsbD_low, addr]
    simp only [hi, decide_true, Bool.true_and]
    congr 1
    rw [← decide_not]
    exact decide_eq_decide.mpr (by omega)
  · intro i hi
    rw [addr, byteswap_not, byteswap_byteswap, BitVec.getMsbD_not, getMsbD_low _ _ _ (by omega)]
    simp only [hi, decide_true, Bool.true_and]
    rw [← decide_not]
    exact decide_eq_decide.mpr (by omega)
  · rw [CountBytes_eq, ← byteswap_not, cpop_byteswap, cpop_not_low _ _ (by omega)]
    omega

end

theorem broadcastAddress_short (h : len < 2) :
    s.broadcastAddress host len = .error (if len = 0 then .shiftTooFar else .overflow) := by
  rw [broadcastAddress, if_neg (by omega), CreateHostMask_short len h]
  rfl

theorem masks_iff_two_le (h32 : len ≤ 32) : s.Masks host len ↔ 2 ≤ len := by
  refine ⟨fun hm => ?_, fun h => masks_of_two_le host s h h32⟩
  by_contra hlt
  obtain ⟨⟨b, hb, -⟩, -, -⟩ := hm
  rw [broadcastAddress_short host s len (by omega)] at hb
  cases hb

theorem masks_iff_two_le_24 : (24 : Nat) ≤ 32 ∧
    ((new .small 0xc0a80001 80).Masks .small 24 ↔ 2 ≤ 24) :=
  ⟨by decide, masks_iff_two_le .small (new .small 0xc0a80001 80) 24 (by decide)⟩

theorem masks_fault_zero : ¬ ∀ (host : Endian) (s : IPv4Address) (len : Nat), len ≤ 32 →
    s.Masks host len := by
  intro h
  obtain ⟨⟨b, hb, -⟩, -, -⟩ := h .small (new .small 0xc0a80001 80) 0 (by decide)
  rw [broadcastAddress_short .small _ 0 (by decide)] at hb
  cases hb

end IPv4Address

/-! ## IPv6 -/

namespace In6Addr
variable {a b : In6Addr}

theorem modify_eq (a : In6Addr) (i : Nat) (f : BitVec 8 → BitVec 8) (hi : i < 16) :
    ∃ b, modify a i f = .ok b ∧
      ∀ j : Fin 16, b.get j = if j.val = i then f (a.get j) else a.get j := by
  refine ⟨_, dif_pos hi, fun j => ?_⟩
  show (a.set i (f a[i]))[j.val] = _
  rw [Vector.getElem_set]
  by_cases hij : i = j.val
  · subst hij
    rw [if_pos rfl, if_pos rfl]
    rfl
  · rw [if_neg hij, if_neg (fun h => hij h.symm)]
    rfl

theorem modify_past (a : In6Addr) (i : Nat) (f : BitVec 8 → BitVec 8) (hi : 16 ≤ i) :
    modify a i f = .error .outOfBounds :=
  dif_neg (by omega)

theorem rounds_eq (x : BitVec 8) (n : Nat) : ∀ (a : In6Addr) (start : Nat), start + n ≤ 16 →
    ∃ b, (List.range' start n).foldlM (fun a i => modify a i fun _ => x) a = .ok b ∧
      ∀ j : Fin 16, b.get j
        = if start ≤ j.val ∧ j.val < start + n then x else a.get j := by
  induction n with
  | zero =>
    intro a start h
    refine ⟨a, rfl, fun j => ?_⟩
    rw [if_neg (by omega)]
  | succ n ih =>
    intro a start h
    obtain ⟨b, hb, hget⟩ := modify_eq a start (fun _ => x) (by omega)
    obtain ⟨c, hc, hrest⟩ := ih b (start + 1) (by omega)
    refine ⟨c, ?_, fun j => ?_⟩
    · rw [List.range'_succ, List.foldlM_cons, hb]
      exact hc
    · rw [hrest j, hget j]
      split_ifs <;> first | rfl | omega

theorem fill_eq (a : In6Addr) (start stop : Nat) (x : BitVec 8) (h : stop ≤ 16) :
    ∃ b, fill a start stop x = .ok b ∧
      ∀ j : Fin 16, b.get j = if start ≤ j.val ∧ j.val < stop then x else a.get j := by
  rcases Nat.lt_or_ge stop start with hlt | hge
  · refine ⟨a, ?_, fun j => ?_⟩
    · rw [fill, Nat.sub_eq_zero_of_le (by omega)]
      rfl
    · rw [if_neg (by omega)]
  · obtain ⟨b, hb, hget⟩ := rounds_eq x (stop - start) a start (by omega)
    refine ⟨b, hb, fun j => ?_⟩
    rw [hget j, Nat.add_sub_cancel' hge]

/-- bit `i`, counted from the most significant one -/
def bit (a : In6Addr) (i : Fin 128) : Bool := (a.get ⟨i / 8, by omega⟩).getMsbD (i % 8)

/-- the bytes below `e`, the one at `e` and the ones above are changed by `f`, `g` and `u` -/
def Edged (a b : In6Addr) (e : Nat) (f g u : BitVec 8 → BitVec 8) : Prop :=
  ∀ j : Fin 16, b.get j
    = if j.val < e then f (a.get j) else if j.val = e then g (a.get j) else u (a.get j)

theorem Edged.bit_eq {e : Nat} {f g u : BitVec 8 → BitVec 8} (hb : Edged a b e f g u)
    (i : Fin 128) :
    b.bit i = if i.val / 8 < e then (f (a.get ⟨i / 8, by omega⟩)).getMsbD (i % 8)
      else if i.val / 8 = e then (g (a.get ⟨i / 8, by omega⟩)).getMsbD (i % 8)
      else (u (a.get ⟨i / 8, by omega⟩)).getMsbD (i % 8) := by
  rw [bit, hb]
  split_ifs <;> rfl

theorem get_zero (j : Fin 16) : zero.get j = 0 := by
  show (Vector.replicate 16 (0 : BitVec 8))[j.val] = 0
  exact Vector.getElem_replicate _

end In6Addr

namespace IPv6Address
variable (s : IPv6Address) (len : Nat)

def Kept (s b : IPv6Address) : Prop :=
  b.sin6_family = s.sin6_family ∧ b.sin6_port = s.sin6_port ∧
    b.sin6_flowinfo = s.sin6_flowinfo ∧ b.sin6_scope_id = s.sin6_scope_id

/-- no index is past the 16 bytes and the three masks are the ones of the length `len`; past 128
all three are null -/
def Masks : Prop :=
  (len ≤ 128 →
    (∃ b, s.broadcastAddress len = .ok (some b) ∧ Kept s b ∧
      ∀ i : Fin 128, b.sin6_addr.bit i = (s.sin6_addr.bit i || decide (len ≤ i))) ∧
    (∃ b, s.subnetAddress len = .ok (some b) ∧ Kept s b ∧
      ∀ i : Fin 128, b.sin6_addr.bit i = (s.sin6_addr.bit i && decide (i < len))) ∧
    ∃ b, subnetMask len = .ok (some b) ∧ Kept new b ∧
      ∀ i : Fin 128, b.sin6_addr.bit i = decide (i < len)) ∧
  (128 < len → s.broadcastAddress len = .ok none ∧ s.subnetAddress len = .ok none ∧
    subnetMask len = .ok none)

theorem upper_eq (a : In6Addr) (e : Nat) (he : e < 16) (f : BitVec 8 → BitVec 8) (y : BitVec 8) :
    ∃ b c, In6Addr.modify a e f = .ok b ∧ In6Addr.fill b (e + 1) 16 y = .ok c ∧
      In6Addr.Edged a c e id f fun _ => y := by
  obtain ⟨b, hb, hget⟩ := In6Addr.modify_eq a e f he
  obtain ⟨c, hc, hrest⟩ := In6Addr.fill_eq b (e + 1) 16 y (by omega)
  refine ⟨b, c, hb, hc, fun j => ?_⟩
  rw [hrest j, hget j]
  split_ifs <;> first | rfl | omega

theorem lower_eq (a : In6Addr) (e : Nat) (he : e < 16) (f : BitVec 8 → BitVec 8) (y : BitVec 8) :
    ∃ b c, In6Addr.modify a e f = .ok b ∧ In6Addr.fill b 0 e y = .ok c ∧
      In6Addr.Edged a c e (fun _ => y) f id := by
  obtain ⟨b, hb, hget⟩ := In6Addr.modify_eq a e f he
  obtain ⟨c, hc, hrest⟩ := In6Addr.fill_eq b 0 e y (by omega)
  refine ⟨b, c, hb, hc, fun j => ?_⟩
  rw [hrest j, hget j]
  split_ifs <;> first | rfl | omega

theorem edge_low (i : Fin 128) (hi : i.val / 8 = len / 8) :
    (low 8 (8 - len % 8)).getMsbD (i % 8) = decide (len ≤ i) := by
  rw [getMsbD_low _ _ _ (by omega), decide_eq_true (show i.val % 8 < 8 by omega), Bool.true_and]
  exact decide_eq_decide.mpr (by omega)

theorem edge_not_low (i : Fin 128) (hi : i.val / 8 = len / 8) :
    (~~~ low 8 (8 - len % 8)).getMsbD (i % 8) = decide (i < len) := by
  rw [BitVec.getMsbD_not, edge_low len i hi, decide_eq_true (show i.val % 8 < 8 by omega),
    Bool.true_and, ← decide_not]
  exact decide_eq_decide.mpr (by omega)

theorem getMsbD_ones (i : Nat) : (0xff : BitVec 8).getMsbD (i % 8) = true := by
  have hi : i % 8 < 8 := Nat.mod_lt i (by decide)
  generalize i % 8 = k at hi ⊢
  interval_cases k <;> rfl

section
variable {len} (h : len < 128)
include h

theorem broadcastAddress_bits : ∃ b, s.broadcastAddress len = .ok (some b) ∧ Kept s b ∧
    ∀ i : Fin 128, b.sin6_addr.bit i = (s.sin6_addr.bit i || decide (len ≤ i)) := by
  obtain ⟨b, c, hb, hc, hedge⟩ :=
    upper_eq s.sin6_addr (len / 8) (by omega) (· ||| low 8 (8 - len % 8)) 0xff
  refine ⟨{ s with sin6_addr := c }, ?_, ⟨rfl, rfl, rfl, rfl⟩, fun i => ?_⟩
  · rw [broadcastAddress, if_neg (by omega), CreateHostMask_byte _ (Nat.mod_lt len (by decide))]
    show (In6Addr.modify s.sin6_addr (len / 8) (· ||| low 8 (8 - len % 8)) >>= _) = _
    rw [hb]
    show (In6Addr.fill b (len / 8 + 1) 16 0xff >>= _) = _
    rw [hc]
    rfl
  · refine (hedge.bit_eq i).trans ?_
    split_ifs with hlt heq
    · rw [decide_eq_false (by omega), Bool.or_false]
      rfl
    · rw [BitVec.getMsbD_or, edge_low len i heq]
      rfl
    · rw [getMsbD_ones, decide_eq_true (by omega), Bool.or_true]

theorem subnetAddress_bits : ∃ b, s.subnetAddress len = .ok (some b) ∧ Kept s b ∧
    ∀ i : Fin 128, b.sin6_addr.bit i = (s.sin6_addr.bit i && decide (i < len)) := by
  obtain ⟨b, c, hb, hc, hedge⟩ :=
    upper_eq s.sin6_addr (len / 8) (by omega) (· &&& ~~~ low 8 (8 - len % 8)) 0
  refine ⟨{ s with sin6_addr := c }, ?_, ⟨rfl, rfl, rfl, rfl⟩, fun i => ?_⟩
  · rw [subnetAddress, if_neg (by omega), CreateHostMask_byte _ (Nat.mod_lt len (by decide))]
    show (In6Addr.modify s.sin6_addr (len / 8) (· &&& ~~~ low 8 (8 - len % 8)) >>= _) = _
    rw [hb]
    show (In6Addr.fill b (len / 8 + 1) 16 0 >>= _) = _
    rw [hc]
    rfl
  · refine (hedge.bit_eq i).trans ?_
    split_ifs with hlt heq
    · rw [decide_eq_true (by omega), Bool.and_true]
      rfl
    · rw [BitVec.getMsbD_and, edge_not_low len i heq]
      rfl
    · rw [decide_eq_false (by omega), Bool.and_false]
      exact BitVec.getMsbD_zero

theorem subnetMask_bits : ∃ b, subnetMask len = .ok (some b) ∧ Kept new b ∧
    ∀ i : Fin 128, b.sin6_addr.bit i = decide (i < len) := by
  obtain ⟨b, c, hb, hc, hedge⟩ :=
    lower_eq In6Addr.zero (len / 8) (by omega) (fun _ => ~~~ low 8 (8 - len % 8)) 0xff
  refine ⟨{ new with sin6_addr := c }, ?_, ⟨rfl, rfl, rfl, rfl⟩, fun i => ?_⟩
  · rw [subnetMask, if_neg (by omega), CreateHostMask_byte _ (Nat.mod_lt len (by decide))]
    show (In6Addr.modify In6Addr.zero (len / 8) (fun _ => ~~~ low 8 (8 - len % 8)) >>= _) = _
    rw [hb]
    show (In6Addr.fill b 0 (len / 8) 0xff >>= _) = _
    rw [hc]
    rfl
  · refine (hedge.bit_eq i).trans ?_
    split_ifs with hlt heq
    · rw [getMsbD_ones, decide_eq_true (by omega)]
    · exact edge_not_low len i heq
    · rw [decide_eq_false (by omega), id, In6Addr.get_zero]
      exact BitVec.getMsbD_zero

end

theorem broadcastAddress_128 : s.broadcastAddress 128 = .error .outOfBounds := by
  rw [broadcastAddress, if_neg (by decide), CreateHostMask_byte _ (by decide)]
  show (In6Addr.modify s.sin6_addr 16 (· ||| low 8 8) >>= fun a =>
    In6Addr.fill a 17 16 0xff >>= fun a => .ok (some { s with sin6_addr := a })) = _
  rw [In6Addr.modify_past _ _ _ (by decide)]
  rfl

theorem masks_iff_ne : s.Masks len ↔ len ≠ 128 := by
  constructor
  · rintro ⟨hm, -⟩ rfl
    obtain ⟨⟨b, hb, -⟩, -, -⟩ := hm (Nat.le_refl 128)
    rw [broadcastAddress_128] at hb
    cases hb
  · intro hne
    constructor
    · intro h
      have hlt : len < 128 := by omega
      exact ⟨broadcastAddress_bits s hlt, subnetAddress_bits s hlt, subnetMask_bits hlt⟩
    · intro h
      exact ⟨if_pos h, if_pos h, if_pos h⟩

theorem masks_fault_128 : ¬ ∀ (s : IPv6Address) (len : Nat), s.Masks len := by
  intro h
  obtain ⟨⟨b, hb, -⟩, -, -⟩ := (h new 128).1 (Nat.le_refl 128)
  rw [broadcastAddress_128] at hb
  cases hb

end IPv6Address
end KitServer.Address
