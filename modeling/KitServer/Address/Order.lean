import Mathlib
import KitServer.Address.Sockaddr

/-!
# The order of addresses, by their bytes

* `memcmp`              the first pair of bytes that differ decides;
* `AnyAddress`          the four classes, and the memory that `getAddr` points to;
* `less`, `equal`       `operator<` and `operator==`;
* `lt_iff_common`       the order of words, from the common length and the two lengths;
* `less_iff`, `equal_iff`   both operators in terms of the bytes;
* `address_order`       `operator<` is a strict total order with this equality.
-/

set_option linter.unusedVariables false

namespace KitServer

/-! ## words over an order: the common length first, then the lengths -/

namespace Words
variable {α : Type} [LinearOrder α]

/-- **Cut to one length**: the cut words decide, and where they are the same the shorter word
comes first. -/
theorem lt_iff_common (xs ys : List α) (n : Nat) (hn : n = min xs.length ys.length) :
    xs < ys ↔ xs.take n < ys.take n ∨ (xs.take n = ys.take n ∧ xs.length < ys.length) := by
  subst hn
  induction xs generalizing ys with
  | nil =>
    cases ys with
    | nil => simp
    | cons y ys => simp [List.nil_lt_cons]
  | cons x xs ih =>
    cases ys with
    | nil => simp
    | cons y ys =>
      have hmin : min (x :: xs).length (y :: ys).length = min xs.length ys.length + 1 := by
        simp only [List.length_cons]
        omega
      rw [hmin, List.take_succ_cons, List.take_succ_cons, List.cons_lt_cons_iff,
        List.cons_lt_cons_iff, ih ys, List.length_cons, List.length_cons, List.cons.injEq,
        Nat.add_lt_add_iff_right]
      tauto

theorem trichotomy (xs ys : List α) :
    (xs < ys ∧ xs ≠ ys ∧ ¬ ys < xs) ∨ (¬ xs < ys ∧ xs = ys ∧ ¬ ys < xs) ∨
      (¬ xs < ys ∧ xs ≠ ys ∧ ys < xs) := by
  rcases lt_trichotomy xs ys with h | h | h
  · exact .inl ⟨h, h.ne, h.asymm⟩
  · subst h
    exact .inr (.inl ⟨lt_irrefl _, rfl, lt_irrefl _⟩)
  · exact .inr (.inr ⟨h.asymm, h.ne', h⟩)

end Words

namespace Address

/-! ## the code -/

/-- `memcmp(s1, s2, i + n)` once the first `i` bytes have been found to be the same -/
def memcmp (s1 s2 : Nat → BitVec 8) : Nat → Nat → Int
  | _, 0 => 0
  | i, n + 1 =>
    if s1 i = s2 i then memcmp s1 s2 (i + 1) n else (s1 i).toNat - (s2 i).toNat

/-- the bytes of a number in the memory of the host -/
def objBytes {w : Nat} (host : Endian) (x : BitVec w) : List (BitVec 8) :=
  let low := (List.range (w / 8)).map fun i => x.extractLsb' (8 * i) 8
  match host with
  | .small => low
  | .big => low.reverse

/-- `struct sockaddr_un` -/
structure SockaddrUn where
  sun_family : BitVec 16
  sun_path : Vector (BitVec 8) 108
deriving DecidableEq

/-- an object of one of the four classes -/
inductive AnyAddress where
  | ipv4 (m_sockaddr : SockaddrIn) (sin_zero : Vector (BitVec 8) 8)
  | ipv6 (m_sockaddr : SockaddrIn6)
  -- the length is set by the caller, and can reach into the memory behind `m_sockaddr`
  | unix (m_sockaddr : SockaddrUn) (m_sockaddrlen : BitVec 32) (behind : Nat → BitVec 8)
  | unknown (sa_family : BitVec 16) (sa_data : Vector (BitVec 8) 14)

namespace AnyAddress
variable (host : Endian)

/-- the bytes of `m_sockaddr` -/
def sockaddr : AnyAddress → List (BitVec 8)
  | .ipv4 a zero =>
    objBytes host a.sin_family ++ objBytes host a.sin_port ++ objBytes host a.sin_addr
      ++ zero.toList
  | .ipv6 a =>
    objBytes host a.sin6_family ++ objBytes host a.sin6_port ++ objBytes host a.sin6_flowinfo
      ++ a.sin6_addr.toList ++ objBytes host a.sin6_scope_id
  | .unix a _ _ => objBytes host a.sun_family ++ a.sun_path.toList
  | .unknown family data => objBytes host family ++ data.toList

/-- what stands behind `m_sockaddr` -/
def rest : AnyAddress → Nat → BitVec 8
  | .unix _ _ behind => behind
  | _ => fun _ => 0

/-- the memory from the place that `getAddr` gives on -/
def getAddr (a : AnyAddress) (i : Nat) : BitVec 8 :=
  ((a.sockaddr host)[i]?).getD (a.rest (i - (a.sockaddr host).length))

def getAddrLen : AnyAddress → BitVec 32
  | .ipv4 _ _ => 16
  | .ipv6 _ => 28
  | .unix _ m_sockaddrlen _ => m_sockaddrlen
  | .unknown _ _ => 16

/-- `operator<` -/
def less (a b : AnyAddress) : Bool :=
  let min_len := min a.getAddrLen.toNat b.getAddrLen.toNat
  let ret := memcmp (a.getAddr host) (b.getAddr host) 0 min_len
  if ret < 0 then true
  else if ret > 0 then false
  else if a.getAddrLen < b.getAddrLen then true
  else false

/-- `operator==` -/
def equal (a b : AnyAddress) : Bool :=
  a.getAddrLen == b.getAddrLen &&
    memcmp (a.getAddr host) (b.getAddr host) 0 a.getAddrLen.toNat == 0

/-- `operator!=` -/
def unequal (a b : AnyAddress) : Bool := !equal host a b

end AnyAddress

/-! ## `memcmp` -/

/-- `n` bytes from place `i` on, as numbers -/
def span (s : Nat → BitVec 8) (i n : Nat) : List Nat := (List.range' i n).map fun j => (s j).toNat

section
variable (s s1 s2 : Nat → BitVec 8)

theorem span_succ (i n : Nat) : span s i (n + 1) = (s i).toNat :: span s (i + 1) n := by
  simp [span, List.range'_succ]

@[simp] theorem span_length (i n : Nat) : (span s i n).length = n := by simp [span]

theorem span_take (i n m : Nat) (h : n ≤ m) : (span s i m).take n = span s i n := by
  rw [span, ← List.map_take, List.take_range'_of_length_ge h, span]

theorem memcmp_neg (i n : Nat) : memcmp s1 s2 i n < 0 ↔ span s1 i n < span s2 i n := by
  induction n generalizing i with
  | zero => simp [memcmp, span]
  | succ n ih =>
    rw [memcmp, span_succ, span_succ, List.cons_lt_cons_iff, ← ih (i + 1), BitVec.toNat_inj]
    by_cases h : s1 i = s2 i
    · simp [h]
    · rw [if_neg h]
      constructor
      · intro hneg
        exact .inl (by omega)
      · rintro (hlt | ⟨heq, _⟩)
        · omega
        · exact absurd heq h

theorem memcmp_zero (i n : Nat) : memcmp s1 s2 i n = 0 ↔ span s1 i n = span s2 i n := by
  induction n generalizing i with
  | zero => simp [memcmp, span]
  | succ n ih =>
    rw [memcmp, span_succ, span_succ, List.cons.injEq, ← ih (i + 1), BitVec.toNat_inj]
    by_cases h : s1 i = s2 i
    · simp [h]
    · have hne : (s1 i).toNat ≠ (s2 i).toNat := fun he => h (BitVec.eq_of_toNat_eq he)
      rw [if_neg h]
      constructor
      · intro hzero
        omega
      · intro hboth
        exact absurd hboth.1 h

end

/-! ## the two operators -/

namespace AnyAddress
variable (host : Endian)

/-- the byte string of an address -/
def bytes (a : AnyAddress) : List Nat := span (a.getAddr host) 0 a.getAddrLen.toNat

@[simp] theorem bytes_length (a : AnyAddress) : (a.bytes host).length = a.getAddrLen.toNat :=
  span_length _ _ _

theorem bytes_take (a : AnyAddress) (n : Nat) (h : n ≤ a.getAddrLen.toNat) :
    (a.bytes host).take n = span (a.getAddr host) 0 n :=
  span_take _ _ _ _ h

theorem less_iff (a b : AnyAddress) : less host a b = true ↔ a.bytes host < b.bytes host := by
  have hcommon := Words.lt_iff_common (a.bytes host) (b.bytes host) _ rfl
  rw [bytes_length, bytes_length, bytes_take host a _ (Nat.min_le_left _ _),
    bytes_take host b _ (Nat.min_le_right _ _), ← memcmp_neg, ← memcmp_zero] at hcommon
  rw [hcommon, less, ← BitVec.lt_def]
  generalize memcmp (a.getAddr host) (b.getAddr host) 0
    (min a.getAddrLen.toNat b.getAddrLen.toNat) = ret
  by_cases hneg : ret < 0
  · simp [hneg]
  · by_cases hpos : 0 < ret
    · simp [hneg, hpos, hpos.ne']
    · have hzero : ret = 0 := by omega
      simp [hzero]

theorem equal_iff (a b : AnyAddress) : equal host a b = true ↔ a.bytes host = b.bytes host := by
  rw [equal, Bool.and_eq_true, beq_iff_eq, beq_iff_eq, memcmp_zero]
  constructor
  · rintro ⟨hlen, hspan⟩
    rw [bytes, hspan, hlen, bytes]
  · intro h
    have hlen : a.getAddrLen.toNat = b.getAddrLen.toNat := by
      rw [← bytes_length host a, h, bytes_length]
    refine ⟨BitVec.eq_of_toNat_eq hlen, ?_⟩
    rw [bytes, bytes, ← hlen] at h
    exact h

theorem unequal_iff (a b : AnyAddress) :
    unequal host a b = true ↔ less host a b = true ∨ less host b a = true := by
  rw [unequal, Bool.not_eq_true', ← Bool.not_eq_true, equal_iff, less_iff, less_iff]
  exact lt_or_lt_iff_ne.symm

/-- **A strict total order**: no address is less than itself, and of two addresses exactly one is
less, or they are equal. -/
theorem address_order :
    (∀ a, less host a a = false) ∧
    (∀ a b c, less host a b = true → less host b c = true → less host a c = true) ∧
    ∀ a b,
      (less host a b = true ∧ equal host a b = false ∧ less host b a = false) ∨
      (less host a b = false ∧ equal host a b = true ∧ less host b a = false) ∨
      (less host a b = false ∧ equal host a b = false ∧ less host b a = true) := by
  simp only [← Bool.not_eq_true, less_iff, equal_iff]
  refine ⟨fun a => lt_irrefl _, fun a b c hab hbc => lt_trans hab hbc, fun a b => ?_⟩
  exact Words.trichotomy (a.bytes host) (b.bytes host)

end AnyAddress
end Address
end KitServer
