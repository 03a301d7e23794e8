import Mathlib

/-!
# `Stream::readFixSize` and `Stream::writeFixSize`

The four loops that call `read` or `write` until all of `len` is moved.  The result of the call is
kept in a `size_t`.

* `fixSize`         the loop, over what the call is given besides the number of bytes that are left;
* `readFixSizeBuffer`, ... the four functions;
* `Transfers`       what such a function should do with the results of its calls;
* `fixSize_iff`     the results with which the functions do it.
-/

set_option linter.unusedVariables false

namespace KitServer
namespace Stream

/-- an `int` that is stored in a `size_t` -/
def sizeOfInt (r : Int32) : UInt64 := r.toInt64.toUInt64

/-- a `size_t` that is returned as an `int` -/
def intOfSize (n : UInt64) : Int32 := n.toUInt32.toInt32

/-- in front of a call, with `left` bytes to go, or behind the `return` -/
inductive Phase (A : Type) where
  | calling (place : A) (left : UInt64)
  | returned (v : Int32)
deriving DecidableEq

section
variable {A : Type}

def again (len : UInt64) (place : A) (left : UInt64) : Phase A :=
  if left > 0 then .calling place left else .returned (intOfSize len)

/-- the body of the loop, after the call has returned `r` -/
def body (move : A → Int32 → A) (len : UInt64) (r : Int32) : Phase A → Phase A
  | .calling place left =>
    let ret := sizeOfInt r
    if ret ≤ 0 then .returned (intOfSize ret) else again len (move place r) (left - ret)
  | .returned v => .returned v

/-- after `n` results; the `i`-th call returns `results i` -/
def fixSize (move : A → Int32 → A) (place : A) (len : UInt64) (results : Nat → Int32) :
    Nat → Phase A
  | 0 => again len place len
  | n + 1 => body move len (results n) (fixSize move place len results n)

end

/-- `offset += ret` -/
def moveOffset (offset : UInt64) (r : Int32) : UInt64 := offset + sizeOfInt r

/-- a positive result has moved the position of the `ByteArray` -/
def movePosition (moved : Nat) (r : Int32) : Nat := if 0 < r then moved + r.toInt.toNat else moved

/-- the place is the offset in the buffer -/
def readFixSizeBuffer : UInt64 → (Nat → Int32) → Nat → Phase UInt64 := fixSize moveOffset 0

/-- the place is how far the position was moved -/
def readFixSizeByteArray : UInt64 → (Nat → Int32) → Nat → Phase Nat := fixSize movePosition 0

def writeFixSizeBuffer : UInt64 → (Nat → Int32) → Nat → Phase UInt64 := fixSize moveOffset 0

def writeFixSizeByteArray : UInt64 → (Nat → Int32) → Nat → Phase Nat := fixSize movePosition 0

/-! ## what is asked of the functions -/

/-- the sum of the first `n` results, the positive ones -/
def moved (results : Nat → Int32) (n : Nat) : Nat :=
  ∑ j ∈ Finset.range n, (results j).toInt.toNat

/-- no call returns more than it was asked for -/
def Bounded {A : Type} (run : Nat → Phase A) (results : Nat → Int32) : Prop :=
  ∀ i place left, run i = .calling place left → (results i).toInt ≤ left.toNat

/-- every call is made for the bytes behind those that were moved, up to `len`; and the function
returns: `len` after positive results with that sum, or the first result that is not positive -/
def Transfers {A : Type} (at_ : A → Nat) (len : UInt64) (results : Nat → Int32)
    (run : Nat → Phase A) : Prop :=
  ∃ n v, run n = .returned v
    ∧ (∀ i < n, ∃ place left, run i = .calling place left ∧ at_ place = moved results i
        ∧ at_ place + left.toNat = len.toNat)
    ∧ ((v.toInt = len.toNat ∧ moved results n = len.toNat ∧ ∀ j < n, 0 < results j)
      ∨ ∃ m, n = m + 1 ∧ v = results m ∧ results m ≤ 0 ∧ ∀ j < m, 0 < results j)

/-- a result is not negative if all before it were positive and have not moved `len` bytes -/
def NoError (len : UInt64) (results : Nat → Int32) : Prop :=
  ∀ n, (∀ j < n, 0 < results j) → moved results n < len.toNat → 0 ≤ results n

/-! ## the conversions -/

theorem sizeOfInt_toNat (r : Int32) : ((sizeOfInt r).toNat : Int) = r.toInt % 2 ^ 64 := by
  have hwide : r.toInt64.toInt = r.toInt := Int32.toInt_toInt64 r
  have hlt := r.toInt64.toBitVec.isLt
  rw [← hwide]
  show (r.toInt64.toBitVec.toNat : Int) = r.toInt64.toBitVec.toInt % 2 ^ 64
  rw [BitVec.toInt_eq_toNat_cond]
  split <;> omega

theorem sizeOfInt_of_pos {r : Int32} (h : 0 < r) :
    (sizeOfInt r).toNat = r.toInt.toNat ∧ 0 < r.toInt := by
  have hpos : 0 < r.toInt := Int32.lt_iff_toInt_lt.mp h
  have hsize := sizeOfInt_toNat r
  have hlt := Int32.toInt_lt r
  omega

theorem sizeOfInt_of_neg {r : Int32} (h : r < 0) :
    ((sizeOfInt r).toNat : Int) = 2 ^ 64 + r.toInt ∧ r.toInt < 0 := by
  have hneg : r.toInt < 0 := Int32.lt_iff_toInt_lt.mp h
  have hsize := sizeOfInt_toNat r
  have hle := Int32.le_toInt r
  omega

theorem intOfSize_toInt {n : UInt64} (h : n.toNat < 2 ^ 31) : (intOfSize n).toInt = n.toNat := by
  have hnat : n.toUInt32.toBitVec.toNat = n.toNat := by
    show n.toUInt32.toNat = n.toNat
    rw [UInt64.toNat_toUInt32]
    omega
  show n.toUInt32.toBitVec.toInt = n.toNat
  rw [BitVec.toInt_eq_toNat_cond, hnat, if_pos (by omega)]

/-! ## the loop -/

section
variable {A : Type} {move : A → Int32 → A} {place : A} {at_ : A → Nat} {len : UInt64}
  {results : Nat → Int32}

/-- the place follows the positive results -/
structure Follows (move : A → Int32 → A) (at_ : A → Nat) (place : A) (len : UInt64) : Prop where
  start : at_ place = 0
  step : ∀ a r, 0 < r → at_ a + r.toInt.toNat ≤ len.toNat →
    at_ (move a r) = at_ a + r.toInt.toNat

theorem moved_succ (results : Nat → Int32) (n : Nat) :
    moved results (n + 1) = moved results n + (results n).toInt.toNat := by
  rw [moved, Finset.sum_range_succ, ← moved]

theorem body_of_pos (move : A → Int32 → A) (len : UInt64) {r : Int32} (hr : 0 < r)
    {left : UInt64} (hle : r.toInt.toNat ≤ left.toNat) (a : A) :
    body move len r (.calling a left) = again len (move a r) (left - sizeOfInt r)
      ∧ (left - sizeOfInt r).toNat = left.toNat - r.toInt.toNat := by
  obtain ⟨hsize, hpos⟩ := sizeOfInt_of_pos hr
  have hnot : ¬ sizeOfInt r ≤ 0 := by
    rw [UInt64.le_iff_toNat_le, hsize]
    show ¬ r.toInt.toNat ≤ 0
    omega
  refine ⟨if_neg hnot, ?_⟩
  rw [UInt64.toNat_sub_of_le _ _ (by rw [UInt64.le_iff_toNat_le]; omega), hsize]

/-- **As long as the results are positive and do not reach `len`, the next call is made for the
rest.** -/
theorem calling_of_pos (hmove : Follows move at_ place len) (n : Nat)
    (hpos : ∀ j < n, 0 < results j) (hsum : moved results n < len.toNat) :
    ∃ a left, fixSize move place len results n = .calling a left ∧ at_ a = moved results n
      ∧ at_ a + left.toNat = len.toNat := by
  induction n with
  | zero =>
    have hlen : len > 0 := by
      rw [gt_iff_lt, UInt64.lt_iff_toNat_lt]
      exact Nat.lt_of_le_of_lt (Nat.zero_le _) hsum
    refine ⟨place, len, if_pos hlen, ?_, ?_⟩
    · rw [hmove.start]
      rfl
    · rw [hmove.start, Nat.zero_add]
  | succ n ih =>
    have hsucc := moved_succ results n
    obtain ⟨a, left, hrun, hat, hleft⟩ := ih (fun j hj => hpos j (by omega)) (by omega)
    obtain ⟨hbody, hrest⟩ := body_of_pos move len (hpos n (by omega))
      (show (results n).toInt.toNat ≤ left.toNat by omega) a
    have hplace := hmove.step a (results n) (hpos n (by omega)) (by omega)
    have hagain : left - sizeOfInt (results n) > 0 := by
      rw [gt_iff_lt, UInt64.lt_iff_toNat_lt, hrest]
      show 0 < _
      omega
    refine ⟨move a (results n), left - sizeOfInt (results n), ?_, by omega, by omega⟩
    show body move len (results n) (fixSize move place len results n) = _
    rw [hrun, hbody]
    exact if_pos hagain

/-- the results that are not followed by another call -/
def Stops (len : UInt64) (results : Nat → Int32) (n : Nat) : Prop :=
  ¬ 0 < results n ∨ len.toNat ≤ moved results (n + 1)

/-- positive results that reach `len` at last -/
theorem exists_stops (results : Nat → Int32) (hlen : 0 < len.toNat) :
    ∃ n, Stops len results n ∧ (∀ j < n, 0 < results j) ∧ moved results n < len.toNat := by
  classical
  have hex : ∃ n, Stops len results n := by
    by_contra hnone
    have hall : ∀ n, 0 < results n ∧ moved results (n + 1) < len.toNat := by
      intro n
      have hn : ¬ Stops len results n := fun h => hnone ⟨n, h⟩
      rw [Stops, not_or, not_not, not_le] at hn
      exact hn
    have hgrow : ∀ n, n ≤ moved results n := by
      intro n
      induction n with
      | zero => exact Nat.zero_le _
      | succ n ih =>
        have hn := (sizeOfInt_of_pos (hall n).1).2
        rw [moved_succ]
        omega
    have hlast := (hall len.toNat).2
    have hge := hgrow (len.toNat + 1)
    omega
  refine ⟨Nat.find hex, Nat.find_spec hex, fun j hj => ?_, ?_⟩
  · have hn := Nat.find_min hex hj
    rw [Stops, not_or, not_not] at hn
    exact hn.1
  · cases hfind : Nat.find hex with
    | zero => exact hlen
    | succ m =>
      have hm := Nat.find_min hex (m := m) (by omega)
      rw [Stops, not_or, not_le] at hm
      exact hm.2

/-- the result at which the loop stops, if it is not negative -/
theorem transfers_of_stops (hmove : Follows move at_ place len) (hlen : len.toNat < 2 ^ 31)
    (hbound : Bounded (fixSize move place len results) results) {n : Nat}
    (hstop : Stops len results n) (hpos : ∀ j < n, 0 < results j)
    (hsum : moved results n < len.toNat) (hok : 0 ≤ results n) :
    Transfers at_ len results (fixSize move place len results) := by
  have hcalls : ∀ i < n + 1, ∃ a left, fixSize move place len results i = .calling a left
      ∧ at_ a = moved results i ∧ at_ a + left.toNat = len.toNat := by
    intro i hi
    refine calling_of_pos hmove i (fun j hj => hpos j (by omega)) ?_
    refine Nat.lt_of_le_of_lt ?_ hsum
    exact Finset.sum_le_sum_of_subset (Finset.range_subset_range.mpr (by omega))
  obtain ⟨a, left, hrun, hat, hleft⟩ := hcalls n (by omega)
  have hnext : fixSize move place len results (n + 1)
      = body move len (results n) (.calling a left) := by
    show body move len (results n) (fixSize move place len results n) = _
    rw [hrun]
  by_cases hn : 0 < results n
  · have hge : len.toNat ≤ moved results (n + 1) := hstop.resolve_left (not_not.mpr hn)
    have hsucc := moved_succ results n
    have hle := hbound n a left hrun
    obtain ⟨hbody, hrest⟩ := body_of_pos move len hn
      (show (results n).toInt.toNat ≤ left.toNat by omega) a
    have hdone : ¬ left - sizeOfInt (results n) > 0 := by
      rw [gt_iff_lt, UInt64.lt_iff_toNat_lt, hrest]
      show ¬ 0 < _
      omega
    refine ⟨n + 1, intOfSize len, ?_, hcalls, .inl ⟨intOfSize_toInt hlen, by omega, fun j hj => ?_⟩⟩
    · rw [hnext, hbody]
      exact if_neg hdone
    · by_cases hjn : j = n
      · rw [hjn]
        exact hn
      · exact hpos j (by omega)
  · have hzero : results n = 0 := Int32.le_antisymm (Int32.not_lt.mp hn) hok
    refine ⟨n + 1, 0, ?_, hcalls, .inr ⟨n, rfl, hzero.symm, Int32.not_lt.mp hn, hpos⟩⟩
    rw [hnext, hzero]
    rfl

theorem calling_of_neg {a : A} {left : UInt64} (hleft : left.toNat < 2 ^ 31) {r : Int32}
    (hr : r < 0) : body move len r (.calling a left) = .calling (move a r) (left - sizeOfInt r) := by
  obtain ⟨hsize, hneg⟩ := sizeOfInt_of_neg hr
  have hmin := Int32.le_toInt r
  have hnot : ¬ sizeOfInt r ≤ 0 := by
    rw [UInt64.le_iff_toNat_le]
    show ¬ (sizeOfInt r).toNat ≤ 0
    omega
  have hagain : left - sizeOfInt r > 0 := by
    rw [gt_iff_lt, UInt64.lt_iff_toNat_lt, UInt64.toNat_sub]
    show 0 < _
    omega
  exact (if_neg hnot).trans (if_pos hagain)

theorem returned_of_le {n m : Nat} (hnm : n ≤ m) {v : Int32}
    (h : fixSize move place len results n = .returned v) :
    fixSize move place len results m = .returned v := by
  induction m, hnm using Nat.le_induction with
  | base => exact h
  | succ m _ ih =>
    show body move len (results m) (fixSize move place len results m) = _
    rw [ih]
    rfl

/-- **The loop transfers exactly when no result is negative before `len` is reached.** -/
theorem transfers_iff (hmove : Follows move at_ place len) (hlen : len.toNat < 2 ^ 31)
    (hbound : Bounded (fixSize move place len results) results) :
    Transfers at_ len results (fixSize move place len results) ↔ NoError len results := by
  constructor
  · rintro ⟨n, v, hv, hcalls, hend⟩ m hpos hsum
    by_contra hneg
    rw [Int32.not_le] at hneg
    obtain ⟨a, left, hrun, hat, hleft⟩ := calling_of_pos hmove m hpos hsum
    have hnext : fixSize move place len results (m + 1)
        = .calling (move a (results m)) (left - sizeOfInt (results m)) := by
      show body move len (results m) (fixSize move place len results m) = _
      rw [hrun]
      exact calling_of_neg (by omega) hneg
    have hlate : m + 1 < n := by
      by_contra hge
      rw [returned_of_le (Nat.not_lt.mp hge) hv] at hnext
      cases hnext
    have hnotpos : ¬ 0 < results m := Int32.not_lt.mpr (Int32.le_of_lt hneg)
    rcases hend with ⟨_, _, hall⟩ | ⟨k, hk, _, _, hall⟩
    · exact hnotpos (hall m (by omega))
    · exact hnotpos (hall m (by omega))
  · intro hok
    by_cases hzero : len.toNat = 0
    · have hnot : ¬ len > 0 := by
        rw [gt_iff_lt, UInt64.lt_iff_toNat_lt, hzero]
        exact Nat.lt_irrefl 0
      refine ⟨0, intOfSize len, if_neg hnot, fun i hi => absurd hi (Nat.not_lt_zero i), .inl ?_⟩
      exact ⟨intOfSize_toInt hlen, hzero.symm, fun j hj => absurd hj (Nat.not_lt_zero j)⟩
    · obtain ⟨n, hstop, hpos, hsum⟩ := exists_stops results (Nat.pos_of_ne_zero hzero)
      exact transfers_of_stops hmove hlen hbound hstop hpos hsum (hok n hpos hsum)

end

theorem follows_offset (len : UInt64) : Follows moveOffset UInt64.toNat 0 len := by
  refine ⟨rfl, fun a r hr hle => ?_⟩
  obtain ⟨hsize, _⟩ := sizeOfInt_of_pos hr
  have hlen := len.toNat_lt
  rw [moveOffset, UInt64.toNat_add, hsize]
  omega

theorem follows_position (len : UInt64) : Follows movePosition id 0 len :=
  ⟨rfl, fun a r hr _ => if_pos hr⟩

/-- **Each of the four functions moves consecutive parts of its `len` bytes, and returns what it
should, with exactly the results of which none is negative before `len` is reached.** -/
theorem fixSize_iff (len : UInt64) (hlen : len.toNat < 2 ^ 31) (results : Nat → Int32) :
    (Bounded (readFixSizeBuffer len results) results →
        (Transfers UInt64.toNat len results (readFixSizeBuffer len results)
          ↔ NoError len results))
      ∧ (Bounded (readFixSizeByteArray len results) results →
        (Transfers id len results (readFixSizeByteArray len results) ↔ NoError len results))
      ∧ (Bounded (writeFixSizeBuffer len results) results →
        (Transfers UInt64.toNat len results (writeFixSizeBuffer len results)
          ↔ NoError len results))
      ∧ (Bounded (writeFixSizeByteArray len results) results →
        (Transfers id len results (writeFixSizeByteArray len results) ↔ NoError len results)) :=
  ⟨transfers_iff (follows_offset len) hlen, transfers_iff (follows_position len) hlen,
    transfers_iff (follows_offset len) hlen, transfers_iff (follows_position len) hlen⟩

def twoParts (i : Nat) : Int32 := if i = 0 then 3 else 2

theorem bounded_twoParts {A : Type} {move : A → Int32 → A} {place : A} :
    Bounded (fixSize move place 5 twoParts) twoParts := by
  have hdone : fixSize move place 5 twoParts 2 = .returned 5 := rfl
  intro i a left hrun
  by_cases hi : 2 ≤ i
  · rw [returned_of_le hi hdone] at hrun
    cases hrun
  obtain hi | hi : i = 0 ∨ i = 1 := by omega
  · subst hi
    obtain ⟨_, rfl⟩ := Phase.calling.inj (show Phase.calling place 5 = .calling a left from hrun)
    decide
  · subst hi
    obtain ⟨_, rfl⟩ := Phase.calling.inj
      (show Phase.calling (move place 3) 2 = .calling a left from hrun)
    decide

theorem fixSize_iff_twoParts :
    (Transfers UInt64.toNat 5 twoParts (readFixSizeBuffer 5 twoParts) ↔ NoError 5 twoParts)
      ∧ (Transfers id 5 twoParts (readFixSizeByteArray 5 twoParts) ↔ NoError 5 twoParts)
      ∧ (Transfers UInt64.toNat 5 twoParts (writeFixSizeBuffer 5 twoParts) ↔ NoError 5 twoParts)
      ∧ (Transfers id 5 twoParts (writeFixSizeByteArray 5 twoParts) ↔ NoError 5 twoParts) :=
  ⟨(fixSize_iff 5 (by decide) twoParts).1 bounded_twoParts,
    (fixSize_iff 5 (by decide) twoParts).2.1 bounded_twoParts,
    (fixSize_iff 5 (by decide) twoParts).2.2.1 bounded_twoParts,
    (fixSize_iff 5 (by decide) twoParts).2.2.2 bounded_twoParts⟩

/-- **After an error the next call is made for 6 bytes in front of the buffer of 5.** -/
theorem error_ignored : ¬ ∀ (len : UInt64) (results : Nat → Int32), len.toNat < 2 ^ 31 →
    Bounded (readFixSizeBuffer len results) results →
    Transfers UInt64.toNat len results (readFixSizeBuffer len results) := by
  intro h
  have hbound : Bounded (readFixSizeBuffer 5 fun i => if i = 0 then -1 else 0)
      fun i => if i = 0 then -1 else 0 := by
    intro i a left _
    dsimp only
    split
    · exact Int.le_trans (show (-1 : Int32).toInt ≤ 0 by decide) (Int.natCast_nonneg _)
    · exact Int.natCast_nonneg left.toNat
  have hok := (transfers_iff (follows_offset 5) (by decide) hbound).mp (h 5 _ (by decide) hbound)
  exact absurd (hok 0 (fun j hj => absurd hj (Nat.not_lt_zero j)) (by decide)) (by decide)

end Stream
end KitServer
