import KitServer.Stream.FixSize

/-!
# The loops of `Stream` after any results

Behind a negative result the loop goes on, with more bytes left than before.

* `Reaches`       nothing is left, for the first time;
* `phase_cases`   where the loop is after any results;
* `AllWritten`    every call up to the end is positive;
* `reaches_of_allWritten`, `neg_of_not_allWritten`.
-/

set_option linter.unusedVariables false

namespace KitServer
namespace Stream

/-- the sum of the first `n` results, the negative ones too -/
def total (results : Nat → Int32) (n : Nat) : Int :=
  ∑ j ∈ Finset.range n, (results j).toInt

def Hit (len : UInt64) (results : Nat → Int32) (n : Nat) : Prop :=
  ((len.toNat : Int) - total results n) % 2 ^ 64 = 0

/-- after `n` results, for the first time, and without a 0 before -/
structure Reaches (len : UInt64) (results : Nat → Int32) (n : Nat) : Prop where
  hit : Hit len results n
  first : ∀ j < n, ¬ Hit len results j
  nonzero : ∀ j < n, results j ≠ 0

section
variable {A : Type} {move : A → Int32 → A} {place : A} {at_ : A → Nat} {len : UInt64}
  {results : Nat → Int32}

theorem total_succ (results : Nat → Int32) (n : Nat) :
    total results (n + 1) = total results n + (results n).toInt := by
  rw [total, Finset.sum_range_succ, ← total]

theorem sub_sizeOfInt_toNat (left : UInt64) (r : Int32) :
    ((left - sizeOfInt r).toNat : Int) = ((left.toNat : Int) - r.toInt) % 2 ^ 64 := by
  have hsize := sizeOfInt_toNat r
  have hleft := left.toNat_lt
  have hr := (sizeOfInt r).toNat_lt
  rw [UInt64.toNat_sub]
  omega

theorem sizeOfInt_le_zero (r : Int32) : sizeOfInt r ≤ 0 ↔ r = 0 := by
  have hsize := sizeOfInt_toNat r
  have hlt := Int32.toInt_lt r
  have hle := Int32.le_toInt r
  rw [UInt64.le_iff_toNat_le]
  constructor
  · intro h
    have hzero : r.toInt = 0 := by
      have h0 : (sizeOfInt r).toNat ≤ 0 := h
      omega
    exact Int32.toInt_inj.mp hzero
  · rintro rfl
    decide

/-- where the loop is after `n` results -/
theorem phase_cases (move : A → Int32 → A) (place : A) (len : UInt64) (results : Nat → Int32)
    (n : Nat) :
    (∃ a left, fixSize move place len results n = .calling a left ∧
      (left.toNat : Int) = ((len.toNat : Int) - total results n) % 2 ^ 64 ∧
      (∀ j ≤ n, ¬ Hit len results j) ∧ ∀ j < n, results j ≠ 0) ∨
    (fixSize move place len results n = .returned (intOfSize len) ∧
      ∃ k ≤ n, Reaches len results k) ∨
    fixSize move place len results n = .returned 0 ∧ ∃ k < n, results k = 0 ∧
      ∀ j ≤ k, ¬ Hit len results j := by
  have hagain : ∀ (a : A) (left : UInt64) (n : Nat), (∀ j < n, ¬ Hit len results j) →
      (∀ j < n, results j ≠ 0) →
      (left.toNat : Int) = ((len.toNat : Int) - total results n) % 2 ^ 64 →
      (again len a left = .calling a left ∧ ∀ j ≤ n, ¬ Hit len results j) ∨
        (again len a left = .returned (intOfSize len) ∧ Reaches len results n) := by
    intro a left n hno hne hleft
    by_cases hpos : left > 0
    · refine .inl ⟨if_pos hpos, fun j hj => ?_⟩
      rcases Nat.lt_or_eq_of_le hj with hj | rfl
      · exact hno j hj
      · intro hhit
        rw [gt_iff_lt, UInt64.lt_iff_toNat_lt] at hpos
        have hzero : (left.toNat : Int) = 0 := hleft.trans hhit
        exact absurd hpos (by show ¬ 0 < left.toNat; omega)
    · refine .inr ⟨if_neg hpos, ?_, hno, hne⟩
      have hzero : left.toNat = 0 := by
        rw [gt_iff_lt, UInt64.lt_iff_toNat_lt] at hpos
        have hnot : ¬ 0 < left.toNat := hpos
        omega
      rw [Hit, ← hleft, hzero]
      rfl
  induction n with
  | zero =>
    have hleft : (len.toNat : Int) = ((len.toNat : Int) - total results 0) % 2 ^ 64 := by
      have hlt := len.toNat_lt
      rw [total, Finset.sum_range_zero]
      omega
    rcases hagain place len 0 (fun j hj => by omega) (fun j hj => by omega) hleft with h | h
    · exact .inl ⟨place, len, h.1, hleft, h.2, fun j hj => by omega⟩
    · exact .inr (.inl ⟨h.1, 0, Nat.le_refl 0, h.2⟩)
  | succ n ih =>
    have hstep : fixSize move place len results (n + 1)
        = body move len (results n) (fixSize move place len results n) := rfl
    rcases ih with ⟨a, left, hrun, hleft, hno, hne⟩ | ⟨hrun, k, hk, hreach⟩ |
      ⟨hrun, k, hk, hzero, hno⟩
    · rw [hrun] at hstep
      by_cases hr : results n = 0
      · refine .inr (.inr ⟨?_, n, Nat.lt_succ_self n, hr, hno⟩)
        rw [hstep, hr]
        rfl
      · have hbody : body move len (results n) (.calling a left)
            = again len (move a (results n)) (left - sizeOfInt (results n)) :=
          if_neg fun h => hr ((sizeOfInt_le_zero _).mp h)
        have hnext : ((left - sizeOfInt (results n)).toNat : Int)
            = ((len.toNat : Int) - total results (n + 1)) % 2 ^ 64 := by
          rw [sub_sizeOfInt_toNat, hleft, total_succ]
          omega
        have hne' : ∀ j < n + 1, results j ≠ 0 := by
          intro j hj
          rcases Nat.lt_succ_iff_lt_or_eq.mp hj with hj | rfl
          · exact hne j hj
          · exact hr
        rcases hagain (move a (results n)) _ (n + 1) (fun j hj => hno j (by omega)) hne' hnext
          with h | h
        · exact .inl ⟨_, _, hstep.trans (hbody.trans h.1), hnext, h.2, hne'⟩
        · exact .inr (.inl ⟨hstep.trans (hbody.trans h.1), n + 1, Nat.le_refl _, h.2⟩)
    · rw [hrun] at hstep
      exact .inr (.inl ⟨hstep, k, by omega, hreach⟩)
    · rw [hrun] at hstep
      exact .inr (.inr ⟨hstep, k, by omega, hzero, hno⟩)

theorem returned_of_reaches {n : Nat} (h : Reaches len results n) :
    fixSize move place len results n = .returned (intOfSize len) := by
  rcases phase_cases move place len results n with
    ⟨a, left, -, -, hno, -⟩ | ⟨hrun, -⟩ | ⟨-, k, hk, hzero, -⟩
  · exact absurd h.hit (hno n (Nat.le_refl n))
  · exact hrun
  · exact absurd hzero (h.nonzero k hk)

theorem reaches_of_neg {n : Nat} {v : Int32} (hv : v < 0)
    (h : fixSize move place len results n = .returned v) :
    v = intOfSize len ∧ ∃ k, Reaches len results k := by
  rcases phase_cases move place len results n with
    ⟨a, left, hrun, -⟩ | ⟨hrun, k, -, hreach⟩ | ⟨hrun, -⟩
  · rw [hrun] at h
    cases h
  · rw [hrun] at h
    cases h
    exact ⟨rfl, k, hreach⟩
  · rw [hrun] at h
    cases h
    exact absurd hv (by decide)

theorem returned_unique {n m : Nat} {v w : Int32}
    (hv : fixSize move place len results n = .returned v)
    (hw : fixSize move place len results m = .returned w) : v = w := by
  have hmax := returned_of_le (Nat.le_max_left n m) hv
  rw [returned_of_le (Nat.le_max_right n m) hw] at hmax
  exact (Phase.returned.inj hmax).symm

/-! ## the writes that succeed -/

/-- as long as something is left, the next write is positive -/
def AllWritten (len : UInt64) (results : Nat → Int32) : Prop :=
  ∀ n, (∀ j < n, 0 < results j) → moved results n < len.toNat → 0 < results n

theorem total_eq_moved {n : Nat} (h : ∀ j < n, 0 < results j) :
    total results n = moved results n := by
  induction n with
  | zero => rfl
  | succ n ih =>
    have hpos := (sizeOfInt_of_pos (h n (Nat.lt_succ_self n))).2
    rw [total_succ, moved_succ, ih fun j hj => h j (by omega)]
    omega

theorem hit_iff {n : Nat} (h : ∀ j < n, 0 < results j) (hle : moved results n ≤ len.toNat) :
    Hit len results n ↔ moved results n = len.toNat := by
  have hlt := len.toNat_lt
  rw [Hit, total_eq_moved h]
  omega

section
variable (hmove : Follows move at_ place len)
  (hbound : Bounded (fixSize move place len results) results)
include hmove hbound

theorem moved_le {n : Nat} (hpos : ∀ j < n, 0 < results j) (hsum : moved results n < len.toNat) :
    moved results (n + 1) ≤ len.toNat := by
  obtain ⟨a, left, hrun, hat, hleft⟩ := calling_of_pos hmove n hpos hsum
  have hle := hbound n a left hrun
  rw [moved_succ]
  omega

theorem reaches_of_allWritten (h : AllWritten len results) : ∃ n, Reaches len results n := by
  by_cases hzero : len.toNat = 0
  · refine ⟨0, ?_, fun j hj => by omega, fun j hj => by omega⟩
    rw [Hit, hzero]
    rfl
  · obtain ⟨n, hstop, hpos, hsum⟩ := exists_stops results (Nat.pos_of_ne_zero hzero)
    have hn := h n hpos hsum
    have hge : len.toNat ≤ moved results (n + 1) := hstop.resolve_left (not_not.mpr hn)
    have hle := moved_le hmove hbound hpos hsum
    have hpos' : ∀ j < n + 1, 0 < results j := by
      intro j hj
      rcases Nat.lt_succ_iff_lt_or_eq.mp hj with hj | rfl
      · exact hpos j hj
      · exact hn
    refine ⟨n + 1, (hit_iff hpos' hle).mpr (Nat.le_antisymm hle hge), fun j hj hhit => ?_,
      fun j hj hzero => ?_⟩
    · have hsub : moved results j ≤ moved results n :=
        Finset.sum_le_sum_of_subset (Finset.range_subset_range.mpr (by omega))
      have heq := (hit_iff (fun i hi => hpos' i (by omega)) (by omega)).mp hhit
      omega
    · have hp := hpos' j hj
      rw [hzero] at hp
      exact absurd hp (by decide)

theorem pos_of_allWritten (h : AllWritten len results) {n : Nat} (hreach : Reaches len results n)
    (k : Nat) (hk : k ≤ n) : (∀ j < k, 0 < results j) ∧ moved results k ≤ len.toNat := by
  induction k with
  | zero => exact ⟨fun j hj => by omega, Nat.zero_le _⟩
  | succ k ih =>
    obtain ⟨hpos, hle⟩ := ih (by omega)
    have hne : moved results k ≠ len.toNat := fun heq =>
      hreach.first k (by omega) ((hit_iff hpos hle).mpr heq)
    have hsum : moved results k < len.toNat := by omega
    refine ⟨fun j hj => ?_, moved_le hmove hbound hpos hsum⟩
    rcases Nat.lt_succ_iff_lt_or_eq.mp hj with hj | rfl
    · exact hpos j hj
    · exact h j hpos hsum

end

theorem neg_of_not_allWritten (h : ¬ AllWritten len results) {n : Nat}
    (hreach : Reaches len results n) : ∃ j < n, results j < 0 := by
  rw [AllWritten] at h
  simp only [not_forall] at h
  obtain ⟨m, hpos, hsum, hm⟩ := h
  have hno : ∀ j ≤ m, ¬ Hit len results j := by
    intro j hj hhit
    have hsub : moved results j ≤ moved results m :=
      Finset.sum_le_sum_of_subset (Finset.range_subset_range.mpr hj)
    have heq := (hit_iff (fun i hi => hpos i (by omega)) (by omega)).mp hhit
    omega
  have hlt : m < n := by
    by_contra hge
    exact hno n (by omega) hreach.hit
  refine ⟨m, hlt, ?_⟩
  rcases Int32.lt_or_eq_of_le (Int32.not_lt.mp hm) with hneg | hzero
  · exact hneg
  · exact absurd hzero (hreach.nonzero m hlt)

end
end Stream
end KitServer
