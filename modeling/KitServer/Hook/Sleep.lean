import Mathlib
import KitServer.Timer.Operations

/-!
# The hooked `sleep`, `usleep` and `nanosleep`

Each of them converts its argument to milliseconds, in the integer types of the source, and adds a
timer whose callback schedules the coroutine again.

* `sleep`, `usleep`, `nanosleep`   what a call does;
* `Outcome.LongEnough`      the timer waits at least as long as was asked for;
* `LongEnough.resumed`      then no reading of the clock at which it is due is too early;
* `sleeps_iff`          the calls of which that is true.
-/

set_option linter.unusedVariables false

namespace KitServer.Hook
open Timers
variable {Cb : Type}

/-! ## the code -/

/-- the call of the system, or a timer with the coroutine on hold; else a signed overflow -/
inductive Outcome (Cb : Type) where
  | system
  | armed (timer : Timer Cb)
  | overflow

structure Timespec where
  tv_sec : Int64
  tv_nsec : Int64

/-- the result of an operation on `long` -/
def long (x : Int) : Option Int := if -2 ^ 63 ≤ x ∧ x < 2 ^ 63 then some x else none

/-- `t->tv_sec * 1000 + t->tv_nsec / 1000 / 1000` as an `uint64_t` -/
def Timespec.toMs (t : Timespec) : Option UInt64 := do
  let sec ← long (t.tv_sec.toInt * 1000)
  let ms ← long (sec + (t.tv_nsec.toInt.tdiv 1000).tdiv 1000)
  return UInt64.ofInt ms

def EINTR : Int := 4

section
variable (t_hook_enable : Bool) (now_ms : UInt64) (cor : Cb)

/-- `addTimer(ms, …)` and `YieldToHold()` -/
def addTimer (ms : UInt64) : Outcome Cb := .armed (Timer.new ms (some cor) false now_ms)

def sleep (secends : UInt32) : Outcome Cb :=
  if !t_hook_enable then .system
  else addTimer now_ms cor (secends * 1000).toUInt64

def usleep (usec : UInt32) : Outcome Cb :=
  if !t_hook_enable then .system
  else addTimer now_ms cor (usec / 1000).toUInt64

def nanosleep (errno : Int) (req : Timespec) (rem : Option Timespec) : Outcome Cb :=
  if !t_hook_enable then .system
  else
    let ms : Option UInt64 :=
      if errno = EINTR then
        match rem with
        | some rem => rem.toMs
        | none => some 0
      else req.toMs
    match ms with
    | some ms => addTimer now_ms cor ms
    | none => .overflow

end

/-! ## what was asked for -/

/-- a duration in milliseconds, rounded up -/
def ceilMs (ns : Nat) : Nat := (ns + 999999) / 1000000

/-- a call at the time `now_ms` waits for at least `ns` nanoseconds -/
def Outcome.LongEnough (now_ms : UInt64) (ns : Nat) : Outcome Cb → Prop
  | .system => True
  | .armed timer =>
    ceilMs ns ≤ timer.ms.toNat ∧ now_ms.toNat + ceilMs ns ≤ timer.next.toNat
  | .overflow => False

/-- an argument `req` that `nanosleep` admits -/
structure Interval extends Timespec where
  sec_nonneg : 0 ≤ tv_sec.toInt
  nsec_nonneg : 0 ≤ tv_nsec.toInt
  nsec_lt : tv_nsec.toInt < 1000000000

def Interval.ns (req : Interval) : Nat :=
  req.tv_sec.toInt.toNat * 1000000000 + req.tv_nsec.toInt.toNat

/-- the milliseconds of a `timespec`; what is left of the nanoseconds is cut -/
def Timespec.millis (t : Timespec) : Int := t.tv_sec.toInt * 1000 + t.tv_nsec.toInt.tdiv 1000000

/-- no operation on `long` overflows -/
def Timespec.Fits (t : Timespec) : Prop :=
  (-2 ^ 63 ≤ t.tv_sec.toInt * 1000 ∧ t.tv_sec.toInt * 1000 < 2 ^ 63) ∧
    -2 ^ 63 ≤ t.millis ∧ t.millis < 2 ^ 63

/-- the same as a number of `uint64_t` -/
def Timespec.unsigned (t : Timespec) : Nat := (t.millis % 2 ^ 64).toNat

/-- the calls of `nanosleep` that wait long enough -/
def NanosleepMet (now_ms : UInt64) (errno : Int) (req : Interval) (rem : Option Timespec) : Prop :=
  if errno = EINTR then
    match rem with
    | some rem =>
      rem.Fits ∧ ceilMs req.ns ≤ rem.unsigned ∧ now_ms.toNat + rem.unsigned < 2 ^ 64
    | none => req.ns = 0
  else
    req.Fits ∧ 1000000 ∣ req.tv_nsec.toInt ∧ now_ms.toNat + req.ns / 1000000 < 2 ^ 64

/-! ## the timer -/

theorem ceilMs_le (ns ms : Nat) : ceilMs ns ≤ ms ↔ ns ≤ ms * 1000000 := by
  rw [ceilMs]
  omega

/-- **A timer that waits long enough** resumes the coroutine at no reading of the clock that is
too early. -/
theorem Outcome.LongEnough.resumed {now_ms : UInt64} {ns : Nat} {timer : Timer Cb}
    (h : (Outcome.armed timer).LongEnough now_ms ns) (reading : UInt64) (hdue : timer.next ≤ reading) :
    now_ms.toNat * 1000000 + ns ≤ reading.toNat * 1000000 := by
  have hnext : now_ms.toNat + ceilMs ns ≤ timer.next.toNat := h.2
  have hreading : timer.next.toNat ≤ reading.toNat := UInt64.le_iff_toNat_le.mp hdue
  have hceil := (ceilMs_le ns (ceilMs ns)).mp le_rfl
  omega

theorem addTimer_longEnough (now_ms : UInt64) (cor : Cb) (ms : UInt64) (ns : Nat) :
    (addTimer now_ms cor ms).LongEnough now_ms ns ↔
      ns ≤ ms.toNat * 1000000 ∧ now_ms.toNat + ms.toNat < 2 ^ 64 := by
  have hnow := now_ms.toNat_lt
  have hms := ms.toNat_lt
  show ceilMs ns ≤ ms.toNat ∧ now_ms.toNat + ceilMs ns ≤ (now_ms + ms).toNat ↔ _
  rw [UInt64.toNat_add, ← ceilMs_le]
  constructor
  · rintro ⟨hceil, hnext⟩
    refine ⟨hceil, ?_⟩
    by_contra hwrap
    have hmod : (now_ms.toNat + ms.toNat) % 2 ^ 64 = now_ms.toNat + ms.toNat - 2 ^ 64 := by omega
    omega
  · rintro ⟨hceil, hfits⟩
    rw [Nat.mod_eq_of_lt hfits]
    exact ⟨hceil, by omega⟩

/-! ## the conversions -/

theorem sleep_ms (secends : UInt32) :
    (secends * 1000).toUInt64.toNat = secends.toNat * 1000 % 2 ^ 32 := by
  rw [UInt32.toNat_toUInt64, UInt32.toNat_mul]
  rfl

theorem usleep_ms (usec : UInt32) : (usec / 1000).toUInt64.toNat = usec.toNat / 1000 := by
  rw [UInt32.toNat_toUInt64, UInt32.toNat_div]
  rfl

theorem long_some {x y : Int} : long x = some y ↔ (-2 ^ 63 ≤ x ∧ x < 2 ^ 63) ∧ x = y := by
  rw [long]
  split_ifs with h
  · exact ⟨fun hsome => ⟨h, Option.some.inj hsome⟩, fun heq => congrArg some heq.2⟩
  · exact ⟨fun hnone => absurd hnone (by simp), fun hsome => absurd hsome.1 h⟩

theorem tdiv_twice (x : Int) : (x.tdiv 1000).tdiv 1000 = x.tdiv 1000000 := by
  have hnat (n : Nat) : ((n : Int).tdiv 1000).tdiv 1000 = (n : Int).tdiv 1000000 := by
    have hn : (0 : Int) ≤ n := Int.natCast_nonneg n
    have hfirst : (n : Int).tdiv 1000 = (n : Int) / 1000 := Int.tdiv_eq_ediv_of_nonneg hn
    rw [hfirst, Int.tdiv_eq_ediv_of_nonneg hn, Int.tdiv_eq_ediv_of_nonneg (by omega)]
    omega
  obtain ⟨n, rfl | rfl⟩ := Int.eq_nat_or_neg x
  · exact hnat n
  · rw [Int.neg_tdiv, Int.neg_tdiv, Int.neg_tdiv, hnat n]

theorem toMs_some (t : Timespec) (ms : UInt64) :
    t.toMs = some ms ↔ t.Fits ∧ ms = UInt64.ofInt t.millis := by
  simp only [Timespec.toMs, Option.bind_eq_bind, Option.bind_eq_some_iff, long_some, tdiv_twice]
  constructor
  · rintro ⟨sec, ⟨hsec, rfl⟩, sum, ⟨hsum, rfl⟩, hms⟩
    exact ⟨⟨hsec, hsum⟩, (Option.some.inj hms).symm⟩
  · rintro ⟨⟨hsec, hsum⟩, rfl⟩
    exact ⟨_, ⟨hsec, rfl⟩, _, ⟨hsum, rfl⟩, rfl⟩

theorem toMs_unsigned (t : Timespec) : (UInt64.ofInt t.millis).toNat = t.unsigned := by
  have hpos : 0 ≤ t.millis % 2 ^ 64 := Int.emod_nonneg _ (by decide)
  have hlt : t.millis % 2 ^ 64 < 2 ^ 64 := Int.emod_lt_of_pos _ (by decide)
  exact UInt64.toNat_ofNat_of_lt' (by rw [UInt64.size]; omega)

theorem converted_longEnough (now_ms : UInt64) (cor : Cb) (t : Timespec) (ns : Nat) :
    Outcome.LongEnough now_ms ns
        (match t.toMs with
        | some ms => addTimer now_ms cor ms
        | none => .overflow) ↔
      t.Fits ∧ ns ≤ t.unsigned * 1000000 ∧ now_ms.toNat + t.unsigned < 2 ^ 64 := by
  cases h : t.toMs with
  | none =>
    have hfits : ¬ t.Fits := by
      intro hfits
      rw [(toMs_some t _).mpr ⟨hfits, rfl⟩] at h
      cases h
    simp [Outcome.LongEnough, hfits]
  | some ms =>
    obtain ⟨hfits, rfl⟩ := (toMs_some t ms).mp h
    simp only [addTimer_longEnough, toMs_unsigned, hfits, true_and]

theorem Interval.unsigned_eq (req : Interval) (hfits : req.Fits) :
    req.unsigned = req.ns / 1000000 := by
  have h1 := req.sec_nonneg
  have h2 := req.nsec_nonneg
  have hcut : req.tv_nsec.toInt.tdiv 1000000 = req.tv_nsec.toInt / 1000000 :=
    Int.tdiv_eq_ediv_of_nonneg h2
  have hsum := hfits.2
  rw [Timespec.millis, hcut] at hsum
  rw [Timespec.unsigned, Timespec.millis, hcut, Interval.ns]
  omega

theorem Interval.ns_le (req : Interval) :
    req.ns ≤ req.ns / 1000000 * 1000000 ↔ 1000000 ∣ req.tv_nsec.toInt := by
  have h2 := req.nsec_nonneg
  rw [Interval.ns]
  omega

theorem nanosleep_longEnough (now_ms : UInt64) (cor : Cb) (errno : Int) (req : Interval)
    (rem : Option Timespec) :
    (nanosleep true now_ms cor errno req.toTimespec rem).LongEnough now_ms req.ns ↔
      NanosleepMet now_ms errno req rem := by
  have hnow := now_ms.toNat_lt
  by_cases herrno : errno = EINTR
  · cases rem with
    | none =>
      simp only [nanosleep, NanosleepMet, herrno, if_true, Bool.not_true, Bool.false_eq_true,
        if_false, addTimer_longEnough, UInt64.toNat_zero]
      omega
    | some rem =>
      simp only [nanosleep, NanosleepMet, herrno, if_true, Bool.not_true, Bool.false_eq_true,
        if_false, converted_longEnough, ceilMs_le]
  · simp only [nanosleep, NanosleepMet, herrno, if_false, Bool.not_true, Bool.false_eq_true,
      converted_longEnough]
    refine and_congr_right fun hfits => ?_
    rw [req.unsigned_eq hfits, req.ns_le]

/-! ## the three calls -/

/-- **Waiting long enough**: `sleep` below the wrap of 32 bits, `usleep` and `nanosleep` for whole
milliseconds, and after an `EINTR` only if `*rem` happens to be no shorter than `*req`. -/
theorem sleeps_iff (t_hook_enable : Bool) (now_ms : UInt64) (cor : Cb) :
    (∀ secends : UInt32,
      (sleep t_hook_enable now_ms cor secends).LongEnough now_ms (secends.toNat * 1000000000) ↔
        (t_hook_enable = true →
          secends.toNat * 1000 < 2 ^ 32 ∧ now_ms.toNat + secends.toNat * 1000 < 2 ^ 64)) ∧
    (∀ usec : UInt32,
      (usleep t_hook_enable now_ms cor usec).LongEnough now_ms (usec.toNat * 1000) ↔
        (t_hook_enable = true →
          1000 ∣ usec.toNat ∧ now_ms.toNat + usec.toNat / 1000 < 2 ^ 64)) ∧
    ∀ (errno : Int) (req : Interval) (rem : Option Timespec),
      (nanosleep t_hook_enable now_ms cor errno req.toTimespec rem).LongEnough now_ms req.ns ↔
        (t_hook_enable = true → NanosleepMet now_ms errno req rem) := by
  cases t_hook_enable with
  | false => simp [sleep, usleep, nanosleep, Outcome.LongEnough]
  | true =>
    simp only [true_implies, nanosleep_longEnough, sleep, usleep, Bool.not_true, Bool.false_eq_true,
      if_false, addTimer_longEnough, sleep_ms, usleep_ms]
    refine ⟨fun secends => ?_, fun usec => ?_, fun _ _ _ => trivial⟩
    · have hsec := secends.toNat_lt
      omega
    · have husec := usec.toNat_lt
      omega

/-- half a millisecond, the least number of seconds that wraps, and a second behind an `EINTR` -/
theorem sleeps_short :
    ¬ (usleep true 0 () 500).LongEnough 0 (500 * 1000) ∧
    ¬ (sleep true 0 () 4294968).LongEnough 0 (4294968 * 1000000000) ∧
    ¬ (nanosleep true 0 () EINTR ⟨1, 0⟩ none).LongEnough 0 1000000000 := by
  refine ⟨?_, ?_, ?_⟩ <;>
    (rintro ⟨hceil, _⟩; revert hceil; decide)

end KitServer.Hook
