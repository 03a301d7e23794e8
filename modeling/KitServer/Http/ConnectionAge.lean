import KitServer.Http.ConnectionPool

/-!
# The age of the connections of the pool

The machine of the pool beside a clock that does not go back, with the time at which each
connection was made, and with what the tests of the age have decided.

* `Age`            what a test has decided;
* `expired_new`    what the test says of a connection whose creation time was never set;
* `age_run`        the runs in which the tests decide by the age;
* `handed_out_old` a connection that is handed out too old.
-/

set_option linter.unusedVariables false

namespace KitServer
namespace Http

/-- `getConnection` hands the connection out; or it is connected, and deleted for its age, in
`getConnection` or in `ReleasePtr` -/
inductive Age where
  | handedOut (connected : Bool) (born now : UInt64)
  | discarded (born now : UInt64)
deriving DecidableEq

/-- what is handed out is connected and not too old, and what is deleted for its age is not
younger -/
def Age.Fits (cfg : PoolConfig) : Age → Prop
  | .handedOut connected born now =>
    connected = true ∧ now.toNat - born.toNat ≤ cfg.maxAliveTime.toNat
  | .discarded born now => ¬ now.toNat - born.toNat < cfg.maxAliveTime.toNat

instance Age.decidableFits (cfg : PoolConfig) : ∀ e : Age, Decidable (e.Fits cfg)
  | .handedOut _ _ _ => inferInstanceAs (Decidable (_ ∧ _))
  | .discarded _ _ => inferInstanceAs (Decidable (¬ _))

structure Clocked where
  pool : HttpConnectionPool
  now : UInt64
  born : Nat → UInt64
  log : List Age

namespace PoolAct

/-- the time at which the step is made -/
def time : PoolAct → Option UInt64
  | .search _ _ _ now => some now
  | .connect _ now => some now
  | .test _ _ _ now => some now
  | _ => none

/-- a call of `getConnection` or a release -/
def ofPool : PoolAct → Bool
  | .setCreateTime _ _ => false
  | _ => true

/-- the connection whose age the step tests -/
def tested (s : HttpConnectionPool) : PoolAct → Option Nat
  | .search _ _ connected _ => if connected then s.connections.head? else none
  | .test _ ptr connected _ => if connected then some ptr else none
  | _ => none

/-- what `getConnection` has found -/
def handsOut (cfg : PoolConfig) (s : HttpConnectionPool) (l : PoolAct) : Option Nat :=
  match l with
  | .search i _ _ _ =>
    match (l.effect cfg s).pc i with
    | .found con _ => con
    | _ => none
  | _ => none

/-- the connection answered that it is connected -/
def isConnected : PoolAct → Bool
  | .search _ _ connected _ => connected
  | .test _ _ connected _ => connected
  | _ => false

/-- what the step decides by the age -/
def ages (cfg : PoolConfig) (s : Clocked) (l : PoolAct) : List Age :=
  let now := l.time.getD s.now
  (l.handsOut cfg s.pool).toList.map (fun c => .handedOut l.isConnected (s.born c) now)
    ++ ((l.tested s.pool).filter fun c =>
      (s.pool.connection c).expired cfg.maxAliveTime now).toList.map fun c =>
        .discarded (s.born c) now

end PoolAct

/-- the pool and `n` threads, beside the clock -/
def clocked (n : Nat) (cfg : PoolConfig) : Machine Clocked PoolAct where
  guard := fun s l => l.guard n s.pool ∧ l.ofPool = true ∧ s.now ≤ l.time.getD s.now
  effect := fun s l =>
    { pool := l.effect cfg s.pool
      now := l.time.getD s.now
      born := match l with
        | .connect _ t => Function.update s.born s.pool.created t
        | _ => s.born
      log := s.log ++ l.ages cfg s }

instance clocked_decidable (n : Nat) (cfg : PoolConfig) (s : Clocked) (l : PoolAct) :
    Decidable ((clocked n cfg).guard s l) :=
  inferInstanceAs (Decidable (_ ∧ _ ∧ _))

def Clocked.start : Clocked := ⟨.start, 0, fun _ => 0, []⟩

/-- if the age of a connection is tested at the time `t`, then `t` is at least the maximum, and in
`getConnection` the connection is not older than it; or the maximum is 0 -/
def Timely (cfg : PoolConfig) (s : Clocked) (l : PoolAct) : Prop :=
  ∀ c ∈ l.tested s.pool, cfg.maxAliveTime.toNat = 0 ∨
    cfg.maxAliveTime.toNat ≤ (l.time.getD s.now).toNat ∧
      match l with
      | .search _ _ _ t => t.toNat - (s.born c).toNat ≤ cfg.maxAliveTime.toNat
      | _ => True

/-- **The creation time -1 wraps: the test is whether the clock is below the maximum.** -/
theorem expired_new (con : HttpConnection) (h : con.createTime = -1) (maxAliveTime : UInt32)
    (now : UInt64) :
    con.expired maxAliveTime now = true
      ↔ maxAliveTime.toNat = 0 ∨ now.toNat < maxAliveTime.toNat := by
  have hmax : maxAliveTime.toNat < 2 ^ 32 := maxAliveTime.toNat_lt
  have hnow : now.toNat < 2 ^ 64 := now.toNat_lt
  rw [HttpConnection.expired, decide_eq_true_iff, h, ge_iff_le, UInt64.le_iff_toNat_le,
    UInt64.toNat_add, UInt32.toNat_toUInt64]
  show now.toNat ≤ (18446744073709551615 + maxAliveTime.toNat) % 2 ^ 64
    ↔ _
  omega

namespace Clocked
variable {n : Nat} {cfg : PoolConfig} {s : Clocked} {l : PoolAct}

/-- no creation time was ever set -/
def Unset (s : Clocked) : Prop := ∀ c, (s.pool.connection c).createTime = -1

theorem Unset.update (h : s.Unset) (c : Nat) (con : HttpConnection) (hc : con.createTime = -1)
    (d : Nat) : (Function.update s.pool.connection c con d).createTime = -1 := by
  by_cases hd : d = c
  · rw [hd, Function.update_self]
    exact hc
  · rw [Function.update_of_ne hd]
    exact h d

theorem Unset.effect (h : s.Unset) (hl : (clocked n cfg).guard s l) :
    ((clocked n cfg).effect s l).Unset := by
  intro c
  cases l with
  | search i invalid connected now =>
    show (((PoolAct.search i invalid connected now).effect cfg s.pool).connection c).createTime = _
    unfold PoolAct.effect
    dsimp only
    split
    · exact h c
    split
    · exact h c
    split <;> exact h c
  | subtract i con deleted => cases con <;> exact h c
  | connect i now => exact h.update _ .new rfl c
  | releasePtr i ptr =>
    let con := s.pool.connection ptr
    exact h.update ptr { con with requestCount := con.requestCount + 1 } (h ptr) c
  | test i ptr connected now =>
    show (((PoolAct.test i ptr connected now).effect cfg s.pool).connection c).createTime = _
    unfold PoolAct.effect
    dsimp only
    split <;> exact h c
  | setCreateTime ptr v => cases hl.2.1
  | _ => exact h c

theorem Unset.fits_search (h : s.Unset) (i : Nat) (invalid : List Nat) (now : UInt64) {con : Nat}
    {rest : List Nat} (hcons : s.pool.connections = con :: rest) :
    (∀ e ∈ (PoolAct.search i invalid true now).ages cfg s, e.Fits cfg)
      ↔ Timely cfg s (.search i invalid true now) := by
  have hexpired := expired_new (s.pool.connection con) (h con) cfg.maxAliveTime now
  have htimely : Timely cfg s (.search i invalid true now) ↔ cfg.maxAliveTime.toNat = 0 ∨
      cfg.maxAliveTime.toNat ≤ now.toNat ∧
        now.toNat - (s.born con).toNat ≤ cfg.maxAliveTime.toNat := by
    simp [Timely, PoolAct.tested, PoolAct.time, hcons]
  by_cases hold : (s.pool.connection con).expired cfg.maxAliveTime now = true
  · have hages : (PoolAct.search i invalid true now).ages cfg s
        = [.discarded (s.born con) now] := by
      simp [PoolAct.ages, PoolAct.handsOut, PoolAct.effect, PoolAct.tested, PoolAct.time, hcons,
        hold, HttpConnectionPool.goto]
    rw [hages, List.forall_mem_singleton, htimely]
    show (¬ now.toNat - (s.born con).toNat < cfg.maxAliveTime.toNat) ↔ _
    have hwhen := hexpired.mp hold
    omega
  · have hages : (PoolAct.search i invalid true now).ages cfg s
        = [.handedOut true (s.born con) now] := by
      simp [PoolAct.ages, PoolAct.handsOut, PoolAct.effect, PoolAct.tested, PoolAct.time, hcons,
        hold, HttpConnectionPool.goto, PoolAct.isConnected]
    rw [hages, List.forall_mem_singleton, htimely]
    have hwhen := mt hexpired.mpr hold
    refine (and_iff_right rfl).trans ?_
    omega

theorem Unset.fits_test (h : s.Unset) (i ptr : Nat) (now : UInt64) :
    (∀ e ∈ (PoolAct.test i ptr true now).ages cfg s, e.Fits cfg)
      ↔ Timely cfg s (.test i ptr true now) := by
  have hexpired := expired_new (s.pool.connection ptr) (h ptr) cfg.maxAliveTime now
  have htimely : Timely cfg s (.test i ptr true now)
      ↔ cfg.maxAliveTime.toNat = 0 ∨ cfg.maxAliveTime.toNat ≤ now.toNat := by
    simp [Timely, PoolAct.tested, PoolAct.time]
  by_cases hold : (s.pool.connection ptr).expired cfg.maxAliveTime now = true
  · have hages : (PoolAct.test i ptr true now).ages cfg s = [.discarded (s.born ptr) now] := by
      simp [PoolAct.ages, PoolAct.handsOut, PoolAct.tested, PoolAct.time, hold]
    rw [hages, List.forall_mem_singleton, htimely]
    show (¬ now.toNat - (s.born ptr).toNat < cfg.maxAliveTime.toNat) ↔ _
    have hwhen := hexpired.mp hold
    omega
  · have hages : (PoolAct.test i ptr true now).ages cfg s = [] := by
      simp [PoolAct.ages, PoolAct.handsOut, PoolAct.tested, PoolAct.time, hold]
    have hwhen := mt hexpired.mpr hold
    rw [hages, htimely]
    exact ⟨fun _ => by omega, fun _ e he => (by cases he)⟩

/-- **What a step decides by the age fits the age exactly when the step is timely.** -/
theorem Unset.fits (h : s.Unset) (l : PoolAct) :
    (∀ e ∈ l.ages cfg s, e.Fits cfg) ↔ Timely cfg s l := by
  have hnone : l.ages cfg s = [] → l.tested s.pool = none →
      ((∀ e ∈ l.ages cfg s, e.Fits cfg) ↔ Timely cfg s l) := by
    intro hages htested
    rw [hages]
    refine ⟨fun _ c hc => ?_, fun _ e he => (by cases he)⟩
    rw [htested] at hc
    cases hc
  cases l with
  | search i invalid connected now =>
    cases hcons : s.pool.connections with
    | nil =>
      refine hnone ?_ ?_
      · simp [PoolAct.ages, PoolAct.handsOut, PoolAct.effect, PoolAct.tested, hcons,
          HttpConnectionPool.goto]
      · simp [PoolAct.tested, hcons]
    | cons con rest =>
      cases connected with
      | true => exact h.fits_search i invalid now hcons
      | false =>
        refine hnone ?_ rfl
        simp [PoolAct.ages, PoolAct.handsOut, PoolAct.effect, PoolAct.tested, hcons,
          HttpConnectionPool.goto]
  | test i ptr connected now =>
    cases connected with
    | true => exact h.fits_test i ptr now
    | false => exact hnone rfl rfl
  | _ => exact hnone rfl rfl

end Clocked

/-- **The pool hands out only what is connected and not too old, and deletes no younger connection
for its age, in exactly the runs of which every step is timely.** -/
theorem age_run (n : Nat) (cfg : PoolConfig) (ls : List PoolAct)
    (h : (clocked n cfg).Allowed .start ls) :
    (∀ e ∈ ((clocked n cfg).after .start ls).log, e.Fits cfg)
      ↔ ((clocked n cfg).meeting (Timely cfg)).Allowed .start ls := by
  have hrun := h.meeting_iff (I := Clocked.Unset) (P := fun s => ∀ e ∈ s.log, e.Fits cfg)
    (C := Timely cfg) (fun s l hs hl => hs.effect hl) ?_ (fun c => rfl)
  · rw [hrun]
    exact ⟨fun hls => hls.2, fun hls => ⟨fun e he => (by cases he), hls⟩⟩
  · intro s l hs hl
    show (∀ e ∈ s.log ++ l.ages cfg s, e.Fits cfg) ↔ _
    rw [List.forall_mem_append, hs.fits l]

/-- a connection that is released and handed out again within the maximal age -/
def reuse (t : UInt64) : List PoolAct :=
  [.getConnection 0, .search 0 [] true 1000, .unlock 0 none [], .delete 0 none [],
    .subtract 0 none 0, .connect 0 1000, .increment 0 0, .releasePtr 0 0, .test 0 0 true 1000,
    .pushBack 0 0, .getConnection 0, .search 0 [] true t]

theorem age_run_reuse :
    (∀ e ∈ ((clocked 1 ⟨10, 30, 10⟩).after .start (reuse 1020)).log, e.Fits ⟨10, 30, 10⟩)
      ↔ ((clocked 1 ⟨10, 30, 10⟩).meeting (Timely ⟨10, 30, 10⟩)).Allowed .start (reuse 1020) :=
  age_run 1 ⟨10, 30, 10⟩ _ (by decide)

/-- **A connection is handed out 100 ms after it was made, in a pool with a maximal age of 30 ms.**
-/
theorem handed_out_old : ¬ ∀ (n : Nat) (cfg : PoolConfig) (ls : List PoolAct),
    (clocked n cfg).Allowed .start ls →
    ∀ e ∈ ((clocked n cfg).after .start ls).log, e.Fits cfg := by
  intro h
  exact absurd (h 1 ⟨10, 30, 10⟩ (reuse 1100) (by decide) (.handedOut true 1000 1100) (by decide))
    (by decide)

end Http
end KitServer
