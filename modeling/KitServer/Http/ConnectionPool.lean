import KitServer.Lib.Count
import KitServer.Lib.Machine

/-!
# `HttpConnectionPool`

Threads that call `getConnection` and release what they got, as one machine.

* `HttpConnectionPool`   the pool, the connections, and where each thread stands;
* `Act`, `connectionPool` the steps;
* `Kept`                 the connections that are in use, counted;
* `connections_run`      the bound on the idle connections, and what `m_total` counts.

A connection is a number, in the order of creation.  What `isConnected` and `GetCurrentMs` answer
is part of the label.  `total` is an integer: a process has fewer than `2 ^ 31` connections.
-/

set_option linter.unusedVariables false

namespace KitServer
namespace Http

structure HttpConnection where
  createTime : UInt64
  requestCount : UInt64
deriving DecidableEq

/-- `HttpConnection::HttpConnection`: the creation time is -1 -/
def HttpConnection.new : HttpConnection := ⟨-1, 0⟩

/-- the test of the age, in `getConnection` and in `ReleasePtr` -/
def HttpConnection.expired (con : HttpConnection) (maxAliveTime : UInt32) (now : UInt64) : Bool :=
  decide (con.createTime + maxAliveTime.toUInt64 ≥ now)

structure PoolConfig where
  maxSize : UInt32
  maxAliveTime : UInt32
  maxRequest : UInt32

/-- where a thread stands; `con` is `con_ptr`, and `invalid` is `invalid_connections` -/
inductive PoolPc where
  | outside
  -- in `getConnection`, under the lock: in the loop, and behind it
  | searching (invalid : List Nat)
  | found (con : Option Nat) (invalid : List Nat)
  -- the connections are not yet deleted, and not yet subtracted from `m_total`
  | deleting (con : Option Nat) (invalid : List Nat)
  | subtracting (con : Option Nat) (deleted : Nat)
  | connecting
  -- in front of `++m_total`
  | counting (con : Nat)
  -- in `ReleasePtr`
  | testing (ptr : Nat)
  -- behind `delete`, in front of `--m_total`
  | decrementing
  | pushing (ptr : Nat)
deriving DecidableEq

structure HttpConnectionPool where
  connections : List Nat
  lockedBy : Option Nat
  total : Int
  connection : Nat → HttpConnection
  -- how many connections were made
  created : Nat
  -- what callers of `getConnection` have got and not released
  handedOut : List Nat
  pc : Nat → PoolPc

namespace HttpConnectionPool

def start : HttpConnectionPool := ⟨[], none, 0, fun _ => .new, 0, [], fun _ => .outside⟩

def goto (i : Nat) (q : PoolPc) (s : HttpConnectionPool) : HttpConnectionPool :=
  { s with pc := Function.update s.pc i q }

end HttpConnectionPool

/-- a step of the thread `i`; `setCreateTime` is a call by whoever holds the connection -/
inductive PoolAct where
  | getConnection (i : Nat)
  | search (i : Nat) (invalid : List Nat) (connected : Bool) (now : UInt64)
  | unlock (i : Nat) (con : Option Nat) (invalid : List Nat)
  | delete (i : Nat) (con : Option Nat) (invalid : List Nat)
  | subtract (i : Nat) (con : Option Nat) (deleted : Nat)
  | connectFail (i : Nat)
  -- `now` is the time of the creation, which the code does not read
  | connect (i : Nat) (now : UInt64)
  | increment (i : Nat) (con : Nat)
  | releasePtr (i : Nat) (ptr : Nat)
  | test (i : Nat) (ptr : Nat) (connected : Bool) (now : UInt64)
  | decrement (i : Nat)
  | pushBack (i : Nat) (ptr : Nat)
  | setCreateTime (ptr : Nat) (v : UInt64)

namespace PoolAct

/-- the place of the thread at which the label can be taken -/
def place : PoolAct → Option (Nat × PoolPc)
  | .getConnection i => some (i, .outside)
  | .search i invalid _ _ => some (i, .searching invalid)
  | .unlock i con invalid => some (i, .found con invalid)
  | .delete i con invalid => some (i, .deleting con invalid)
  | .subtract i con deleted => some (i, .subtracting con deleted)
  | .connectFail i => some (i, .connecting)
  | .connect i _ => some (i, .connecting)
  | .increment i con => some (i, .counting con)
  | .releasePtr i _ => some (i, .outside)
  | .test i ptr _ _ => some (i, .testing ptr)
  | .decrement i => some (i, .decrementing)
  | .pushBack i ptr => some (i, .pushing ptr)
  | .setCreateTime _ _ => none

/-- the lock is free where it is taken, and only what is handed out is released or changed -/
def premise (s : HttpConnectionPool) : PoolAct → Bool
  | .getConnection _ => s.lockedBy.isNone
  | .releasePtr _ ptr => decide (ptr ∈ s.handedOut)
  | .pushBack _ _ => s.lockedBy.isNone
  | .setCreateTime ptr _ => decide (ptr ∈ s.handedOut)
  | _ => true

def guard (n : Nat) (s : HttpConnectionPool) (l : PoolAct) : Prop :=
  (∀ p ∈ l.place, p.1 < n ∧ s.pc p.1 = p.2) ∧ l.premise s = true

instance (n : Nat) (s : HttpConnectionPool) (l : PoolAct) : Decidable (l.guard n s) :=
  inferInstanceAs (Decidable (_ ∧ _))

theorem guard.at_place {n : Nat} {s : HttpConnectionPool} {l : PoolAct} (h : l.guard n s) {i : Nat}
    {p : PoolPc} (hp : l.place = some (i, p)) : i < n ∧ s.pc i = p := h.1 (i, p) hp

/-- `ReleasePtr` deletes the connection -/
def discards (cfg : PoolConfig) (s : HttpConnectionPool) (ptr : Nat) (connected : Bool)
    (now : UInt64) : Bool :=
  !connected || (s.connection ptr).expired cfg.maxAliveTime now
    || decide ((s.connection ptr).requestCount > cfg.maxRequest.toUInt64)
    || decide (s.total > cfg.maxSize.toInt32.toInt)

def effect (cfg : PoolConfig) (s : HttpConnectionPool) : PoolAct → HttpConnectionPool
  | .getConnection i => { s.goto i (.searching []) with lockedBy := some i }
  | .search i invalid connected now =>
    match s.connections with
    | [] => s.goto i (.found none invalid)
    | con :: rest =>
      if connected = false then
        { s.goto i (.searching (invalid ++ [con])) with connections := rest }
      else if (s.connection con).expired cfg.maxAliveTime now then
        { s.goto i (.searching (invalid ++ [con])) with connections := rest }
      else { s.goto i (.found (some con) invalid) with connections := rest }
  | .unlock i con invalid => { s.goto i (.deleting con invalid) with lockedBy := none }
  | .delete i con invalid => s.goto i (.subtracting con invalid.length)
  | .subtract i con deleted =>
    match con with
    | none => { s.goto i .connecting with total := s.total - deleted }
    | some con =>
      { s.goto i .outside with
        total := s.total - deleted
        handedOut := s.handedOut ++ [con] }
  | .connectFail i => s.goto i .outside
  | .connect i _ =>
    { s.goto i (.counting s.created) with
      connection := Function.update s.connection s.created .new
      created := s.created + 1 }
  | .increment i con =>
    { s.goto i .outside with
      total := s.total + 1
      handedOut := s.handedOut ++ [con] }
  | .releasePtr i ptr =>
    let con := s.connection ptr
    { s.goto i (.testing ptr) with
      connection := Function.update s.connection ptr
        { con with requestCount := con.requestCount + 1 }
      handedOut := s.handedOut.erase ptr }
  | .test i ptr connected now =>
    if discards cfg s ptr connected now then s.goto i .decrementing else s.goto i (.pushing ptr)
  | .decrement i => { s.goto i .outside with total := s.total - 1 }
  | .pushBack i ptr => { s.goto i .outside with connections := s.connections ++ [ptr] }
  | .setCreateTime ptr v =>
    { s with
      connection := Function.update s.connection ptr { s.connection ptr with createTime := v } }

end PoolAct

/-- the pool and `n` threads -/
def connectionPool (n : Nat) (cfg : PoolConfig) : Machine HttpConnectionPool PoolAct :=
  ⟨fun s l => l.guard n s, fun s l => l.effect cfg s⟩

instance connectionPool_decidable (n : Nat) (cfg : PoolConfig) (s : HttpConnectionPool)
    (l : PoolAct) : Decidable ((connectionPool n cfg).guard s l) :=
  inferInstanceAs (Decidable (l.guard n s))

/-! ## what a thread has in hand -/

namespace PoolPc

/-- the connections that the thread has in hand -/
def holds : PoolPc → List Nat
  | .searching invalid => invalid
  | .found con invalid => con.toList ++ invalid
  | .deleting con invalid => con.toList ++ invalid
  | .subtracting con _ => con.toList
  | .counting con => [con]
  | .testing ptr => [ptr]
  | .pushing ptr => [ptr]
  | _ => []

/-- how many connections that the thread has in hand, or has deleted, `m_total` still counts -/
def counted : PoolPc → Nat
  | .searching invalid => invalid.length
  | .found con invalid => con.toList.length + invalid.length
  | .deleting con invalid => con.toList.length + invalid.length
  | .subtracting con deleted => con.toList.length + deleted
  | .testing _ => 1
  | .decrementing => 1
  | .pushing _ => 1
  | _ => 0

/-- the thread has passed the tests of `ReleasePtr` -/
def passed : PoolPc → Nat
  | .pushing _ => 1
  | _ => 0

theorem passed_le_counted (p : PoolPc) : p.passed ≤ p.counted := by
  cases p <;> simp [passed, counted]

end PoolPc

namespace HttpConnectionPool
variable {n : Nat} {cfg : PoolConfig} {s s' : HttpConnectionPool} {i : Nat} {p q : PoolPc}

/-- how many places have the connection `c` -/
def places (n : Nat) (s : HttpConnectionPool) (c : Nat) : Nat :=
  s.connections.count c + s.handedOut.count c + ∑ j ∈ Finset.range n, (s.pc j).holds.count c

structure Kept (n : Nat) (cfg : PoolConfig) (s : HttpConnectionPool) : Prop where
  total : s.total
    = s.connections.length + s.handedOut.length + (∑ j ∈ Finset.range n, (s.pc j).counted : Nat)
  room : s.connections.length + ∑ j ∈ Finset.range n, (s.pc j).passed ≤ cfg.maxSize.toNat
  once : ∀ c, s.places n c ≤ 1
  fresh : ∀ c, s.created ≤ c → s.places n c = 0

theorem Kept.start (n : Nat) (cfg : PoolConfig) : Kept n cfg HttpConnectionPool.start := by
  have hplaces : ∀ c, HttpConnectionPool.start.places n c = 0 := by
    intro c
    simp [places, HttpConnectionPool.start, PoolPc.holds]
  refine ⟨?_, ?_, fun c => ?_, fun c _ => hplaces c⟩
  · simp [HttpConnectionPool.start, PoolPc.counted]
  · simp [HttpConnectionPool.start, PoolPc.passed]
  · rw [hplaces c]
    exact Nat.zero_le 1

/-- **A step of the thread `i`, from the place `p` to the place `q`.** -/
theorem Kept.move (h : Kept n cfg s) (hi : i < n) (hp : s.pc i = p)
    (hpc : s'.pc = Function.update s.pc i q)
    (htotal : s'.total + s.connections.length + s.handedOut.length + p.counted
      = s.total + s'.connections.length + s'.handedOut.length + q.counted)
    (hroom : s'.connections.length + q.passed + ∑ j ∈ Finset.range n, (s.pc j).passed
      ≤ cfg.maxSize.toNat + p.passed)
    (hcreated : s.created ≤ s'.created)
    (honce : ∀ c, s'.connections.count c + s'.handedOut.count c + q.holds.count c
      ≤ s.connections.count c + s.handedOut.count c + p.holds.count c
        + if s.created ≤ c ∧ c < s'.created then 1 else 0) :
    Kept n cfg s' := by
  have hplaces : ∀ c, s'.places n c
      ≤ s.places n c + if s.created ≤ c ∧ c < s'.created then 1 else 0 := by
    intro c
    have hsum := sum_update (f := s.pc) (fun r => r.holds.count c) hi q
    have hc := honce c
    simp only [hp] at hsum
    simp only [places, hpc]
    omega
  refine ⟨?_, ?_, ?_, ?_⟩
  · have hsum := sum_update (f := s.pc) PoolPc.counted hi q
    have hold := h.total
    rw [hp] at hsum
    rw [hpc]
    omega
  · have hsum := sum_update (f := s.pc) PoolPc.passed hi q
    rw [hp] at hsum
    rw [hpc]
    omega
  · intro c
    have hle := hplaces c
    have hold := h.once c
    have hfresh := h.fresh c
    split at hle <;> omega
  · intro c hc
    have hle := hplaces c
    have hfresh := h.fresh c (by omega)
    rw [if_neg (by omega)] at hle
    omega

theorem Kept.walk (h : Kept n cfg s) (hi : i < n) (hp : s.pc i = p)
    (hpc : s'.pc = Function.update s.pc i q)
    (htotal : s'.total + s.connections.length + s.handedOut.length + p.counted
      = s.total + s'.connections.length + s'.handedOut.length + q.counted)
    (hroom : s'.connections.length + q.passed ≤ s.connections.length + p.passed)
    (hcreated : s'.created = s.created)
    (honce : ∀ c, s'.connections.count c + s'.handedOut.count c + q.holds.count c
      ≤ s.connections.count c + s.handedOut.count c + p.holds.count c) :
    Kept n cfg s' := by
  have hold := h.room
  refine h.move hi hp hpc htotal (by omega) (Nat.le_of_eq hcreated.symm) fun c => ?_
  exact Nat.le_trans (honce c) (Nat.le_add_right _ _)

/-- one round of the loop of `getConnection` -/
theorem Kept.search (h : Kept n cfg s) (hi : i < n) {invalid : List Nat}
    (hp : s.pc i = .searching invalid) (connected : Bool) (now : UInt64) :
    Kept n cfg ((PoolAct.search i invalid connected now).effect cfg s) := by
  cases hcons : s.connections with
  | nil =>
    simp only [PoolAct.effect, hcons]
    refine h.walk (q := .found none invalid) hi hp rfl ?_ (Nat.le_refl _) rfl fun c => ?_
    · simp [goto, PoolPc.counted]
    · simp [goto, PoolPc.holds]
  | cons con rest =>
    have hinvalid : Kept n cfg
        { s.goto i (.searching (invalid ++ [con])) with connections := rest } := by
      refine h.walk hi hp rfl ?_ ?_ rfl fun c => ?_
      · simp only [goto, PoolPc.counted, hcons, List.length_append, List.length_cons,
          List.length_nil]
        omega
      · simp [PoolPc.passed, hcons]
      · simp only [goto, PoolPc.holds, hcons, List.count_append, List.count_cons, List.count_nil]
        omega
    simp only [PoolAct.effect, hcons]
    split
    · exact hinvalid
    split
    · exact hinvalid
    · refine h.walk (q := .found (some con) invalid) hi hp rfl ?_ ?_ rfl fun c => ?_
      · simp only [goto, PoolPc.counted, hcons, List.length_cons, Option.toList_some,
          List.length_nil]
        omega
      · simp [PoolPc.passed, hcons]
      · simp only [goto, PoolPc.holds, hcons, Option.toList_some, List.count_append,
          List.count_cons, List.count_nil]
        omega

theorem Kept.lt_created (h : Kept n cfg s) {c : Nat} (hc : 0 < s.places n c) : c < s.created := by
  by_contra hge
  have hfresh := h.fresh c (by omega)
  omega

theorem Kept.room_of_test (h : Kept n cfg s) (hi : i < n) {ptr : Nat} (hp : s.pc i = .testing ptr)
    (hle : ¬ s.total > cfg.maxSize.toInt32.toInt) :
    s.connections.length + ∑ j ∈ Finset.range n, (s.pc j).passed < cfg.maxSize.toNat := by
  have hself : (s.pc i).passed + 1 ≤ (s.pc i).counted := by
    rw [hp]
    exact Nat.le_refl 1
  have hpassed : ∑ j ∈ Finset.range n, (s.pc j).passed + 1
      ≤ ∑ j ∈ Finset.range n, (s.pc j).counted :=
    Finset.sum_lt_sum (fun j _ => (s.pc j).passed_le_counted) ⟨i, Finset.mem_range.mpr hi, hself⟩
  have htotal := h.total
  have hsize : cfg.maxSize.toInt32.toInt ≤ cfg.maxSize.toNat := by
    show cfg.maxSize.toBitVec.toInt ≤ cfg.maxSize.toBitVec.toNat
    rw [BitVec.toInt_eq_toNat_cond]
    split <;> omega
  omega

theorem Kept.test (h : Kept n cfg s) (hi : i < n) {ptr : Nat} (hp : s.pc i = .testing ptr)
    (connected : Bool) (now : UInt64) :
    Kept n cfg ((PoolAct.test i ptr connected now).effect cfg s) := by
  unfold PoolAct.effect
  dsimp only
  split
  · refine h.walk (q := .decrementing) hi hp rfl rfl (Nat.le_refl _) rfl fun c => ?_
    exact Nat.add_le_add_left (Nat.zero_le _) _
  · rename_i hkeep
    rw [PoolAct.discards, Bool.or_eq_true, not_or, decide_eq_true_iff] at hkeep
    have hroom := h.room_of_test hi hp hkeep.2
    refine h.move (q := .pushing ptr) hi hp rfl rfl ?_ (Nat.le_refl _) fun c => ?_
    · show s.connections.length + 1 + _ ≤ cfg.maxSize.toNat + 0
      omega
    · exact Nat.le_add_right _ _

/-- **Every step keeps the counts.** -/
theorem Kept.effect (h : Kept n cfg s) {l : PoolAct} (hl : l.guard n s) :
    Kept n cfg (l.effect cfg s) := by
  cases l with
  | getConnection i =>
    obtain ⟨hi, hp⟩ := hl.at_place rfl
    exact h.walk hi hp rfl rfl (Nat.le_refl _) rfl fun c => Nat.le_refl _
  | search i invalid connected now =>
    obtain ⟨hi, hp⟩ := hl.at_place rfl
    exact h.search hi hp connected now
  | unlock i con invalid =>
    obtain ⟨hi, hp⟩ := hl.at_place rfl
    exact h.walk (q := .deleting con invalid) hi hp rfl rfl (Nat.le_refl _) rfl
      fun c => Nat.le_refl _
  | delete i con invalid =>
    obtain ⟨hi, hp⟩ := hl.at_place rfl
    refine h.walk (q := .subtracting con invalid.length) hi hp rfl rfl (Nat.le_refl _) rfl
      fun c => ?_
    simp only [PoolAct.effect, goto, PoolPc.holds, List.count_append]
    omega
  | subtract i con deleted =>
    obtain ⟨hi, hp⟩ := hl.at_place rfl
    cases con with
    | none =>
      refine h.walk (q := .connecting) hi hp rfl ?_ (Nat.le_refl _) rfl fun c => Nat.le_refl _
      simp only [PoolAct.effect, goto, PoolPc.counted, Option.toList_none, List.length_nil]
      omega
    | some con =>
      refine h.walk (q := .outside) hi hp rfl ?_ (Nat.le_refl _) rfl fun c => ?_
      · simp only [PoolAct.effect, goto, PoolPc.counted, Option.toList_some, List.length_append,
          List.length_cons, List.length_nil]
        omega
      · simp only [PoolAct.effect, goto, PoolPc.holds, Option.toList_some, List.count_append,
          List.count_nil]
        omega
  | connectFail i =>
    obtain ⟨hi, hp⟩ := hl.at_place rfl
    exact h.walk (q := .outside) hi hp rfl rfl (Nat.le_refl _) rfl fun c => Nat.le_refl _
  | connect i now =>
    obtain ⟨hi, hp⟩ := hl.at_place rfl
    have hroom := h.room
    refine h.move (q := .counting s.created) hi hp rfl rfl ?_ (Nat.le_succ _) fun c => ?_
    · show s.connections.length + 0 + _ ≤ cfg.maxSize.toNat + 0
      omega
    · show s.connections.count c + s.handedOut.count c + [s.created].count c
        ≤ s.connections.count c + s.handedOut.count c + 0
          + if s.created ≤ c ∧ c < s.created + 1 then 1 else 0
      by_cases hc : s.created = c
      · subst hc
        simp
      · rw [List.count_singleton, if_neg (by simpa using hc)]
        omega
  | increment i con =>
    obtain ⟨hi, hp⟩ := hl.at_place rfl
    refine h.walk (q := .outside) hi hp rfl ?_ (Nat.le_refl _) rfl fun c => ?_
    · simp only [PoolAct.effect, goto, PoolPc.counted, List.length_append, List.length_cons,
        List.length_nil]
      omega
    · simp only [PoolAct.effect, goto, PoolPc.holds, List.count_append, List.count_nil]
      omega
  | releasePtr i ptr =>
    obtain ⟨hi, hp⟩ := hl.at_place rfl
    have hin : ptr ∈ s.handedOut := of_decide_eq_true hl.2
    have hlength := List.length_erase_of_mem hin
    have hpos := List.length_pos_of_mem hin
    refine h.walk (q := .testing ptr) hi hp rfl ?_ (Nat.le_refl _) rfl fun c => ?_
    · simp only [PoolAct.effect, goto, PoolPc.counted]
      omega
    · have hcount := List.count_pos_iff.mpr hin
      simp only [PoolAct.effect, goto, PoolPc.holds, List.count_erase, List.count_cons,
        List.count_nil, beq_iff_eq]
      by_cases hc : ptr = c
      · subst hc
        rw [if_pos rfl]
        omega
      · rw [if_neg hc]
        omega
  | test i ptr connected now =>
    obtain ⟨hi, hp⟩ := hl.at_place rfl
    exact h.test hi hp connected now
  | decrement i =>
    obtain ⟨hi, hp⟩ := hl.at_place rfl
    refine h.walk (q := .outside) hi hp rfl ?_ (Nat.le_refl _) rfl fun c => Nat.le_refl _
    simp only [PoolAct.effect, goto, PoolPc.counted]
    omega
  | pushBack i ptr =>
    obtain ⟨hi, hp⟩ := hl.at_place rfl
    refine h.walk (q := .outside) hi hp rfl ?_ ?_ rfl fun c => ?_
    · simp only [PoolAct.effect, goto, PoolPc.counted, List.length_append, List.length_cons,
        List.length_nil]
      omega
    · simp [PoolAct.effect, goto, PoolPc.passed]
    · simp only [PoolAct.effect, goto, PoolPc.holds, List.count_append, List.count_nil]
      omega
  | setCreateTime ptr v => exact ⟨h.total, h.room, h.once, h.fresh⟩

theorem Kept.nodup (h : Kept n cfg s) : (s.connections ++ s.handedOut).Nodup := by
  refine List.nodup_iff_count_le_one.mpr fun c => ?_
  have hplaces := h.once c
  rw [places] at hplaces
  rw [List.count_append]
  omega

end HttpConnectionPool

open HttpConnectionPool in
/-- **The idle connections stay within the bound, no connection is in two places, and `m_total`
counts those that are idle or handed out, and no other when no call is in progress.** -/
theorem connections_run (n : Nat) (cfg : PoolConfig) (ls : List PoolAct)
    (h : (connectionPool n cfg).Allowed start ls) :
    let s := (connectionPool n cfg).after start ls
    s.connections.length ≤ cfg.maxSize.toNat ∧ (s.connections ++ s.handedOut).Nodup ∧
      (s.connections.length + s.handedOut.length : Int) ≤ s.total ∧
      ((∀ i, s.pc i = .outside) →
        s.total = s.connections.length + s.handedOut.length) := by
  intro s
  have hs : Kept n cfg s := h.inv (fun s l hs hl => hs.effect hl) (.start n cfg)
  have htotal := hs.total
  refine ⟨Nat.le_trans (Nat.le_add_right _ _) hs.room, hs.nodup, by omega, fun hquiet => ?_⟩
  have hnone : ∑ j ∈ Finset.range n, (s.pc j).counted = 0 := by
    refine Finset.sum_eq_zero fun j _ => ?_
    rw [hquiet j]
    rfl
  omega

/-- two threads connect, and both release; there is room for one -/
theorem connections_run_two :
    let s := (connectionPool 2 ⟨1, 30, 10⟩).after HttpConnectionPool.start
      [.getConnection 0, .search 0 [] true 100, .unlock 0 none [], .getConnection 1,
        .search 1 [] true 100, .unlock 1 none [], .delete 0 none [], .subtract 0 none 0,
        .delete 1 none [], .subtract 1 none 0, .connect 0 100, .connect 1 100, .increment 0 0,
        .increment 1 1, .releasePtr 0 0, .releasePtr 1 1, .test 0 0 true 100, .decrement 0,
        .test 1 1 true 100, .pushBack 1 1]
    s.connections.length ≤ 1 ∧ (s.connections ++ s.handedOut).Nodup ∧
      (s.connections.length + s.handedOut.length : Int) ≤ s.total ∧
      ((∀ i, s.pc i = .outside) →
        s.total = s.connections.length + s.handedOut.length) :=
  connections_run 2 ⟨1, 30, 10⟩ _ (by decide)

end Http
end KitServer
