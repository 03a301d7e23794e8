import KitServer.Http.ConnectionPool

/-!
# How often a connection of the pool is used

The machine of the pool beside the number of times that each connection was handed out.

* `Used`             what the counter of the requests says of that number, in every run;
* `hand_outs_run`    the runs in which no connection is handed out too often;
* `handed_out_twice` a connection that may be used once, and is handed out twice.
-/

set_option linter.unusedVariables false

namespace KitServer
namespace Http

/-- the connection that `getConnection` returns in this step -/
def PoolAct.returns : PoolAct → Option Nat
  | .subtract _ con _ => con
  | .increment _ con => some con
  | _ => none

structure Tallied where
  pool : HttpConnectionPool
  handOuts : Nat → Nat

/-- the pool and `n` threads, beside the tally -/
def tallied (n : Nat) (cfg : PoolConfig) : Machine Tallied PoolAct where
  guard := fun s l => l.guard n s.pool
  effect := fun s l =>
    { pool := l.effect cfg s.pool
      handOuts := match l.returns with
        | some con => Function.update s.handOuts con (s.handOuts con + 1)
        | none => s.handOuts }

instance tallied_decidable (n : Nat) (cfg : PoolConfig) (s : Tallied) (l : PoolAct) :
    Decidable ((tallied n cfg).guard s l) :=
  inferInstanceAs (Decidable (l.guard n s.pool))

def Tallied.start : Tallied := ⟨.start, fun _ => 0⟩

/-- an idle connection that `getConnection` returns has counted fewer requests than the maximum -/
def Unspent (cfg : PoolConfig) (s : Tallied) : PoolAct → Prop
  | .subtract _ con _ =>
    ∀ c ∈ con, (s.pool.connection c).requestCount.toNat < cfg.maxRequest.toNat
  | _ => True

namespace Tallied
variable {n : Nat} {cfg : PoolConfig} {s : Tallied} {l : PoolAct}

def Within (cfg : PoolConfig) (s : Tallied) : Prop := ∀ c, s.handOuts c ≤ cfg.maxRequest.toNat

/-- the counter of the requests, which wraps, and what is handed out and not released -/
structure Used (n : Nat) (cfg : PoolConfig) (s : Tallied) : Prop where
  kept : s.pool.Kept n cfg
  counter : ∀ c, s.handOuts c ≡
    (s.pool.connection c).requestCount.toNat + s.pool.handedOut.count c [MOD 2 ^ 64]
  out : ∀ c, s.pool.handedOut.count c ≤ s.handOuts c
  counting : ∀ i < n, ∀ c, s.pool.pc i = .counting c → s.handOuts c = 0
  fresh : ∀ c, s.pool.created ≤ c → s.handOuts c = 0

theorem Used.start (n : Nat) (cfg : PoolConfig) : Used n cfg Tallied.start where
  kept := .start n cfg
  counter := fun c => rfl
  out := fun c => Nat.le_refl 0
  counting := fun i hi c hc => rfl
  fresh := fun c hc => rfl

theorem Used.hand (h : Used n cfg s) {i : Nat} (hi : i < n) {c : Nat}
    (hc : 0 < (s.pool.pc i).holds.count c) :
    s.pool.handedOut.count c = 0 ∧ c < s.pool.created := by
  have hone := h.kept.once c
  have hsum := le_sum_range (f := s.pool.pc) (fun p => p.holds.count c) hi
  have hplaces : 0 < s.pool.places n c := by
    rw [HttpConnectionPool.places]
    omega
  rw [HttpConnectionPool.places] at hone
  exact ⟨by omega, h.kept.lt_created hplaces⟩

theorem Used.hand_eq (h : Used n cfg s) {i j : Nat} (hi : i < n) (hj : j < n) {c : Nat}
    (hci : 0 < (s.pool.pc i).holds.count c) (hcj : 0 < (s.pool.pc j).holds.count c) : i = j := by
  by_contra hne
  have hone := h.kept.once c
  have hpair := Finset.add_le_sum (f := fun k => (s.pool.pc k).holds.count c)
    (fun k _ => Nat.zero_le _) (Finset.mem_range.mpr hi) (Finset.mem_range.mpr hj) hne
  rw [HttpConnectionPool.places] at hone
  omega

theorem counting_of_update {i : Nat} {q : PoolPc} (hq : ∀ c, q ≠ .counting c) {pc : Nat → PoolPc}
    (j c : Nat) (hc : Function.update pc i q j = .counting c) : pc j = .counting c := by
  by_cases hji : j = i
  · rw [hji, Function.update_self] at hc
    exact absurd hc (hq c)
  · rw [Function.update_of_ne hji] at hc
    exact hc

theorem Used.walk (h : Used n cfg s) {s' : Tallied} (hkept : s'.pool.Kept n cfg)
    (htally : s'.handOuts = s.handOuts)
    (hcount : ∀ c, (s'.pool.connection c).requestCount = (s.pool.connection c).requestCount)
    (hout : s'.pool.handedOut = s.pool.handedOut) (hcreated : s'.pool.created = s.pool.created)
    (hpc : ∀ j c, s'.pool.pc j = .counting c → s.pool.pc j = .counting c) : Used n cfg s' := by
  refine ⟨hkept, fun c => ?_, fun c => ?_, fun j hj c hc => ?_, fun c hc => ?_⟩
  · rw [htally, hcount, hout]
    exact h.counter c
  · rw [htally, hout]
    exact h.out c
  · rw [htally]
    exact h.counting j hj c (hpc j c hc)
  · rw [htally]
    rw [hcreated] at hc
    exact h.fresh c hc

theorem Used.goto (h : Used n cfg s) {s' : Tallied} (hkept : s'.pool.Kept n cfg)
    (htally : s'.handOuts = s.handOuts) (hconnection : s'.pool.connection = s.pool.connection)
    (hout : s'.pool.handedOut = s.pool.handedOut) (hcreated : s'.pool.created = s.pool.created)
    {i : Nat} (q : PoolPc) (hq : ∀ c, q ≠ .counting c)
    (hpc : s'.pool.pc = Function.update s.pool.pc i q) : Used n cfg s' := by
  refine h.walk hkept htally (fun c => ?_) hout hcreated fun j c hc => ?_
  · rw [hconnection]
  · rw [hpc] at hc
    exact counting_of_update hq j c hc

/-- **The thread `i` returns the connection `con` to its caller.** -/
theorem Used.return (h : Used n cfg s) {i : Nat} (con : Nat) (hi : i < n)
    (hcon : 0 < (s.pool.pc i).holds.count con) {s' : Tallied} (hkept : s'.pool.Kept n cfg)
    (htally : s'.handOuts = Function.update s.handOuts con (s.handOuts con + 1))
    (hconnection : s'.pool.connection = s.pool.connection)
    (hout : s'.pool.handedOut = s.pool.handedOut ++ [con])
    (hcreated : s'.pool.created = s.pool.created)
    (hpc : s'.pool.pc = Function.update s.pool.pc i .outside) : Used n cfg s' := by
  obtain ⟨hnone, hmade⟩ := h.hand hi hcon
  refine ⟨hkept, fun c => ?_, fun c => ?_, fun j hj c hc => ?_, fun c hc => ?_⟩
  · have hold := h.counter c
    rw [htally, hconnection, hout, List.count_append, List.count_singleton, ← Nat.add_assoc]
    by_cases hc : c = con
    · subst hc
      rw [Function.update_self, if_pos (beq_self_eq_true c)]
      exact hold.add_right 1
    · rw [Function.update_of_ne hc, if_neg (by simpa using Ne.symm hc)]
      exact hold
  · have hold := h.out c
    rw [htally, hout, List.count_append, List.count_singleton]
    by_cases hc : c = con
    · subst hc
      rw [Function.update_self, if_pos (beq_self_eq_true c)]
      omega
    · rw [Function.update_of_ne hc, if_neg (by simpa using Ne.symm hc)]
      exact hold
  · rw [hpc] at hc
    by_cases hji : j = i
    · rw [hji, Function.update_self] at hc
      cases hc
    · rw [Function.update_of_ne hji] at hc
      have hne : c ≠ con := by
        intro hcc
        subst hcc
        refine hji (h.hand_eq hj hi ?_ hcon)
        rw [hc, PoolPc.holds, List.count_singleton_self]
        exact Nat.one_pos
      rw [htally, Function.update_of_ne hne]
      exact h.counting j hj c hc
  · rw [hcreated] at hc
    rw [htally, Function.update_of_ne (by omega)]
    exact h.fresh c hc

theorem Used.connect (h : Used n cfg s) {i : Nat} (hi : i < n) (now : UInt64)
    (hkept : ((PoolAct.connect i now).effect cfg s.pool).Kept n cfg) :
    Used n cfg ((tallied n cfg).effect s (.connect i now)) := by
  have hnew := h.fresh s.pool.created (Nat.le_refl _)
  have hout := h.out s.pool.created
  refine ⟨hkept, fun c => ?_, h.out, fun j hj c hc => ?_,
    fun c hc => h.fresh c (Nat.le_of_succ_le hc)⟩
  · show s.handOuts c ≡
      (Function.update s.pool.connection s.pool.created .new c).requestCount.toNat
        + s.pool.handedOut.count c [MOD 2 ^ 64]
    by_cases hc : c = s.pool.created
    · subst hc
      have hzero : s.pool.handedOut.count s.pool.created = 0 := by omega
      rw [Function.update_self, hnew, hzero]
      rfl
    · rw [Function.update_of_ne hc]
      exact h.counter c
  · change Function.update s.pool.pc i (.counting s.pool.created) j = .counting c at hc
    by_cases hji : j = i
    · rw [hji, Function.update_self] at hc
      cases hc
      exact hnew
    · rw [Function.update_of_ne hji] at hc
      exact h.counting j hj c hc

theorem Used.release (h : Used n cfg s) {i ptr : Nat} (hi : i < n) (hptr : ptr ∈ s.pool.handedOut)
    (hkept : ((PoolAct.releasePtr i ptr).effect cfg s.pool).Kept n cfg) :
    Used n cfg ((tallied n cfg).effect s (.releasePtr i ptr)) := by
  have hpos := List.count_pos_iff.mpr hptr
  refine ⟨hkept, fun c => ?_, fun c => ?_, fun j hj c hc => ?_, h.fresh⟩
  · have hold := h.counter c
    show s.handOuts c ≡ (Function.update s.pool.connection ptr
        { s.pool.connection ptr with requestCount := (s.pool.connection ptr).requestCount + 1 }
          c).requestCount.toNat + (s.pool.handedOut.erase ptr).count c [MOD 2 ^ 64]
    by_cases hc : c = ptr
    · subst hc
      rw [Function.update_self, List.count_erase_self]
      simp only [UInt64.toNat_add]
      refine hold.trans ?_
      have hsplit : (s.pool.connection c).requestCount.toNat + s.pool.handedOut.count c
          = (s.pool.connection c).requestCount.toNat + 1 + (s.pool.handedOut.count c - 1) := by
        omega
      rw [hsplit]
      exact ((Nat.mod_modEq _ _).symm).add_right _
    · rw [Function.update_of_ne hc, List.count_erase_of_ne hc]
      exact hold
  · exact Nat.le_trans (List.erase_sublist.count_le c) (h.out c)
  · change Function.update s.pool.pc i (.testing ptr) j = .counting c at hc
    by_cases hji : j = i
    · rw [hji, Function.update_self] at hc
      cases hc
    · rw [Function.update_of_ne hji] at hc
      exact h.counting j hj c hc

theorem Used.search (h : Used n cfg s) (i : Nat) (invalid : List Nat) (connected : Bool)
    (now : UInt64) (hkept : ((PoolAct.search i invalid connected now).effect cfg s.pool).Kept n cfg) :
    Used n cfg ((tallied n cfg).effect s (.search i invalid connected now)) := by
  show Used n cfg ⟨(PoolAct.search i invalid connected now).effect cfg s.pool, s.handOuts⟩
  revert hkept
  unfold PoolAct.effect
  dsimp only
  split
  · intro hkept
    exact h.goto hkept rfl rfl rfl rfl (.found none invalid) (by simp) rfl
  · rename_i con rest hcons
    split
    · intro hkept
      exact h.goto hkept rfl rfl rfl rfl (.searching (invalid ++ [con])) (by simp) rfl
    split
    · intro hkept
      exact h.goto hkept rfl rfl rfl rfl (.searching (invalid ++ [con])) (by simp) rfl
    · intro hkept
      exact h.goto hkept rfl rfl rfl rfl (.found (some con) invalid) (by simp) rfl

theorem Used.test (h : Used n cfg s) (i ptr : Nat) (connected : Bool) (now : UInt64)
    (hkept : ((PoolAct.test i ptr connected now).effect cfg s.pool).Kept n cfg) :
    Used n cfg ((tallied n cfg).effect s (.test i ptr connected now)) := by
  show Used n cfg ⟨(PoolAct.test i ptr connected now).effect cfg s.pool, s.handOuts⟩
  revert hkept
  unfold PoolAct.effect
  dsimp only
  split
  · intro hkept
    exact h.goto hkept rfl rfl rfl rfl .decrementing (by simp) rfl
  · intro hkept
    exact h.goto hkept rfl rfl rfl rfl (.pushing ptr) (by simp) rfl

theorem Used.setCreateTime (h : Used n cfg s) (ptr : Nat) (v : UInt64)
    (hkept : ((PoolAct.setCreateTime ptr v).effect cfg s.pool).Kept n cfg) :
    Used n cfg ((tallied n cfg).effect s (.setCreateTime ptr v)) := by
  refine h.walk hkept rfl (fun c => ?_) rfl rfl (fun j c hc => hc)
  show (Function.update s.pool.connection ptr
    { s.pool.connection ptr with createTime := v } c).requestCount = _
  by_cases hc : c = ptr
  · rw [hc, Function.update_self]
  · rw [Function.update_of_ne hc]

/-- **Every step keeps the tally.** -/
theorem Used.effect (h : Used n cfg s) (hl : l.guard n s.pool) :
    Used n cfg ((tallied n cfg).effect s l) := by
  have hkept := h.kept.effect (l := l) hl
  cases l with
  | getConnection i => exact h.goto hkept rfl rfl rfl rfl (.searching []) (by simp) rfl
  | search i invalid connected now => exact h.search i invalid connected now hkept
  | unlock i con invalid => exact h.goto hkept rfl rfl rfl rfl (.deleting con invalid) (by simp) rfl
  | delete i con invalid =>
    exact h.goto hkept rfl rfl rfl rfl (.subtracting con invalid.length) (by simp) rfl
  | subtract i con deleted =>
    obtain ⟨hi, hp⟩ := hl.at_place rfl
    cases con with
    | none => exact h.goto hkept rfl rfl rfl rfl .connecting (by simp) rfl
    | some con =>
      refine h.return con hi ?_ hkept rfl rfl rfl rfl rfl
      simp [hp, PoolPc.holds]
  | connectFail i => exact h.goto hkept rfl rfl rfl rfl .outside (by simp) rfl
  | connect i now => exact h.connect (hl.at_place rfl).1 now hkept
  | increment i con =>
    obtain ⟨hi, hp⟩ := hl.at_place rfl
    refine h.return con hi ?_ hkept rfl rfl rfl rfl rfl
    simp [hp, PoolPc.holds]
  | releasePtr i ptr => exact h.release (hl.at_place rfl).1 (of_decide_eq_true hl.2) hkept
  | test i ptr connected now => exact h.test i ptr connected now hkept
  | decrement i => exact h.goto hkept rfl rfl rfl rfl .outside (by simp) rfl
  | pushBack i ptr => exact h.goto hkept rfl rfl rfl rfl .outside (by simp) rfl
  | setCreateTime ptr v => exact h.setCreateTime ptr v hkept

theorem within_add (con : Nat) {s' : Tallied}
    (htally : s'.handOuts = Function.update s.handOuts con (s.handOuts con + 1)) :
    s'.Within cfg ↔ s.Within cfg ∧ s.handOuts con < cfg.maxRequest.toNat := by
  rw [Within, htally]
  constructor
  · intro h
    have hcon := h con
    rw [Function.update_self] at hcon
    refine ⟨fun c => ?_, hcon⟩
    by_cases hc : c = con
    · rw [hc]
      exact Nat.le_of_lt hcon
    · have hother := h c
      rw [Function.update_of_ne hc] at hother
      exact hother
  · rintro ⟨h, hcon⟩ c
    by_cases hc : c = con
    · rw [hc, Function.update_self]
      exact hcon
    · rw [Function.update_of_ne hc]
      exact h c

/-- **A step takes a connection beyond the maximum exactly when the connection is spent.** -/
theorem Used.within (h : Used n cfg s) (hmax : 1 ≤ cfg.maxRequest.toNat) (hl : l.guard n s.pool) :
    ((tallied n cfg).effect s l).Within cfg ↔ s.Within cfg ∧ Unspent cfg s l := by
  cases l with
  | subtract i con deleted =>
    cases con with
    | none => exact ⟨fun hw => ⟨hw, fun c hc => (by cases hc)⟩, fun hw => hw.1⟩
    | some con =>
      obtain ⟨hi, hp⟩ := hl.at_place rfl
      have hout := (h.hand (c := con) hi (by simp [hp, PoolPc.holds])).1
      have hcounter := h.counter con
      have hsize : cfg.maxRequest.toNat < 2 ^ 32 := cfg.maxRequest.toNat_lt
      have hcount : (s.pool.connection con).requestCount.toNat < 2 ^ 64 :=
        (s.pool.connection con).requestCount.toNat_lt
      rw [hout, Nat.add_zero] at hcounter
      have hunspent : Unspent cfg s (.subtract i (some con) deleted)
          ↔ (s.pool.connection con).requestCount.toNat < cfg.maxRequest.toNat := by
        simp [Unspent]
      rw [within_add con rfl, hunspent]
      refine and_congr_right fun hw => ?_
      have hle := hw con
      rw [Nat.ModEq.eq_of_lt_of_lt hcounter (by omega) hcount]
  | increment i con =>
    obtain ⟨hi, hp⟩ := hl.at_place rfl
    have hnone := h.counting i hi con hp
    rw [within_add con rfl]
    refine and_congr_right fun _ => ?_
    rw [hnone]
    exact ⟨fun _ => trivial, fun _ => hmax⟩
  | _ => exact ⟨fun hw => ⟨hw, trivial⟩, fun hw => hw.1⟩

end Tallied

/-- **No connection is handed out more often than the maximum in exactly the runs in which
`getConnection` returns no idle connection that has already counted so many requests.** -/
theorem hand_outs_run (n : Nat) (cfg : PoolConfig) (hmax : 1 ≤ cfg.maxRequest.toNat)
    (ls : List PoolAct) (h : (tallied n cfg).Allowed .start ls) :
    (∀ c, ((tallied n cfg).after .start ls).handOuts c ≤ cfg.maxRequest.toNat)
      ↔ ((tallied n cfg).meeting (Unspent cfg)).Allowed .start ls := by
  have hrun := h.meeting_iff (I := Tallied.Used n cfg) (P := Tallied.Within cfg) (C := Unspent cfg)
    (fun s l hs hl => hs.effect hl) (fun s l hs hl => hs.within hmax hl) (.start n cfg)
  exact hrun.trans ⟨fun hls => hls.2, fun hls => ⟨fun c => Nat.zero_le _, hls⟩⟩

/-- a connection that is made, released, and handed out again -/
def handOutAgain : List PoolAct :=
  [.getConnection 0, .search 0 [] true 1000, .unlock 0 none [], .delete 0 none [],
    .subtract 0 none 0, .connect 0 1000, .increment 0 0, .releasePtr 0 0, .test 0 0 true 1000,
    .pushBack 0 0, .getConnection 0, .search 0 [] true 1000, .unlock 0 (some 0) [],
    .delete 0 (some 0) [], .subtract 0 (some 0) 0]

theorem hand_outs_run_again :
    (∀ c, ((tallied 1 ⟨10, 30, 2⟩).after .start handOutAgain).handOuts c ≤ 2)
      ↔ ((tallied 1 ⟨10, 30, 2⟩).meeting (Unspent ⟨10, 30, 2⟩)).Allowed .start handOutAgain :=
  hand_outs_run 1 ⟨10, 30, 2⟩ (by decide) _ (by decide)

/-- **A connection is handed out twice by a pool whose connections may be used once.** -/
theorem handed_out_twice : ¬ ∀ (n : Nat) (cfg : PoolConfig), 1 ≤ cfg.maxRequest.toNat →
    ∀ ls, (tallied n cfg).Allowed .start ls →
    ∀ c, ((tallied n cfg).after .start ls).handOuts c ≤ cfg.maxRequest.toNat := by
  intro h
  exact absurd (h 1 ⟨10, 30, 1⟩ (by decide) handOutAgain (by decide) 0) (by decide)

end Http
end KitServer
