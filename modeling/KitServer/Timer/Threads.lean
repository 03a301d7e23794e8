import KitServer.Timer.Sequential

/-!
# Threads on one `TimerManager`

Every label is one section under the lock of the manager, or one piece of a call in front of,
between or behind such sections: `addTimer` constructs the timer in front of the lock and calls
`onTimerInsertedAtFront` behind it, `reset` gives the lock away between its two sections, and
`listExpiredCb` reads the clock first.  A timer is known to the threads when `addTimer` has
returned it.

* `Placed`           what holds of the set and of the calls on the way, for any threads;
* `Placed.effect`    every step keeps it.
-/

set_option linter.unusedVariables false

namespace KitServer
namespace Timers
open TimerManager
variable {Cb : Type}

inductive Pc where
  | out
  -- `addTimer(Timer::ptr)` in front of the lock; `fresh` when `addTimer(ms, cb, recurring)` calls it
  | adding (a : Addr) (fresh : Bool)
  -- behind the lock, in front of `onTimerInsertedAtFront`
  | notifying (a : Addr) (fresh : Bool)
  | resetting (a : Addr) (ms : UInt64) (from_now : Bool)
  | listing (now_ms : UInt64)
  -- `listExpiredCb` between its two sections
  | expiring (now_ms : UInt64)
deriving DecidableEq

structure Threads (Cb : Type) where
  manager : TimerManager Cb
  pc : Nat → Pc
  created : List Addr
  known : List Addr
  clock : UInt64
  history : List Event

def Threads.start (heap : Addr → Timer Cb) (now_ms : UInt64) : Threads Cb :=
  ⟨⟨heap, [], false, now_ms⟩, fun _ => .out, [], [], now_ms, []⟩

/-- a step of the thread `i` -/
inductive Act (Cb : Type) where
  | addTimer (i : Nat) (a : Addr) (ms : UInt64) (cb : Option Cb) (recurring : Bool)
      (now_ms : UInt64)
  | add (i : Nat) (a : Addr) (fresh : Bool)
  | notify (i : Nat) (a : Addr) (fresh : Bool)
  | cancel (i : Nat) (a : Addr)
  | refresh (i : Nat) (a : Addr) (now_ms : UInt64)
  | reset (i : Nat) (a : Addr) (ms : UInt64) (from_now : Bool)
  | resetLocked (i : Nat) (a : Addr) (ms : UInt64) (from_now : Bool) (now_ms : UInt64)
  | getNextTime (i : Nat) (now_ms : UInt64)
  | listExpiredCb (i : Nat) (now_ms : UInt64)
  | lookEmpty (i : Nat) (now_ms : UInt64)
  | expire (i : Nat) (now_ms : UInt64) (probe : Addr)

/-- the `m_next` of the timer in front -/
def TimerManager.front (m : TimerManager Cb) : Option UInt64 :=
  m.timers.head?.map fun a => (m.heap a).next

def Act.guard (s : Threads Cb) : Act Cb → Prop
  | .addTimer i a _ _ _ _ => s.pc i = .out ∧ a ∉ s.created
  | .add i a fresh => s.pc i = .adding a fresh
  | .notify i a fresh => s.pc i = .notifying a fresh
  | .cancel i a => s.pc i = .out ∧ a ∈ s.known
  | .refresh i a _ => s.pc i = .out ∧ a ∈ s.known
  | .reset i a _ _ => s.pc i = .out ∧ a ∈ s.known
  | .resetLocked i a ms from_now _ => s.pc i = .resetting a ms from_now
  | .getNextTime i _ => s.pc i = .out
  | .listExpiredCb i _ => s.pc i = .out
  | .lookEmpty i now_ms => s.pc i = .listing now_ms
  | .expire i now_ms _ => s.pc i = .expiring now_ms

instance (s : Threads Cb) : ∀ l : Act Cb, Decidable (l.guard s)
  | .addTimer i a _ _ _ _ => inferInstanceAs (Decidable (s.pc i = .out ∧ a ∉ s.created))
  | .add i a fresh => inferInstanceAs (Decidable (s.pc i = .adding a fresh))
  | .notify i a fresh => inferInstanceAs (Decidable (s.pc i = .notifying a fresh))
  | .cancel i a => inferInstanceAs (Decidable (s.pc i = .out ∧ a ∈ s.known))
  | .refresh i a _ => inferInstanceAs (Decidable (s.pc i = .out ∧ a ∈ s.known))
  | .reset i a _ _ => inferInstanceAs (Decidable (s.pc i = .out ∧ a ∈ s.known))
  | .resetLocked i a ms from_now _ => inferInstanceAs (Decidable (s.pc i = .resetting a ms from_now))
  | .getNextTime i _ => inferInstanceAs (Decidable (s.pc i = .out))
  | .listExpiredCb i _ => inferInstanceAs (Decidable (s.pc i = .out))
  | .lookEmpty i now_ms => inferInstanceAs (Decidable (s.pc i = .listing now_ms))
  | .expire i now_ms _ => inferInstanceAs (Decidable (s.pc i = .expiring now_ms))

def Threads.goto (i : Nat) (pc : Pc) (s : Threads Cb) : Threads Cb :=
  { s with pc := Function.update s.pc i pc }

def Act.effect (s : Threads Cb) : Act Cb → Threads Cb
  | .addTimer i a ms cb recurring now_ms =>
    { s.goto i (.adding a true) with
      manager := s.manager.store a (Timer.new ms cb recurring now_ms)
      created := a :: s.created
      clock := now_ms }
  | .add i a fresh =>
    let r := s.manager.addLocked a
    { s.goto i (if r.2 then .notifying a fresh else .out) with
      manager := r.1
      known := if fresh && !r.2 then a :: s.known else s.known }
  | .notify i a fresh =>
    { s.goto i .out with
      known := if fresh then a :: s.known else s.known
      history := .notified :: s.history }
  | .cancel _ a =>
    let r := Timer.cancel a s.manager
    { s with manager := r.1, history := .cancelled a r.2 :: s.history }
  | .refresh _ a now_ms =>
    { s with manager := (Timer.refresh a now_ms s.manager).1, clock := now_ms }
  | .reset i a ms from_now =>
    if Timer.unchanged a ms from_now s.manager then s else s.goto i (.resetting a ms from_now)
  | .resetLocked i a ms from_now now_ms =>
    let r := Timer.resetLocked a ms from_now now_ms s.manager
    { s.goto i (if r.2 then .adding a false else .out) with manager := r.1, clock := now_ms }
  | .getNextTime _ now_ms =>
    { s with
      manager := (s.manager.getNextTime now_ms).1
      clock := now_ms
      history := .gotNext s.manager.front :: s.history }
  | .listExpiredCb i now_ms => { s.goto i (.listing now_ms) with clock := now_ms }
  | .lookEmpty i now_ms => s.goto i (if s.manager.isTimersEmpty then .out else .expiring now_ms)
  | .expire i now_ms probe =>
    { s.goto i .out with
      manager := (s.manager.listExpiredCb now_ms probe []).1
      history := (s.manager.expired now_ms probe).reverse.map .collected ++ s.history }

def threads : Machine (Threads Cb) (Act Cb) := ⟨fun s l => l.guard s, fun s l => l.effect s⟩

instance (s : Threads Cb) (l : Act Cb) : Decidable (threads.guard s l) :=
  inferInstanceAs (Decidable (l.guard s))

/-! ## the set and the calls on the way -/

/-- the set is in order, and a timer that a call is about to add is in no set and in no other such
call -/
structure Placed (s : Threads Cb) : Prop where
  ordered : s.manager.Ordered
  created : ∀ a ∈ s.manager.timers, a ∈ s.created
  known : ∀ a ∈ s.known, a ∈ s.created
  adding : ∀ i a fresh, s.pc i = .adding a fresh → a ∈ s.created ∧ a ∉ s.manager.timers
  notifying : ∀ i a fresh, s.pc i = .notifying a fresh → a ∈ s.created
  one : ∀ i j a fresh fresh', s.pc i = .adding a fresh → s.pc j = .adding a fresh' → i = j

theorem Placed.start (heap : Addr → Timer Cb) (now_ms : UInt64) :
    Placed (Threads.start heap now_ms) where
  ordered := List.Pairwise.nil
  created := fun _ h => (by cases h)
  known := fun _ h => (by cases h)
  adding := fun _ _ _ h => (by cases h)
  notifying := fun _ _ _ h => (by cases h)
  one := fun _ _ _ _ _ h => (by cases h)

theorem goto_pc {s : Threads Cb} {i j : Nat} {pc pc' : Pc} (h : (s.goto i pc).pc j = pc') :
    (j = i ∧ pc' = pc) ∨ (j ≠ i ∧ s.pc j = pc') := by
  by_cases hj : j = i
  · subst hj
    have hpc : Function.update s.pc j pc j = pc' := h
    rw [Function.update_self] at hpc
    exact .inl ⟨rfl, hpc.symm⟩
  · have hpc : Function.update s.pc i pc j = pc' := h
    rw [Function.update_of_ne hj] at hpc
    exact .inr ⟨hj, hpc⟩

section
variable {s : Threads Cb}

theorem Placed.leave (h : Placed s) (i : Nat) (pc : Pc) (hadd : ∀ a fresh, pc ≠ .adding a fresh)
    (hnot : ∀ a fresh, pc ≠ .notifying a fresh) : Placed (s.goto i pc) := by
  refine ⟨h.ordered, h.created, h.known, ?_, ?_, ?_⟩
  · intro j a fresh hj
    rcases goto_pc hj with ⟨_, he⟩ | ⟨_, hj⟩
    · exact absurd he.symm (hadd a fresh)
    · exact h.adding j a fresh hj
  · intro j a fresh hj
    rcases goto_pc hj with ⟨_, he⟩ | ⟨_, hj⟩
    · exact absurd he.symm (hnot a fresh)
    · exact h.notifying j a fresh hj
  · intro j k a fresh fresh' hj hk
    rcases goto_pc hj with ⟨_, he⟩ | ⟨_, hj⟩
    · exact absurd he.symm (hadd a fresh)
    · rcases goto_pc hk with ⟨_, he⟩ | ⟨_, hk⟩
      · exact absurd he.symm (hadd a fresh')
      · exact h.one j k a fresh fresh' hj hk

theorem Placed.manager (h : Placed s) {m : TimerManager Cb} (hord : m.Ordered)
    (hsub : ∀ x ∈ m.timers, x ∈ s.manager.timers) : Placed { s with manager := m } where
  ordered := hord
  created := fun x hx => h.created x (hsub x hx)
  known := h.known
  adding := fun i a fresh hi =>
    ⟨(h.adding i a fresh hi).1, fun hin => (h.adding i a fresh hi).2 (hsub a hin)⟩
  notifying := h.notifying
  one := h.one

theorem Placed.know (h : Placed s) {a : Addr} (ha : a ∈ s.created) (fresh : Bool) :
    Placed { s with known := if fresh then a :: s.known else s.known } where
  ordered := h.ordered
  created := h.created
  known := by
    intro x hx
    cases fresh with
    | false => exact h.known x hx
    | true => exact (List.mem_cons.mp hx).elim (fun he => he ▸ ha) (h.known x)
  adding := h.adding
  notifying := h.notifying
  one := h.one

theorem Placed.clock (h : Placed s) (now_ms : UInt64) : Placed { s with clock := now_ms } :=
  ⟨h.ordered, h.created, h.known, h.adding, h.notifying, h.one⟩

theorem Placed.record (h : Placed s) (history : List Event) : Placed { s with history := history } :=
  ⟨h.ordered, h.created, h.known, h.adding, h.notifying, h.one⟩

theorem Placed.addTimer (h : Placed s) (i : Nat) {a : Addr} (hnew : a ∉ s.created) (ms : UInt64)
    (cb : Option Cb) (recurring : Bool) (now_ms : UInt64) :
    Placed ((Act.addTimer i a ms cb recurring now_ms).effect s) := by
  have hout : a ∉ s.manager.timers := fun hin => hnew (h.created a hin)
  refine ⟨h.ordered.store hout _, ?_, ?_, ?_, ?_, ?_⟩
  · exact fun x hx => List.mem_cons_of_mem a (h.created x hx)
  · exact fun x hx => List.mem_cons_of_mem a (h.known x hx)
  · intro j x fresh hj
    rcases goto_pc hj with ⟨_, he⟩ | ⟨_, hj⟩
    · obtain ⟨rfl, _⟩ := Pc.adding.inj he
      exact ⟨List.mem_cons_self, hout⟩
    · exact ⟨List.mem_cons_of_mem a (h.adding j x fresh hj).1, (h.adding j x fresh hj).2⟩
  · intro j x fresh hj
    rcases goto_pc hj with ⟨_, he⟩ | ⟨_, hj⟩
    · cases he
    · exact List.mem_cons_of_mem a (h.notifying j x fresh hj)
  · intro j k x fresh fresh' hj hk
    rcases goto_pc hj with ⟨hji, he⟩ | ⟨_, hj'⟩
    · obtain ⟨rfl, _⟩ := Pc.adding.inj he
      rcases goto_pc hk with ⟨hki, _⟩ | ⟨_, hk'⟩
      · rw [hji, hki]
      · exact absurd (h.adding k x fresh' hk').1 hnew
    · rcases goto_pc hk with ⟨_, he⟩ | ⟨_, hk'⟩
      · obtain ⟨rfl, _⟩ := Pc.adding.inj he
        exact absurd (h.adding j x fresh hj').1 hnew
      · exact h.one j k x fresh fresh' hj' hk'

theorem Placed.add (h : Placed s) {i : Nat} {a : Addr} {fresh : Bool}
    (hpc : s.pc i = .adding a fresh) : Placed ((Act.add i a fresh).effect s) := by
  have ha := h.adding i a fresh hpc
  have hnot : ∀ j x f, ((Act.add i a fresh).effect s).pc j = .adding x f → j ≠ i ∧ s.pc j = .adding x f
  · intro j x f hj
    rcases goto_pc hj with ⟨_, he⟩ | hj
    · split at he <;> cases he
    · exact hj
  refine ⟨h.ordered.addLocked a, ?_, ?_, ?_, ?_, ?_⟩
  · intro x hx
    rcases mem_addLocked.mp hx with rfl | hx
    · exact ha.1
    · exact h.created x hx
  · intro x hx
    simp only [Act.effect] at hx
    split at hx
    · exact (List.mem_cons.mp hx).elim (fun he => he ▸ ha.1) (h.known x)
    · exact h.known x hx
  · intro j x f hj
    obtain ⟨hne, hj'⟩ := hnot j x f hj
    refine ⟨(h.adding j x f hj').1, fun hin => ?_⟩
    rcases mem_addLocked.mp hin with rfl | hin
    · exact hne (h.one j i x f fresh hj' hpc)
    · exact (h.adding j x f hj').2 hin
  · intro j x f hj
    rcases goto_pc hj with ⟨_, he⟩ | ⟨_, hj⟩
    · split at he
      · obtain ⟨rfl, _⟩ := Pc.notifying.inj he
        exact ha.1
      · cases he
    · exact h.notifying j x f hj
  · intro j k x f f' hj hk
    exact h.one j k x f f' (hnot j x f hj).2 (hnot k x f' hk).2

theorem Placed.resetLocked (h : Placed s) (i : Nat) (a : Addr) (ms : UInt64) (from_now : Bool)
    (now_ms : UInt64) : Placed ((Act.resetLocked i a ms from_now now_ms).effect s) := by
  rcases Timer.resetLocked_cases h.ordered a ms from_now now_ms with ⟨_, hr⟩ | ⟨_, hin, hr⟩
  · simp only [Act.effect, hr, Bool.false_eq_true, if_false]
    exact (h.leave i .out (fun _ _ hc => (by cases hc)) fun _ _ hc => (by cases hc)).clock now_ms
  · simp only [Act.effect, hr, if_true]
    have hout : a ∉ (s.manager.erase a).timers := fun hc => (h.ordered.mem_erase.mp hc).1 rfl
    have hnone : ∀ j f, s.pc j ≠ .adding a f := fun j f hj => (h.adding j a f hj).2 hin
    refine ⟨(h.ordered.erase a).store hout _, ?_, h.known, ?_, ?_, ?_⟩
    · exact fun x hx => h.created x (h.ordered.mem_erase.mp hx).2
    · intro j x f hj
      rcases goto_pc hj with ⟨_, he⟩ | ⟨_, hj⟩
      · obtain ⟨rfl, _⟩ := Pc.adding.inj he
        exact ⟨h.created x hin, hout⟩
      · exact ⟨(h.adding j x f hj).1,
          fun hx => (h.adding j x f hj).2 (h.ordered.mem_erase.mp hx).2⟩
    · intro j x f hj
      rcases goto_pc hj with ⟨_, he⟩ | ⟨_, hj⟩
      · cases he
      · exact h.notifying j x f hj
    · intro j k x f f' hj hk
      rcases goto_pc hj with ⟨hji, he⟩ | ⟨_, hj'⟩
      · obtain ⟨rfl, _⟩ := Pc.adding.inj he
        rcases goto_pc hk with ⟨hki, _⟩ | ⟨_, hk'⟩
        · rw [hji, hki]
        · exact absurd hk' (hnone k f')
      · rcases goto_pc hk with ⟨_, he⟩ | ⟨_, hk'⟩
        · obtain ⟨rfl, _⟩ := Pc.adding.inj he
          exact absurd hj' (hnone j f)
        · exact h.one j k x f f' hj' hk'

theorem cancel_sub (h : s.manager.Ordered) (a : Addr) : (Timer.cancel a s.manager).1.Ordered ∧
    ∀ x ∈ (Timer.cancel a s.manager).1.timers, x ∈ s.manager.timers := by
  have hord : (s.manager.store a { s.manager.heap a with cb := none }).Ordered := h.store_next rfl
  rcases Timer.cancel_cases h a with ⟨_, hr⟩ | ⟨_, _, hr⟩ | ⟨_, _, hr⟩
  · rw [hr]
    exact ⟨h, fun _ hx => hx⟩
  · rw [hr]
    exact ⟨hord, fun _ hx => hx⟩
  · rw [hr]
    exact ⟨hord.erase a, fun x hx => (hord.mem_erase.mp hx).2⟩

theorem refresh_sub (h : s.manager.Ordered) (a : Addr) (now_ms : UInt64) :
    (Timer.refresh a now_ms s.manager).1.Ordered ∧
    ∀ x ∈ (Timer.refresh a now_ms s.manager).1.timers, x ∈ s.manager.timers := by
  have hout : a ∉ (s.manager.erase a).timers := fun hc => (h.mem_erase.mp hc).1 rfl
  rcases Timer.refresh_cases h a now_ms with ⟨_, hr⟩ | ⟨_, hin, hr⟩
  · rw [hr]
    exact ⟨h, fun _ hx => hx⟩
  · rw [hr]
    refine ⟨((h.erase a).store hout _).insert a, fun x hx => ?_⟩
    rcases mem_insert.mp hx with rfl | hx
    · exact hin
    · exact (h.mem_erase.mp hx).2

theorem expire_sub (h : s.manager.Ordered) (now_ms : UInt64) (probe : Addr) :
    (s.manager.listExpiredCb now_ms probe []).1.Ordered ∧
    ∀ x ∈ (s.manager.listExpiredCb now_ms probe []).1.timers, x ∈ s.manager.timers := by
  have hr := listExpiredCb_spec now_ms probe ([] : List (Option Cb)) h
  refine ⟨hr.ordered, fun x hx => ?_⟩
  rcases (hr.mem x).mp hx with hx | hx
  · exact hx.1
  · exact hr.sub x hx.1

/-- **Every step of every thread keeps the timers in their places.** -/
theorem Placed.effect (h : Placed s) (l : Act Cb) (hl : l.guard s) : Placed (l.effect s) := by
  cases l with
  | addTimer i a ms cb recurring now_ms => exact h.addTimer i hl.2 ms cb recurring now_ms
  | add i a fresh => exact h.add hl
  | notify i a fresh =>
    have hleave := h.leave i .out (fun _ _ hc => (by cases hc)) fun _ _ hc => (by cases hc)
    exact (hleave.know (h.notifying i a fresh hl) fresh).record _
  | cancel i a =>
    obtain ⟨hord, hsub⟩ := cancel_sub h.ordered a
    exact (h.manager hord hsub).record _
  | refresh i a now_ms =>
    obtain ⟨hord, hsub⟩ := refresh_sub h.ordered a now_ms
    exact (h.manager hord hsub).clock now_ms
  | reset i a ms from_now =>
    simp only [Act.effect]
    split
    · exact h
    · exact h.leave i (.resetting a ms from_now) (fun _ _ hc => (by cases hc)) fun _ _ hc => (by cases hc)
  | resetLocked i a ms from_now now_ms => exact h.resetLocked i a ms from_now now_ms
  | getNextTime i now_ms =>
    simp only [Act.effect, getNextTime_manager]
    have hset : Placed { s with manager := { s.manager with tickled := false } } :=
      h.manager h.ordered fun _ hx => hx
    exact (hset.clock now_ms).record _
  | listExpiredCb i now_ms =>
    exact (h.leave i (.listing now_ms) (fun _ _ hc => (by cases hc)) fun _ _ hc => (by cases hc)).clock now_ms
  | lookEmpty i now_ms =>
    simp only [Act.effect]
    split
    · exact h.leave i .out (fun _ _ hc => (by cases hc)) fun _ _ hc => (by cases hc)
    · exact h.leave i (.expiring now_ms) (fun _ _ hc => (by cases hc)) fun _ _ hc => (by cases hc)
  | expire i now_ms probe =>
    obtain ⟨hord, hsub⟩ := expire_sub h.ordered now_ms probe
    have hleave := h.leave i .out (fun _ _ hc => (by cases hc)) fun _ _ hc => (by cases hc)
    have hman : Placed { s.goto i .out with
        manager := (s.manager.listExpiredCb now_ms probe []).1 } := hleave.manager hord hsub
    exact hman.record _

end
end Timers
end KitServer
