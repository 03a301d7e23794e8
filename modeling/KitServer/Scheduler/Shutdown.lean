import KitServer.Lib.Count
import KitServer.Scheduler.Pool

/-!
# What is left when `stopping` returns true

`IOManager::stopping` reads the number of events, then whether there are timers, then, under the lock
of the queue, the flags, the queue and the number of active workers.

* `Counted`        what the two counters count, and what a worker in `stopping` has read;
* `shutdown_run`   nothing is left, when nothing was on its way during the reads;
* `stopped_early`  a coroutine that was on its way back into the queue.
-/

set_option linter.unusedVariables false

namespace KitServer
namespace Scheduler
open IOManager (Task)
variable {F : Type}

/-- the worker counts for `m_activeThreadCount` -/
def Pc.active : Pc F → Bool
  | .dequeued t => t.isSome
  | .discarding => true
  | .swapIn _ _ => true
  | .entered _ _ => true
  | .switching _ _ => true
  | .running _ _ => true
  | .leaving _ _ => true
  | .returned _ _ => true
  | _ => false

/-- the worker has handled an event that still counts for `m_pendingEventCount` -/
def Pc.decrementing : Pc F → Bool
  | .idle .decrementing => true
  | _ => false

/-- the number of events that had been added when `stopping` found none -/
def Pc.events : Pc F → Option Nat
  | .idle (.stoppingTimers events) => some events
  | .idle (.stoppingScheduler events _) => some events
  | _ => none

/-- the number of timers that had been added when `stopping` found none -/
def Pc.timers : Pc F → Option Nat
  | .idle (.stoppingScheduler _ timers) => some timers
  | _ => none

/-- the coroutine has yielded and is READY, and is not yet in the queue again -/
def Pc.returning (state : Cor → State) : Pc F → Bool
  | .counted c _ => decide (state c = .READY)
  | .requeueing _ _ => true
  | _ => false

/-- `listExpiredCb` has collected callbacks that are not yet in the queue -/
def Pc.collected : Pc F → Bool
  | .idle (.scheduling _) => true
  | _ => false

/-- the worker has work in hand that neither the queue nor a counter shows -/
def Pc.unseen (state : Cor → State) (p : Pc F) : Bool := p.returning state || p.collected

/-- a task was taken and is not finished, or waits to be in the queue again -/
def Pc.busy (state : Cor → State) (p : Pc F) : Bool := p.active || p.returning state

/-- the last read of `stopping` -/
def Act.stops : Act F → Option (Nat × Nat)
  | .schedulerStopping _ events timers => some (events, timers)
  | _ => none

/-- a call from outside of the tasks -/
def Act.outside : Act F → Bool
  | .schedule none _ => true
  | .addEvent none _ => true
  | .addTimer none _ => true
  | _ => false

/-- the calls from outside are made before `stop` -/
def BeforeStop (s : Pool F) (l : Act F) : Prop := l.outside = true → s.autoStop = false

/-- when `stopping` returns true, no worker has unseen work in hand, and no event and no timer was
added since it found none -/
def Settled (n : Nat) (s : Pool F) (l : Act F) : Prop :=
  ∀ r ∈ l.stops, s.schedulerStopping = true →
    (∀ j < n, (s.pc j).unseen s.state = false) ∧ s.eventsAdded = r.1 ∧ s.timersAdded = r.2

instance (s : Pool F) (l : Act F) : Decidable (BeforeStop s l) :=
  inferInstanceAs (Decidable (_ → _))

instance (n : Nat) (s : Pool F) (l : Act F) : Decidable (Settled n s l) :=
  inferInstanceAs (Decidable (∀ r ∈ l.stops, _ → _ ∧ _ ∧ _))

structure Done (s : Pool F) : Prop where
  coroutines : s.coroutines = []
  taken : ∀ i, (s.pc i).busy s.state = false
  registered : s.registered = []
  timers : s.timers = []
  collected : ∀ i, (s.pc i).collected = false

theorem Done.seen {s : Pool F} (h : Done s) (j : Nat) : (s.pc j).unseen s.state = false := by
  rw [Pc.unseen, h.collected j, Bool.or_false]
  exact (Bool.or_eq_false_iff.mp (h.taken j)).2

structure Counted (n : Nat) (s : Pool F) : Prop where
  active : s.activeThreadCount = Nat.count (fun j => (s.pc j).active = true) n
  pending : s.pendingEventCount
    = s.registered.length + Nat.count (fun j => (s.pc j).decrementing = true) n
  beyond : ∀ j, n ≤ j → s.pc j = .looping
  events : ∀ j r, (s.pc j).events = some r →
    r ≤ s.eventsAdded ∧ (s.eventsAdded = r → s.pendingEventCount = 0)
  timers : ∀ j r, (s.pc j).timers = some r →
    r ≤ s.timersAdded ∧ (s.timersAdded = r → s.timers = [])

theorem Counted.start (n : Nat) : Counted n (Pool.start : Pool F) := by
  refine ⟨?_, ?_, fun _ _ => rfl, fun _ _ h => (by cases h), fun _ _ h => (by cases h)⟩
  · rw [Nat.count_iff_forall_not.mpr fun j _ hj => (by cases hj)]
    rfl
  · rw [Nat.count_iff_forall_not.mpr fun j _ hj => (by cases hj)]
    rfl

theorem pc_setWorker (s : Pool F) (i : Nat) (w : Worker F) :
    (s.setWorker i w).pc = Function.update s.pc i w.pc := by
  funext j
  show (Function.update s.workers i w j).pc = _
  by_cases hj : j = i
  · rw [hj, Function.update_self, Function.update_self]
  · rw [Function.update_of_ne hj, Function.update_of_ne hj]
    rfl

section
variable {n : Nat} {s s' : Pool F} {i : Nat} {p q : Pc F}

/-- **A step of the worker `i`, from the place `p` to the place `q`.** -/
theorem Counted.move (h : Counted n s) (hi : i < n) (hp : s.pc i = p)
    (hw : s'.pc = Function.update s.pc i q)
    (ha : s'.activeThreadCount + p.active.toNat = s.activeThreadCount + q.active.toNat)
    (hd : s'.pendingEventCount + s.registered.length + p.decrementing.toNat
      = s.pendingEventCount + s'.registered.length + q.decrementing.toNat)
    (hev : s'.eventsAdded = s.eventsAdded) (htm : s'.timersAdded = s.timersAdded)
    (hpz : s.pendingEventCount = 0 → s'.pendingEventCount = 0)
    (htz : s.timers = [] → s'.timers = [])
    (hqe : ∀ r, q.events = some r →
      r ≤ s.eventsAdded ∧ (s.eventsAdded = r → s.pendingEventCount = 0))
    (hqt : ∀ r, q.timers = some r → r ≤ s.timersAdded ∧ (s.timersAdded = r → s.timers = [])) :
    Counted n s' := by
  have hself : s'.pc i = q := by rw [hw, Function.update_self]
  have hother : ∀ j, j ≠ i → s'.pc j = s.pc j := by
    intro j hj
    rw [hw, Function.update_of_ne hj]
  refine ⟨?_, ?_, ?_, ?_, ?_⟩
  · have hcount := count_update (P := Pc.active) (f := s.pc) hi q
    have hactive := h.active
    rw [hw]
    rw [hp] at hcount
    omega
  · have hcount := count_update (P := Pc.decrementing) (f := s.pc) hi q
    have hpending := h.pending
    rw [hw]
    rw [hp] at hcount
    omega
  · intro j hj
    rw [hother j (by omega)]
    exact h.beyond j hj
  · intro j r hr
    rw [hev]
    by_cases hj : j = i
    · rw [hj, hself] at hr
      exact ⟨(hqe r hr).1, fun he => hpz ((hqe r hr).2 he)⟩
    · rw [hother j hj] at hr
      exact ⟨(h.events j r hr).1, fun he => hpz ((h.events j r hr).2 he)⟩
  · intro j r hr
    rw [htm]
    by_cases hj : j = i
    · rw [hj, hself] at hr
      exact ⟨(hqt r hr).1, fun he => htz ((hqt r hr).2 he)⟩
    · rw [hother j hj] at hr
      exact ⟨(h.timers j r hr).1, fun he => htz ((h.timers j r hr).2 he)⟩

theorem Counted.walk (h : Counted n s) (hi : i < n) (hp : s.pc i = p)
    (hw : s'.pc = Function.update s.pc i q)
    (ha : s'.activeThreadCount + p.active.toNat = s.activeThreadCount + q.active.toNat)
    (hpd : p.decrementing = false) (hqd : q.decrementing = false)
    (hqe : q.events = none) (hqt : q.timers = none)
    (hsame : s'.pendingEventCount = s.pendingEventCount ∧ s'.registered = s.registered ∧
      s'.timers = s.timers ∧ s'.eventsAdded = s.eventsAdded ∧ s'.timersAdded = s.timersAdded) :
    Counted n s' := by
  obtain ⟨hpend, hreg, htim, hev, htm⟩ := hsame
  refine h.move hi hp hw ha ?_ hev htm (fun h0 => hpend.trans h0) (fun h0 => htim.trans h0) ?_ ?_
  · rw [hpend, hreg, hpd, hqd]
  · exact fun r hr => (by cases hqe.symm.trans hr)
  · exact fun r hr => (by cases hqt.symm.trans hr)

theorem Counted.same (h : Counted n s) (hw : s'.workers = s.workers)
    (hsame : s'.activeThreadCount = s.activeThreadCount ∧
      s'.pendingEventCount = s.pendingEventCount ∧ s'.registered = s.registered ∧
      s'.timers = s.timers ∧ s'.eventsAdded = s.eventsAdded ∧ s'.timersAdded = s.timersAdded) :
    Counted n s' := by
  obtain ⟨hact, hpend, hreg, htim, hev, htm⟩ := hsame
  have hpc : s'.pc = s.pc := by
    funext j
    show (s'.workers j).pc = _
    rw [hw]
    rfl
  refine ⟨?_, ?_, ?_, ?_, ?_⟩
  · rw [hact, hpc]
    exact h.active
  · rw [hpend, hreg, hpc]
    exact h.pending
  · rw [hpc]
    exact h.beyond
  · rw [hpc, hev, hpend]
    exact h.events
  · rw [hpc, htm, htim]
    exact h.timers

theorem Counted.goto (h : Counted n s) (hi : i < n) (hp : s.pc i = p) (hw : s'.pc = Function.update s.pc i q)
    (hact : s'.activeThreadCount = s.activeThreadCount ∧ q.active = p.active)
    (hpd : p.decrementing = false) (hqd : q.decrementing = false)
    (hqe : q.events = none) (hqt : q.timers = none)
    (hsame : s'.pendingEventCount = s.pendingEventCount ∧ s'.registered = s.registered ∧
      s'.timers = s.timers ∧ s'.eventsAdded = s.eventsAdded ∧ s'.timersAdded = s.timersAdded) :
    Counted n s' :=
  h.walk hi hp hw (by rw [hact.1, hact.2]) hpd hqd hqe hqt hsame

theorem Counted.dequeue (h : Counted n s) (hi : i < n) (hp : s.pc i = .looping) :
    Counted n ((Act.dequeue i).effect s) := by
  unfold Act.effect
  dsimp only
  split
  · exact h.goto hi hp (pc_setWorker s i _) ⟨rfl, rfl⟩ rfl rfl rfl rfl ⟨rfl, rfl, rfl, rfl, rfl⟩
  · exact h.walk hi hp (pc_setWorker s i _) (Int.add_zero _) rfl rfl rfl rfl
      ⟨rfl, rfl, rfl, rfl, rfl⟩

theorem Counted.readPending (h : Counted n s) (hi : i < n) (hp : s.pc i = .idle .stopping) :
    Counted n ((Act.readPending i).effect s) := by
  unfold Act.effect
  dsimp only
  split
  · rename_i hzero
    refine h.move hi hp (pc_setWorker s i _) rfl rfl rfl rfl id id ?_ fun r hr => (by cases hr)
    intro r hr
    obtain rfl : s.eventsAdded = r := Option.some.inj hr
    exact ⟨Nat.le_refl _, fun _ => hzero⟩
  · exact h.goto hi hp (pc_setWorker s i _) ⟨rfl, rfl⟩ rfl rfl rfl rfl ⟨rfl, rfl, rfl, rfl, rfl⟩

theorem Counted.readTimers (h : Counted n s) (hi : i < n) {events : Nat}
    (hp : s.pc i = .idle (.stoppingTimers events)) :
    Counted n ((Act.readTimers i events).effect s) := by
  unfold Act.effect
  dsimp only
  split
  · rename_i hempty
    refine h.move hi hp (pc_setWorker s i _) rfl rfl rfl rfl id id ?_ ?_
    · intro r hr
      obtain rfl : events = r := Option.some.inj hr
      exact h.events i events (by rw [hp]; rfl)
    · intro r hr
      obtain rfl : s.timersAdded = r := Option.some.inj hr
      exact ⟨Nat.le_refl _, fun _ => List.isEmpty_iff.mp hempty⟩
  · exact h.goto hi hp (pc_setWorker s i _) ⟨rfl, rfl⟩ rfl rfl rfl rfl ⟨rfl, rfl, rfl, rfl, rfl⟩

theorem Counted.listExpiredCb (h : Counted n s) (hi : i < n) (hp : s.pc i = .idle .waiting)
    (expired : PendingTimer F → Bool) : Counted n ((Act.listExpiredCb i expired).effect s) := by
  have hnone : s.timers = [] → (s.timers.filter fun t => !expired t || t.recurring) = [] := by
    intro he
    rw [he]
    rfl
  unfold Act.effect
  dsimp only
  split
  · exact h.move hi hp (pc_setWorker s i _) rfl rfl rfl rfl id hnone (fun r hr => (by cases hr))
      (fun r hr => (by cases hr))
  · exact h.move hi hp (pc_setWorker s i _) rfl rfl rfl rfl id hnone (fun r hr => (by cases hr))
      (fun r hr => (by cases hr))

theorem Counted.dispatch (h : Counted n s) (hi : i < n) (hp : s.pc i = .idle .handling) (k : Nat) :
    Counted n ((Act.dispatch i k).effect s) := by
  unfold Act.effect
  dsimp only
  cases ht : s.registered[k]? with
  | none => exact h
  | some t =>
    obtain ⟨hk, _⟩ := List.getElem?_eq_some_iff.mp ht
    have hlen := List.length_eraseIdx_add_one hk
    refine h.move hi hp (pc_setWorker (s.push [⟨t, none⟩]) i _) rfl ?_ rfl rfl id id
      (fun r hr => (by cases hr)) (fun r hr => (by cases hr))
    show s.pendingEventCount + (s.registered.length : Int) + 0
      = s.pendingEventCount + ((s.registered.eraseIdx k).length : Int) + 1
    omega

theorem Counted.decrement (h : Counted n s) (hi : i < n) (hp : s.pc i = .idle .decrementing) :
    Counted n ((Act.decrement i).effect s) := by
  refine h.move hi hp (pc_setWorker s i _) rfl ?_ rfl rfl ?_ id (fun r hr => (by cases hr))
    (fun r hr => (by cases hr))
  · show s.pendingEventCount - 1 + (s.registered.length : Int) + 1
      = s.pendingEventCount + (s.registered.length : Int) + 0
    omega
  · -- this worker itself counts, so the counter is not 0
    intro hzero
    have hpos : 0 < Nat.count (fun j => (s.pc j).decrementing = true) n :=
      count_pos_of_lt hi (by rw [hp]; rfl)
    have hpending := h.pending
    omega

theorem Counted.prepare (h : Counted n s) (hi : i < n) {f : F}
    (hp : s.pc i = .dequeued (some (.cb f))) : Counted n (s.prepare i) := by
  unfold Pool.prepare
  split
  · split
    · exact h.goto hi hp (pc_setWorker s i _) ⟨rfl, rfl⟩ rfl rfl rfl rfl ⟨rfl, rfl, rfl, rfl, rfl⟩
    · exact h.same rfl ⟨rfl, rfl, rfl, rfl, rfl, rfl⟩
  · exact h.goto hi hp (pc_setWorker s i _) ⟨rfl, rfl⟩ rfl rfl rfl rfl ⟨rfl, rfl, rfl, rfl, rfl⟩

/-- **Every step keeps what the counters count.** -/
theorem Counted.effect (h : Counted n s) (l : Act F) (hl : l.guard n s) :
    Counted n (l.effect s) := by
  have hfault : ∀ f, Counted n { s with fault := some f } :=
    fun f => h.same rfl ⟨rfl, rfl, rfl, rfl, rfl, rfl⟩
  cases l with
  | dequeue i =>
    obtain ⟨hi, hp⟩ := hl.at_place rfl
    exact h.dequeue hi hp
  | testState i c =>
    obtain ⟨hi, hp⟩ := hl.at_place rfl
    unfold Act.effect
    dsimp only
    split
    · exact h.goto hi hp (pc_setWorker _ i _) ⟨rfl, rfl⟩ rfl rfl rfl rfl ⟨rfl, rfl, rfl, rfl, rfl⟩
    · exact h.goto hi hp (pc_setWorker _ i _) ⟨rfl, rfl⟩ rfl rfl rfl rfl ⟨rfl, rfl, rfl, rfl, rfl⟩
  | discard i =>
    obtain ⟨hi, hp⟩ := hl.at_place rfl
    refine h.walk hi hp (pc_setWorker _ i _) ?_ rfl rfl rfl rfl ⟨rfl, rfl, rfl, rfl, rfl⟩
    show s.activeThreadCount - 1 + 1 = s.activeThreadCount + 0
    omega
  | takeCallback i f =>
    obtain ⟨hi, hp⟩ := hl.at_place rfl
    exact h.prepare hi hp
  | assertState i c cb =>
    obtain ⟨hi, hp⟩ := hl.at_place rfl
    unfold Act.effect
    dsimp only
    split
    · exact hfault _
    · exact h.goto hi hp (pc_setWorker _ i _) ⟨rfl, rfl⟩ rfl rfl rfl rfl ⟨rfl, rfl, rfl, rfl, rfl⟩
  | setExec i c cb =>
    obtain ⟨hi, hp⟩ := hl.at_place rfl
    exact h.goto hi hp (pc_setWorker _ i _) ⟨rfl, rfl⟩ rfl rfl rfl rfl ⟨rfl, rfl, rfl, rfl, rfl⟩
  | switchIn i c cb =>
    obtain ⟨hi, hp⟩ := hl.at_place rfl
    exact h.goto hi hp (pc_setWorker _ i _) ⟨rfl, rfl⟩ rfl rfl rfl rfl ⟨rfl, rfl, rfl, rfl, rfl⟩
  | yieldToReady i c cb =>
    obtain ⟨hi, hp⟩ := hl.at_place rfl
    unfold Act.effect
    dsimp only
    split
    · exact h.goto hi hp (pc_setWorker _ i _) ⟨rfl, rfl⟩ rfl rfl rfl rfl ⟨rfl, rfl, rfl, rfl, rfl⟩
    · exact hfault _
  | yieldToHold i c cb =>
    obtain ⟨hi, hp⟩ := hl.at_place rfl
    unfold Act.effect
    dsimp only
    split
    · exact h.goto hi hp (pc_setWorker _ i _) ⟨rfl, rfl⟩ rfl rfl rfl rfl ⟨rfl, rfl, rfl, rfl, rfl⟩
    · exact hfault _
  | finish i c cb ok =>
    obtain ⟨hi, hp⟩ := hl.at_place rfl
    exact h.goto hi hp (pc_setWorker _ i _) ⟨rfl, rfl⟩ rfl rfl rfl rfl ⟨rfl, rfl, rfl, rfl, rfl⟩
  | switchOut i c cb =>
    obtain ⟨hi, hp⟩ := hl.at_place rfl
    exact h.goto hi hp (pc_setWorker _ i _) ⟨rfl, rfl⟩ rfl rfl rfl rfl ⟨rfl, rfl, rfl, rfl, rfl⟩
  | count i c cb =>
    obtain ⟨hi, hp⟩ := hl.at_place rfl
    refine h.walk hi hp (pc_setWorker _ i _) ?_ rfl rfl rfl rfl ⟨rfl, rfl, rfl, rfl, rfl⟩
    show s.activeThreadCount - 1 + 1 = s.activeThreadCount + 0
    omega
  | inspect i c cb =>
    obtain ⟨hi, hp⟩ := hl.at_place rfl
    unfold Act.effect
    dsimp only
    split
    · exact h.goto hi hp (pc_setWorker _ i _) ⟨rfl, rfl⟩ rfl rfl rfl rfl ⟨rfl, rfl, rfl, rfl, rfl⟩
    split
    · cases cb
      · exact h.goto hi hp (pc_setWorker _ i _) ⟨rfl, rfl⟩ rfl rfl rfl rfl ⟨rfl, rfl, rfl, rfl, rfl⟩
      · exact h.goto hi hp (pc_setWorker _ i _) ⟨rfl, rfl⟩ rfl rfl rfl rfl ⟨rfl, rfl, rfl, rfl, rfl⟩
    · exact h.goto hi hp (pc_setWorker _ i _) ⟨rfl, rfl⟩ rfl rfl rfl rfl ⟨rfl, rfl, rfl, rfl, rfl⟩
  | requeue i c cb =>
    obtain ⟨hi, hp⟩ := hl.at_place rfl
    exact h.goto hi hp (pc_setWorker _ i _) ⟨rfl, rfl⟩ rfl rfl rfl rfl ⟨rfl, rfl, rfl, rfl, rfl⟩
  | resetCallback i c =>
    obtain ⟨hi, hp⟩ := hl.at_place rfl
    unfold Act.effect
    dsimp only
    split
    · exact h.goto hi hp (pc_setWorker _ i _) ⟨rfl, rfl⟩ rfl rfl rfl rfl ⟨rfl, rfl, rfl, rfl, rfl⟩
    · exact hfault _
  | setHold i c cb =>
    obtain ⟨hi, hp⟩ := hl.at_place rfl
    exact h.goto hi hp (pc_setWorker _ i _) ⟨rfl, rfl⟩ rfl rfl rfl rfl ⟨rfl, rfl, rfl, rfl, rfl⟩
  | idleIn i =>
    obtain ⟨hi, hp⟩ := hl.at_place rfl
    unfold Act.effect
    dsimp only
    split
    · exact h.goto hi hp (pc_setWorker _ i _) ⟨rfl, rfl⟩ rfl rfl rfl rfl ⟨rfl, rfl, rfl, rfl, rfl⟩
    split
    · exact hfault _
    · exact h.goto hi hp (pc_setWorker _ i _) ⟨rfl, rfl⟩ rfl rfl rfl rfl ⟨rfl, rfl, rfl, rfl, rfl⟩
  | readPending i =>
    obtain ⟨hi, hp⟩ := hl.at_place rfl
    exact h.readPending hi hp
  | readTimers i events =>
    obtain ⟨hi, hp⟩ := hl.at_place rfl
    exact h.readTimers hi hp
  | schedulerStopping i events timers =>
    obtain ⟨hi, hp⟩ := hl.at_place rfl
    unfold Act.effect
    dsimp only
    split
    · exact h.goto hi hp (pc_setWorker _ i _) ⟨rfl, rfl⟩ rfl rfl rfl rfl ⟨rfl, rfl, rfl, rfl, rfl⟩
    · exact h.goto hi hp (pc_setWorker _ i _) ⟨rfl, rfl⟩ rfl rfl rfl rfl ⟨rfl, rfl, rfl, rfl, rfl⟩
  | listExpiredCb i expired =>
    obtain ⟨hi, hp⟩ := hl.at_place rfl
    exact h.listExpiredCb hi hp expired
  | scheduleExpired i cbs =>
    obtain ⟨hi, hp⟩ := hl.at_place rfl
    exact h.goto hi hp (pc_setWorker _ i _) ⟨rfl, rfl⟩ rfl rfl rfl rfl ⟨rfl, rfl, rfl, rfl, rfl⟩
  | dispatch i k =>
    obtain ⟨hi, hp⟩ := hl.at_place rfl
    exact h.dispatch hi hp k
  | decrement i =>
    obtain ⟨hi, hp⟩ := hl.at_place rfl
    exact h.decrement hi hp
  | idleOut i =>
    obtain ⟨hi, hp⟩ := hl.at_place rfl
    exact h.goto hi hp (pc_setWorker _ i _) ⟨rfl, rfl⟩ rfl rfl rfl rfl ⟨rfl, rfl, rfl, rfl, rfl⟩
  | schedule caller co => exact h.same rfl ⟨rfl, rfl, rfl, rfl, rfl, rfl⟩
  | addEvent caller t =>
    refine ⟨h.active, ?_, h.beyond, ?_, h.timers⟩
    · have hpending := h.pending
      show s.pendingEventCount + 1 = ((s.registered ++ [t]).length : Int) + _
      rw [List.length_append]
      show _ = ((s.registered.length + 1 : Nat) : Int)
        + (Nat.count (fun j => (s.pc j).decrementing = true) n : Int)
      omega
    · intro j r hr
      have hle := (h.events j r hr).1
      refine ⟨Nat.le_succ_of_le hle, fun he => ?_⟩
      have he : s.eventsAdded + 1 = r := he
      omega
  | addTimer caller t =>
    refine ⟨h.active, h.pending, h.beyond, h.events, ?_⟩
    intro j r hr
    have hle := (h.timers j r hr).1
    refine ⟨Nat.le_succ_of_le hle, fun he => ?_⟩
    have he : s.timersAdded + 1 = r := he
    omega
  | setAutoStop => exact h.same rfl ⟨rfl, rfl, rfl, rfl, rfl, rfl⟩
  | setStopping => exact h.same rfl ⟨rfl, rfl, rfl, rfl, rfl, rfl⟩

theorem Counted.done (h : Counted n s) {r t : Nat} (hp : s.pc i = .idle (.stoppingScheduler r t))
    (hstop : s.schedulerStopping = true) (hunseen : ∀ j < n, (s.pc j).unseen s.state = false)
    (hr : s.eventsAdded = r) (ht : s.timersAdded = t) : Done s := by
  rw [Pool.schedulerStopping, Bool.and_eq_true_iff, Bool.and_eq_true_iff] at hstop
  have hactive : s.activeThreadCount = 0 := of_decide_eq_true hstop.2
  have hnone : ∀ j < n, ¬ (s.pc j).active = true := by
    rw [← Nat.count_iff_forall_not]
    have hcount := h.active
    omega
  have hpending : s.pendingEventCount = 0 := (h.events i r (by rw [hp]; rfl)).2 hr
  refine ⟨List.isEmpty_iff.mp hstop.1.2, ?_, ?_, (h.timers i t (by rw [hp]; rfl)).2 ht, ?_⟩
  · intro j
    by_cases hj : j < n
    · rw [Pc.busy, Bool.eq_false_iff.mpr (hnone j hj), Bool.false_or]
      exact (Bool.or_eq_false_iff.mp (hunseen j hj)).1
    · rw [h.beyond j (by omega)]
      rfl
  · have hcount := h.pending
    exact List.eq_nil_of_length_eq_zero (by omega)
  · intro j
    by_cases hj : j < n
    · exact (Bool.or_eq_false_iff.mp (hunseen j hj)).2
    · rw [h.beyond j (by omega)]
      rfl

end

/-- **Whenever `stopping` returns true to a worker, no work is left, in every run in which at that
moment no worker has unseen work in hand and nothing was added since `stopping` found that there is
no event and no timer.** -/
theorem shutdown_run (n : Nat) (ls : List (Act F)) (i events timers : Nat)
    (h : ((pool n).meeting fun s l => BeforeStop s l ∧ Settled n s l).Allowed (Pool.start : Pool F)
      (ls ++ [.schedulerStopping i events timers])) :
    let s := (pool n).after (Pool.start : Pool F) ls
    s.schedulerStopping = true → Done s := by
  intro s hstop
  obtain ⟨h1, h2⟩ := Machine.allowed_append.mp h
  have hs : Counted n (((pool n).meeting fun s l => BeforeStop s l ∧ Settled n s l).after
      (Pool.start : Pool F) ls) := h1.inv (fun s l hs hl => hs.effect l hl.1) (.start n)
  rw [Machine.meeting_after] at hs h2
  obtain ⟨hunseen, hr, ht⟩ := h2.1.2.2 _ rfl hstop
  exact hs.done (h2.1.1.at_place rfl).2 hstop hunseen hr ht

/-- a callback that adds an event; the event is handled, and then the pool stops -/
theorem shutdown_run_event :
    let s := (pool 1).after (Pool.start : Pool Nat)
      [.schedule none ⟨.cb 7, none⟩, .setAutoStop, .setStopping, .dequeue 0, .takeCallback 0 7,
        .assertState 0 (.callback 0) true, .setExec 0 (.callback 0) true,
        .switchIn 0 (.callback 0) true, .addEvent (some 0) (.cb 8),
        .finish 0 (.callback 0) true true, .switchOut 0 (.callback 0) true,
        .count 0 (.callback 0) true, .inspect 0 (.callback 0) true, .resetCallback 0 (.callback 0),
        .dequeue 0, .idleIn 0, .readPending 0, .listExpiredCb 0 (fun _ => true), .dispatch 0 0,
        .decrement 0, .idleOut 0, .dequeue 0, .takeCallback 0 8,
        .assertState 0 (.callback 0) true, .setExec 0 (.callback 0) true,
        .switchIn 0 (.callback 0) true, .finish 0 (.callback 0) true true,
        .switchOut 0 (.callback 0) true, .count 0 (.callback 0) true,
        .inspect 0 (.callback 0) true, .resetCallback 0 (.callback 0), .dequeue 0, .idleIn 0,
        .readPending 0, .readTimers 0 1]
    s.schedulerStopping = true → Done s :=
  shutdown_run 1 _ 0 1 0 (by decide)

/-- **`stopping` returns true while a coroutine is on its way back into the queue.** -/
theorem stopped_early : ¬ ∀ (n : Nat) (ls : List (Act Nat)) (i events timers : Nat),
    ((pool n).meeting BeforeStop).Allowed (Pool.start : Pool Nat)
      (ls ++ [.schedulerStopping i events timers]) →
    let s := (pool n).after (Pool.start : Pool Nat) ls
    s.schedulerStopping = true → Done s := by
  intro h
  have hdone := h 2 [.schedule none ⟨.coroutine (.user 0), none⟩, .setAutoStop, .setStopping,
    .dequeue 0, .testState 0 (.user 0), .assertState 0 (.user 0) false, .setExec 0 (.user 0) false,
    .switchIn 0 (.user 0) false, .yieldToReady 0 (.user 0) false, .switchOut 0 (.user 0) false,
    .count 0 (.user 0) false, .dequeue 1, .idleIn 1, .readPending 1, .readTimers 1 0] 1 0 0
    (by decide) (by decide)
  exact absurd (hdone.taken 0) (by decide)

end Scheduler
end KitServer
