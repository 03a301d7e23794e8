import KitServer.IOManager.Events
import KitServer.Lib.Machine

/-!
# `Scheduler::run` and `IOManager::idle`

The workers of one `IOManager`.  Every label is one section under a lock, one assignment to a state
or to a counter, one context switch, or one read that other threads can overtake.

* `dequeueFrom`   the loop over the queue under its lock;
* `Pc`, `IdlePc`  where a worker stands in `run`, in `swapIn` and `swapOut`, and in `idle`;
* `Act`, `pool`   the steps.

The thread of the worker `i` has the id `i`.  `tickle` and `m_idleThreadCount`, which only end a wait
sooner, are left out, and so is what a coroutine computes between two calls into the library.
-/

set_option linter.unusedVariables false

namespace KitServer
namespace Scheduler
open IOManager (Task)

/-- a coroutine that a user has made, or that a worker has made for a callback -/
inductive Cor where
  | user (n : Nat)
  | callback (k : Nat)
deriving DecidableEq

inductive State where
  | INIT
  | HOLD
  | EXEC
  | TERM
  | READY
  | EXCEPTION
deriving DecidableEq

/-- `TERM` or `EXCEPTION` -/
def State.ended : State → Bool
  | .TERM => true
  | .EXCEPTION => true
  | _ => false

/-- `threadId` is `none` for -1 -/
structure CoroutineObject (F : Type) where
  task : Task Cor F
  threadId : Option Nat
deriving DecidableEq

structure PendingTimer (F : Type) where
  cb : F
  recurring : Bool
deriving DecidableEq

/-- where a worker stands in `IOManager::idle`; the numbers say how many events and timers had been
added when `stopping` read that there are none -/
inductive IdlePc (F : Type) where
  | stopping
  | stoppingTimers (events : Nat)
  | stoppingScheduler (events timers : Nat)
  | waiting
  -- the callbacks that `listExpiredCb` has collected
  | scheduling (cbs : List F)
  | handling
  -- behind `triggerEvent`, in front of `--m_pendingEventCount`
  | decrementing
deriving DecidableEq

/-- where a worker stands in `run`; `cb` is whether it runs its `cb_coroutine` -/
inductive Pc (F : Type) where
  | looping
  | dequeued (task : Option (Task Cor F))
  -- a coroutine that has ended, in front of `--m_activeThreadCount`
  | discarding
  -- in `swapIn`: in front of the assertion, of the assignment, and of the switch
  | swapIn (c : Cor) (cb : Bool)
  | entered (c : Cor) (cb : Bool)
  | switching (c : Cor) (cb : Bool)
  | running (c : Cor) (cb : Bool)
  -- in `swapOut`, in front of the switch
  | leaving (c : Cor) (cb : Bool)
  -- in front of `--m_activeThreadCount`, and behind it
  | returned (c : Cor) (cb : Bool)
  | counted (c : Cor) (cb : Bool)
  | requeueing (c : Cor) (cb : Bool)
  | resetting (c : Cor)
  | holding (c : Cor) (cb : Bool)
  | idle (p : IdlePc F)
  | finished
deriving DecidableEq

inductive Fault where
  -- `swapIn` of a coroutine in the state EXEC
  | swapInExec
  -- `YieldToReady` or `YieldToHold` in another state
  | yieldState
  -- `Coroutine::reset` of a coroutine that is suspended
  | resetState
deriving DecidableEq

structure Worker (F : Type) where
  pc : Pc F
  cb_coroutine : Option Cor
  idle_coroutine : State

/-- `eventsAdded` and `timersAdded` count the calls of `addEvent` and of `addTimer` -/
structure Pool (F : Type) where
  workers : Nat → Worker F
  coroutines : List (CoroutineObject F)
  state : Cor → State
  nextCallback : Nat
  activeThreadCount : Int
  pendingEventCount : Int
  registered : List (Task Cor F)
  timers : List (PendingTimer F)
  autoStop : Bool
  stopping : Bool
  eventsAdded : Nat
  timersAdded : Nat
  fault : Option Fault

variable {F : Type}

/-- behind `start()` -/
def Pool.start : Pool F :=
  ⟨fun _ => ⟨.looping, none, .INIT⟩, [], fun _ => .INIT, 0, 0, 0, [], [], false, false, 0, 0, none⟩

/-- the worker `i` leaves the object in the queue -/
def CoroutineObject.skipped (i : Nat) (state : Cor → State) (co : CoroutineObject F) : Bool :=
  match co.threadId, co.task with
  | some j, .coroutine c => decide (j ≠ i) || decide (state c = .EXEC)
  | some j, .cb _ => decide (j ≠ i)
  | none, .coroutine c => decide (state c = .EXEC)
  | none, .cb _ => false

/-- the loop of `run` over the queue: what it takes, and what it leaves -/
def dequeueFrom (i : Nat) (state : Cor → State) :
    List (CoroutineObject F) → Option (Task Cor F × List (CoroutineObject F))
  | [] => none
  | co :: rest =>
    if co.skipped i state then (dequeueFrom i state rest).map fun r => (r.1, co :: r.2)
    else some (co.task, rest)

namespace Pool

def pc (s : Pool F) (i : Nat) : Pc F := (s.workers i).pc

def setWorker (i : Nat) (w : Worker F) (s : Pool F) : Pool F :=
  { s with workers := Function.update s.workers i w }

def goto (i : Nat) (pc : Pc F) (s : Pool F) : Pool F := s.setWorker i { s.workers i with pc := pc }

def setState (c : Cor) (st : State) (s : Pool F) : Pool F :=
  { s with state := Function.update s.state c st }

def push (cos : List (CoroutineObject F)) (s : Pool F) : Pool F :=
  { s with coroutines := s.coroutines ++ cos }

/-- `Scheduler::stopping`, under the lock of the queue -/
def schedulerStopping (s : Pool F) : Bool :=
  s.autoStop && s.stopping && s.coroutines.isEmpty && decide (s.activeThreadCount = 0)

end Pool

/-- a step of the worker `i`, or of any thread that makes a call: `caller` is the worker whose task
makes it -/
inductive Act (F : Type) where
  | dequeue (i : Nat)
  | testState (i : Nat) (c : Cor)
  | discard (i : Nat)
  | takeCallback (i : Nat) (f : F)
  | assertState (i : Nat) (c : Cor) (cb : Bool)
  | setExec (i : Nat) (c : Cor) (cb : Bool)
  | switchIn (i : Nat) (c : Cor) (cb : Bool)
  | yieldToReady (i : Nat) (c : Cor) (cb : Bool)
  | yieldToHold (i : Nat) (c : Cor) (cb : Bool)
  | finish (i : Nat) (c : Cor) (cb : Bool) (ok : Bool)
  | switchOut (i : Nat) (c : Cor) (cb : Bool)
  | count (i : Nat) (c : Cor) (cb : Bool)
  | inspect (i : Nat) (c : Cor) (cb : Bool)
  | requeue (i : Nat) (c : Cor) (cb : Bool)
  | resetCallback (i : Nat) (c : Cor)
  | setHold (i : Nat) (c : Cor) (cb : Bool)
  | idleIn (i : Nat)
  | readPending (i : Nat)
  | readTimers (i : Nat) (events : Nat)
  | schedulerStopping (i : Nat) (events timers : Nat)
  | listExpiredCb (i : Nat) (expired : PendingTimer F → Bool)
  | scheduleExpired (i : Nat) (cbs : List F)
  | dispatch (i : Nat) (k : Nat)
  | decrement (i : Nat)
  | idleOut (i : Nat)
  | schedule (caller : Option Nat) (co : CoroutineObject F)
  | addEvent (caller : Option Nat) (task : Task Cor F)
  | addTimer (caller : Option Nat) (timer : PendingTimer F)
  | setAutoStop
  | setStopping

def Pc.isRunning : Pc F → Bool
  | .running _ _ => true
  | _ => false

/-- a call is made by a task that runs, or by another thread -/
def Pool.calls (n : Nat) (s : Pool F) : Option Nat → Bool
  | some i => decide (i < n) && (s.pc i).isRunning
  | none => true

/-- the coroutine of a task has been made -/
def Pool.known (s : Pool F) : Task Cor F → Bool
  | .coroutine (.callback k) => decide (k < s.nextCallback)
  | _ => true

/-- the place of the worker at which the label can be taken -/
def Act.place : Act F → Option (Nat × Pc F)
  | .dequeue i => some (i, .looping)
  | .testState i c => some (i, .dequeued (some (.coroutine c)))
  | .discard i => some (i, .discarding)
  | .takeCallback i f => some (i, .dequeued (some (.cb f)))
  | .assertState i c cb => some (i, .swapIn c cb)
  | .setExec i c cb => some (i, .entered c cb)
  | .switchIn i c cb => some (i, .switching c cb)
  | .yieldToReady i c cb => some (i, .running c cb)
  | .yieldToHold i c cb => some (i, .running c cb)
  | .finish i c cb _ => some (i, .running c cb)
  | .switchOut i c cb => some (i, .leaving c cb)
  | .count i c cb => some (i, .returned c cb)
  | .inspect i c cb => some (i, .counted c cb)
  | .requeue i c cb => some (i, .requeueing c cb)
  | .resetCallback i c => some (i, .resetting c)
  | .setHold i c cb => some (i, .holding c cb)
  | .idleIn i => some (i, .dequeued none)
  | .readPending i => some (i, .idle .stopping)
  | .readTimers i events => some (i, .idle (.stoppingTimers events))
  | .schedulerStopping i events timers => some (i, .idle (.stoppingScheduler events timers))
  | .listExpiredCb i _ => some (i, .idle .waiting)
  | .scheduleExpired i cbs => some (i, .idle (.scheduling cbs))
  | .dispatch i _ => some (i, .idle .handling)
  | .decrement i => some (i, .idle .decrementing)
  | .idleOut i => some (i, .idle .handling)
  | _ => none

/-- what a call needs, and that an event that is triggered is registered -/
def Act.premise (n : Nat) (s : Pool F) : Act F → Bool
  | .schedule caller co => s.calls n caller && s.known co.task
  | .addEvent caller task => s.calls n caller && s.known task
  | .addTimer caller _ => s.calls n caller
  | .dispatch _ k => decide (k < s.registered.length)
  | _ => true

def Act.guard (n : Nat) (s : Pool F) (l : Act F) : Prop :=
  s.fault = none ∧ (∀ p ∈ l.place, p.1 < n ∧ s.pc p.1 = p.2) ∧ l.premise n s = true

theorem Act.guard.at_place {n : Nat} {s : Pool F} {l : Act F} (h : l.guard n s) {i : Nat}
    {p : Pc F} (hp : l.place = some (i, p)) : i < n ∧ s.pc i = p := h.2.1 (i, p) hp

instance Act.decidableGuard [DecidableEq F] (n : Nat) (s : Pool F) (l : Act F) :
    Decidable (l.guard n s) :=
  inferInstanceAs (Decidable (_ ∧ _ ∧ _))

/-- `cb_coroutine->reset(f)`, or a new coroutine for `f` -/
def Pool.prepare (i : Nat) (s : Pool F) : Pool F :=
  match (s.workers i).cb_coroutine with
  | some c =>
    if s.state c = .INIT ∨ (s.state c).ended = true then
      (s.setState c .INIT).goto i (.swapIn c true)
    else { s with fault := some .resetState }
  | none =>
    let c := Cor.callback s.nextCallback
    { (s.setState c .INIT).setWorker i
        { s.workers i with pc := .swapIn c true, cb_coroutine := some c } with
      nextCallback := s.nextCallback + 1 }

/-- the worker has handed its coroutine back; `cb_coroutine` is set to null if it was that one -/
def Pool.release (i : Nat) (cb : Bool) (s : Pool F) : Pool F :=
  s.setWorker i { s.workers i with
    pc := .looping
    cb_coroutine := if cb then none else (s.workers i).cb_coroutine }

def Act.effect (s : Pool F) : Act F → Pool F
  | .dequeue i =>
    match dequeueFrom i s.state s.coroutines with
    | none => s.goto i (.dequeued none)
    | some (t, rest) =>
      { s.goto i (.dequeued (some t)) with
        coroutines := rest
        activeThreadCount := s.activeThreadCount + 1 }
  | .testState i c =>
    if (s.state c).ended then s.goto i .discarding else s.goto i (.swapIn c false)
  | .discard i => { s.goto i .looping with activeThreadCount := s.activeThreadCount - 1 }
  | .takeCallback i _ => s.prepare i
  | .assertState i c cb =>
    if s.state c = .EXEC then { s with fault := some .swapInExec } else s.goto i (.entered c cb)
  | .setExec i c cb => (s.setState c .EXEC).goto i (.switching c cb)
  | .switchIn i c cb => s.goto i (.running c cb)
  | .yieldToReady i c cb =>
    if s.state c = .EXEC then (s.setState c .READY).goto i (.leaving c cb)
    else { s with fault := some .yieldState }
  | .yieldToHold i c cb =>
    if s.state c = .EXEC then s.goto i (.leaving c cb) else { s with fault := some .yieldState }
  | .finish i c cb ok =>
    (s.setState c (if ok then .TERM else .EXCEPTION)).goto i (.leaving c cb)
  | .switchOut i c cb => s.goto i (.returned c cb)
  | .count i c cb =>
    { s.goto i (.counted c cb) with activeThreadCount := s.activeThreadCount - 1 }
  | .inspect i c cb =>
    if s.state c = .READY then s.goto i (.requeueing c cb)
    else if (s.state c).ended then s.goto i (if cb then .resetting c else .looping)
    else s.goto i (.holding c cb)
  | .requeue i c cb => (s.push [⟨.coroutine c, none⟩]).release i cb
  | .resetCallback i c =>
    if s.state c = .INIT ∨ (s.state c).ended = true then (s.setState c .INIT).goto i .looping
    else { s with fault := some .resetState }
  | .setHold i c cb => (s.setState c .HOLD).release i cb
  | .idleIn i =>
    let w := s.workers i
    if w.idle_coroutine = .TERM then s.goto i .finished
    else if w.idle_coroutine = .EXEC then { s with fault := some .swapInExec }
    else s.setWorker i { w with pc := .idle .stopping, idle_coroutine := .EXEC }
  | .readPending i =>
    s.goto i (.idle (if s.pendingEventCount = 0 then .stoppingTimers s.eventsAdded else .waiting))
  | .readTimers i events =>
    s.goto i (.idle (if s.timers.isEmpty then .stoppingScheduler events s.timersAdded
      else .waiting))
  | .schedulerStopping i _ _ =>
    if s.schedulerStopping then
      s.setWorker i { s.workers i with pc := .looping, idle_coroutine := .TERM }
    else s.goto i (.idle .waiting)
  | .listExpiredCb i expired =>
    let cbs := (s.timers.filter expired).map PendingTimer.cb
    { s.goto i (.idle (if cbs.isEmpty then .handling else .scheduling cbs)) with
      timers := s.timers.filter fun t => !expired t || t.recurring }
  | .scheduleExpired i cbs => (s.push (cbs.map fun f => ⟨.cb f, none⟩)).goto i (.idle .handling)
  | .dispatch i k =>
    match s.registered[k]? with
    | none => s
    | some t =>
      { (s.push [⟨t, none⟩]).goto i (.idle .decrementing) with
        registered := s.registered.eraseIdx k }
  | .decrement i =>
    { s.goto i (.idle .handling) with pendingEventCount := s.pendingEventCount - 1 }
  | .idleOut i => s.setWorker i { s.workers i with pc := .looping, idle_coroutine := .HOLD }
  | .schedule _ co => s.push [co]
  | .addEvent _ t =>
    { s with
      registered := s.registered ++ [t]
      pendingEventCount := s.pendingEventCount + 1
      eventsAdded := s.eventsAdded + 1 }
  | .addTimer _ t => { s with timers := s.timers ++ [t], timersAdded := s.timersAdded + 1 }
  | .setAutoStop => { s with autoStop := true }
  | .setStopping => { s with stopping := true }

/-- the pool of `n` workers -/
def pool (n : Nat) : Machine (Pool F) (Act F) := ⟨fun s l => l.guard n s, fun s l => l.effect s⟩

instance pool_decidable [DecidableEq F] (n : Nat) (s : Pool F) (l : Act F) :
    Decidable ((pool n).guard s l) :=
  inferInstanceAs (Decidable (l.guard n s))

/-! ## the loop over the queue -/

theorem dequeueFrom_some {i : Nat} {state : Cor → State} {cos : List (CoroutineObject F)}
    {t : Task Cor F} {rest : List (CoroutineObject F)}
    (h : dequeueFrom i state cos = some (t, rest)) :
    (∃ co ∈ cos, co.task = t) ∧ (∀ co ∈ rest, co ∈ cos) ∧
      ∀ c, t = .coroutine c → state c ≠ .EXEC := by
  induction cos generalizing rest with
  | nil => cases h
  | cons co cos ih =>
    rw [dequeueFrom] at h
    split at h
    · obtain ⟨r, hr, he⟩ := Option.map_eq_some_iff.mp h
      obtain ⟨rfl, rfl⟩ := Prod.mk.inj he
      obtain ⟨⟨co', hin, hco⟩, hsub, hexec⟩ := ih hr
      refine ⟨⟨co', List.mem_cons_of_mem _ hin, hco⟩, ?_, hexec⟩
      intro x hx
      rcases List.mem_cons.mp hx with rfl | hx
      · exact List.mem_cons_self
      · exact List.mem_cons_of_mem _ (hsub x hx)
    · rename_i hskip
      obtain ⟨rfl, rfl⟩ := Prod.mk.inj (Option.some.inj h)
      refine ⟨⟨co, List.mem_cons_self, rfl⟩, fun x hx => List.mem_cons_of_mem _ hx, ?_⟩
      intro c hc hexec
      apply hskip
      rw [CoroutineObject.skipped, hc]
      cases co.threadId <;> simp [hexec]

end Scheduler
end KitServer
