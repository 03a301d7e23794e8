import KitServer.IOManager.Events
import KitServer.Lib.Machine

/-!
# The hooked calls that wait with a timeout

`do_io` and `connect_with_timeout` on a non-blocking socket with a timeout: every label is one step
of the call, of the callback of one of its condition timers, or of `idle`.  A call that retries adds
one timer a round; they share the `timer_info`.

* `Waits`            where the call stands, and what `IOManager` holds of it then;
* `never_forever`    a suspended call has its timer, when no callback comes too early;
* `early_timeout`    a run with a callback that does.
-/

set_option linter.unusedVariables false

namespace KitServer
namespace Hook
open IOManager
variable {S C F : Type}

inductive Kind where
  | do_io
  | connect_with_timeout
deriving DecidableEq

/-- a call of the coroutine `coroutine`; `event` is WRITE for `connect_with_timeout` -/
structure Site (S C : Type) where
  kind : Kind
  fd : Nat
  event : Event
  scheduler : S
  coroutine : C

/-- what the system call returned: `again` is `EAGAIN` or `EINPROGRESS` -/
inductive Attempt where
  | finished
  | interrupted
  | again
deriving DecidableEq

/-- where the call stands in the round `k` -/
inductive Pc where
  | trying
  | arming
  | adding (k : Nat)
  | failing (k : Nat)
  | yielding (k : Nat)
  | suspended (k : Nat)
  | resumed (k : Nat)
  | checking
  | returned
deriving DecidableEq

/-- a condition timer: in `m_timers`, its callback collected, behind the test of `canceled`, behind
the assignment to it, and gone -/
inductive Phase where
  | unused
  | pending
  | collected
  | tested
  | cancelling
  | gone
deriving DecidableEq

/-- pending, or about to run its callback or to end it -/
def Phase.live : Phase → Bool
  | .unused => false
  | .gone => false
  | _ => true

structure Hooked (S C F : Type) where
  registry : Registry S C F
  pc : Pc
  canceled : Bool
  timers : Nat → Phase
  rounds : Nat
  fault : Option Fault

def Hooked.start : Hooked S C F := ⟨⟨fun _ => .empty, 0, []⟩, .trying, false, fun _ => .unused, 0, none⟩

/-- a step of the call in its round `k`, of the callback of the timer `k`, or of `idle` -/
inductive Act where
  | attempt (r : Attempt)
  | addConditionTimer
  | addEvent (k : Nat) (ok : Bool)
  -- `timer->cancel()` behind a failure of `addEvent`
  | giveUp (k : Nat)
  | yieldToHold (k : Nat)
  | resume (k : Nat)
  | cancelTimer (k : Nat)
  | checkCanceled
  | collect (k : Nat)
  -- the callback up to the test of `canceled`, the assignment to it, and `cancelEvent`
  | test (k : Nat)
  | mark (k : Nat)
  | cancelEvent (k : Nat) (ok : Bool)
  | ready (reported : Events) (error : Bool) (ok : Bool)
deriving DecidableEq

namespace Hooked

def goto (pc : Pc) (s : Hooked S C F) : Hooked S C F := { s with pc := pc }

def setTimer (k : Nat) (phase : Phase) (s : Hooked S C F) : Hooked S C F :=
  { s with timers := Function.update s.timers k phase }

/-- `Timer::cancel`; of a callback that was collected there is nothing left to cancel -/
def cancelTimer (k : Nat) (s : Hooked S C F) : Hooked S C F :=
  if s.timers k = .pending then s.setTimer k .gone else s

/-- a section of `IOManager` has ended, well or in a fault -/
def settle (r : Except Fault (Registry S C F)) (s : Hooked S C F) : Hooked S C F :=
  match r with
  | .error f => { s with fault := some f }
  | .ok registry => { s with registry := registry }

/-- `winfo.lock()` finds the `timer_info`: the call holds it, or another callback does -/
def alive (s : Hooked S C F) : Bool :=
  decide (s.pc ≠ .returned) ||
    (List.range s.rounds).any fun j => decide (s.timers j = .tested ∨ s.timers j = .cancelling)

end Hooked

section
variable [DecidableEq S] [DecidableEq C] [DecidableEq F] (w : Site S C)

/-- what the scheduler gets when the event is triggered -/
def Site.order (F : Type) (w : Site S C) : S × Task C F := (w.scheduler, .coroutine w.coroutine)

def Act.guard (s : Hooked S C F) : Act → Prop
  | .attempt _ => s.fault = none ∧ s.pc = .trying
  | .addConditionTimer => s.fault = none ∧ s.pc = .arming
  | .addEvent k _ => s.fault = none ∧ s.pc = .adding k
  | .giveUp k => s.fault = none ∧ s.pc = .failing k
  | .yieldToHold k => s.fault = none ∧ s.pc = .yielding k
  | .resume k => s.fault = none ∧ s.pc = .suspended k ∧ w.order F ∈ s.registry.queue
  | .cancelTimer k => s.fault = none ∧ s.pc = .resumed k
  | .checkCanceled => s.fault = none ∧ s.pc = .checking
  | .collect k => s.fault = none ∧ s.timers k = .pending
  | .test k => s.fault = none ∧ s.timers k = .collected
  | .mark k => s.fault = none ∧ s.timers k = .tested
  | .cancelEvent k _ => s.fault = none ∧ s.timers k = .cancelling
  | .ready reported _ _ => s.fault = none ∧ reported.Sub (s.registry.contexts w.fd).events

instance Act.decidableGuard (s : Hooked S C F) : ∀ l : Act, Decidable (l.guard w s)
  | .attempt _ => inferInstanceAs (Decidable (s.fault = none ∧ s.pc = .trying))
  | .addConditionTimer => inferInstanceAs (Decidable (s.fault = none ∧ s.pc = .arming))
  | .addEvent k _ => inferInstanceAs (Decidable (s.fault = none ∧ s.pc = .adding k))
  | .giveUp k => inferInstanceAs (Decidable (s.fault = none ∧ s.pc = .failing k))
  | .yieldToHold k => inferInstanceAs (Decidable (s.fault = none ∧ s.pc = .yielding k))
  | .resume k => inferInstanceAs
      (Decidable (s.fault = none ∧ s.pc = .suspended k ∧ w.order F ∈ s.registry.queue))
  | .cancelTimer k => inferInstanceAs (Decidable (s.fault = none ∧ s.pc = .resumed k))
  | .checkCanceled => inferInstanceAs (Decidable (s.fault = none ∧ s.pc = .checking))
  | .collect k => inferInstanceAs (Decidable (s.fault = none ∧ s.timers k = .pending))
  | .test k => inferInstanceAs (Decidable (s.fault = none ∧ s.timers k = .collected))
  | .mark k => inferInstanceAs (Decidable (s.fault = none ∧ s.timers k = .tested))
  | .cancelEvent k _ => inferInstanceAs (Decidable (s.fault = none ∧ s.timers k = .cancelling))
  | .ready reported _ _ => inferInstanceAs
      (Decidable (s.fault = none ∧ reported.Sub (s.registry.contexts w.fd).events))

def Act.effect (s : Hooked S C F) : Act → Hooked S C F
  | .attempt r =>
    match r, w.kind with
    | .again, _ => s.goto .arming
    | .finished, _ => s.goto .returned
    | .interrupted, .do_io => s
    | .interrupted, .connect_with_timeout => s.goto .returned
  | .addConditionTimer =>
    { (s.setTimer s.rounds .pending).goto (.adding s.rounds) with rounds := s.rounds + 1 }
  | .addEvent k ok =>
    match s.registry.addEvent w.fd w.event (some w.scheduler) (.coroutine w.coroutine) ok with
    | .error f => { s with fault := some f }
    | .ok (registry, ret) =>
      { s with registry := registry, pc := if ret < 0 then .failing k else .yielding k }
  | .giveUp k => (s.cancelTimer k).goto .returned
  | .yieldToHold k => s.goto (.suspended k)
  | .resume k =>
    { s with
      registry := { s.registry with queue := s.registry.queue.erase (w.order F) }
      pc := .resumed k }
  | .cancelTimer k => (s.cancelTimer k).goto .checking
  | .checkCanceled =>
    if s.canceled then s.goto .returned
    else
      match w.kind with
      | .do_io => s.goto .trying
      | .connect_with_timeout => s.goto .returned
  | .collect k => s.setTimer k .collected
  | .test k => s.setTimer k (if s.alive && !s.canceled then .tested else .gone)
  | .mark k => { s.setTimer k .cancelling with canceled := true }
  | .cancelEvent k ok =>
    (s.setTimer k .gone).settle ((s.registry.cancelEvent w.fd w.event ok).map Prod.fst)
  | .ready reported error ok => s.settle (s.registry.handle w.fd reported error ok)

def hooked : Machine (Hooked S C F) Act := ⟨fun s l => l.guard w s, fun s l => l.effect w s⟩

instance hooked_decidable (s : Hooked S C F) (l : Act) : Decidable ((hooked w).guard s l) :=
  inferInstanceAs (Decidable (l.guard w s))

/-- the call is in front of its `addEvent`, behind the last test of `canceled` -/
def Pc.early : Pc → Bool
  | .trying => true
  | .arming => true
  | .adding _ => true
  | _ => false

/-- the round whose timer the call relies on -/
def Pc.round : Pc → Option Nat
  | .adding k => some k
  | .yielding k => some k
  | .suspended k => some k
  | _ => none

def Hooked.waiting (s : Hooked S C F) : Bool := (s.registry.contexts w.fd).events.has w.event

/-- no callback calls `cancelEvent` while the call is in front of its `addEvent`, nor with a failure
of `epoll_ctl` that leaves the event registered; and as long as the event is not triggered, the
callback of the round does not find that an earlier one has set `canceled` -/
def InTime (s : Hooked S C F) : Act → Prop
  | .cancelEvent _ ok => s.pc.early = false ∧ (s.waiting w = true → ok = true)
  | .test k => s.pc.round = some k → s.pc.early = true ∨ s.waiting w = true → s.canceled = false
  | _ => True

instance InTime.decidable (s : Hooked S C F) : ∀ l : Act, Decidable (InTime w s l)
  | .cancelEvent _ ok => inferInstanceAs
      (Decidable (s.pc.early = false ∧ (s.waiting w = true → ok = true)))
  | .test k => inferInstanceAs (Decidable
      (s.pc.round = some k → s.pc.early = true ∨ s.waiting w = true → s.canceled = false))
  | .attempt _ => .isTrue trivial
  | .addConditionTimer => .isTrue trivial
  | .addEvent _ _ => .isTrue trivial
  | .giveUp _ => .isTrue trivial
  | .yieldToHold _ => .isTrue trivial
  | .resume _ => .isTrue trivial
  | .cancelTimer _ => .isTrue trivial
  | .checkCanceled => .isTrue trivial
  | .collect _ => .isTrue trivial
  | .mark _ => .isTrue trivial
  | .ready _ _ _ => .isTrue trivial

end

/-! ## what `IOManager` holds of the call -/

section
variable (w : Site S C) {r : Registry S C F}

/-- the context while the event is registered -/
def Site.armed (F : Type) (w : Site S C) : FdContext S C F :=
  FdContext.empty.register w.event (.of (some w.scheduler) (.coroutine w.coroutine))

@[simp] theorem has_armed : (w.armed F).events.has w.event = true := by
  rw [Site.armed, FdContext.register_events, Events.has_set_self]

theorem armed_clear : (w.armed F).clear w.event = .empty := by
  unfold Site.armed
  cases w.event <;> rfl

/-- the event is not registered, and the coroutine is not scheduled -/
def Idle (r : Registry S C F) : Prop := r.contexts w.fd = .empty ∧ r.queue = []

def Waiting (r : Registry S C F) : Prop := r.contexts w.fd = w.armed F ∧ r.queue = []

def Woken (r : Registry S C F) : Prop := r.contexts w.fd = .empty ∧ r.queue = [w.order F]

variable {w}

theorem Idle.addEvent (h : Idle w r) (ok : Bool) :
    ∃ r' ret, r.addEvent w.fd w.event (some w.scheduler) (.coroutine w.coroutine) ok = .ok (r', ret) ∧
      ((ret < 0 ∧ Idle w r') ∨ (¬ ret < 0 ∧ Waiting w r')) := by
  have hno : (r.contexts w.fd).events.has w.event = false := by rw [h.1]; exact Events.has_none _
  have hidle : (r.contexts w.fd).getEventContext w.event = .empty := by
    rw [h.1]
    exact FdContext.Well.empty.idle w.event (Events.has_none _)
  cases ok with
  | false => exact ⟨r, -1, by simp [Registry.addEvent, hno], .inl ⟨by decide, h⟩⟩
  | true =>
    refine ⟨_, 0, Registry.addEvent_of hno hidle _ _, .inr ⟨by decide, ?_, h.2⟩⟩
    show Function.update r.contexts w.fd _ w.fd = _
    rw [Function.update_self, h.1]
    rfl

theorem Waiting.trigger (h : Waiting w r) : ∃ r', r.trigger w.fd w.event = .ok r' ∧ Woken w r' := by
  have hhas : (r.contexts w.fd).events.has w.event = true := by rw [h.1, has_armed]
  have hctx : (r.contexts w.fd).getEventContext w.event
      = .of (some w.scheduler) (.coroutine w.coroutine) := by
    rw [h.1]
    exact FdContext.getEventContext_set_self _
  refine ⟨_, Registry.trigger_of hhas hctx, ?_, ?_⟩
  · show Function.update r.contexts w.fd _ w.fd = _
    rw [Function.update_self, h.1, armed_clear]
  · show r.queue ++ [_] = _
    rw [h.2]
    rfl

theorem Waiting.cancelEvent (h : Waiting w r) :
    ∃ r', (r.cancelEvent w.fd w.event true).map Prod.fst = .ok r' ∧ Woken w r' := by
  have hhas : (r.contexts w.fd).events.has w.event = true := by rw [h.1, has_armed]
  obtain ⟨r', hr', hwoken⟩ := h.trigger
  exact ⟨r', by simp [Registry.cancelEvent, hhas, hr', Except.map], hwoken⟩

theorem cancelEvent_empty (h : r.contexts w.fd = .empty) (ok : Bool) :
    (r.cancelEvent w.fd w.event ok).map Prod.fst = .ok r := by
  have hno : (r.contexts w.fd).events.has w.event = false := by rw [h]; exact Events.has_none _
  simp [Registry.cancelEvent, hno, Except.map]

theorem handle_empty (h : r.contexts w.fd = .empty) (reported : Events) (error ok : Bool) :
    r.handle w.fd reported error ok = .ok r := by
  refine if_pos (Events.eq_none_iff.mpr fun e => ?_)
  rw [Events.has_inter, h]
  exact (congrArg (· && _) (Events.has_none e)).trans rfl

/-- `idle` triggers the event, or it leaves it as it is -/
theorem Waiting.handle (h : Waiting w r) {reported : Events}
    (hsub : reported.Sub (r.contexts w.fd).events) (error ok : Bool) :
    ∃ r', r.handle w.fd reported error ok = .ok r' ∧ (Waiting w r' ∨ Woken w r') := by
  unfold Registry.handle
  dsimp only
  by_cases hnone : (r.contexts w.fd).events.inter
      (Registry.realEvents reported error (r.contexts w.fd).events) = .none
  · exact ⟨r, by rw [if_pos hnone], .inl h⟩
  rw [if_neg hnone]
  cases ok with
  | false => exact ⟨r, rfl, .inl h⟩
  | true =>
    have hreal := Registry.realEvents_sub hsub error
    generalize Registry.realEvents reported error (r.contexts w.fd).events = real at hnone hreal
    obtain ⟨r', hr', hwoken⟩ := h.trigger
    refine ⟨r', ?_, .inr hwoken⟩
    have hother : ∀ e, e ≠ w.event → real.has e = false := by
      intro e he
      refine Bool.eq_false_iff.mpr fun hin => ?_
      have hin := hreal e hin
      rw [h.1, Site.armed, FdContext.register_events, Events.has_set_of_ne he] at hin
      exact absurd hin (by rw [show FdContext.empty.events = Events.none from rfl]; simp)
    have hself : real.has w.event = true := by
      by_contra hno
      refine hnone (Events.eq_none_iff.mpr fun e => ?_)
      rw [Events.has_inter]
      by_cases he : e = w.event
      · rw [he, Bool.eq_false_iff.mpr hno, Bool.and_false]
      · rw [hother e he, Bool.and_false]
    cases he : w.event with
    | read =>
      rw [he] at hself hr'
      have hw : real.has .write = false := hother .write (by rw [he]; decide)
      simp [Registry.triggerIf, hself, hw, hr']
    | write =>
      rw [he] at hself hr'
      have hrd : real.has .read = false := hother .read (by rw [he]; decide)
      simp [Registry.triggerIf, hself, hrd, hr']

end

/-! ## the run -/

/-- the call is on its way into `YieldToHold`, or in it -/
def Pc.parked : Pc → Bool
  | .yielding _ => true
  | .suspended _ => true
  | _ => false

/-- the invariant; `live` is the timer of the round -/
structure Waits (w : Site S C) (s : Hooked S C F) : Prop where
  noFault : s.fault = none
  parked : s.pc.parked = true → Waiting w s.registry ∨ Woken w s.registry
  away : s.pc.parked = false → Idle w s.registry
  live : ∀ k, s.pc.round = some k → s.pc.early = true ∨ s.waiting w = true →
    (s.timers k).live = true

section
variable {w : Site S C} {s : Hooked S C F}

theorem waiting_of_empty (h : s.registry.contexts w.fd = .empty) : s.waiting w = false := by
  rw [Hooked.waiting, h]
  exact Events.has_none _

theorem Waits.start (w : Site S C) : Waits w (Hooked.start : Hooked S C F) :=
  ⟨rfl, fun h => (by cases h), fun _ => ⟨rfl, rfl⟩, fun _ h => (by cases h)⟩

theorem Waits.goto (h : Waits w s) (hs : s.pc.parked = false) (pc : Pc) (hp : pc.parked = false)
    (hr : pc.round = none) : Waits w (s.goto pc) where
  noFault := h.noFault
  parked := fun hc => Bool.noConfusion (hp.symm.trans hc)
  away := fun _ => h.away hs
  live := fun k hk => (by cases hr.symm.trans hk)

theorem Waits.setTimer (h : Waits w s) (k : Nat) (phase : Phase)
    (hl : s.pc.round = some k → s.pc.early = true ∨ s.waiting w = true → phase.live = true) :
    Waits w (s.setTimer k phase) where
  noFault := h.noFault
  parked := h.parked
  away := h.away
  live := by
    intro j hj hw
    show (Function.update s.timers k phase j).live = true
    by_cases hjk : j = k
    · subst hjk
      rw [Function.update_self]
      exact hl hj hw
    · rw [Function.update_of_ne hjk]
      exact h.live j hj hw

theorem Waits.cancelTimer (h : Waits w s) (k : Nat) (hr : s.pc.round = none) :
    Waits w (s.cancelTimer k) := by
  unfold Hooked.cancelTimer
  split
  · exact h.setTimer k .gone fun hk => (by cases hr.symm.trans hk)
  · exact h

@[simp] theorem cancelTimer_pc (k : Nat) : (s.cancelTimer k).pc = s.pc := by
  unfold Hooked.cancelTimer
  split <;> rfl

theorem Waits.settle (h : Waits w s) {r : Except Fault (Registry S C F)}
    {registry : Registry S C F} (hr : r = .ok registry)
    (hreg : registry = s.registry ∨ (Waiting w s.registry ∧
      (Waiting w registry ∨ Woken w registry))) : Waits w (s.settle r) := by
  subst hr
  rcases hreg with rfl | ⟨hold, hnew⟩
  · exact h
  · have hpark : s.pc.parked = true := by
      by_contra hno
      have hidle := h.away (Bool.eq_false_iff.mpr hno)
      have hhas := has_armed (F := F) w
      rw [← hold.1, hidle.1, show FdContext.empty.events = Events.none from rfl,
        Events.has_none] at hhas
      cases hhas
    have hold' : s.waiting w = true := by
      rw [Hooked.waiting, hold.1]
      exact has_armed w
    refine ⟨h.noFault, fun _ => hnew, fun hc => Bool.noConfusion (hpark.symm.trans hc), ?_⟩
    exact fun k hk _ => h.live k hk (.inr hold')

variable [DecidableEq S] [DecidableEq C] [DecidableEq F]

theorem Waits.addEvent (h : Waits w s) {k : Nat} {ok : Bool} (hpc : s.pc = .adding k) :
    Waits w ((Act.addEvent k ok).effect w s) := by
  have hidle := h.away (by rw [hpc]; rfl)
  have hlive := h.live k (by rw [hpc]; rfl) (.inl (by rw [hpc]; rfl))
  obtain ⟨r', ret, hr', hret⟩ := hidle.addEvent ok
  simp only [Act.effect, hr']
  rcases hret with ⟨hneg, hidle'⟩ | ⟨hpos, hwait⟩
  · rw [if_pos hneg]
    exact ⟨h.noFault, fun hc => (by cases hc), fun _ => hidle', fun _ hk => (by cases hk)⟩
  · rw [if_neg hpos]
    refine ⟨h.noFault, fun _ => .inl hwait, fun hc => (by cases hc), fun j hj _ => ?_⟩
    obtain rfl : k = j := Option.some.inj hj
    exact hlive

theorem Waits.resume (h : Waits w s) {k : Nat} (hpc : s.pc = .suspended k)
    (hin : w.order F ∈ s.registry.queue) : Waits w ((Act.resume k).effect w s) := by
  refine ⟨h.noFault, fun hc => (by cases hc), fun _ => ?_, fun _ hk => (by cases hk)⟩
  rcases h.parked (by rw [hpc]; rfl) with hwait | hwoken
  · rw [hwait.2] at hin
    cases hin
  · refine ⟨hwoken.1, ?_⟩
    show s.registry.queue.erase _ = []
    rw [hwoken.2, List.erase_cons_head]

/-- the end of a callback: with the event registered it is triggered, otherwise the call is past the
point where it needs the timer -/
theorem Waits.cancelEvent (h : Waits w s) {k : Nat} {ok : Bool} (hearly : s.pc.early = false)
    (hok : s.waiting w = true → ok = true) : Waits w ((Act.cancelEvent k ok).effect w s) := by
  have hempty : s.registry.contexts w.fd = .empty →
      Waits w ((Act.cancelEvent k ok).effect w s) := by
    intro he
    simp only [Act.effect, cancelEvent_empty he ok]
    refine h.setTimer k .gone fun _ hw => ?_
    rw [hearly, waiting_of_empty he] at hw
    exact absurd hw (by decide)
  cases hp : s.pc.parked with
  | false => exact hempty (h.away hp).1
  | true =>
    rcases h.parked hp with hwait | hwoken
    · obtain rfl : ok = true := hok (by rw [Hooked.waiting, hwait.1]; exact has_armed w)
      obtain ⟨r', hr', hwoken⟩ := hwait.cancelEvent
      have hset : Waits w ((s.settle (.ok r')).setTimer k .gone) := by
        refine (h.settle rfl (.inr ⟨hwait, .inr hwoken⟩)).setTimer k .gone fun _ hw => ?_
        have hno : (s.settle (.ok r')).waiting w = false := waiting_of_empty hwoken.1
        rw [hno, show (s.settle (.ok r')).pc.early = false from hearly] at hw
        exact absurd hw (by decide)
      simp only [Act.effect, hr']
      exact hset
    · exact hempty hwoken.1

/-- **Every step in time keeps the invariant.** -/
theorem Waits.effect (h : Waits w s) (l : Act) (hl : l.guard w s) (hc : InTime w s l) :
    Waits w (l.effect w s) := by
  cases l with
  | attempt r =>
    have hs : s.pc.parked = false := by rw [hl.2]; rfl
    cases r with
    | again => exact h.goto hs .arming rfl rfl
    | finished => exact h.goto hs .returned rfl rfl
    | interrupted =>
      cases hk : w.kind with
      | do_io =>
        simp only [Act.effect, hk]
        exact h
      | connect_with_timeout =>
        simp only [Act.effect, hk]
        exact h.goto hs .returned rfl rfl
  | addConditionTimer =>
    have hidle := h.away (by rw [hl.2]; rfl)
    refine ⟨h.noFault, fun hc => (by cases hc), fun _ => hidle, ?_⟩
    intro k hk _
    obtain rfl : s.rounds = k := Option.some.inj hk
    show (Function.update s.timers s.rounds .pending s.rounds).live = true
    rw [Function.update_self]
    rfl
  | addEvent k ok => exact h.addEvent hl.2
  | giveUp k =>
    have hcancelled := h.cancelTimer k (by rw [hl.2]; rfl)
    exact hcancelled.goto (by rw [cancelTimer_pc, hl.2]; rfl) .returned rfl rfl
  | yieldToHold k =>
    refine ⟨h.noFault, fun _ => h.parked (by rw [hl.2]; rfl), fun hc => (by cases hc), ?_⟩
    intro j hj hw
    obtain rfl : k = j := Option.some.inj hj
    exact h.live k (by rw [hl.2]; rfl) (.inr (hw.resolve_left Bool.false_ne_true))
  | resume k => exact h.resume hl.2.1 hl.2.2
  | cancelTimer k =>
    have hcancelled := h.cancelTimer k (by rw [hl.2]; rfl)
    exact hcancelled.goto (by rw [cancelTimer_pc, hl.2]; rfl) .checking rfl rfl
  | checkCanceled =>
    have hs : s.pc.parked = false := by rw [hl.2]; rfl
    simp only [Act.effect]
    split
    · exact h.goto hs _ rfl rfl
    · split
      · exact h.goto hs _ rfl rfl
      · exact h.goto hs _ rfl rfl
  | collect k => exact h.setTimer k .collected fun _ _ => rfl
  | test k =>
    refine h.setTimer k _ fun hk hw => ?_
    have hcanceled := hc hk hw
    have halive : s.alive = true := by
      have hpc : s.pc ≠ .returned := fun hpc => by rw [hpc] at hk; cases hk
      rw [Hooked.alive, decide_eq_true hpc, Bool.true_or]
    rw [halive, hcanceled]
    rfl
  | mark k =>
    have hset := h.setTimer k .cancelling fun _ _ => rfl
    exact ⟨hset.noFault, hset.parked, hset.away, hset.live⟩
  | cancelEvent k ok => exact h.cancelEvent hc.1 hc.2
  | ready reported error ok =>
    cases hp : s.pc.parked with
    | false => exact h.settle (handle_empty (h.away hp).1 reported error ok) (.inl rfl)
    | true =>
      rcases h.parked hp with hwait | hwoken
      · obtain ⟨r', hr', hnew⟩ := hwait.handle hl.2 error ok
        exact h.settle hr' (.inr ⟨hwait, hnew⟩)
      · exact h.settle (handle_empty hwoken.1 reported error ok) (.inl rfl)

/-- **A call that is suspended with its event registered has its condition timer pending or about to
run its callback, in every run in which the callbacks come in time.** -/
theorem never_forever (w : Site S C) (ls : List Act)
    (h : ((hooked w).meeting (InTime w)).Allowed (Hooked.start : Hooked S C F) ls) :
    let s := (hooked w).after (Hooked.start : Hooked S C F) ls
    s.fault = none ∧
      ∀ k, s.pc = .suspended k → s.waiting w = true → (s.timers k).live = true := by
  intro s
  have hs : Waits w (((hooked w).meeting (InTime w)).after (Hooked.start : Hooked S C F) ls) :=
    h.inv (fun s l hs hl => hs.effect l hl.1 hl.2) (.start w)
  rw [Machine.meeting_after] at hs
  refine ⟨hs.noFault, fun k hk hw => ?_⟩
  exact hs.live k (by rw [show s.pc = _ from hk]; rfl) (.inr hw)

/-- a timer whose callback is collected in front of `addEvent` and runs behind it -/
theorem never_forever_collected :
    let w : Site Unit Unit := ⟨.do_io, 7, .read, (), ()⟩
    let s := (hooked w).after (Hooked.start : Hooked Unit Unit Unit)
      [.attempt .again, .addConditionTimer, .collect 0, .addEvent 0 true, .yieldToHold 0, .test 0,
        .mark 0]
    s.fault = none ∧
      ∀ k, s.pc = .suspended k → s.waiting w = true → (s.timers k).live = true :=
  never_forever _ _ (by decide)

/-- **A callback that runs in front of `addEvent` leaves the call suspended for ever.** -/
theorem early_timeout : ¬ ∀ (w : Site Unit Unit) (ls : List Act),
    (hooked w).Allowed (Hooked.start : Hooked Unit Unit Unit) ls →
      let s := (hooked w).after (Hooked.start : Hooked Unit Unit Unit) ls
      ∀ k, s.pc = .suspended k → s.waiting w = true → (s.timers k).live = true := by
  intro h
  have hgone := h ⟨.do_io, 7, .read, (), ()⟩ [.attempt .again, .addConditionTimer, .collect 0,
    .test 0, .mark 0, .cancelEvent 0 true, .addEvent 0 true, .yieldToHold 0] (by decide) 0
    (by decide) (by decide)
  exact absurd hgone (by decide)

end
end Hook
end KitServer
