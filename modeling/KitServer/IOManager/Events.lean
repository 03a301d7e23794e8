import Mathlib

/-!
# `IOManager`: the registered events

`contexts` is the `FdContext` of every descriptor; one that was never used has no event.  The result
of `epoll_ctl` is an argument `ok` of the calls, and `queue` is what the calls handed to the
schedulers, in order.  A failed assertion and a call through a null scheduler are a `Fault`.

* `trigger_of`           what a trigger of a registered event does;
* `Well`, `Balanced`     what is stored for a bit, and that the counter counts the bits;
* `Balanced.register`, `Balanced.clear`   the two changes that keep it.
-/

set_option linter.unusedVariables false

namespace KitServer
namespace IOManager

inductive Event where
  | read
  | write
deriving DecidableEq

/-- the bits of an `Event` -/
structure Events where
  read : Bool
  write : Bool
deriving DecidableEq

namespace Events

def none : Events := ⟨false, false⟩

def has (e : Event) (m : Events) : Bool :=
  match e with
  | .read => m.read
  | .write => m.write

def set (e : Event) (b : Bool) (m : Events) : Events :=
  match e with
  | .read => { m with read := b }
  | .write => { m with write := b }

def inter (m n : Events) : Events := ⟨m.read && n.read, m.write && n.write⟩

def union (m n : Events) : Events := ⟨m.read || n.read, m.write || n.write⟩

/-- every bit of `m` is one of `n` -/
def Sub (m n : Events) : Prop := ∀ e, m.has e = true → n.has e = true

instance (m n : Events) : Decidable (Sub m n) :=
  decidable_of_iff ((m.read = true → n.read = true) ∧ (m.write = true → n.write = true))
    ⟨fun h e => match e with | .read => h.1 | .write => h.2, fun h => ⟨h .read, h .write⟩⟩

@[simp] theorem has_none (e : Event) : none.has e = false := by cases e <;> rfl

@[simp] theorem has_set_self (e : Event) (b : Bool) (m : Events) : (m.set e b).has e = b := by
  cases e <;> rfl

theorem has_set_of_ne {e e' : Event} (h : e' ≠ e) (b : Bool) (m : Events) :
    (m.set e b).has e' = m.has e' := by
  cases e <;> cases e' <;> first | rfl | exact absurd rfl h

@[simp] theorem has_inter (e : Event) (m n : Events) :
    (m.inter n).has e = (m.has e && n.has e) := by cases e <;> rfl

@[simp] theorem has_union (e : Event) (m n : Events) :
    (m.union n).has e = (m.has e || n.has e) := by cases e <;> rfl

theorem eq_none_iff {m : Events} : m = none ↔ ∀ e, m.has e = false := by
  constructor
  · rintro rfl e
    exact has_none e
  · intro h
    obtain ⟨r, w⟩ := m
    obtain rfl : r = false := h .read
    obtain rfl : w = false := h .write
    rfl

end Events

/-- a callback or a coroutine that waits for an event -/
inductive Task (C F : Type) where
  | cb (f : F)
  | coroutine (c : C)
deriving DecidableEq

structure EventContext (S C F : Type) where
  scheduler : Option S
  coroutine : Option C
  cb : Option F
deriving DecidableEq

structure FdContext (S C F : Type) where
  read_event : EventContext S C F
  write_event : EventContext S C F
  events : Events
deriving DecidableEq

/-- the assertions of the calls, the use of a null scheduler, and an index out of bounds -/
inductive Fault where
  | outOfBounds
  | eventExists
  | contextInUse
  | eventMissing
  | taskMissing
  | nullScheduler
  | eventsLeft
deriving DecidableEq

structure Registry (S C F : Type) where
  contexts : Nat → FdContext S C F
  pendingEventCount : Int
  queue : List (S × Task C F)

variable {S C F : Type}

namespace EventContext

def empty : EventContext S C F := ⟨none, none, none⟩

/-- what `addEvent` stores for a task -/
def of (scheduler : Option S) : Task C F → EventContext S C F
  | .cb f => ⟨scheduler, none, some f⟩
  | .coroutine c => ⟨scheduler, some c, none⟩

end EventContext

namespace FdContext

def empty : FdContext S C F := ⟨.empty, .empty, .none⟩

def getEventContext (e : Event) (c : FdContext S C F) : EventContext S C F :=
  match e with
  | .read => c.read_event
  | .write => c.write_event

def setEventContext (e : Event) (ctx : EventContext S C F) (c : FdContext S C F) :
    FdContext S C F :=
  match e with
  | .read => { c with read_event := ctx }
  | .write => { c with write_event := ctx }

/-- the result is the task that was handed to its scheduler -/
def triggerEvent (e : Event) (c : FdContext S C F) :
    Except Fault (FdContext S C F × (S × Task C F)) :=
  if !c.events.has e then .error .eventMissing
  else
    let c := { c with events := c.events.set e false }
    let ctx := c.getEventContext e
    match ctx.cb, ctx.coroutine with
    | none, none => .error .taskMissing
    | some f, _ =>
      match ctx.scheduler with
      | none => .error .nullScheduler
      -- `schedule(&ctx.cb)` swaps the callback out
      | some s => .ok (c.setEventContext e { ctx with cb := none, scheduler := none }, (s, .cb f))
    | none, some co =>
      match ctx.scheduler with
      | none => .error .nullScheduler
      | some s =>
        .ok (c.setEventContext e { ctx with coroutine := none, scheduler := none },
          (s, .coroutine co))

/-- the bit `e` is set and its event context is `ctx` -/
def register (e : Event) (ctx : EventContext S C F) (c : FdContext S C F) : FdContext S C F :=
  { c with events := c.events.set e true }.setEventContext e ctx

/-- the bit `e` is gone and `resetEventContext` has run -/
def clear (e : Event) (c : FdContext S C F) : FdContext S C F :=
  { c with events := c.events.set e false }.setEventContext e .empty

end FdContext

namespace Registry

def store (fd : Nat) (c : FdContext S C F) (s : Registry S C F) : Registry S C F :=
  { s with contexts := Function.update s.contexts fd c }

/-- `triggerEvent` and `--m_pendingEventCount` -/
def trigger (fd : Nat) (e : Event) (s : Registry S C F) : Except Fault (Registry S C F) :=
  match (s.contexts fd).triggerEvent e with
  | .error f => .error f
  | .ok (c, t) =>
    .ok { s.store fd c with
      pendingEventCount := s.pendingEventCount - 1
      queue := s.queue ++ [t] }

/-- `scheduler` is that of the thread, and `task` the callback of the call, or the coroutine that
runs -/
def addEvent (fd : Nat) (e : Event) (scheduler : Option S) (task : Task C F) (ok : Bool)
    (s : Registry S C F) : Except Fault (Registry S C F × Int) :=
  let c := s.contexts fd
  if c.events.has e then .error .eventExists
  else if !ok then .ok (s, -1)
  else
    let ctx := c.getEventContext e
    if ctx.scheduler.isSome || ctx.coroutine.isSome || ctx.cb.isSome then .error .contextInUse
    else
      .ok ({ s.store fd (c.register e (.of scheduler task)) with
        pendingEventCount := s.pendingEventCount + 1 }, 0)

def delEvent (fd : Nat) (e : Event) (ok : Bool) (s : Registry S C F) : Registry S C F × Bool :=
  let c := s.contexts fd
  if !c.events.has e then (s, false)
  else if !ok then (s, false)
  else ({ s.store fd (c.clear e) with pendingEventCount := s.pendingEventCount - 1 }, true)

def cancelEvent (fd : Nat) (e : Event) (ok : Bool) (s : Registry S C F) :
    Except Fault (Registry S C F × Bool) :=
  if !(s.contexts fd).events.has e then .ok (s, false)
  else if !ok then .ok (s, false)
  else (s.trigger fd e).map fun s => (s, true)

/-- `if(events & e) { triggerEvent(e); --m_pendingEventCount; }` -/
def triggerIf (fd : Nat) (e : Event) (events : Events) (s : Registry S C F) : Except Fault (Registry S C F) :=
  if events.has e then s.trigger fd e else .ok s

def cancelAll (fd : Nat) (ok : Bool) (s : Registry S C F) : Except Fault (Registry S C F × Bool) :=
  if (s.contexts fd).events = .none then .ok (s, false)
  else if !ok then .ok (s, false)
  else
    match s.triggerIf fd .read (s.contexts fd).events with
    | .error f => .error f
    | .ok s =>
      match s.triggerIf fd .write (s.contexts fd).events with
      | .error f => .error f
      | .ok s => if (s.contexts fd).events = .none then .ok (s, true) else .error .eventsLeft

/-- the events of a report: an error stands for all events that are registered now -/
def realEvents (reported : Events) (error : Bool) (registered : Events) : Events :=
  if error then reported.union registered else reported

/-- `idle` on one `epoll_event` -/
def handle (fd : Nat) (reported : Events) (error : Bool) (ok : Bool) (s : Registry S C F) :
    Except Fault (Registry S C F) :=
  let c := s.contexts fd
  let real_events := realEvents reported error c.events
  if c.events.inter real_events = .none then .ok s
  else if !ok then .ok s
  else
    match s.triggerIf fd .read real_events with
    | .error f => .error f
    | .ok s => s.triggerIf fd .write real_events

end Registry

/-! ## what is stored for a bit -/

namespace FdContext
variable {c : FdContext S C F} {e : Event}

@[simp] theorem setEventContext_events (ctx : EventContext S C F) :
    (c.setEventContext e ctx).events = c.events := by cases e <;> rfl

@[simp] theorem getEventContext_set_self (ctx : EventContext S C F) :
    (c.setEventContext e ctx).getEventContext e = ctx := by cases e <;> rfl

theorem getEventContext_set_of_ne {e' : Event} (h : e' ≠ e) (ctx : EventContext S C F) :
    (c.setEventContext e ctx).getEventContext e' = c.getEventContext e' := by
  cases e <;> cases e' <;> first | rfl | exact absurd rfl h

@[simp] theorem getEventContext_events (events : Events) :
    ({ c with events := events } : FdContext S C F).getEventContext e = c.getEventContext e := by
  cases e <;> rfl

@[simp] theorem register_events (ctx : EventContext S C F) :
    (c.register e ctx).events = c.events.set e true := setEventContext_events ctx

@[simp] theorem clear_events : (c.clear e).events = c.events.set e false :=
  setEventContext_events _

theorem register_of_ne {e' : Event} (h : e' ≠ e) (ctx : EventContext S C F) :
    (c.register e ctx).events.has e' = c.events.has e' ∧
      (c.register e ctx).getEventContext e' = c.getEventContext e' := by
  rw [register_events, Events.has_set_of_ne h, FdContext.register, getEventContext_set_of_ne h,
    getEventContext_events]
  exact ⟨rfl, rfl⟩

theorem clear_of_ne {e' : Event} (h : e' ≠ e) :
    (c.clear e).events.has e' = c.events.has e' ∧
      (c.clear e).getEventContext e' = c.getEventContext e' := by
  rw [clear_events, Events.has_set_of_ne h, FdContext.clear, getEventContext_set_of_ne h,
    getEventContext_events]
  exact ⟨rfl, rfl⟩

/-- a context has a task for every event that is registered, and nothing for the others -/
structure Well (c : FdContext S C F) : Prop where
  armed : ∀ e, c.events.has e = true → ∃ s t, c.getEventContext e = .of s t
  idle : ∀ e, c.events.has e = false → c.getEventContext e = .empty

theorem Well.empty : Well (.empty : FdContext S C F) where
  armed := fun e h => by cases e <;> cases h
  idle := fun e _ => by cases e <;> rfl

theorem Well.register (h : c.Well) (e : Event) (s : Option S) (t : Task C F) :
    (c.register e (.of s t)).Well where
  armed := by
    intro e' he'
    by_cases hee : e' = e
    · subst hee
      exact ⟨s, t, getEventContext_set_self _⟩
    · obtain ⟨hhas, hctx⟩ := register_of_ne hee (.of s t)
      rw [hctx]
      exact h.armed e' (hhas ▸ he')
  idle := by
    intro e' he'
    by_cases hee : e' = e
    · subst hee
      rw [register_events, Events.has_set_self] at he'
      cases he'
    · obtain ⟨hhas, hctx⟩ := register_of_ne hee (.of s t)
      rw [hctx]
      exact h.idle e' (hhas ▸ he')

theorem Well.clear (h : c.Well) (e : Event) : (c.clear e).Well where
  armed := by
    intro e' he'
    by_cases hee : e' = e
    · subst hee
      rw [clear_events, Events.has_set_self] at he'
      cases he'
    · obtain ⟨hhas, hctx⟩ := clear_of_ne hee
      rw [hctx]
      exact h.armed e' (hhas ▸ he')
  idle := by
    intro e' he'
    by_cases hee : e' = e
    · subst hee
      exact getEventContext_set_self _
    · obtain ⟨hhas, hctx⟩ := clear_of_ne hee
      rw [hctx]
      exact h.idle e' (hhas ▸ he')

theorem triggerEvent_missing (h : c.events.has e = false) :
    c.triggerEvent e = .error .eventMissing := by
  simp [triggerEvent, h]

theorem triggerEvent_of (h : c.events.has e = true) {s : S} {t : Task C F}
    (hctx : c.getEventContext e = .of (some s) t) :
    c.triggerEvent e = .ok (c.clear e, (s, t)) := by
  cases t with
  | cb f =>
    simp [triggerEvent, h, hctx, EventContext.of, FdContext.clear, EventContext.empty]
  | coroutine co =>
    simp [triggerEvent, h, hctx, EventContext.of, FdContext.clear, EventContext.empty]

theorem triggerEvent_null (h : c.events.has e = true) {t : Task C F}
    (hctx : c.getEventContext e = .of none t) :
    c.triggerEvent e = .error .nullScheduler := by
  cases t with
  | cb f => simp [triggerEvent, h, hctx, EventContext.of]
  | coroutine co => simp [triggerEvent, h, hctx, EventContext.of]

end FdContext

/-! ## the counter and the bits -/

namespace Registry
variable {s : Registry S C F} {fd : Nat} {e : Event}

/-- the registered event bits of all descriptors -/
def registered (s : Registry S C F) : Set (Nat × Event) :=
  { p | (s.contexts p.1).events.has p.2 = true }

@[simp] theorem mem_registered : (fd, e) ∈ s.registered ↔ (s.contexts fd).events.has e = true :=
  Iff.rfl

/-- every context is as it should be, and the counter is the number of bits -/
structure Balanced (s : Registry S C F) : Prop where
  well : ∀ fd, (s.contexts fd).Well
  finite : s.registered.Finite
  pending : s.pendingEventCount = s.registered.ncard

theorem Balanced.start : Balanced (⟨fun _ => .empty, 0, []⟩ : Registry S C F) := by
  have hnone : (⟨fun _ => .empty, 0, []⟩ : Registry S C F).registered = ∅ := by
    ext ⟨fd, e⟩
    cases e <;> exact ⟨fun h => (by cases h), fun h => (by cases h)⟩
  refine ⟨fun _ => .empty, ?_, ?_⟩
  · rw [hnone]
    exact Set.finite_empty
  · rw [hnone, Set.ncard_empty]
    rfl

theorem well_store (h : ∀ fd, (s.contexts fd).Well) {c : FdContext S C F} (hc : c.Well) :
    ∀ x, ((s.store fd c).contexts x).Well := by
  intro x
  show (Function.update s.contexts fd c x).Well
  by_cases hx : x = fd
  · rw [hx, Function.update_self]
    exact hc
  · rw [Function.update_of_ne hx]
    exact h x

theorem mem_registered_store (c : FdContext S C F) (x : Nat) (e' : Event) :
    (x, e') ∈ (s.store fd c).registered ↔
      if x = fd then c.events.has e' = true else (x, e') ∈ s.registered := by
  show (Function.update s.contexts fd c x).events.has e' = true ↔ _
  by_cases hx : x = fd
  · rw [hx, Function.update_self, if_pos rfl]
  · rw [Function.update_of_ne hx, if_neg hx]
    rfl

theorem registered_store_register (ctx : EventContext S C F) :
    (s.store fd ((s.contexts fd).register e ctx)).registered = insert (fd, e) s.registered := by
  ext ⟨x, e'⟩
  rw [Set.mem_insert_iff, Prod.mk.injEq, mem_registered_store]
  by_cases hx : x = fd
  · subst hx
    by_cases he : e' = e
    · subst he
      simp
    · rw [if_pos rfl, (FdContext.register_of_ne he ctx).1]
      simp [he]
  · rw [if_neg hx]
    simp [hx]

theorem registered_store_clear :
    (s.store fd ((s.contexts fd).clear e)).registered = s.registered \ {(fd, e)} := by
  ext ⟨x, e'⟩
  rw [Set.mem_sdiff, Set.mem_singleton_iff, Prod.mk.injEq, mem_registered_store]
  by_cases hx : x = fd
  · subst hx
    by_cases he : e' = e
    · subst he
      simp
    · rw [if_pos rfl, (FdContext.clear_of_ne he).1]
      simp [he]
  · rw [if_neg hx]
    simp [hx]

theorem Balanced.register (h : s.Balanced) (hno : (s.contexts fd).events.has e = false)
    (scheduler : Option S) (t : Task C F) :
    Balanced { s.store fd ((s.contexts fd).register e (.of scheduler t)) with
      pendingEventCount := s.pendingEventCount + 1 } := by
  have hreg : (s.store fd ((s.contexts fd).register e (.of scheduler t))).registered
      = insert (fd, e) s.registered := registered_store_register _
  have hnot : (fd, e) ∉ s.registered := by
    rw [mem_registered, hno]
    exact Bool.false_ne_true
  refine ⟨well_store h.well ((h.well fd).register e scheduler t), ?_, ?_⟩
  · show (s.store fd _).registered.Finite
    rw [hreg]
    exact h.finite.insert _
  · show _ = ((s.store fd _).registered.ncard : Int)
    rw [hreg, Set.ncard_insert_of_notMem hnot h.finite, h.pending]
    rfl

theorem Balanced.clear (h : s.Balanced) (hhas : (s.contexts fd).events.has e = true)
    (queue : List (S × Task C F)) :
    Balanced { s.store fd ((s.contexts fd).clear e) with
      pendingEventCount := s.pendingEventCount - 1
      queue := queue } := by
  have hreg : (s.store fd ((s.contexts fd).clear e)).registered = s.registered \ {(fd, e)} :=
    registered_store_clear
  have hin : (fd, e) ∈ s.registered := hhas
  refine ⟨well_store h.well ((h.well fd).clear e), ?_, ?_⟩
  · show (s.store fd _).registered.Finite
    rw [hreg]
    exact h.finite.subset Set.sdiff_subset
  · show _ = ((s.store fd _).registered.ncard : Int)
    have hcount := Set.ncard_sdiff_singleton_add_one hin h.finite
    rw [hreg, h.pending]
    show (s.registered.ncard : Int) - 1 = _
    omega

theorem realEvents_sub {reported events : Events} (h : reported.Sub events) (error : Bool) :
    (realEvents reported error events).Sub events := by
  intro e he
  cases error with
  | false => exact h e he
  | true =>
    have he : (reported.union events).has e = true := he
    rw [Events.has_union, Bool.or_eq_true] at he
    exact he.elim (h e) id

/-! ## one trigger -/

theorem trigger_missing (h : (s.contexts fd).events.has e = false) :
    s.trigger fd e = .error .eventMissing := by
  rw [trigger, FdContext.triggerEvent_missing h]

theorem trigger_of (h : (s.contexts fd).events.has e = true) {sch : S} {t : Task C F}
    (hctx : (s.contexts fd).getEventContext e = .of (some sch) t) :
    s.trigger fd e = .ok { s.store fd ((s.contexts fd).clear e) with
      pendingEventCount := s.pendingEventCount - 1
      queue := s.queue ++ [(sch, t)] } := by
  rw [trigger, FdContext.triggerEvent_of h hctx]

theorem trigger_null (h : (s.contexts fd).events.has e = true) {t : Task C F}
    (hctx : (s.contexts fd).getEventContext e = .of none t) :
    s.trigger fd e = .error .nullScheduler := by
  rw [trigger, FdContext.triggerEvent_null h hctx]

theorem addEvent_of (h : (s.contexts fd).events.has e = false)
    (hidle : (s.contexts fd).getEventContext e = .empty) (scheduler : Option S) (t : Task C F) :
    s.addEvent fd e scheduler t true = .ok
      ({ s.store fd ((s.contexts fd).register e (.of scheduler t)) with
        pendingEventCount := s.pendingEventCount + 1 }, 0) := by
  simp [addEvent, h, hidle, EventContext.empty]

theorem Balanced.trigger (h : s.Balanced) (hhas : (s.contexts fd).events.has e = true) :
    s.trigger fd e = .error .nullScheduler ∨ ∃ s', s.trigger fd e = .ok s' ∧ s'.Balanced ∧
      s'.contexts = Function.update s.contexts fd ((s.contexts fd).clear e) := by
  obtain ⟨sch, t, hctx⟩ := (h.well fd).armed e hhas
  cases sch with
  | none => exact .inl (trigger_null hhas hctx)
  | some sch => exact .inr ⟨_, trigger_of hhas hctx, h.clear hhas _, rfl⟩

end Registry
end IOManager
end KitServer
