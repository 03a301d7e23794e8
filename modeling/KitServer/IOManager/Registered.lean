import KitServer.IOManager.Dispatch
import KitServer.Lib.Resize

/-!
# The calls of `IOManager`, one after the other

`size` is the length of `m_fdContexts`; a slot that `contextResize` adds holds a context without
events.  A `Registration` stands for a call of `addEvent` that went well; its `fate` follows from
what later calls return.

* `Accounted`        every bit has one registration that waits, the queue has those handed over;
* `Call.spec`        every call keeps it;
* `registered_run`   so does every run in which `addEvent` does not shrink the vector;
* `registered_lost`  a run in which it does, behind a descriptor that is too large.
-/

set_option linter.unusedVariables false

namespace KitServer
namespace IOManager
variable {S C F : Type}

/-- what a call returns, and the events that a dispatch has triggered -/
inductive Outcome where
  | added (r : Int)
  | answered (b : Bool)
  | triggered (events : Events)
deriving DecidableEq

/-- the outcome of a call that failed; a dispatch logs its error and goes on -/
def Outcome.failed : Outcome → Prop
  | .added r => r = -1
  | .answered b => b = false
  | .triggered events => events = .none

structure Table (S C F : Type) where
  size : Nat
  registry : Registry S C F

namespace Table

/-- the constructor calls `contextResize(256)` -/
def start : Table S C F := ⟨256, ⟨fun _ => .empty, 0, []⟩⟩

def contextResize (size : Nat) (t : Table S C F) : Table S C F :=
  ⟨size, { t.registry with
    contexts := fun fd => if fd < size then t.registry.contexts fd else .empty }⟩

/-- the begin of `addEvent`, up to `m_fdContexts[fd]` -/
def lookup (fd : Nat) (t : Table S C F) : Except Fault (Table S C F) :=
  let t := if toInt t.size > fd then t else t.contextResize (timesOneAndHalf fd)
  if fd < t.size then .ok t else .error .outOfBounds

def addEvent (fd : Nat) (e : Event) (scheduler : S) (task : Task C F) (ok : Bool)
    (t : Table S C F) : Except Fault (Table S C F × Outcome) :=
  match t.lookup fd with
  | .error f => .error f
  | .ok t =>
    (t.registry.addEvent fd e (some scheduler) task ok).map fun r => (⟨t.size, r.1⟩, .added r.2)

/-- the other three calls return `false` for a descriptor beyond the vector -/
def ifPresent (fd : Nat) (f : Registry S C F → Except Fault (Registry S C F × Bool))
    (t : Table S C F) : Except Fault (Table S C F × Outcome) :=
  if toInt t.size ≤ fd then .ok (t, .answered false)
  else (f t.registry).map fun r => (⟨t.size, r.1⟩, .answered r.2)

def delEvent (fd : Nat) (e : Event) (ok : Bool) : Table S C F → Except Fault (Table S C F × Outcome) :=
  ifPresent fd fun r => .ok (r.delEvent fd e ok)

def cancelEvent (fd : Nat) (e : Event) (ok : Bool) :
    Table S C F → Except Fault (Table S C F × Outcome) :=
  ifPresent fd (Registry.cancelEvent fd e ok)

def cancelAll (fd : Nat) (ok : Bool) : Table S C F → Except Fault (Table S C F × Outcome) :=
  ifPresent fd (Registry.cancelAll fd ok)

/-- `idle` on one `epoll_event` -/
def dispatch (fd : Nat) (reported : Events) (error : Bool) (ok : Bool) (t : Table S C F) :
    Except Fault (Table S C F × Outcome) :=
  let real_events := Registry.realEvents reported error (t.registry.contexts fd).events
  (t.registry.handle fd reported error ok).map fun r =>
    (⟨t.size, r⟩, .triggered (if ok then real_events else .none))

end Table

/-- `ok` is whether `epoll_ctl` goes well -/
inductive Call (S C F : Type) where
  | addEvent (fd : Nat) (e : Event) (scheduler : S) (task : Task C F) (ok : Bool)
  | delEvent (fd : Nat) (e : Event) (ok : Bool)
  | cancelEvent (fd : Nat) (e : Event) (ok : Bool)
  | cancelAll (fd : Nat) (ok : Bool)
  | dispatch (fd : Nat) (reported : Events) (error : Bool) (ok : Bool)

namespace Call

def ok : Call S C F → Bool
  | .addEvent _ _ _ _ ok => ok
  | .delEvent _ _ ok => ok
  | .cancelEvent _ _ ok => ok
  | .cancelAll _ ok => ok
  | .dispatch _ _ _ ok => ok

def run (t : Table S C F) : Call S C F → Except Fault (Table S C F × Outcome)
  | .addEvent fd e scheduler task ok => t.addEvent fd e scheduler task ok
  | .delEvent fd e ok => t.delEvent fd e ok
  | .cancelEvent fd e ok => t.cancelEvent fd e ok
  | .cancelAll fd ok => t.cancelAll fd ok
  | .dispatch fd reported error ok => t.dispatch fd reported error ok

end Call

/-! ## what became of the registrations -/

inductive Fate where
  | waiting
  | handed
  | deleted
deriving DecidableEq

structure Registration (S C F : Type) where
  fd : Nat
  event : Event
  order : S × Task C F
  fate : Fate

namespace Registration

def waitsAt (fd : Nat) (e : Event) (r : Registration S C F) : Bool :=
  decide (r.fate = .waiting ∧ r.fd = fd ∧ r.event = e)

def isHanded (r : Registration S C F) : Bool := decide (r.fate = .handed)

/-- the registration that waits at `fd` and `e` meets its fate -/
def settle (fate : Fate) (fd : Nat) (e : Event) (rs : List (Registration S C F)) :
    List (Registration S C F) :=
  rs.map fun r => if r.waitsAt fd e then { r with fate := fate } else r

end Registration

open Registration

/-- what a call that returned `o` means for the registrations -/
def Call.record (rs : List (Registration S C F)) :
    Call S C F → Outcome → List (Registration S C F)
  | .addEvent fd e scheduler task _, .added r =>
    if r = 0 then rs ++ [⟨fd, e, (scheduler, task), .waiting⟩] else rs
  | .delEvent fd e _, .answered true => settle .deleted fd e rs
  | .cancelEvent fd e _, .answered true => settle .handed fd e rs
  | .cancelAll fd _, .answered true => settle .handed fd .write (settle .handed fd .read rs)
  | .dispatch fd _ _ _, .triggered events =>
    let rs := if events.has .read then settle .handed fd .read rs else rs
    if events.has .write then settle .handed fd .write rs else rs
  | _, _ => rs

@[simp] theorem Call.record_addEvent (rs : List (Registration S C F)) (fd : Nat) (e : Event)
    (scheduler : S) (task : Task C F) (ok : Bool) (r : Int) :
    (Call.addEvent fd e scheduler task ok).record rs (.added r) =
      if r = 0 then rs ++ [⟨fd, e, (scheduler, task), .waiting⟩] else rs := rfl

structure Ledger (S C F : Type) where
  table : Table S C F
  registrations : List (Registration S C F)
  fault : Option Fault

def Ledger.start : Ledger S C F := ⟨.start, [], none⟩

/-- the calls that the callers make: `addEvent` for events that are not registered, and a dispatch
of events that are -/
def Call.guard (s : Ledger S C F) : Call S C F → Prop
  | .addEvent fd e _ _ _ => s.fault = none ∧ (s.table.registry.contexts fd).events.has e = false
  | .dispatch fd reported _ _ => s.fault = none ∧ reported.Sub (s.table.registry.contexts fd).events
  | _ => s.fault = none

instance Call.decidableGuard (s : Ledger S C F) : ∀ l : Call S C F, Decidable (l.guard s)
  | .addEvent fd e _ _ _ => inferInstanceAs
      (Decidable (s.fault = none ∧ (s.table.registry.contexts fd).events.has e = false))
  | .dispatch fd reported _ _ => inferInstanceAs
      (Decidable (s.fault = none ∧ reported.Sub (s.table.registry.contexts fd).events))
  | .delEvent _ _ _ => inferInstanceAs (Decidable (s.fault = none))
  | .cancelEvent _ _ _ => inferInstanceAs (Decidable (s.fault = none))
  | .cancelAll _ _ => inferInstanceAs (Decidable (s.fault = none))

def Call.effect (s : Ledger S C F) (l : Call S C F) : Ledger S C F :=
  match l.run s.table with
  | .error f => { s with fault := some f }
  | .ok (t, o) => ⟨t, l.record s.registrations o, none⟩

def calls : Machine (Ledger S C F) (Call S C F) := ⟨fun s l => l.guard s, fun s l => l.effect s⟩

instance calls_decidable (s : Ledger S C F) (l : Call S C F) : Decidable (calls.guard s l) :=
  inferInstanceAs (Decidable (l.guard s))

/-- `addEvent` finds the vector no longer than it makes it -/
def Call.Grows (s : Ledger S C F) : Call S C F → Prop
  | .addEvent fd _ _ _ _ => toInt s.table.size ≤ fd → s.table.size ≤ timesOneAndHalf fd
  | _ => True

instance Call.decidableGrows (s : Ledger S C F) : ∀ l : Call S C F, Decidable (l.Grows s)
  | .addEvent fd _ _ _ _ =>
    inferInstanceAs (Decidable (toInt s.table.size ≤ fd → s.table.size ≤ timesOneAndHalf fd))
  | .delEvent _ _ _ => .isTrue trivial
  | .cancelEvent _ _ _ => .isTrue trivial
  | .cancelAll _ _ => .isTrue trivial
  | .dispatch _ _ _ _ => .isTrue trivial

namespace Registration
variable {rs : List (Registration S C F)} {fd : Nat} {e : Event} {fate : Fate}

theorem waitsAt_settle_self (h : fate ≠ .waiting) :
    (settle fate fd e rs).filter (waitsAt fd e) = [] := by
  rw [List.filter_eq_nil_iff]
  intro r hr
  obtain ⟨r', hr', rfl⟩ := List.mem_map.mp hr
  by_cases hw : r'.waitsAt fd e = true
  · rw [if_pos hw]
    simp [waitsAt, h]
  · rw [if_neg hw]
    exact hw

theorem settle_cons_of_waits {r : Registration S C F} (h : r.waitsAt fd e = true) :
    settle fate fd e (r :: rs) = { r with fate := fate } :: settle fate fd e rs :=
  congrArg (· :: settle fate fd e rs) (if_pos h)

theorem settle_cons_of_not {r : Registration S C F} (h : ¬ r.waitsAt fd e = true) :
    settle fate fd e (r :: rs) = r :: settle fate fd e rs :=
  congrArg (· :: settle fate fd e rs) (if_neg h)

theorem waitsAt_settle_of_ne {fd' : Nat} {e' : Event} (h : (fd', e') ≠ (fd, e))
    (hf : fate ≠ .waiting) :
    (settle fate fd e rs).filter (waitsAt fd' e') = rs.filter (waitsAt fd' e') := by
  induction rs with
  | nil => rfl
  | cons r rs ih =>
    by_cases hw : r.waitsAt fd e = true
    · have hne : ¬ r.waitsAt fd' e' = true := by
        intro hw'
        obtain ⟨_, rfl, rfl⟩ := of_decide_eq_true hw
        obtain ⟨_, rfl, rfl⟩ := of_decide_eq_true hw'
        exact h rfl
      have hset : ¬ waitsAt fd' e' { r with fate := fate } = true :=
        fun hw' => hf (of_decide_eq_true hw').1
      rw [settle_cons_of_waits hw, List.filter_cons_of_neg hset, List.filter_cons_of_neg hne, ih]
    · rw [settle_cons_of_not hw, List.filter_cons, List.filter_cons, ih]

theorem not_isHanded_of_waits {r : Registration S C F} (h : r.waitsAt fd e = true) :
    ¬ r.isHanded = true := by
  rw [isHanded, (of_decide_eq_true h).1]
  exact Bool.false_ne_true

theorem isHanded_settle_handed :
    (((settle .handed fd e rs).filter isHanded).map order).Perm
      ((rs.filter isHanded).map order ++ (rs.filter (waitsAt fd e)).map order) := by
  induction rs with
  | nil => exact .refl _
  | cons r rs ih =>
    by_cases hw : r.waitsAt fd e = true
    · rw [settle_cons_of_waits hw, List.filter_cons_of_pos rfl,
        List.filter_cons_of_neg (not_isHanded_of_waits hw), List.filter_cons_of_pos hw]
      exact (ih.cons r.order).trans List.perm_middle.symm
    · rw [settle_cons_of_not hw, List.filter_cons_of_neg hw]
      by_cases hh : r.isHanded = true
      · rw [List.filter_cons_of_pos hh, List.filter_cons_of_pos hh]
        exact ih.cons r.order
      · rw [List.filter_cons_of_neg hh, List.filter_cons_of_neg hh]
        exact ih

theorem isHanded_settle_deleted :
    (settle .deleted fd e rs).filter isHanded = rs.filter isHanded := by
  induction rs with
  | nil => rfl
  | cons r rs ih =>
    by_cases hw : r.waitsAt fd e = true
    · rw [settle_cons_of_waits hw, List.filter_cons_of_neg Bool.false_ne_true,
        List.filter_cons_of_neg (not_isHanded_of_waits hw), ih]
    · rw [settle_cons_of_not hw, List.filter_cons, List.filter_cons, ih]

theorem settle_idle (h : rs.filter (waitsAt fd e) = []) : settle fate fd e rs = rs := by
  rw [List.filter_eq_nil_iff] at h
  refine (List.map_congr_left fun r hr => ?_).trans (List.map_id rs)
  rw [if_neg (h r hr)]
  rfl

end Registration

/-- every bit has one registration that waits, whose order is stored, and no other waits; the queue
holds the orders of those that were handed over -/
structure Accounted (r : Registry S C F) (rs : List (Registration S C F)) : Prop where
  balanced : r.Balanced
  waits : ∀ fd e, (r.contexts fd).events.has e = true → ∃ x, rs.filter (waitsAt fd e) = [x] ∧
    (r.contexts fd).getEventContext e = .of (some x.order.1) x.order.2
  idle : ∀ fd e, (r.contexts fd).events.has e = false → rs.filter (waitsAt fd e) = []
  queue : r.queue.Perm ((rs.filter isHanded).map order)

namespace Accounted
variable {r r' : Registry S C F} {rs rs' : List (Registration S C F)} {fd : Nat} {e : Event}

theorem start : Accounted (⟨fun _ => .empty, 0, []⟩ : Registry S C F) [] where
  balanced := .start
  waits := fun fd e h => absurd h (by cases e <;> exact Bool.false_ne_true)
  idle := fun _ _ _ => rfl
  queue := .refl _

/-- a change of one bit, and of the registrations at that bit -/
theorem change (h : Accounted r rs) (hb : r'.Balanced) (e : Event) {c : FdContext S C F}
    (hctx : r'.contexts = Function.update r.contexts fd c)
    (hevents : ∀ e', e' ≠ e → c.events.has e' = (r.contexts fd).events.has e')
    (hstored : ∀ e', e' ≠ e → c.getEventContext e' = (r.contexts fd).getEventContext e')
    (hrs : ∀ fd' e', (fd', e') ≠ (fd, e) →
      rs'.filter (waitsAt fd' e') = rs.filter (waitsAt fd' e'))
    (hwaits : c.events.has e = true → ∃ x, rs'.filter (waitsAt fd e) = [x] ∧
      c.getEventContext e = .of (some x.order.1) x.order.2)
    (hidle : c.events.has e = false → rs'.filter (waitsAt fd e) = [])
    (hqueue : r'.queue.Perm ((rs'.filter isHanded).map order)) : Accounted r' rs' := by
  have hsame : ∀ fd' e', (fd', e') ≠ (fd, e) →
      (r'.contexts fd').events.has e' = (r.contexts fd').events.has e' ∧
        (r'.contexts fd').getEventContext e' = (r.contexts fd').getEventContext e' := by
    intro fd' e' hne
    rw [hctx]
    by_cases hfd : fd' = fd
    · subst hfd
      have he : e' ≠ e := fun he => hne (by rw [he])
      rw [Function.update_self]
      exact ⟨hevents e' he, hstored e' he⟩
    · rw [Function.update_of_ne hfd]
      exact ⟨rfl, rfl⟩
  have hself : r'.contexts fd = c := by rw [hctx, Function.update_self]
  refine ⟨hb, ?_, ?_, hqueue⟩
  · intro fd' e' hhas
    by_cases hp : (fd', e') = (fd, e)
    · obtain ⟨rfl, rfl⟩ := Prod.mk.inj hp
      rw [hself] at hhas ⊢
      exact hwaits hhas
    · rw [(hsame fd' e' hp).1] at hhas
      rw [(hsame fd' e' hp).2, hrs fd' e' hp]
      exact h.waits fd' e' hhas
  · intro fd' e' hhas
    by_cases hp : (fd', e') = (fd, e)
    · obtain ⟨rfl, rfl⟩ := Prod.mk.inj hp
      rw [hself] at hhas
      exact hidle hhas
    · rw [(hsame fd' e' hp).1] at hhas
      rw [hrs fd' e' hp]
      exact h.idle fd' e' hhas

theorem register (h : Accounted r rs) (hno : (r.contexts fd).events.has e = false) (scheduler : S)
    (task : Task C F) :
    Accounted { r.store fd ((r.contexts fd).register e (.of (some scheduler) task)) with
      pendingEventCount := r.pendingEventCount + 1 }
      (rs ++ [⟨fd, e, (scheduler, task), .waiting⟩]) := by
  have hself : waitsAt fd e (⟨fd, e, (scheduler, task), .waiting⟩ : Registration S C F) = true :=
    decide_eq_true ⟨rfl, rfl, rfl⟩
  refine h.change (h.balanced.register hno (some scheduler) task) e rfl ?_ ?_ ?_ ?_ ?_ ?_
  · intro e' he
    rw [FdContext.register_events, Events.has_set_of_ne he]
  · intro e' he
    rw [FdContext.register, FdContext.getEventContext_set_of_ne he,
      FdContext.getEventContext_events]
  · intro fd' e' hne
    have hnot : ¬ waitsAt fd' e' (⟨fd, e, (scheduler, task), .waiting⟩ : Registration S C F) = true := by
      intro hw
      obtain ⟨_, rfl, rfl⟩ := of_decide_eq_true hw
      exact hne rfl
    rw [List.filter_append, List.filter_cons_of_neg hnot, List.filter_nil, List.append_nil]
  · intro _
    refine ⟨⟨fd, e, (scheduler, task), .waiting⟩, ?_, FdContext.getEventContext_set_self _⟩
    rw [List.filter_append, h.idle fd e hno, List.filter_cons_of_pos hself]
    rfl
  · intro hno'
    rw [FdContext.register_events, Events.has_set_self] at hno'
    cases hno'
  · rw [List.filter_append, List.filter_cons_of_neg Bool.false_ne_true, List.filter_nil,
      List.append_nil]
    exact h.queue

theorem clear (h : Accounted r rs) (hhas : (r.contexts fd).events.has e = true) {fate : Fate}
    (hf : fate ≠ .waiting) {queue : List (S × Task C F)}
    (hqueue : queue.Perm (((settle fate fd e rs).filter isHanded).map order)) :
    Accounted { r.store fd ((r.contexts fd).clear e) with
      pendingEventCount := r.pendingEventCount - 1
      queue := queue } (settle fate fd e rs) := by
  refine h.change (h.balanced.clear hhas queue) e rfl ?_ ?_ ?_ ?_ ?_ hqueue
  · intro e' he
    rw [FdContext.clear_events, Events.has_set_of_ne he]
  · intro e' he
    rw [FdContext.clear, FdContext.getEventContext_set_of_ne he, FdContext.getEventContext_events]
  · exact fun fd' e' hne => waitsAt_settle_of_ne hne hf
  · intro hhas'
    rw [FdContext.clear_events, Events.has_set_self] at hhas'
    cases hhas'
  · exact fun _ => waitsAt_settle_self hf

theorem trigger (h : Accounted r rs) (hhas : (r.contexts fd).events.has e = true) :
    ∃ r', r.trigger fd e = .ok r' ∧ Accounted r' (settle .handed fd e rs) ∧
      r'.contexts = Function.update r.contexts fd ((r.contexts fd).clear e) := by
  obtain ⟨x, hx, hctx⟩ := h.waits fd e hhas
  refine ⟨_, Registry.trigger_of hhas hctx, h.clear hhas (by decide) ?_, rfl⟩
  refine .trans ?_ isHanded_settle_handed.symm
  rw [hx]
  exact h.queue.append_right _

theorem triggerIf (h : Accounted r rs) (fd : Nat) (e : Event) (events : Events)
    (hin : events.has e = true → (r.contexts fd).events.has e = true) :
    ∃ r', r.triggerIf fd e events = .ok r' ∧
      Accounted r' (if events.has e = true then settle .handed fd e rs else rs) ∧
      (∀ fd', fd' ≠ fd → r'.contexts fd' = r.contexts fd') ∧
      ∀ e', (r'.contexts fd).events.has e'
        = ((r.contexts fd).events.has e' && !(decide (e' = e) && events.has e)) := by
  unfold Registry.triggerIf
  by_cases he : events.has e = true
  · obtain ⟨r', hr', hacc, hctx⟩ := h.trigger (hin he)
    rw [if_pos he, if_pos he]
    refine ⟨r', hr', hacc, ?_, ?_⟩
    · intro fd' hfd
      rw [hctx, Function.update_of_ne hfd]
    · intro e'
      rw [hctx, Function.update_self, FdContext.clear_events, he]
      by_cases hee : e' = e
      · subst hee
        simp
      · rw [Events.has_set_of_ne hee]
        simp [hee]
  · rw [if_neg he, if_neg he]
    refine ⟨r, rfl, h, fun _ _ => rfl, fun e' => ?_⟩
    simp [he]

/-! ## the calls -/

theorem addEvent (h : Accounted r rs) (hno : (r.contexts fd).events.has e = false) (scheduler : S)
    (task : Task C F) (ok : Bool) :
    ∃ r' n, r.addEvent fd e (some scheduler) task ok = .ok (r', n) ∧
      Accounted r' (if n = 0 then rs ++ [⟨fd, e, (scheduler, task), .waiting⟩] else rs) ∧
      (∀ fd', fd' ≠ fd → r'.contexts fd' = r.contexts fd') ∧ (ok = false → r' = r ∧ n = -1) := by
  have hidle := (h.balanced.well fd).idle e hno
  cases ok with
  | false =>
    refine ⟨r, -1, by simp [Registry.addEvent, hno], ?_, fun _ _ => rfl, fun _ => ⟨rfl, rfl⟩⟩
    rw [if_neg (by decide)]
    exact h
  | true =>
    exact ⟨_, 0, Registry.addEvent_of hno hidle (some scheduler) task, h.register hno scheduler task,
      fun fd' hfd => Function.update_of_ne hfd _ _, fun hok => (by cases hok)⟩

theorem delEvent (h : Accounted r rs) (fd : Nat) (e : Event) (ok : Bool) :
    ∃ r' b, r.delEvent fd e ok = (r', b) ∧
      Accounted r' (if b = true then settle .deleted fd e rs else rs) ∧
      (∀ fd', fd' ≠ fd → r'.contexts fd' = r.contexts fd') ∧ (ok = false → r' = r ∧ b = false) := by
  cases hhas : (r.contexts fd).events.has e with
  | false =>
    exact ⟨r, false, by simp [Registry.delEvent, hhas], h, fun _ _ => rfl, fun _ => ⟨rfl, rfl⟩⟩
  | true =>
    cases ok with
    | false =>
      exact ⟨r, false, by simp [Registry.delEvent, hhas], h, fun _ _ => rfl, fun _ => ⟨rfl, rfl⟩⟩
    | true =>
      refine ⟨_, true, by simp [Registry.delEvent, hhas]; rfl, h.clear hhas (by decide) ?_, ?_,
        fun hok => (by cases hok)⟩
      · rw [isHanded_settle_deleted]
        exact h.queue
      · exact fun fd' hfd => Function.update_of_ne hfd _ _

theorem cancelEvent (h : Accounted r rs) (fd : Nat) (e : Event) (ok : Bool) :
    ∃ r' b, r.cancelEvent fd e ok = .ok (r', b) ∧
      Accounted r' (if b = true then settle .handed fd e rs else rs) ∧
      (∀ fd', fd' ≠ fd → r'.contexts fd' = r.contexts fd') ∧ (ok = false → r' = r ∧ b = false) := by
  cases hhas : (r.contexts fd).events.has e with
  | false =>
    exact ⟨r, false, by simp [Registry.cancelEvent, hhas], h, fun _ _ => rfl, fun _ => ⟨rfl, rfl⟩⟩
  | true =>
    cases ok with
    | false =>
      exact ⟨r, false, by simp [Registry.cancelEvent, hhas], h, fun _ _ => rfl,
        fun _ => ⟨rfl, rfl⟩⟩
    | true =>
      obtain ⟨r', hr', hacc, hctx⟩ := h.trigger hhas
      refine ⟨r', true, by simp [Registry.cancelEvent, hhas, hr', Except.map], hacc, ?_,
        fun hok => (by cases hok)⟩
      intro fd' hfd
      rw [hctx, Function.update_of_ne hfd]

theorem triggerBoth (h : Accounted r rs) (fd : Nat) {events : Events}
    (hsub : events.Sub (r.contexts fd).events) :
    ∃ r₁ r₂, r.triggerIf fd .read events = .ok r₁ ∧ r₁.triggerIf fd .write events = .ok r₂ ∧
      (r₁.contexts fd).events.has .write = (r.contexts fd).events.has .write ∧
      Accounted r₂
        (let rs' := if events.has .read = true then settle .handed fd .read rs else rs
          if events.has .write = true then settle .handed fd .write rs' else rs') ∧
      (∀ fd', fd' ≠ fd → r₂.contexts fd' = r.contexts fd') ∧
      ∀ e, (r₂.contexts fd).events.has e = ((r.contexts fd).events.has e && !events.has e) := by
  obtain ⟨r₁, hr₁, hacc₁, haway₁, hev₁⟩ := h.triggerIf fd .read events (hsub .read)
  have hwrite : (r₁.contexts fd).events.has .write = (r.contexts fd).events.has .write := by
    rw [hev₁]
    simp
  obtain ⟨r₂, hr₂, hacc₂, haway₂, hev₂⟩ := hacc₁.triggerIf fd .write events
    (fun hw => hwrite ▸ hsub .write hw)
  refine ⟨r₁, r₂, hr₁, hr₂, hwrite, hacc₂, ?_, ?_⟩
  · exact fun fd' hfd => (haway₂ fd' hfd).trans (haway₁ fd' hfd)
  · intro e
    rw [hev₂, hev₁]
    cases e <;> simp

theorem cancelAll (h : Accounted r rs) (fd : Nat) (ok : Bool) :
    ∃ r' b, r.cancelAll fd ok = .ok (r', b) ∧
      Accounted r' (if b = true then settle .handed fd .write (settle .handed fd .read rs) else rs) ∧
      (∀ fd', fd' ≠ fd → r'.contexts fd' = r.contexts fd') ∧ (ok = false → r' = r ∧ b = false) := by
  by_cases hnone : (r.contexts fd).events = .none
  · exact ⟨r, false, by simp [Registry.cancelAll, hnone], h, fun _ _ => rfl, fun _ => ⟨rfl, rfl⟩⟩
  cases ok with
  | false =>
    exact ⟨r, false, by simp [Registry.cancelAll, hnone], h, fun _ _ => rfl, fun _ => ⟨rfl, rfl⟩⟩
  | true =>
    obtain ⟨r₁, r₂, hr₁, hr₂, hwrite, hacc, haway, hev⟩ := h.triggerBoth fd (fun e he => he)
    have hr₂' : r₁.triggerIf fd .write (r₁.contexts fd).events = .ok r₂ := by
      rw [← hr₂, Registry.triggerIf, Registry.triggerIf, hwrite]
    have hleft : (r₂.contexts fd).events = .none := by
      refine Events.eq_none_iff.mpr fun e => ?_
      rw [hev]
      simp
    refine ⟨r₂, true, by simp [Registry.cancelAll, hnone, hr₁, hr₂', hleft], ?_, haway,
      fun hok => (by cases hok)⟩
    have hread : (if (r.contexts fd).events.has .read = true then settle .handed fd .read rs else rs)
        = settle .handed fd .read rs := by
      split
      · rfl
      · rename_i hno
        exact (settle_idle (h.idle fd .read (Bool.eq_false_iff.mpr hno))).symm
    dsimp only at hacc
    rw [hread] at hacc
    split at hacc
    · exact hacc
    · rename_i hno
      have hidle : (settle .handed fd .read rs).filter (waitsAt fd .write) = [] := by
        rw [waitsAt_settle_of_ne (by simp) (by decide)]
        exact h.idle fd .write (Bool.eq_false_iff.mpr hno)
      rw [if_pos rfl, settle_idle hidle]
      exact hacc

theorem handle (h : Accounted r rs) (fd : Nat) {reported : Events}
    (hsub : reported.Sub (r.contexts fd).events) (error ok : Bool) :
    let real := Registry.realEvents reported error (r.contexts fd).events
    let events := if ok then real else .none
    ∃ r', r.handle fd reported error ok = .ok r' ∧
      Accounted r'
        (let rs' := if events.has .read = true then settle .handed fd .read rs else rs
          if events.has .write = true then settle .handed fd .write rs' else rs') ∧
      (∀ fd', fd' ≠ fd → r'.contexts fd' = r.contexts fd') ∧ (ok = false → r' = r) := by
  intro real events
  have hreal : real.Sub (r.contexts fd).events := Registry.realEvents_sub hsub error
  by_cases hnone : (r.contexts fd).events.inter real = .none
  · have hno : ∀ e, real.has e = false := by
      intro e
      by_contra he
      have he : real.has e = true := by simpa using he
      have hboth := Events.eq_none_iff.mp hnone e
      rw [Events.has_inter, he, hreal e he] at hboth
      cases hboth
    have hev : ∀ e, events.has e = false := by
      intro e
      cases ok with
      | false => exact Events.has_none e
      | true => exact hno e
    refine ⟨r, if_pos hnone, ?_, fun _ _ => rfl, fun _ => rfl⟩
    rw [hev, hev]
    exact h
  cases ok with
  | false =>
    refine ⟨r, ?_, h, fun _ _ => rfl, fun _ => rfl⟩
    exact (if_neg hnone).trans rfl
  | true =>
    obtain ⟨r₁, r₂, hr₁, hr₂, _, hacc, haway, _⟩ := h.triggerBoth fd hreal
    refine ⟨r₂, ?_, hacc, haway, fun hok => (by cases hok)⟩
    rw [Registry.handle, if_neg hnone, if_neg (by decide), hr₁]
    exact hr₂

end Accounted

/-- the vector has its first 256 slots, and no context beyond it -/
structure Table.Slots (t : Table S C F) : Prop where
  size : 256 ≤ t.size
  beyond : ∀ fd, t.size ≤ fd → t.registry.contexts fd = .empty

theorem Table.Slots.start : (start : Table S C F).Slots := ⟨Nat.le_refl _, fun _ _ => rfl⟩

section
variable {t : Table S C F} {fd : Nat}

theorem Table.Slots.update (h : t.Slots) {r : Registry S C F} (hfd : fd < t.size)
    (haway : ∀ fd', fd' ≠ fd → r.contexts fd' = t.registry.contexts fd') :
    Table.Slots ⟨t.size, r⟩ := by
  refine ⟨h.size, fun fd' hle => ?_⟩
  have hle : t.size ≤ fd' := hle
  exact (haway fd' (by omega)).trans (h.beyond fd' hle)

theorem lt_size_of_toInt (h : ¬ toInt t.size ≤ fd) : fd < t.size := by
  have hle := toInt_le t.size
  omega

theorem Table.lookup_grow (t : Table S C F) (fd : Nat) (h : toInt t.size ≤ fd)
    (hlt : fd < timesOneAndHalf fd) :
    t.lookup fd = .ok (t.contextResize (timesOneAndHalf fd)) := by
  have hno : ¬ toInt t.size > fd := by omega
  rw [Table.lookup, if_neg hno]
  exact if_pos hlt

theorem Table.addEvent_of {t' : Table S C F} (hl : t.lookup fd = .ok t')
    (hc : t'.registry.contexts fd = .empty) (e : Event) (scheduler : S) (task : Task C F) :
    t.addEvent fd e scheduler task true = .ok (⟨t'.size,
      { t'.registry.store fd (FdContext.empty.register e (.of (some scheduler) task)) with
        pendingEventCount := t'.registry.pendingEventCount + 1 }⟩, .added 0) := by
  have hempty : (FdContext.empty : FdContext S C F).events.has e = false := Events.has_none e
  have hidle := FdContext.Well.empty.idle e hempty
  have hadd : t'.registry.addEvent fd e (some scheduler) task true = .ok
      ({ t'.registry.store fd (FdContext.empty.register e (.of (some scheduler) task)) with
        pendingEventCount := t'.registry.pendingEventCount + 1 }, 0) := by
    rw [← hc] at hempty hidle
    rw [Registry.addEvent_of hempty hidle, hc]
  rw [Table.addEvent, hl]
  dsimp only
  rw [hadd]
  rfl

theorem Table.Slots.lookup (h : t.Slots)
    (hg : toInt t.size ≤ fd → t.size ≤ timesOneAndHalf fd) :
    ∃ n, t.lookup fd = .ok ⟨n, t.registry⟩ ∧ fd < n ∧ Table.Slots ⟨n, t.registry⟩ := by
  by_cases hle : toInt t.size ≤ fd
  · have hsize := hg hle
    have hmin := h.size
    have hfd : fd < timesOneAndHalf fd := by
      unfold timesOneAndHalf at hsize ⊢
      omega
    have hsame : t.contextResize (timesOneAndHalf fd) = ⟨timesOneAndHalf fd, t.registry⟩ := by
      have hctx : (fun x => if x < timesOneAndHalf fd then t.registry.contexts x else .empty)
          = t.registry.contexts := by
        funext x
        split
        · rfl
        · exact (h.beyond x (by omega)).symm
      rw [Table.contextResize, hctx]
    refine ⟨timesOneAndHalf fd, ?_, hfd, by show 256 ≤ timesOneAndHalf fd; omega, ?_⟩
    · rw [Table.lookup_grow t fd hle hfd, hsame]
    · intro x hx
      have hx : timesOneAndHalf fd ≤ x := hx
      exact h.beyond x (by omega)
  · have hfd := lt_size_of_toInt hle
    refine ⟨t.size, ?_, hfd, h⟩
    have hyes : toInt t.size > fd := by omega
    rw [Table.lookup, if_pos hyes]
    exact if_pos hfd

end

structure Ledger.Sound (s : Ledger S C F) : Prop where
  noFault : s.fault = none
  accounted : Accounted s.table.registry s.registrations
  slots : s.table.Slots

theorem Ledger.Sound.start : (Ledger.start : Ledger S C F).Sound := ⟨rfl, .start, .start⟩

section
variable {s : Ledger S C F}

theorem Table.ifPresent_spec {t : Table S C F} {rs rs' : List (Registration S C F)}
    (hacc : Accounted t.registry rs) (hslots : t.Slots) (fd : Nat) (ok : Bool)
    (f : Registry S C F → Except Fault (Registry S C F × Bool))
    (hf : ∃ r' b, f t.registry = .ok (r', b) ∧ Accounted r' (if b = true then rs' else rs) ∧
      (∀ fd', fd' ≠ fd → r'.contexts fd' = t.registry.contexts fd') ∧
      (ok = false → r' = t.registry ∧ b = false)) :
    ∃ t' b, t.ifPresent fd f = .ok (t', .answered b) ∧
      Accounted t'.registry (if b = true then rs' else rs) ∧ t'.Slots ∧
      (ok = false → t'.registry = t.registry ∧ b = false) := by
  unfold Table.ifPresent
  by_cases hle : toInt t.size ≤ fd
  · rw [if_pos hle]
    exact ⟨t, false, rfl, hacc, hslots, fun _ => ⟨rfl, rfl⟩⟩
  · rw [if_neg hle]
    obtain ⟨r', b, hr', hacc', haway, hfail⟩ := hf
    rw [hr']
    exact ⟨_, b, rfl, hacc', hslots.update (lt_size_of_toInt hle) haway, hfail⟩

/-- every call ends well; with a failure of `epoll_ctl` it changes no event and says that it failed -/
theorem Call.spec (h : s.Sound) (l : Call S C F) (hl : l.guard s) (hc : l.Grows s) :
    ∃ t o, l.run s.table = .ok (t, o) ∧ Accounted t.registry (l.record s.registrations o) ∧
      t.Slots ∧ (l.ok = false → t.registry = s.table.registry ∧ o.failed) := by
  have hacc := h.accounted
  cases l with
  | addEvent fd e scheduler task ok =>
    obtain ⟨n, hn, hfd, hslots⟩ := h.slots.lookup hc
    obtain ⟨r', x, hr', hacc', haway, hfail⟩ := hacc.addEvent hl.2 scheduler task ok
    refine ⟨⟨n, r'⟩, .added x, ?_, ?_, hslots.update hfd haway, hfail⟩
    · show s.table.addEvent fd e scheduler task ok = _
      rw [Table.addEvent, hn]
      dsimp only
      rw [hr']
      rfl
    · rw [Call.record_addEvent]
      exact hacc'
  | delEvent fd e ok =>
    obtain ⟨r', b, hr', hspec⟩ := hacc.delEvent fd e ok
    obtain ⟨t, b, ht, hacc', hslots, hfail⟩ := Table.ifPresent_spec hacc h.slots fd ok
      (fun r => .ok (r.delEvent fd e ok)) ⟨r', b, congrArg Except.ok hr', hspec⟩
    refine ⟨t, .answered b, ht, ?_, hslots, hfail⟩
    cases b <;> exact hacc'
  | cancelEvent fd e ok =>
    obtain ⟨t, b, ht, hacc', hslots, hfail⟩ := Table.ifPresent_spec hacc h.slots fd ok _
      (hacc.cancelEvent fd e ok)
    refine ⟨t, .answered b, ht, ?_, hslots, hfail⟩
    cases b <;> exact hacc'
  | cancelAll fd ok =>
    obtain ⟨t, b, ht, hacc', hslots, hfail⟩ := Table.ifPresent_spec hacc h.slots fd ok _
      (hacc.cancelAll fd ok)
    refine ⟨t, .answered b, ht, ?_, hslots, hfail⟩
    cases b <;> exact hacc'
  | dispatch fd reported error ok =>
    obtain ⟨r', hr', hacc', haway, hfail⟩ := hacc.handle fd hl.2 error ok
    have hrun : s.table.dispatch fd reported error ok = .ok (⟨s.table.size, r'⟩,
        .triggered (if ok then
          Registry.realEvents reported error (s.table.registry.contexts fd).events else .none)) := by
      rw [Table.dispatch, hr']
      rfl
    refine ⟨_, _, hrun, hacc', ?_, ?_⟩
    · by_cases hfd : fd < s.table.size
      · exact h.slots.update hfd haway
      · -- the events of a context beyond the vector are none
        have hnone : (s.table.registry.contexts fd).events = .none := by
          rw [h.slots.beyond fd (by omega)]
          rfl
        have hr : s.table.registry.handle fd reported error ok = .ok s.table.registry := by
          refine if_pos (Events.eq_none_iff.mpr fun e => ?_)
          rw [Events.has_inter, hnone, Events.has_none]
          rfl
        rw [hr] at hr'
        obtain rfl := Except.ok.inj hr'
        exact h.slots
    · intro hok
      refine ⟨hfail hok, ?_⟩
      have hok : ok = false := hok
      rw [hok]
      rfl

theorem Call.effect_of {l : Call S C F} {t : Table S C F} {o : Outcome}
    (h : l.run s.table = .ok (t, o)) : l.effect s = ⟨t, l.record s.registrations o, none⟩ := by
  rw [Call.effect, h]

theorem Call.effect_grow (s : Ledger S C F) (fd : Nat) (e : Event) (scheduler : S)
    (task : Task C F) (h : toInt s.table.size ≤ fd) (hlt : fd < timesOneAndHalf fd)
    (hc : s.table.registry.contexts fd = .empty) :
    ((Call.addEvent fd e scheduler task true).effect s).table.registry.contexts =
      Function.update
        (fun x => if x < timesOneAndHalf fd then s.table.registry.contexts x else .empty) fd
        (FdContext.empty.register e (.of (some scheduler) task)) := by
  have hempty : (s.table.contextResize (timesOneAndHalf fd)).registry.contexts fd = .empty :=
    (if_pos hlt).trans hc
  rw [Call.effect_of (l := .addEvent fd e scheduler task true)
    (Table.addEvent_of (Table.lookup_grow s.table fd h hlt) hempty e scheduler task)]
  rfl

theorem Ledger.Sound.effect (h : s.Sound) (l : Call S C F) (hl : l.guard s) (hc : l.Grows s) :
    (l.effect s).Sound := by
  obtain ⟨t, o, hrun, hacc, hslots, _⟩ := l.spec h hl hc
  rw [Call.effect_of hrun]
  exact ⟨rfl, hacc, hslots⟩

end

/-- a scheduler, and exactly one of a callback and a coroutine -/
def EventContext.Armed (c : EventContext S C F) : Prop :=
  c.scheduler.isSome = true ∧ (c.cb.isSome ^^ c.coroutine.isSome) = true

theorem EventContext.armed_of (s : S) (t : Task C F) : (EventContext.of (some s) t).Armed := by
  cases t <;> exact ⟨rfl, rfl⟩

/-- the state between the calls, in terms of the bits -/
structure Ledger.Registered (s : Ledger S C F) : Prop where
  noFault : s.fault = none
  bits : ∀ fd e, (s.table.registry.contexts fd).events.has e = true ↔
    ((s.table.registry.contexts fd).getEventContext e).Armed
  pending : s.table.registry.pendingEventCount = s.table.registry.registered.ncard
  handed : s.table.registry.queue.Perm ((s.registrations.filter isHanded).map order)
  waiting : ∀ fd e, (s.registrations.filter (waitsAt fd e)).length =
    if (s.table.registry.contexts fd).events.has e = true then 1 else 0

theorem Ledger.Sound.registered {s : Ledger S C F} (h : s.Sound) : s.Registered := by
  have hacc := h.accounted
  refine ⟨h.noFault, ?_, hacc.balanced.pending, hacc.queue, ?_⟩
  · intro fd e
    constructor
    · intro hhas
      obtain ⟨x, _, hctx⟩ := hacc.waits fd e hhas
      rw [hctx]
      exact EventContext.armed_of _ _
    · intro harmed
      by_contra hno
      rw [(hacc.balanced.well fd).idle e (Bool.eq_false_iff.mpr hno)] at harmed
      cases harmed.1
  · intro fd e
    split
    · rename_i hhas
      obtain ⟨x, hx, _⟩ := hacc.waits fd e hhas
      rw [hx]
      rfl
    · rename_i hno
      rw [hacc.idle fd e (Bool.eq_false_iff.mpr hno)]
      rfl

/-- **In every run in which `addEvent` does not shrink the vector, a bit is set exactly when its
context has a scheduler and one of a callback and a coroutine, the counter counts the bits, the
queue has every registration that was triggered or cancelled once and no other, and a call of which
`epoll_ctl` fails changes none of this and reports it.** -/
theorem registered_run (ls : List (Call S C F))
    (h : (calls.meeting fun s l => l.Grows s).Allowed (Ledger.start : Ledger S C F) ls) :
    let s := calls.after (Ledger.start : Ledger S C F) ls
    s.Registered ∧ ∀ l : Call S C F, l.guard s → l.Grows s → l.ok = false →
      ∃ t o, l.run s.table = .ok (t, o) ∧ t.registry = s.table.registry ∧ o.failed := by
  intro s
  have hs : ((calls.meeting fun s l => l.Grows s).after (Ledger.start : Ledger S C F) ls).Sound :=
    h.inv (fun s l hs hl => hs.effect l hl.1 hl.2) .start
  rw [Machine.meeting_after] at hs
  refine ⟨hs.registered, fun l hl hc hok => ?_⟩
  obtain ⟨t, o, hrun, _, _, hfail⟩ := l.spec hs hl hc
  exact ⟨t, o, hrun, hfail hok⟩

/-- a read event that is cancelled, and a write event that stays, beyond the first 256 slots -/
theorem registered_run_cancelled :
    let s := calls.after (Ledger.start : Ledger Unit Unit Nat)
      [.addEvent 300 .read () (.cb 1) true, .addEvent 300 .write () (.coroutine ()) true,
        .cancelEvent 300 .read true]
    s.Registered ∧ ∀ l : Call Unit Unit Nat, l.guard s → l.Grows s → l.ok = false →
      ∃ t o, l.run s.table = .ok (t, o) ∧ t.registry = s.table.registry ∧ o.failed :=
  registered_run _ (by decide +kernel)

/-- **Behind a descriptor for which `(int)m_fdContexts.size()` is negative, the next `addEvent`
shrinks the vector: the event is counted, and its bit is lost.** -/
theorem registered_lost : ¬ ∀ ls : List (Call Unit Unit Nat),
    calls.Allowed (Ledger.start : Ledger Unit Unit Nat) ls →
      let s := calls.after (Ledger.start : Ledger Unit Unit Nat) ls
      s.table.registry.pendingEventCount = s.table.registry.registered.ncard := by
  intro h
  let l₁ : Call Unit Unit Nat := .addEvent 1431655766 .read () (.cb 1) true
  let l₂ : Call Unit Unit Nat := .addEvent 5 .read () (.cb 2) true
  let s₁ : Ledger Unit Unit Nat := l₁.effect .start
  have hpending : (l₂.effect s₁).table.registry.pendingEventCount
      = (l₂.effect s₁).table.registry.registered.ncard := h [l₁, l₂] (by decide +kernel)
  have htwo : (l₂.effect s₁).table.registry.pendingEventCount = 2 := by decide +kernel
  have hctx₁ := Call.effect_grow (.start : Ledger Unit Unit Nat) 1431655766 .read () (.cb 1)
    (by decide +kernel) (by decide +kernel) rfl
  have hctx₂ := Call.effect_grow s₁ 5 .read () (.cb 2) (by decide +kernel) (by decide +kernel)
    (by decide +kernel)
  have hone : (l₂.effect s₁).table.registry.registered ⊆ {(5, Event.read)} := by
    rintro ⟨fd, e⟩ hhas
    rw [Registry.mem_registered, hctx₂] at hhas
    by_cases hfd : fd = 5
    · rw [hfd, Function.update_self] at hhas
      cases e with
      | read => rw [hfd]; rfl
      | write => cases hhas
    · have hempty : (if fd < timesOneAndHalf 5 then s₁.table.registry.contexts fd else .empty)
          = .empty := by
        split
        · rename_i hlt
          have hseven : timesOneAndHalf 5 = 7 := rfl
          rw [hctx₁, Function.update_of_ne (by omega)]
          exact ite_self _
        · rfl
      rw [Function.update_of_ne hfd, hempty] at hhas
      cases e <;> cases hhas
  have hcard := Set.ncard_le_ncard hone
  rw [Set.ncard_singleton] at hcard
  omega

end IOManager
end KitServer
