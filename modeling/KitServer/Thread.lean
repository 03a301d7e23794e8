import KitServer.Http.Message
import KitServer.Lib.Machine

/-!
# `Thread`: the constructor and `run`

A `Thread` object with the thread that makes and destroys it and the thread that it starts.  A label
is one statement of `run`, one call of the other thread, or a call of `SetName` by the callback.

* `Inv`             what is set, for each statement of `run`;
* `thread_started`  what holds when the constructor has returned, if it does;
* `touches_iff`     the runs in which nobody touches a destroyed object.

`pthread_create` and `pthread_join` return a positive number for an error, so `ret < 0` never holds.
-/

set_option linter.unusedVariables false

namespace KitServer
namespace Thread
open Http

/-- the next statement of `run` -/
inductive Child where
  | absent
  -- `t_thread = thread` and `t_thread_name = thread->m_name`
  | setThis
  | setThreadName
  | setId
  | setname_np
  -- `cb.swap(thread->m_cb)`
  | swap
  | notify
  | call
  | inside
  | ended
deriving DecidableEq

def Child.rank : Child → Nat
  | .absent => 0
  | .setThis => 1
  | .setThreadName => 2
  | .setId => 3
  | .setname_np => 4
  | .swap => 5
  | .notify => 6
  | .call => 7
  | .inside => 8
  | .ended => 9

/-- where the thread stands that makes the object -/
inductive Parent where
  | creating
  | waiting
  | built
  | destroyed
deriving DecidableEq

/-- what has become of the handle of `pthread_create` -/
inductive Handle where
  | absent
  | joinable
  | joined
  | detached
deriving DecidableEq

structure State (Cb : Type) where
  parent : Parent
  child : Child
  -- none for -1
  m_id : Option Nat
  m_thread : Bool
  m_cb : Option Cb
  m_name : Str
  m_sem : Nat
  t_thread : Bool
  t_thread_name : Str
  cb : Option Cb
  called : List Cb
  handle : Handle
  -- how often it was given to `pthread_join` or `pthread_detach`
  released : Nat
  -- `run` or `SetName` has touched the object behind its destructor
  touched : Bool
deriving DecidableEq

inductive Act where
  | create (ok : Bool)
  | wait
  | join
  | destroy
  -- the next statement of `run`
  | run
  | setName (name : Str)
  | finish
deriving DecidableEq

variable {Cb : Type}

def State.start (f : Cb) (name : Str) : State Cb where
  parent := .creating
  child := .absent
  m_id := none
  m_thread := false
  m_cb := some f
  m_name := if name.length > 0 then name else asc "UNKNOW"
  m_sem := 0
  t_thread := false
  t_thread_name := asc "unknow"
  cb := none
  called := []
  handle := .absent
  released := 0
  touched := false

def Act.setsName : Act → Bool
  | .setName _ => true
  | _ => false

def Act.guard (s : State Cb) : Act → Prop
  | .create _ => s.parent = .creating
  | .wait => s.parent = .waiting ∧ 0 < s.m_sem
  | .join => s.parent = .built ∧ (s.m_thread = true → s.child = .ended)
  | .destroy => s.parent = .built
  | .run => 1 ≤ s.child.rank ∧ s.child.rank ≤ 7
  | .setName _ => s.child = .inside
  | .finish => s.child = .inside

instance (s : State Cb) : ∀ l : Act, Decidable (l.guard s)
  | .create _ => inferInstanceAs (Decidable (s.parent = .creating))
  | .wait => inferInstanceAs (Decidable (s.parent = .waiting ∧ 0 < s.m_sem))
  | .join =>
    inferInstanceAs (Decidable (s.parent = .built ∧ (s.m_thread = true → s.child = .ended)))
  | .destroy => inferInstanceAs (Decidable (s.parent = .built))
  | .run => inferInstanceAs (Decidable (1 ≤ s.child.rank ∧ s.child.rank ≤ 7))
  | .setName _ => inferInstanceAs (Decidable (s.child = .inside))
  | .finish => inferInstanceAs (Decidable (s.child = .inside))

def State.touch (s : State Cb) : State Cb :=
  { s with touched := s.touched || decide (s.parent = .destroyed) }

/-- `tid` is what `GetThreadId` returns -/
def State.run (tid : Nat) (s : State Cb) : State Cb :=
  match s.child with
  | .setThis => { s with t_thread := true, child := .setThreadName }
  | .setThreadName => { s.touch with t_thread_name := s.m_name, child := .setId }
  | .setId => { s.touch with m_id := some tid, child := .setname_np }
  | .setname_np => { s.touch with child := .swap }
  | .swap => { s.touch with cb := s.m_cb, m_cb := s.cb, child := .notify }
  | .notify => { s.touch with m_sem := s.m_sem + 1, child := .call }
  | .call => { s with called := s.cb.toList ++ s.called, child := .inside }
  | _ => s

def State.setName (name : Str) (s : State Cb) : State Cb :=
  if s.t_thread then { s.touch with m_name := name, t_thread_name := name }
  else { s with t_thread_name := name }

def Act.effect (tid : Nat) (s : State Cb) : Act → State Cb
  | .create true =>
    { s with parent := .waiting, child := .setThis, m_thread := true, handle := .joinable }
  | .create false => { s with parent := .waiting }
  | .wait => { s with parent := .built, m_sem := s.m_sem - 1 }
  | .join =>
    if s.m_thread then
      { s with m_thread := false, handle := .joined, released := s.released + 1 }
    else s
  | .destroy =>
    if s.m_thread then
      { s with parent := .destroyed, handle := .detached, released := s.released + 1 }
    else { s with parent := .destroyed }
  | .run => s.run tid
  | .setName name => s.setName name
  | .finish => { s with child := .ended }

def thread (Cb : Type) (tid : Nat) : Machine (State Cb) Act := ⟨Act.guard, Act.effect tid⟩

instance (tid : Nat) (s : State Cb) (l : Act) : Decidable ((thread Cb tid).guard s l) :=
  inferInstanceAs (Decidable (l.guard s))

/-! ## the invariant -/

def Parent.returned : Parent → Bool
  | .built => true
  | .destroyed => true
  | _ => false

/-- what the statements of `run` have set -/
structure Inv (f : Cb) (name : Str) (tid : Nat) (s : State Cb) : Prop where
  m_id : s.m_id = if 3 < s.child.rank then some tid else none
  m_cb : s.m_cb = if 5 < s.child.rank then none else some f
  cb : s.cb = if 5 < s.child.rank then some f else none
  called : s.called = if 7 < s.child.rank then [f] else []
  t_thread : s.t_thread = decide (1 < s.child.rank)
  m_sem : s.m_sem + s.parent.returned.toNat = if 6 < s.child.rank then 1 else 0
  m_name : s.child.rank ≤ 7 → s.m_name = if name.length > 0 then name else asc "UNKNOW"
  t_thread_name : 2 < s.child.rank → s.t_thread_name = s.m_name

/-- the thread is joined or detached once -/
structure Handled (s : State Cb) : Prop where
  creating : s.parent = .creating → s.child = .absent
  absent : s.child = .absent ↔ s.handle = .absent
  m_thread : s.m_thread = true ↔ s.handle = .joinable ∨ s.handle = .detached
  joined : s.handle = .joined → s.child = .ended
  detached : s.handle = .detached → s.parent = .destroyed
  destroyed : s.parent = .destroyed → s.handle ≠ .joinable
  released : s.released = if s.handle = .joined ∨ s.handle = .detached then 1 else 0

variable {f : Cb} {name : Str} {tid : Nat} {s : State Cb}

theorem Inv.start (f : Cb) (name : Str) (tid : Nat) : Inv f name tid (.start f name) := by
  constructor <;> simp [State.start, Child.rank, Parent.returned]

theorem Inv.run (h : Inv f name tid s) (hguard : (Act.run).guard s) :
    Inv f name tid (s.run tid) := by
  obtain ⟨h1, h2⟩ := hguard
  obtain ⟨m_id, m_cb, cb, called, t_thread, m_sem, m_name, t_thread_name⟩ := h
  cases hc : s.child <;> simp only [hc, Child.rank] at h1 h2 <;> try omega
  all_goals
    simp only [State.run, hc]
    simp [hc, Child.rank] at m_id m_cb cb called t_thread m_sem m_name t_thread_name
    constructor <;> simp [State.touch, Child.rank, *]

theorem Inv.step (h : Inv f name tid s) (hh : Handled s) (l : Act) (hguard : l.guard s) :
    Inv f name tid (l.effect tid s) := by
  cases l with
  | create ok =>
    have hparent : s.parent = .creating := hguard
    have hc := hh.creating hparent
    obtain ⟨m_id, m_cb, cb, called, t_thread, m_sem, m_name, t_thread_name⟩ := h
    simp [hc, Child.rank] at m_id m_cb cb called t_thread m_sem m_name t_thread_name
    cases ok <;> constructor <;> simp [Act.effect, Child.rank, Parent.returned, *]
  | wait =>
    obtain ⟨hparent, hpos⟩ := hguard
    have hsem := h.m_sem
    rw [hparent] at hsem
    refine ⟨h.m_id, h.m_cb, h.cb, h.called, h.t_thread, ?_, h.m_name, h.t_thread_name⟩
    show s.m_sem - 1 + 1 = if 6 < s.child.rank then 1 else 0
    rw [← hsem]
    simp only [Parent.returned, Bool.toNat_false]
    omega
  | join =>
    simp only [Act.effect]
    split
    · exact ⟨h.m_id, h.m_cb, h.cb, h.called, h.t_thread, h.m_sem, h.m_name, h.t_thread_name⟩
    · exact h
  | destroy =>
    have hparent : s.parent = .built := hguard
    have hsem := h.m_sem
    rw [hparent] at hsem
    simp only [Act.effect]
    split <;>
      exact ⟨h.m_id, h.m_cb, h.cb, h.called, h.t_thread, hsem, h.m_name, h.t_thread_name⟩
  | run => exact h.run hguard
  | setName new =>
    have hc : s.child = .inside := hguard
    obtain ⟨m_id, m_cb, cb, called, t_thread, m_sem, m_name, t_thread_name⟩ := h
    simp [hc, Child.rank] at m_id m_cb cb called t_thread m_sem m_name t_thread_name
    simp only [Act.effect, State.setName, t_thread, if_true]
    constructor <;> simp [State.touch, Child.rank, *]
  | finish =>
    have hc : s.child = .inside := hguard
    obtain ⟨m_id, m_cb, cb, called, t_thread, m_sem, m_name, t_thread_name⟩ := h
    simp [hc, Child.rank] at m_id m_cb cb called t_thread m_sem m_name t_thread_name
    constructor <;> simp [Act.effect, Child.rank, *]

theorem Inv.notified (h : Inv f name tid s) (hret : s.parent.returned = true) :
    6 < s.child.rank ∧ s.m_sem = 0 := by
  have hsem := h.m_sem
  rw [hret] at hsem
  simp only [Bool.toNat_true] at hsem
  split_ifs at hsem
  omega

theorem Handled.start (f : Cb) (name : Str) : Handled (.start f name) := by
  constructor <;> simp [State.start]

theorem run_child (tid : Nat) (hguard : (Act.run).guard s) :
    s.child ≠ .absent ∧ s.child ≠ .ended ∧ (s.run tid).child ≠ .absent ∧
      (s.run tid).parent = s.parent ∧ (s.run tid).m_thread = s.m_thread ∧
      (s.run tid).handle = s.handle ∧ (s.run tid).released = s.released := by
  obtain ⟨h1, h2⟩ := hguard
  cases hc : s.child <;> simp only [hc, Child.rank] at h1 h2 <;> try omega
  all_goals simp [State.run, hc, State.touch]

theorem Handled.unreleased (h : Handled s) (hparent : s.parent = .built)
    (hthread : s.m_thread = true) : s.released = 0 := by
  rw [h.released]
  rcases h.m_thread.mp hthread with hj | hd
  · simp [hj]
  · exact absurd (hparent.symm.trans (h.detached hd)) nofun

theorem Handled.step (h : Handled s) (l : Act) (hguard : l.guard s) :
    Handled (l.effect tid s) := by
  cases l with
  | create ok =>
    have hparent : s.parent = .creating := hguard
    have hchild := h.creating hparent
    have habsent := h.absent.mp hchild
    have hthread := h.m_thread
    have hnone : s.released = 0 := by
      rw [h.released, habsent]
      rfl
    cases ok
    all_goals constructor <;> simp_all [Act.effect]
  | wait =>
    exact ⟨nofun, h.absent, h.m_thread, h.joined,
      fun hd => absurd ((h.detached hd).symm.trans hguard.1) nofun, nofun, h.released⟩
  | join =>
    obtain ⟨hparent, hended⟩ := hguard
    simp only [Act.effect]
    split
    · next hthread =>
      have hc := hended hthread
      have hnone := h.unreleased hparent hthread
      constructor <;> simp [hc, hparent, hnone]
    · exact h
  | destroy =>
    have hparent : s.parent = .built := hguard
    simp only [Act.effect]
    split
    · next hthread =>
      have hne : s.child ≠ .absent := by
        intro hc
        have hno := h.m_thread.mp hthread
        rw [h.absent.mp hc] at hno
        exact hno.elim nofun nofun
      have hnone := h.unreleased hparent hthread
      constructor <;> simp [hne, hthread, hnone]
    · next hthread =>
      refine ⟨nofun, h.absent, h.m_thread, h.joined, fun _ => rfl, fun _ hj => ?_, h.released⟩
      exact hthread (h.m_thread.mpr (.inl hj))
  | run =>
    obtain ⟨hc, hne, hc', hparent, hthread, hhandle, hreleased⟩ := run_child tid hguard
    refine ⟨fun hp => ?_, ?_, ?_, fun hj => ?_, fun hd => ?_, fun hp => ?_, ?_⟩
    · exact absurd (h.creating (hparent ▸ hp)) hc
    · exact iff_of_false hc' fun hh => hc (h.absent.mpr (hhandle ▸ hh))
    · rw [Act.effect, hthread, hhandle]
      exact h.m_thread
    · exact absurd (h.joined (hhandle ▸ hj)) hne
    · exact hparent.trans (h.detached (hhandle ▸ hd))
    · rw [Act.effect, hhandle]
      exact h.destroyed (hparent ▸ hp)
    · rw [Act.effect, hreleased, hhandle]
      exact h.released
  | setName new =>
    have hc : s.child = .inside := hguard
    simp only [Act.effect, State.setName]
    split <;> exact ⟨h.creating, h.absent, h.m_thread, h.joined, h.detached, h.destroyed,
      h.released⟩
  | finish =>
    have hc : s.child = .inside := hguard
    have hne : s.handle ≠ .absent := fun hh => by
      rw [h.absent.mpr hh] at hc
      cases hc
    refine ⟨fun hp => ?_, iff_of_false nofun hne, h.m_thread, fun _ => rfl, h.detached,
      h.destroyed, h.released⟩
    rw [h.creating hp] at hc
    cases hc

/-- a statement of `run` touches the object only while the constructor waits, or behind the last
use of it -/
theorem run_touched (h : Inv f name tid s) (hguard : (Act.run).guard s) :
    (s.run tid).touched = s.touched := by
  obtain ⟨h1, h2⟩ := hguard
  have halive : s.child.rank ≤ 6 → decide (s.parent = .destroyed) = false := by
    intro hrank
    refine decide_eq_false fun hgone => ?_
    have hlt := (h.notified (by rw [hgone]; rfl)).1
    omega
  cases hc : s.child <;> simp only [hc, Child.rank] at h1 h2 halive <;> try omega
  all_goals simp [State.run, hc, State.touch, halive]

/-! ## every run -/

theorem Inv.after (f : Cb) (name : Str) (tid : Nat) {ls : List Act}
    (h : (thread Cb tid).Allowed (.start f name) ls) :
    Inv f name tid ((thread Cb tid).after (.start f name) ls) ∧
      Handled ((thread Cb tid).after (.start f name) ls) :=
  h.inv (I := fun s => Inv f name tid s ∧ Handled s)
    (fun s l hs hl => ⟨hs.1.step hs.2 l hl, hs.2.step l hl⟩) ⟨.start f name tid, .start f name⟩

/-- the callback names its thread, and the constructor returns while it runs -/
def exampleRun : List Act :=
  [.create true, .run, .run, .run, .run, .run, .run, .run, .setName (asc "io"), .wait]

/-- **`run` itself never touches a destroyed object: only a callback that calls `SetName` behind the
destructor does.** -/
theorem touches_iff (f : Cb) (name : Str) (tid : Nat) (ls : List Act)
    (h : (thread Cb tid).Allowed (.start f name) ls) :
    ((thread Cb tid).after (.start f name) ls).touched = false ↔
      ((thread Cb tid).meeting fun s l => l.setsName = true → s.parent ≠ .destroyed).Allowed
        (.start f name) ls := by
  have hstep : ∀ (s : State Cb) (l : Act), Inv f name tid s ∧ Handled s → l.guard s →
      ((l.effect tid s).touched = false ↔
        s.touched = false ∧ (l.setsName = true → s.parent ≠ .destroyed)) := by
    rintro s l ⟨hinv, _⟩ hguard
    cases l with
    | create ok => cases ok <;> simp [Act.effect, Act.setsName]
    | wait => simp [Act.effect, Act.setsName]
    | join =>
      simp only [Act.effect]
      split <;> simp [Act.setsName]
    | destroy =>
      simp only [Act.effect]
      split <;> simp [Act.setsName]
    | run =>
      rw [Act.effect, run_touched hinv hguard]
      exact ⟨fun h => ⟨h, nofun⟩, fun h => h.1⟩
    | setName new =>
      have hthis : s.t_thread = true := by
        rw [hinv.t_thread, show s.child = .inside from hguard]
        rfl
      simp [Act.effect, Act.setsName, State.setName, hthis, State.touch]
    | finish => simp [Act.effect, Act.setsName]
  refine (h.meeting_iff (I := fun s => Inv f name tid s ∧ Handled s)
    (P := fun s => s.touched = false) (fun s l hs hl => ⟨hs.1.step hs.2 l hl, hs.2.step l hl⟩)
    hstep ⟨.start f name tid, .start f name⟩).trans ?_
  exact ⟨fun hrun => hrun.2, fun hrun => ⟨rfl, hrun⟩⟩

/-- a detached thread that calls `SetName` writes to what was its object -/
theorem touches_iff_detached :
    ((thread Nat 42).after (.start 7 []) (exampleRun ++ [.destroy])).touched = false ∧
      ((thread Nat 42).after (.start 7 [])
        (exampleRun ++ [.destroy, .setName (asc "x")])).touched = true := by
  have hiff := touches_iff 7 [] 42 (exampleRun ++ [.destroy]) (by decide +kernel)
  exact ⟨hiff.mpr (by decide +kernel), by decide +kernel⟩

end Thread
end KitServer
