import KitServer.Timer.Operations
import KitServer.Lib.Machine

/-!
# The calls on timers, one after the other

A session makes the calls of the timer classes in any order, on timers that `addTimer` returned.

* `Sound`           the invariant of a session;
* `Sound.effect`    every call keeps it;
* `session_run`     the set of timers, the results of the calls and what is collected, in every run.
-/

set_option linter.unusedVariables false

namespace KitServer
namespace Timers
open TimerManager
variable {Cb : Type}

structure Session (Cb : Type) where
  manager : TimerManager Cb
  created : List Addr
  -- the latest event first
  history : List Event

/-- a `TimerManager` is constructed -/
def Session.start (heap : Addr → Timer Cb) (now_ms : UInt64) : Session Cb :=
  ⟨⟨heap, [], false, now_ms⟩, [], []⟩

inductive Call (Cb : Type) where
  | addTimer (a : Addr) (ms : UInt64) (cb : Cb) (recurring : Bool) (now_ms : UInt64)
  | cancel (a : Addr)
  | refresh (a : Addr) (now_ms : UInt64)
  | reset (a : Addr) (ms : UInt64) (from_now : Bool) (now_ms : UInt64)
  | listExpiredCb (now_ms : UInt64) (probe : Addr)

/-- `addTimer` allocates a new timer, the other calls are on a timer that there is -/
def Call.guard (s : Session Cb) : Call Cb → Prop
  | .addTimer a _ _ _ _ => a ∉ s.created
  | .cancel a => a ∈ s.created
  | .refresh a _ => a ∈ s.created
  | .reset a _ _ _ => a ∈ s.created
  | .listExpiredCb _ _ => True

instance (s : Session Cb) : ∀ c : Call Cb, Decidable (c.guard s)
  | .addTimer a _ _ _ _ => inferInstanceAs (Decidable (a ∉ s.created))
  | .cancel a => inferInstanceAs (Decidable (a ∈ s.created))
  | .refresh a _ => inferInstanceAs (Decidable (a ∈ s.created))
  | .reset a _ _ _ => inferInstanceAs (Decidable (a ∈ s.created))
  | .listExpiredCb _ _ => inferInstanceAs (Decidable True)

def Call.effect (s : Session Cb) : Call Cb → Session Cb
  | .addTimer a ms cb recurring now_ms =>
    { s with
      manager := s.manager.addTimer a ms (some cb) recurring now_ms
      created := a :: s.created }
  | .cancel a =>
    let r := Timer.cancel a s.manager
    { s with manager := r.1, history := .cancelled a r.2 :: s.history }
  | .refresh a now_ms => { s with manager := (Timer.refresh a now_ms s.manager).1 }
  | .reset a ms from_now now_ms =>
    { s with manager := (Timer.reset a ms from_now now_ms s.manager).1 }
  | .listExpiredCb now_ms probe =>
    { s with
      manager := (s.manager.listExpiredCb now_ms probe []).1
      history := (s.manager.expired now_ms probe).reverse.map .collected ++ s.history }

def calls : Machine (Session Cb) (Call Cb) := ⟨fun s c => c.guard s, fun s c => c.effect s⟩

instance (s : Session Cb) (c : Call Cb) : Decidable (calls.guard s c) :=
  inferInstanceAs (Decidable (c.guard s))

/-- no callback is collected after a `cancel` of its timer that returned a value that `p` holds of -/
def NeverAfterCancel (p : Bool → Prop) (history : List Event) : Prop :=
  history.Pairwise fun later earlier =>
    ∀ a ok, p ok → earlier = .cancelled a ok → later ≠ .collected a

section
variable {p : Bool → Prop} {history : List Event}

theorem NeverAfterCancel.cancelled (h : NeverAfterCancel p history) (a : Addr) (ok : Bool) :
    NeverAfterCancel p (.cancelled a ok :: history) :=
  List.pairwise_cons.mpr ⟨fun _ _ _ _ _ _ hc => (by cases hc), h⟩

theorem NeverAfterCancel.collected (h : NeverAfterCancel p history) {d : List Addr}
    (hd : ∀ a ∈ d, ∀ ok, p ok → .cancelled a ok ∉ history) :
    NeverAfterCancel p (d.map .collected ++ history) := by
  refine List.pairwise_append.mpr ⟨?_, h, ?_⟩
  · refine List.pairwise_map.mpr (List.pairwise_of_forall ?_)
    intro x y a ok _ hc
    cases hc
  · intro e he e' he' a ok hp hc hcol
    obtain ⟨x, hx, hxe⟩ := List.mem_map.mp he
    rw [hcol] at hxe
    obtain rfl : x = a := Event.collected.inj hxe
    exact hd x hx ok hp (hc ▸ he')

end

structure Sound (s : Session Cb) : Prop where
  ordered : s.manager.Ordered
  created : ∀ a ∈ s.manager.timers, a ∈ s.created
  pending : ∀ a ∈ s.created, a ∈ s.manager.timers ↔ (s.manager.heap a).cb ≠ none
  cancelled : ∀ a, .cancelled a true ∈ s.history → a ∈ s.created ∧ (s.manager.heap a).cb = none
  never : NeverAfterCancel (· = true) s.history

theorem Sound.start (heap : Addr → Timer Cb) (now_ms : UInt64) :
    Sound (Session.start heap now_ms) where
  ordered := List.Pairwise.nil
  created := fun _ h => (by cases h)
  pending := fun _ h => (by cases h)
  cancelled := fun _ h => (by cases h)
  never := List.Pairwise.nil

section
variable {s : Session Cb} {a : Addr}

theorem Sound.move (h : Sound s) (ha : a ∈ s.manager.timers) {t : Timer Cb}
    (ht : t.cb = (s.manager.heap a).cb) {m : TimerManager Cb} (hord : m.Ordered)
    (hheap : m.heap = Function.update s.manager.heap a t)
    (hmem : ∀ x, x ∈ m.timers ↔ x ∈ s.manager.timers) : Sound { s with manager := m } := by
  have hcb : ∀ x, (m.heap x).cb = (s.manager.heap x).cb := by
    intro x
    by_cases hx : x = a
    · rw [hx, hheap, Function.update_self, ht]
    · rw [hheap, Function.update_of_ne hx]
  refine ⟨hord, ?_, ?_, ?_, h.never⟩
  · intro x hx
    exact h.created x ((hmem x).mp hx)
  · intro x hx
    show x ∈ m.timers ↔ (m.heap x).cb ≠ none
    rw [hmem, hcb]
    exact h.pending x hx
  · intro x hx
    show x ∈ s.created ∧ (m.heap x).cb = none
    rw [hcb]
    exact h.cancelled x hx

theorem Sound.addTimer (h : Sound s) (hnew : a ∉ s.created) (ms : UInt64) (cb : Cb)
    (recurring : Bool) (now_ms : UInt64) :
    Sound ((Call.addTimer a ms cb recurring now_ms).effect s) := by
  have hout : a ∉ s.manager.timers := fun hin => hnew (h.created a hin)
  have hheap : ∀ x, x ≠ a → ((Call.addTimer a ms cb recurring now_ms).effect s).manager.heap x
      = s.manager.heap x := fun x hx => Function.update_of_ne hx _ _
  refine ⟨(h.ordered.store hout _).addLocked a, ?_, ?_, ?_, h.never⟩
  · intro x hx
    rcases mem_addLocked.mp hx with rfl | hx
    · exact List.mem_cons_self
    · exact List.mem_cons_of_mem a (h.created x hx)
  · intro x hx
    refine Iff.trans mem_addLocked ?_
    by_cases hxa : x = a
    · subst hxa
      refine ⟨fun _ => ?_, fun _ => .inl rfl⟩
      show ((Function.update s.manager.heap x _) x).cb ≠ none
      rw [Function.update_self]
      exact Option.some_ne_none cb
    · rw [hheap x hxa, ← h.pending x ((List.mem_cons.mp hx).resolve_left hxa)]
      exact ⟨fun hx => hx.resolve_left hxa, .inr⟩
  · intro x hx
    obtain ⟨hin, hcb⟩ := h.cancelled x hx
    have hxa : x ≠ a := by
      rintro rfl
      exact hnew hin
    refine ⟨List.mem_cons_of_mem a hin, ?_⟩
    rw [hheap x hxa]
    exact hcb

theorem Sound.cancel (h : Sound s) (ha : a ∈ s.created) :
    Sound ((Call.cancel a).effect s) := by
  have hpend := h.pending a ha
  rcases Timer.cancel_cases h.ordered a with ⟨hcb, hr⟩ | ⟨hcb, hout, _⟩ | ⟨hcb, hin, hr⟩
  · simp only [Call.effect, hr]
    refine ⟨h.ordered, h.created, h.pending, ?_, h.never.cancelled a false⟩
    intro x hx
    rcases List.mem_cons.mp hx with hx | hx
    · cases hx
    · exact h.cancelled x hx
  · exact absurd (hpend.mpr hcb) hout
  · simp only [Call.effect, hr]
    have hord : (s.manager.store a { s.manager.heap a with cb := none }).Ordered :=
      h.ordered.store_next rfl
    refine ⟨hord.erase a, ?_, ?_, ?_, h.never.cancelled a true⟩
    · intro x hx
      exact h.created x (hord.mem_erase.mp hx).2
    · intro x hx
      refine Iff.trans hord.mem_erase ?_
      by_cases hxa : x = a
      · subst hxa
        simp
      · simp only [store_timers, erase_heap, store_heap, Function.update_of_ne hxa,
          h.pending x hx, ne_eq, hxa, not_false_eq_true, true_and]
    · intro x hx
      by_cases hxa : x = a
      · subst hxa
        refine ⟨ha, ?_⟩
        simp
      · rcases List.mem_cons.mp hx with hx | hx
        · exact absurd (Event.cancelled.inj hx).1 hxa
        · simp only [erase_heap, store_heap, Function.update_of_ne hxa]
          exact h.cancelled x hx

theorem Sound.refresh (h : Sound s) (now_ms : UInt64) :
    Sound ((Call.refresh a now_ms).effect s) := by
  rcases Timer.refresh_cases h.ordered a now_ms with ⟨_, hr⟩ | ⟨_, hin, hr⟩
  · simp only [Call.effect, hr]
    exact h
  · simp only [Call.effect, hr]
    have hout : a ∉ (s.manager.erase a).timers := fun hc => (h.ordered.mem_erase.mp hc).1 rfl
    refine h.move hin (t := { s.manager.heap a with next := now_ms + (s.manager.heap a).ms }) rfl
      (((h.ordered.erase a).store hout _).insert a) rfl ?_
    intro x
    rw [mem_insert, store_timers, h.ordered.mem_erase]
    refine ⟨?_, fun hx => ?_⟩
    · rintro (rfl | hx)
      · exact hin
      · exact hx.2
    · by_cases hxa : x = a
      · exact .inl hxa
      · exact .inr ⟨hxa, hx⟩

theorem Sound.reset (h : Sound s) (ms : UInt64) (from_now : Bool) (now_ms : UInt64) :
    Sound ((Call.reset a ms from_now now_ms).effect s) := by
  by_cases hsame : Timer.unchanged a ms from_now s.manager = true
  · simp only [Call.effect, Timer.reset, if_pos hsame]
    exact h
  rcases Timer.resetLocked_cases h.ordered a ms from_now now_ms with ⟨_, hr⟩ | ⟨_, hin, hr⟩
  · simp only [Call.effect, Timer.reset, if_neg hsame, hr, Bool.false_eq_true, if_false]
    exact h
  · simp only [Call.effect, Timer.reset, if_neg hsame, hr, if_true]
    have hout : a ∉ (s.manager.erase a).timers := fun hc => (h.ordered.mem_erase.mp hc).1 rfl
    refine h.move hin (t := { s.manager.heap a with
      ms := ms
      next := (if from_now then now_ms else (s.manager.heap a).next - (s.manager.heap a).ms) + ms })
      rfl (((h.ordered.erase a).store hout _).addLocked a) rfl ?_
    intro x
    rw [mem_addLocked, store_timers, h.ordered.mem_erase]
    refine ⟨?_, fun hx => ?_⟩
    · rintro (rfl | hx)
      · exact hin
      · exact hx.2
    · by_cases hxa : x = a
      · exact .inl hxa
      · exact .inr ⟨hxa, hx⟩

theorem Sound.listExpiredCb (h : Sound s) (now_ms : UInt64) (probe : Addr) :
    Sound ((Call.listExpiredCb now_ms probe).effect s) := by
  have hr := listExpiredCb_spec now_ms probe ([] : List (Option Cb)) h.ordered
  refine ⟨hr.ordered, ?_, ?_, ?_, h.never.collected ?_⟩
  · intro x hx
    rcases (hr.mem x).mp hx with hx | hx
    · exact h.created x hx.1
    · exact h.created x (hr.sub x hx.1)
  · intro x hx
    refine Iff.trans (hr.mem x) ?_
    show _ ↔ ((s.manager.listExpiredCb now_ms probe []).1.heap x).cb ≠ none
    rw [hr.heap]
    by_cases hd : x ∈ s.manager.expired now_ms probe
    · have hcb := (h.pending x hx).mp (hr.sub x hd)
      rw [if_pos hd, fired]
      by_cases hrec : (s.manager.heap x).recurring = true
      · rw [if_pos hrec]
        exact ⟨fun _ => hcb, fun _ => .inr ⟨hd, hrec⟩⟩
      · rw [if_neg hrec]
        simp [hd, hrec]
    · rw [if_neg hd, ← h.pending x hx]
      simp [hd]
  · intro x hx
    have hx : .cancelled x true ∈ s.history := by simpa [Call.effect] using hx
    obtain ⟨hin, hcb⟩ := h.cancelled x hx
    refine ⟨hin, ?_⟩
    show ((s.manager.listExpiredCb now_ms probe []).1.heap x).cb = none
    rw [hr.heap, if_neg]
    · exact hcb
    · exact fun hd => (h.pending x hin).mp (hr.sub x hd) hcb
  · rintro x hx ok rfl hc
    obtain ⟨hin, hcb⟩ := h.cancelled x hc
    exact (h.pending x hin).mp (hr.sub x (List.mem_reverse.mp hx)) hcb

theorem Sound.effect (h : Sound s) (c : Call Cb) (hc : c.guard s) : Sound (c.effect s) := by
  cases c with
  | addTimer a ms cb recurring now_ms => exact h.addTimer hc ms cb recurring now_ms
  | cancel a => exact h.cancel hc
  | refresh a now_ms => exact h.refresh now_ms
  | reset a ms from_now now_ms => exact h.reset ms from_now now_ms
  | listExpiredCb now_ms probe => exact h.listExpiredCb now_ms probe

/-! ## the results of the calls -/

theorem Sound.cancel_result (h : Sound s) (ha : a ∈ s.created) :
    (Timer.cancel a s.manager).2 = true ↔ a ∈ s.manager.timers := by
  rcases Timer.cancel_cases h.ordered a with ⟨hcb, hr⟩ | ⟨_, hout, hr⟩ | ⟨_, hin, hr⟩
  · rw [hr, h.pending a ha]
    simp [hcb]
  · rw [hr]
    simp [hout]
  · rw [hr]
    simp [hin]

theorem Sound.refresh_result (h : Sound s) (ha : a ∈ s.created) (now_ms : UInt64) :
    (Timer.refresh a now_ms s.manager).2 = true ↔ a ∈ s.manager.timers := by
  rcases Timer.refresh_cases h.ordered a now_ms with ⟨hno, hr⟩ | ⟨_, hin, hr⟩
  · have hout : a ∉ s.manager.timers := fun hin =>
      hno.elim (fun hcb => (h.pending a ha).mp hin hcb) fun hout => hout hin
    rw [hr]
    simp [hout]
  · rw [hr]
    simp [hin]

theorem Sound.reset_result (h : Sound s) (ha : a ∈ s.created) {ms : UInt64} {from_now : Bool}
    (hchange : ms ≠ (s.manager.heap a).ms ∨ from_now = true) (now_ms : UInt64) :
    (Timer.reset a ms from_now now_ms s.manager).2 = true ↔ a ∈ s.manager.timers := by
  have hsame : ¬ Timer.unchanged a ms from_now s.manager = true := by
    simp only [Timer.unchanged, Bool.and_eq_true, decide_eq_true_eq, Bool.not_eq_true', not_and,
      Bool.not_eq_false]
    exact fun he => hchange.resolve_left fun hne => hne he.symm
  rcases Timer.resetLocked_cases h.ordered a ms from_now now_ms with ⟨hno, hr⟩ | ⟨_, hin, hr⟩
  · have hout : a ∉ s.manager.timers := fun hin =>
      hno.elim (fun hcb => (h.pending a ha).mp hin hcb) fun hout => hout hin
    simp [Timer.reset, hsame, hr, hout]
  · simp [Timer.reset, hsame, hr, hin]

end

/-- **Every run of calls**: the set is strictly in the order of `m_next` and address, a timer is in
it exactly when it has a callback, the calls return whether the timer was pending, and a timer that
`cancel` took out is never collected again. -/
theorem session_run (heap : Addr → Timer Cb) (now_ms : UInt64) (ls : List (Call Cb))
    (h : calls.Allowed (Session.start heap now_ms) ls) :
    let s := calls.after (Session.start heap now_ms) ls
    let m := s.manager
    m.timers.Pairwise (fun a b =>
      (m.heap a).next < (m.heap b).next ∨ ((m.heap a).next = (m.heap b).next ∧ a < b)) ∧
    m.timers.Nodup ∧
    (∀ a ∈ s.created, a ∈ m.timers ↔ (m.heap a).cb ≠ none) ∧
    (∀ a ∈ s.created, (Timer.cancel a m).2 = true ↔ a ∈ m.timers) ∧
    (∀ a ∈ s.created, ∀ now, (Timer.refresh a now m).2 = true ↔ a ∈ m.timers) ∧
    (∀ a ∈ s.created, ∀ ms from_now now, (ms ≠ (m.heap a).ms ∨ from_now = true) →
      ((Timer.reset a ms from_now now m).2 = true ↔ a ∈ m.timers)) ∧
    (∀ now probe, (m.listExpiredCb now probe []).2
      = (m.expired now probe).map fun a => (m.heap a).cb) ∧
    NeverAfterCancel (· = true) s.history := by
  intro s m
  have hs : Sound s := Machine.Allowed.inv (fun s c hs hc => hs.effect c hc) h (.start heap now_ms)
  refine ⟨?_, hs.ordered.nodup, hs.pending, fun a ha => hs.cancel_result ha,
    fun a ha => hs.refresh_result ha, fun a ha ms from_now now hc => hs.reset_result ha hc now,
    fun now probe => ?_, hs.never⟩
  · exact hs.ordered.imp fun {a b} hab => (less_iff m.heap a b).mp hab
  · exact (listExpiredCb_spec now probe [] hs.ordered).cbs.trans (List.nil_append _)

/-- a session in which the timer at 16 is moved, cancelled and then passed by -/
def cancelledCalls : List (Call Unit) :=
  [.addTimer 8 100 () false 1000, .addTimer 16 50 () true 1000, .refresh 8 1001,
    .reset 16 40 true 1010, .cancel 16, .listExpiredCb 1101 24]

theorem session_run_cancelled :
    let s := calls.after (Session.start (fun _ => ⟨0, none, false, 0⟩) 900) cancelledCalls
    s.history = [.collected 8, .cancelled 16 true] ∧ NeverAfterCancel (· = true) s.history :=
  ⟨by decide, (session_run _ 900 cancelledCalls (by decide)).2.2.2.2.2.2.2⟩

end Timers
end KitServer
