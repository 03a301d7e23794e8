import KitServer.Timer.Threads

/-!
# A cancelled timer and the threads

`Timer::reset` takes the timer out of the set, gives the lock away and adds the timer again.  A
`Timer::cancel` that comes between drops the callback and finds nothing to take out, and then the
timer without a callback is added.

* `CancelApart`     no `cancel` comes between, and no timer is added without a callback;
* `cancel_final`    then a cancelled timer stays out of the set and is never collected;
* `cancel_undone`   a run in which `cancel` comes between.
-/

set_option linter.unusedVariables false

namespace KitServer
namespace Timers
open TimerManager
variable {Cb : Type}

/-- the timer of a step that cancels is not about to be added, and a new timer has a callback -/
def CancelApart (s : Threads Cb) : Act Cb → Prop
  | .addTimer _ _ _ cb _ _ => cb ≠ none
  | .cancel _ a => ∀ i fresh, s.pc i ≠ .adding a fresh
  | _ => True

/-- a timer on which `cancel` returned is not in the set and is not collected any more, and every
timer of the set has a callback -/
structure CancelFinal (s : Threads Cb) : Prop where
  cancelled : ∀ a ok, .cancelled a ok ∈ s.history → a ∉ s.manager.timers
  never : NeverAfterCancel (fun _ => True) s.history
  callbacks : ∀ a ∈ s.manager.timers, (s.manager.heap a).cb ≠ none

/-- the invariant: a timer that is in the set, or about to be, has a callback, and a cancelled one
has none -/
structure Dropped (s : Threads Cb) : Prop where
  placed : Placed s
  set : ∀ a ∈ s.manager.timers, (s.manager.heap a).cb ≠ none
  adding : ∀ i a fresh, s.pc i = .adding a fresh → (s.manager.heap a).cb ≠ none
  cancelled : ∀ a ok, .cancelled a ok ∈ s.history →
    a ∈ s.created ∧ (s.manager.heap a).cb = none
  never : NeverAfterCancel (fun _ => True) s.history

theorem Dropped.start (heap : Addr → Timer Cb) (now_ms : UInt64) :
    Dropped (Threads.start heap now_ms) where
  placed := .start heap now_ms
  set := fun _ h => (by cases h)
  adding := fun _ _ _ h => (by cases h)
  cancelled := fun _ _ h => (by cases h)
  never := List.Pairwise.nil

theorem Dropped.final {s : Threads Cb} (h : Dropped s) : CancelFinal s where
  cancelled := fun a ok hc hin => h.set a hin (h.cancelled a ok hc).2
  never := h.never
  callbacks := h.set

section
variable {s : Threads Cb}

/-- a step that moves no thread to `adding`, leaves the callbacks alone and adds no timer -/
theorem Dropped.keep (h : Dropped s) {s' : Threads Cb} (hp : Placed s')
    (hset : ∀ x ∈ s'.manager.timers, x ∈ s.manager.timers ∨ ∃ i fresh, s.pc i = .adding x fresh)
    (hcb : ∀ x ∈ s.created, (s'.manager.heap x).cb = (s.manager.heap x).cb)
    (hadd : ∀ j x fresh, s'.pc j = .adding x fresh →
      s.pc j = .adding x fresh ∨ x ∈ s.manager.timers)
    (hcreated : ∀ x ∈ s.created, x ∈ s'.created)
    (hhist : s'.history = s.history ∨ ∃ e, (∀ a ok, e ≠ .cancelled a ok) ∧
      (∀ a, e ≠ .collected a) ∧ s'.history = e :: s.history) : Dropped s' := by
  refine ⟨hp, ?_, ?_, ?_, ?_⟩
  · intro x hx
    rcases hset x hx with hx | ⟨i, fresh, hi⟩
    · rw [hcb x (h.placed.created x hx)]
      exact h.set x hx
    · rw [hcb x (h.placed.adding i x fresh hi).1]
      exact h.adding i x fresh hi
  · intro j x fresh hj
    rcases hadd j x fresh hj with hj | hx
    · rw [hcb x (h.placed.adding j x fresh hj).1]
      exact h.adding j x fresh hj
    · rw [hcb x (h.placed.created x hx)]
      exact h.set x hx
  · intro a ok hc
    have hc : .cancelled a ok ∈ s.history := by
      rcases hhist with he | ⟨e, hne, _, he⟩
      · rw [he] at hc
        exact hc
      · rw [he] at hc
        exact (List.mem_cons.mp hc).resolve_left fun hce => hne a ok hce.symm
    obtain ⟨hin, hnone⟩ := h.cancelled a ok hc
    exact ⟨hcreated a hin, (hcb a hin).trans hnone⟩
  · rcases hhist with he | ⟨e, _, hne, he⟩
    · rw [he]
      exact h.never
    · rw [he]
      exact List.pairwise_cons.mpr ⟨fun _ _ a _ _ _ => hne a, h.never⟩

theorem Dropped.addTimer (h : Dropped s) (i : Nat) {a : Addr} (hnew : a ∉ s.created) (ms : UInt64)
    {cb : Option Cb} (hcb : cb ≠ none) (recurring : Bool) (now_ms : UInt64) :
    Dropped ((Act.addTimer i a ms cb recurring now_ms).effect s) := by
  have hheap : ∀ x ∈ s.created, ((Act.addTimer i a ms cb recurring now_ms).effect s).manager.heap x
      = s.manager.heap x := by
    intro x hx
    refine Function.update_of_ne ?_ _ _
    rintro rfl
    exact hnew hx
  refine ⟨h.placed.addTimer i hnew ms cb recurring now_ms, ?_, ?_, ?_, h.never⟩
  · intro x hx
    rw [hheap x (h.placed.created x hx)]
    exact h.set x hx
  · intro j x fresh hj
    rcases goto_pc hj with ⟨_, he⟩ | ⟨_, hj'⟩
    · obtain ⟨rfl, _⟩ := Pc.adding.inj he
      show ((Function.update s.manager.heap x (Timer.new ms cb recurring now_ms)) x).cb ≠ none
      rw [Function.update_self]
      exact hcb
    · rw [hheap x (h.placed.adding j x fresh hj').1]
      exact h.adding j x fresh hj'
  · intro x ok hx
    obtain ⟨hin, hnone⟩ := h.cancelled x ok hx
    refine ⟨List.mem_cons_of_mem a hin, ?_⟩
    rw [hheap x hin]
    exact hnone

theorem Dropped.cancel (h : Dropped s) (i : Nat) {a : Addr} (ha : a ∈ s.known)
    (hpc : s.pc i = .out) (hapart : ∀ i fresh, s.pc i ≠ .adding a fresh) :
    Dropped ((Act.cancel i a).effect s) := by
  have hplaced : Placed ((Act.cancel i a).effect s) := h.placed.effect (.cancel i a) ⟨hpc, ha⟩
  have hcreated := h.placed.known a ha
  obtain ⟨_, hsub⟩ := cancel_sub h.placed.ordered a
  have hheap : ∀ x, x ≠ a → ((Timer.cancel a s.manager).1.heap x).cb = (s.manager.heap x).cb := by
    intro x hx
    rcases Timer.cancel_cases h.placed.ordered a with ⟨_, hr⟩ | ⟨_, _, hr⟩ | ⟨_, _, hr⟩
    · rw [hr]
    · rw [hr, store_heap, Function.update_of_ne hx]
    · rw [hr, erase_heap, store_heap, Function.update_of_ne hx]
  have hout : a ∉ (Timer.cancel a s.manager).1.timers ∧
      ((Timer.cancel a s.manager).1.heap a).cb = none := by
    have hord : (s.manager.store a { s.manager.heap a with cb := none }).Ordered :=
      h.placed.ordered.store_next rfl
    rcases Timer.cancel_cases h.placed.ordered a with ⟨hcb, hr⟩ | ⟨_, hout, hr⟩ | ⟨_, _, hr⟩
    · rw [hr]
      exact ⟨fun hin => h.set a hin hcb, hcb⟩
    · rw [hr, store_heap, Function.update_self]
      exact ⟨hout, rfl⟩
    · rw [hr, erase_heap, store_heap, Function.update_self]
      exact ⟨fun hin => (hord.mem_erase.mp hin).1 rfl, rfl⟩
  refine ⟨hplaced, ?_, ?_, ?_, h.never.cancelled a _⟩
  · intro x hx
    have hxa : x ≠ a := by
      rintro rfl
      exact hout.1 hx
    show ((Timer.cancel a s.manager).1.heap x).cb ≠ none
    rw [hheap x hxa]
    exact h.set x (hsub x hx)
  · intro j x fresh hj
    have hxa : x ≠ a := by
      rintro rfl
      exact hapart j fresh hj
    show ((Timer.cancel a s.manager).1.heap x).cb ≠ none
    rw [hheap x hxa]
    exact h.adding j x fresh hj
  · intro x ok hx
    show x ∈ s.created ∧ ((Timer.cancel a s.manager).1.heap x).cb = none
    by_cases hxa : x = a
    · subst hxa
      exact ⟨hcreated, hout.2⟩
    · rw [hheap x hxa]
      exact h.cancelled x ok
        ((List.mem_cons.mp hx).resolve_left fun he => hxa (Event.cancelled.inj he).1)

theorem Dropped.expire (h : Dropped s) (i : Nat) (now_ms : UInt64) (probe : Addr)
    (hpc : s.pc i = .expiring now_ms) : Dropped ((Act.expire i now_ms probe).effect s) := by
  have hplaced := h.placed.effect (.expire i now_ms probe) hpc
  have hr := listExpiredCb_spec now_ms probe ([] : List (Option Cb)) h.placed.ordered
  have hkeep : ∀ x, x ∉ s.manager.expired now_ms probe ∨ (s.manager.heap x).recurring = true →
      ((s.manager.listExpiredCb now_ms probe []).1.heap x).cb = (s.manager.heap x).cb := by
    intro x hx
    rw [hr.heap]
    by_cases hd : x ∈ s.manager.expired now_ms probe
    · rw [if_pos hd, fired, if_pos (hx.resolve_left fun hc => hc hd)]
    · rw [if_neg hd]
  have hout : ∀ x ok, .cancelled x ok ∈ s.history → x ∉ s.manager.expired now_ms probe :=
    fun x ok hc hd => h.set x (hr.sub x hd) (h.cancelled x ok hc).2
  refine ⟨hplaced, ?_, ?_, ?_, ?_⟩
  · intro x hx
    show ((s.manager.listExpiredCb now_ms probe []).1.heap x).cb ≠ none
    rcases (hr.mem x).mp hx with ⟨hin, hd⟩ | ⟨hd, hrec⟩
    · rw [hkeep x (.inl hd)]
      exact h.set x hin
    · rw [hkeep x (.inr hrec)]
      exact h.set x (hr.sub x hd)
  · intro j x fresh hj
    rcases goto_pc hj with ⟨_, he⟩ | ⟨_, hj'⟩
    · cases he
    · have hd : x ∉ s.manager.expired now_ms probe := fun hd =>
        (h.placed.adding j x fresh hj').2 (hr.sub x hd)
      show ((s.manager.listExpiredCb now_ms probe []).1.heap x).cb ≠ none
      rw [hkeep x (.inl hd)]
      exact h.adding j x fresh hj'
  · intro x ok hx
    have hx : .cancelled x ok ∈ s.history := by simpa [Act.effect] using hx
    show x ∈ s.created ∧ ((s.manager.listExpiredCb now_ms probe []).1.heap x).cb = none
    rw [hkeep x (.inl (hout x ok hx))]
    exact h.cancelled x ok hx
  · refine h.never.collected ?_
    intro x hx ok _ hc
    exact hout x ok hc (List.mem_reverse.mp hx)

/-- every step that meets the condition keeps the invariant -/
theorem Dropped.effect (h : Dropped s) (l : Act Cb) (hl : l.guard s) (hc : CancelApart s l) :
    Dropped (l.effect s) := by
  have hplaced := h.placed.effect l hl
  cases l with
  | addTimer i a ms cb recurring now_ms => exact h.addTimer i hl.2 ms hc recurring now_ms
  | cancel i a => exact h.cancel i hl.2 hl.1 hc
  | expire i now_ms probe => exact h.expire i now_ms probe hl
  | add i a fresh =>
    refine h.keep hplaced ?_ (fun _ _ => rfl) ?_ (fun _ hx => hx) (.inl rfl)
    · intro x hx
      rcases mem_addLocked.mp hx with rfl | hx
      · exact .inr ⟨i, fresh, hl⟩
      · exact .inl hx
    · intro j x f hj
      rcases goto_pc hj with ⟨_, he⟩ | ⟨_, hj'⟩
      · split at he <;> cases he
      · exact .inl hj'
  | notify i a fresh =>
    refine h.keep hplaced (fun _ hx => .inl hx) (fun _ _ => rfl) ?_ (fun _ hx => hx)
      (.inr ⟨.notified, fun _ _ he => (by cases he), fun _ he => (by cases he), rfl⟩)
    intro j x f hj
    rcases goto_pc hj with ⟨_, he⟩ | ⟨_, hj'⟩
    · cases he
    · exact .inl hj'
  | refresh i a now_ms =>
    obtain ⟨_, hsub⟩ := refresh_sub h.placed.ordered a now_ms
    refine h.keep hplaced (fun x hx => .inl (hsub x hx)) ?_ (fun _ _ _ hj => .inl hj)
      (fun _ hx => hx) (.inl rfl)
    intro x _
    show ((Timer.refresh a now_ms s.manager).1.heap x).cb = _
    rcases Timer.refresh_cases h.placed.ordered a now_ms with ⟨_, hr⟩ | ⟨_, _, hr⟩
    · rw [hr]
    · rw [hr, insert_heap, store_heap, erase_heap]
      by_cases hx : x = a
      · rw [hx, Function.update_self]
      · rw [Function.update_of_ne hx]
  | reset i a ms from_now =>
    simp only [Act.effect] at hplaced ⊢
    split
    · exact h
    · rw [if_neg ‹_›] at hplaced
      refine h.keep hplaced (fun _ hx => .inl hx) (fun _ _ => rfl) ?_ (fun _ hx => hx) (.inl rfl)
      intro j x f hj
      rcases goto_pc hj with ⟨_, he⟩ | ⟨_, hj'⟩
      · cases he
      · exact .inl hj'
  | resetLocked i a ms from_now now_ms =>
    rcases Timer.resetLocked_cases h.placed.ordered a ms from_now now_ms with
      ⟨_, hr⟩ | ⟨_, hin, hr⟩
    · simp only [Act.effect, hr, Bool.false_eq_true, if_false] at hplaced ⊢
      refine h.keep hplaced (fun _ hx => .inl hx) (fun _ _ => rfl) ?_ (fun _ hx => hx) (.inl rfl)
      intro j x f hj
      rcases goto_pc hj with ⟨_, he⟩ | ⟨_, hj'⟩
      · cases he
      · exact .inl hj'
    · simp only [Act.effect, hr, if_true] at hplaced ⊢
      refine h.keep hplaced ?_ ?_ ?_ (fun _ hx => hx) (.inl rfl)
      · exact fun x hx => .inl (h.placed.ordered.mem_erase.mp hx).2
      · intro x _
        rw [store_heap, erase_heap]
        by_cases hx : x = a
        · rw [hx, Function.update_self]
        · rw [Function.update_of_ne hx]
      · intro j x f hj
        rcases goto_pc hj with ⟨_, he⟩ | ⟨_, hj'⟩
        · obtain ⟨rfl, _⟩ := Pc.adding.inj he
          exact .inr hin
        · exact .inl hj'
  | getNextTime i now_ms =>
    simp only [Act.effect, getNextTime_manager] at hplaced ⊢
    exact h.keep hplaced (fun _ hx => .inl hx) (fun _ _ => rfl) (fun _ _ _ hj => .inl hj)
      (fun _ hx => hx)
      (.inr ⟨.gotNext s.manager.front, fun _ _ he => (by cases he), fun _ he => (by cases he), rfl⟩)
  | listExpiredCb i now_ms =>
    refine h.keep hplaced (fun _ hx => .inl hx) (fun _ _ => rfl) ?_ (fun _ hx => hx) (.inl rfl)
    intro j x f hj
    rcases goto_pc hj with ⟨_, he⟩ | ⟨_, hj'⟩
    · cases he
    · exact .inl hj'
  | lookEmpty i now_ms =>
    refine h.keep hplaced (fun _ hx => .inl hx) (fun _ _ => rfl) ?_ (fun _ hx => hx) (.inl rfl)
    intro j x f hj
    rcases goto_pc hj with ⟨_, he⟩ | ⟨_, hj'⟩
    · split at he <;> cases he
    · exact .inl hj'

end

/-- **A cancelled timer stays cancelled in every run in which no `cancel` comes between the two
sections of a `reset` of its timer.** -/
theorem cancel_final (heap : Addr → Timer Cb) (now_ms : UInt64) (ls : List (Act Cb))
    (h : (threads.meeting CancelApart).Allowed (Threads.start heap now_ms) ls) :
    CancelFinal (threads.after (Threads.start heap now_ms) ls) := by
  have hd : Dropped ((threads.meeting CancelApart).after (Threads.start heap now_ms) ls) :=
    h.inv (fun s l hs hl => hs.effect l hl.1 hl.2) (.start heap now_ms)
  rw [Machine.meeting_after] at hd
  exact hd.final

/-- `reset` of thread 1, and `cancel` of thread 2 in front of it -/
theorem cancel_final_apart :
    CancelFinal (threads.after (Threads.start (fun _ => ⟨0, none, false, 0⟩) 900)
      [.addTimer 0 8 100 (some ()) false 1000, .add 0 8 true, .notify 0 8 true,
        .reset 1 8 50 true, .cancel 2 8, .resetLocked 1 8 50 true 1010]) := by
  refine cancel_final _ 900 _ ?_
  refine ⟨⟨by decide, ?_⟩, ⟨by decide, trivial⟩, ⟨by decide, trivial⟩, ⟨by decide, trivial⟩,
    ⟨by decide, ?_⟩, ⟨by decide, trivial⟩, trivial⟩
  · exact Option.some_ne_none ()
  · intro i fresh hi
    rcases goto_pc hi with ⟨_, he⟩ | ⟨_, hi⟩
    · cases he
    · rcases goto_pc hi with ⟨_, he⟩ | ⟨h0, hi⟩
      · cases he
      · rcases goto_pc hi with ⟨h0', _⟩ | ⟨_, hi⟩
        · exact h0 h0'
        · rcases goto_pc hi with ⟨h0', _⟩ | ⟨_, hi⟩
          · exact h0 h0'
          · cases hi

/-- **A `cancel` between the two sections of a `reset` is undone.** -/
theorem cancel_undone : ¬ ∀ (heap : Addr → Timer Unit) (now_ms : UInt64) (ls : List (Act Unit)),
    threads.Allowed (Threads.start heap now_ms) ls →
      CancelFinal (threads.after (Threads.start heap now_ms) ls) := by
  intro h
  have hrun := h (fun _ => ⟨0, none, false, 0⟩) 900
    [.addTimer 0 8 100 (some ()) false 1000, .add 0 8 true, .notify 0 8 true,
      .reset 1 8 50 true, .resetLocked 1 8 50 true 1010, .cancel 2 8, .add 1 8 false] (by decide)
  exact absurd (hrun.cancelled 8 false (by decide)) (by decide)

end Timers
end KitServer
