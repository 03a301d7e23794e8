import KitServer.Timer.Threads

/-!
# No wake-up of the waiter is missed

The waiter reads in `getNextTime` when the timer in front is due and waits until then.  A timer that
comes in front of it later is told to the waiter by `onTimerInsertedAtFront`, unless `m_tickled` says
that this has been done.

* `Waits`             one waiter, a clock that never goes back, sums that do not wrap;
* `lastWait`          the head that the last `getNextTime` saw, and whether it was told since;
* `Covered`           the invariant;
* `no_missed_wakeup`  when the head is earlier than the waiter saw it, the waiter was told.
-/

set_option linter.unusedVariables false

namespace KitServer
namespace Timers
open TimerManager
variable {Cb : Type}

/-- the timer in front is earlier than one of the time `y`; no timer is later than every timer -/
def Earlier : Option UInt64 → Option UInt64 → Prop
  | none, _ => False
  | some _, none => True
  | some x, some y => x < y

instance : ∀ x y : Option UInt64, Decidable (Earlier x y)
  | none, _ => inferInstanceAs (Decidable False)
  | some _, none => inferInstanceAs (Decidable True)
  | some x, some y => inferInstanceAs (Decidable (x < y))

/-- the thread `w` alone waits, the clock never goes back, and no sum of a time and a period
wraps -/
def Waits (w : Nat) (s : Threads Cb) : Act Cb → Prop
  | .addTimer _ _ ms _ _ now_ms => s.clock ≤ now_ms ∧ now_ms.toNat + ms.toNat < 2 ^ 64
  | .refresh _ a now_ms =>
    s.clock ≤ now_ms ∧ now_ms.toNat + (s.manager.heap a).ms.toNat < 2 ^ 64
  | .resetLocked _ a ms from_now now_ms =>
    let t := s.manager.heap a
    s.clock ≤ now_ms ∧ (if from_now then now_ms else t.next - t.ms).toNat + ms.toNat < 2 ^ 64
  | .getNextTime i now_ms => i = w ∧ s.clock ≤ now_ms
  | .listExpiredCb i now_ms => i = w ∧ s.clock ≤ now_ms
  | .expire _ now_ms _ =>
    ∀ a ∈ s.manager.timers, now_ms.toNat + (s.manager.heap a).ms.toNat < 2 ^ 64
  | _ => True

instance (w : Nat) (s : Threads Cb) : ∀ l : Act Cb, Decidable (Waits w s l)
  | .addTimer _ _ _ _ _ _ => inferInstanceAs (Decidable (_ ∧ _))
  | .refresh _ _ _ => inferInstanceAs (Decidable (_ ∧ _))
  | .resetLocked _ _ _ _ _ => inferInstanceAs (Decidable (_ ∧ _ < _))
  | .getNextTime _ _ => inferInstanceAs (Decidable (_ ∧ _))
  | .listExpiredCb _ _ => inferInstanceAs (Decidable (_ ∧ _))
  | .expire _ _ _ => inferInstanceAs (Decidable (∀ a ∈ s.manager.timers, _))
  | .add _ _ _ => .isTrue trivial
  | .notify _ _ _ => .isTrue trivial
  | .cancel _ _ => .isTrue trivial
  | .reset _ _ _ _ => .isTrue trivial
  | .lookEmpty _ _ => .isTrue trivial

/-- the head that the last `getNextTime` saw, and whether `onTimerInsertedAtFront` ran since -/
def lastWait : List Event → Option (Option UInt64 × Bool)
  | [] => none
  | .gotNext head :: _ => some (head, false)
  | .notified :: es => (lastWait es).map fun r => (r.1, true)
  | .cancelled _ _ :: es => lastWait es
  | .collected _ :: es => lastWait es

theorem lastWait_append {head : Option UInt64} {later earlier : List Event}
    (h : ∀ x, .gotNext x ∉ later) :
    lastWait (later ++ .gotNext head :: earlier) = some (head, decide (.notified ∈ later)) := by
  induction later with
  | nil => rfl
  | cons e later ih =>
    have ih := ih fun x hx => h x (List.mem_cons_of_mem e hx)
    cases e with
    | gotNext x => exact absurd List.mem_cons_self (h x)
    | notified =>
      show (lastWait (later ++ .gotNext head :: earlier)).map _ = _
      rw [ih]
      simp
    | cancelled a ok =>
      show lastWait (later ++ .gotNext head :: earlier) = _
      rw [ih]
      simp
    | collected a =>
      show lastWait (later ++ .gotNext head :: earlier) = _
      rw [ih]
      simp

theorem lastWait_collected (d : List Addr) (es : List Event) :
    lastWait (d.map .collected ++ es) = lastWait es := by
  induction d with
  | nil => rfl
  | cons a d ih => exact ih

/-- no timer of the set is earlier than `head` -/
def AtLeast (head : Option UInt64) (m : TimerManager Cb) : Prop :=
  ∀ a ∈ m.timers, ∃ n, head = some n ∧ n ≤ (m.heap a).next

theorem AtLeast.mono {head : Option UInt64} {m m' : TimerManager Cb} (h : AtLeast head m)
    (hsub : ∀ a ∈ m'.timers, a ∈ m.timers ∧ (m.heap a).next ≤ (m'.heap a).next) :
    AtLeast head m' := by
  intro a ha
  obtain ⟨hin, hle⟩ := hsub a ha
  obtain ⟨n, hn, hna⟩ := h a hin
  exact ⟨n, hn, UInt64.le_trans hna hle⟩

theorem AtLeast.not_earlier {head : Option UInt64} {m : TimerManager Cb} (h : AtLeast head m) :
    ¬ Earlier m.front head := by
  unfold TimerManager.front
  cases ht : m.timers with
  | nil => exact id
  | cons a rest =>
    obtain ⟨n, rfl, hle⟩ := h a (by rw [ht]; exact List.mem_cons_self)
    exact UInt64.not_lt.mpr hle

theorem front_atLeast {m : TimerManager Cb} (h : m.Ordered) : AtLeast m.front m := by
  intro a ha
  cases ht : m.timers with
  | nil =>
    rw [ht] at ha
    cases ha
  | cons first rest =>
    have hf : m.timers.head? = some first := by rw [ht]; rfl
    refine ⟨(m.heap first).next, ?_, h.head_next_le hf ha⟩
    rw [TimerManager.front, hf]
    rfl

/-- `m_next` is a reading of the clock up to `now_ms` and the period -/
def Started (now_ms : UInt64) (t : Timer Cb) : Prop :=
  t.ms.toNat ≤ t.next.toNat ∧ t.next.toNat ≤ now_ms.toNat + t.ms.toNat

theorem Started.mono {now now' : UInt64} {t : Timer Cb} (h : Started now t) (hle : now ≤ now') :
    Started now' t := by
  have hle := UInt64.le_iff_toNat_le.mp hle
  obtain ⟨h1, h2⟩ := h
  exact ⟨h1, by omega⟩

theorem toNat_add_of_lt {a b : UInt64} (h : a.toNat + b.toNat < 2 ^ 64) :
    (a + b).toNat = a.toNat + b.toNat := by
  rw [UInt64.toNat_add, Nat.mod_eq_of_lt h]

theorem Started.of_sum {now b : UInt64} {t : Timer Cb} (hle : b ≤ now)
    (hnext : t.next = b + t.ms) (hsum : b.toNat + t.ms.toNat < 2 ^ 64) : Started now t := by
  have hle := UInt64.le_iff_toNat_le.mp hle
  unfold Started
  rw [hnext, toNat_add_of_lt hsum]
  omega

theorem Started.next_le {now : UInt64} {t : Timer Cb} (h : Started now t)
    (hsum : now.toNat + t.ms.toNat < 2 ^ 64) : t.next ≤ now + t.ms := by
  rw [UInt64.le_iff_toNat_le, toNat_add_of_lt hsum]
  exact h.2

theorem Started.start_le {now : UInt64} {t : Timer Cb} (h : Started now t) :
    t.next - t.ms ≤ now := by
  obtain ⟨h1, h2⟩ := h
  rw [UInt64.le_iff_toNat_le, UInt64.toNat_sub_of_le _ _ (UInt64.le_iff_toNat_le.mpr h1)]
  omega

theorem expired_next_le {now_ms : UInt64} {probe : Addr} {m : TimerManager Cb} (h : m.Ordered)
    (htime : m.previousTime ≤ now_ms) {a : Addr} (ha : a ∈ m.expired now_ms probe) :
    (m.heap a).next ≤ now_ms := by
  have hc : (m.checkClockChange now_ms).1 = false := by
    have hlt : ¬ now_ms < m.previousTime := UInt64.not_lt.mpr htime
    simp [checkClockChange, hlt]
  cases ht : m.timers with
  | nil =>
    simp [expired, ht] at ha
  | cons first rest =>
    by_cases hearly : (m.heap first).next < now_ms
    · simp [expired, ht, hc, hearly] at ha
    · have he : m.expired now_ms probe = (m.cut false now_ms probe).1 := by
        simp [expired, ht, hc, hearly]
      rw [he, cut_unchanged h] at ha
      exact of_decide_eq_true (List.mem_filter.mp ha).2

/-- the invariant: without `m_tickled` no timer is earlier than the waiter saw, and with it the
waiter was told or is about to be -/
structure Covered (w : Nat) (s : Threads Cb) : Prop where
  placed : Placed s
  started : ∀ a ∈ s.created, Started s.clock (s.manager.heap a)
  previous : s.manager.previousTime ≤ s.clock
  listing : ∀ i now, s.pc i = .listing now ∨ s.pc i = .expiring now →
    i = w ∧ s.manager.previousTime ≤ now ∧ now ≤ s.clock
  untold : ∀ head told, lastWait s.history = some (head, told) → s.manager.tickled = false →
    AtLeast head s.manager
  told : ∀ head told, lastWait s.history = some (head, told) → s.manager.tickled = true →
    told = true ∨ ∃ i a fresh, s.pc i = .notifying a fresh

theorem Covered.start (w : Nat) (heap : Addr → Timer Cb) (now_ms : UInt64) :
    Covered w (Threads.start heap now_ms) where
  placed := .start heap now_ms
  started := fun _ h => (by cases h)
  previous := UInt64.le_refl _
  listing := fun _ _ h => h.elim (fun h => (by cases h)) fun h => (by cases h)
  untold := fun _ _ h => (by cases h)
  told := fun _ _ h => (by cases h)

section
variable {w : Nat} {s : Threads Cb}

theorem Covered.keep (h : Covered w s) {s' : Threads Cb} (hp : Placed s')
    (hclock : s.clock ≤ s'.clock)
    (hstarted : ∀ a ∈ s'.created, Started s'.clock (s'.manager.heap a))
    (hprev : s'.manager.previousTime = s.manager.previousTime)
    (htick : s'.manager.tickled = s.manager.tickled)
    (hlist : ∀ i now, s'.pc i = .listing now ∨ s'.pc i = .expiring now →
      s.pc i = .listing now ∨ s.pc i = .expiring now)
    (hnot : ∀ i a fresh, s.pc i = .notifying a fresh → s'.pc i = .notifying a fresh)
    (hset : ∀ a ∈ s'.manager.timers, a ∈ s.manager.timers ∧
      (s.manager.heap a).next ≤ (s'.manager.heap a).next)
    (hhist : lastWait s'.history = lastWait s.history) : Covered w s' := by
  refine ⟨hp, hstarted, ?_, ?_, ?_, ?_⟩
  · rw [hprev]
    exact UInt64.le_trans h.previous hclock
  · intro i now hi
    obtain ⟨hw, h1, h2⟩ := h.listing i now (hlist i now hi)
    rw [hprev]
    exact ⟨hw, h1, UInt64.le_trans h2 hclock⟩
  · intro head told hw ht
    rw [hhist] at hw
    rw [htick] at ht
    exact (h.untold head told hw ht).mono hset
  · intro head told hw ht
    rw [hhist] at hw
    rw [htick] at ht
    refine (h.told head told hw ht).imp id ?_
    rintro ⟨i, a, fresh, hi⟩
    exact ⟨i, a, fresh, hnot i a fresh hi⟩

theorem notifying_kept {i : Nat} (pc : Pc) (hi : ∀ a fresh, s.pc i ≠ .notifying a fresh) :
    ∀ j a fresh, s.pc j = .notifying a fresh → (s.goto i pc).pc j = .notifying a fresh := by
  intro j a fresh hj
  have hji : j ≠ i := by
    rintro rfl
    exact hi a fresh hj
  exact (Function.update_of_ne hji _ _).trans hj

theorem goto_keeps {i : Nat} (pc : Pc) (hi : ∀ a fresh, s.pc i ≠ .notifying a fresh)
    (hpc : ∀ now, pc ≠ .listing now ∧ pc ≠ .expiring now) :
    (∀ j now, (s.goto i pc).pc j = .listing now ∨ (s.goto i pc).pc j = .expiring now →
      s.pc j = .listing now ∨ s.pc j = .expiring now) ∧
    ∀ j a fresh, s.pc j = .notifying a fresh → (s.goto i pc).pc j = .notifying a fresh := by
  refine ⟨?_, notifying_kept pc hi⟩
  rintro j now (hj | hj)
  · rcases goto_pc hj with ⟨_, he⟩ | ⟨_, hj⟩
    · exact absurd he.symm (hpc now).1
    · exact .inl hj
  · rcases goto_pc hj with ⟨_, he⟩ | ⟨_, hj⟩
    · exact absurd he.symm (hpc now).2
    · exact .inr hj

theorem Covered.started_later (h : Covered w s) {now_ms : UInt64} (hle : s.clock ≤ now_ms) :
    ∀ a ∈ s.created, Started now_ms (s.manager.heap a) :=
  fun a ha => (h.started a ha).mono hle

theorem started_update {now_ms : UInt64} {heap : Addr → Timer Cb} {created : List Addr}
    (h : ∀ x ∈ created, Started now_ms (heap x)) (a : Addr) {t : Timer Cb} (ht : Started now_ms t) :
    ∀ x ∈ created, Started now_ms (Function.update heap a t x) := by
  intro x hx
  by_cases hxa : x = a
  · rw [hxa, Function.update_self]
    exact ht
  · rw [Function.update_of_ne hxa]
    exact h x hx

theorem Covered.addTimer (h : Covered w s) {i : Nat} {a : Addr} {ms : UInt64} {cb : Option Cb}
    {recurring : Bool} {now_ms : UInt64} (hpc : s.pc i = .out) (hnew : a ∉ s.created)
    (hle : s.clock ≤ now_ms) (hsum : now_ms.toNat + ms.toNat < 2 ^ 64) :
    Covered w ((Act.addTimer i a ms cb recurring now_ms).effect s) := by
  obtain ⟨hlist, hnot⟩ := goto_keeps (s := s) (i := i) (.adding a true)
    (fun _ _ hc => by rw [hpc] at hc; cases hc) fun _ => ⟨by simp, by simp⟩
  have hother : ∀ x ∈ s.created, x ≠ a := by
    rintro x hx rfl
    exact hnew hx
  refine h.keep (h.placed.addTimer i hnew ms cb recurring now_ms) hle ?_ rfl rfl hlist hnot ?_ rfl
  · intro x hx
    by_cases hxa : x = a
    · show Started now_ms (Function.update s.manager.heap a _ x)
      rw [hxa, Function.update_self]
      exact Started.of_sum (UInt64.le_refl now_ms) rfl hsum
    · show Started now_ms (Function.update s.manager.heap a _ x)
      rw [Function.update_of_ne hxa]
      exact h.started_later hle x ((List.mem_cons.mp hx).resolve_left hxa)
  · intro x hx
    refine ⟨hx, ?_⟩
    show _ ≤ (Function.update s.manager.heap a _ x).next
    rw [Function.update_of_ne (hother x (h.placed.created x hx))]
    exact UInt64.le_refl _

/-- the insertion: a timer that gets in front is told, unless the waiter has been told -/
theorem Covered.add (h : Covered w s) {i : Nat} {a : Addr} {fresh : Bool}
    (hpc : s.pc i = .adding a fresh) : Covered w ((Act.add i a fresh).effect s) := by
  have hplaced := h.placed.add hpc
  have hnotify : ∀ j x f, s.pc j = .notifying x f →
      ((Act.add i a fresh).effect s).pc j = .notifying x f := by
    intro j x f hj
    have hji : j ≠ i := by
      rintro rfl
      rw [hpc] at hj
      cases hj
    exact (Function.update_of_ne hji _ _).trans hj
  refine ⟨hplaced, h.started, h.previous, ?_, ?_, ?_⟩
  · rintro j now (hj | hj)
    · rcases goto_pc hj with ⟨_, he⟩ | ⟨_, hj⟩
      · split at he <;> cases he
      · exact h.listing j now (.inl hj)
    · rcases goto_pc hj with ⟨_, he⟩ | ⟨_, hj⟩
      · split at he <;> cases he
      · exact h.listing j now (.inr hj)
  · intro head told hw ht
    have ht : (s.manager.addLocked a).1.tickled = false := ht
    simp only [addLocked, Bool.or_eq_false_iff, Bool.and_eq_false_iff, decide_eq_false_iff_not,
      Bool.not_eq_false'] at ht
    obtain ⟨htick, hfront⟩ := ht
    have hfront : (s.manager.insert a).timers.head? ≠ some a := by
      refine hfront.resolve_right fun hc => ?_
      rw [htick] at hc
      cases hc
    have hold := h.untold head told hw htick
    intro x hx
    rcases mem_addLocked.mp hx with hxa | hx
    · -- the new timer is not in front, and the one in front was there before
      subst hxa
      have hins : x ∈ (s.manager.insert x).timers := mem_insert.mpr (.inl rfl)
      cases hh : (s.manager.insert x).timers.head? with
      | none =>
        rw [List.head?_eq_none_iff] at hh
        rw [hh] at hins
        cases hins
      | some y =>
        have hy : y ∈ s.manager.timers := by
          refine (mem_insert.mp (List.mem_of_head? hh)).resolve_left ?_
          rintro rfl
          exact hfront hh
        obtain ⟨n, hn, hle⟩ := hold y hy
        refine ⟨n, hn, UInt64.le_trans hle ?_⟩
        exact (h.placed.ordered.insert x).head_next_le hh hins
    · exact hold x hx
  · intro head told hw ht
    by_cases htick : s.manager.tickled = true
    · refine (h.told head told hw htick).imp id ?_
      rintro ⟨j, x, f, hj⟩
      exact ⟨j, x, f, hnotify j x f hj⟩
    · have ht : (s.manager.addLocked a).1.tickled = true := ht
      have hfront : (s.manager.addLocked a).2 = true := by
        have htick : (s.manager.insert a).tickled = false := Bool.eq_false_iff.mpr htick
        simpa [addLocked, htick] using ht
      refine .inr ⟨i, a, fresh, ?_⟩
      show Function.update s.pc i _ i = _
      rw [Function.update_self, if_pos hfront]

theorem Covered.notify (h : Covered w s) {i : Nat} {a : Addr} {fresh : Bool}
    (hpc : s.pc i = .notifying a fresh) : Covered w ((Act.notify i a fresh).effect s) := by
  refine ⟨h.placed.effect (.notify i a fresh) hpc, h.started, h.previous, ?_, ?_, ?_⟩
  · rintro j now (hj | hj)
    · rcases goto_pc hj with ⟨_, he⟩ | ⟨_, hj⟩
      · cases he
      · exact h.listing j now (.inl hj)
    · rcases goto_pc hj with ⟨_, he⟩ | ⟨_, hj⟩
      · cases he
      · exact h.listing j now (.inr hj)
  · intro head told hw ht
    obtain ⟨⟨head', told'⟩, hw', he⟩ := Option.map_eq_some_iff.mp hw
    obtain ⟨rfl, _⟩ := Prod.mk.inj he
    exact h.untold head' told' hw' ht
  · intro head told hw ht
    obtain ⟨⟨head', told'⟩, hw', he⟩ := Option.map_eq_some_iff.mp hw
    exact .inl (Prod.mk.inj he).2.symm

theorem Covered.getNextTime (h : Covered w s) {i : Nat} {now_ms : UInt64} (hpc : s.pc i = .out)
    (hle : s.clock ≤ now_ms) : Covered w ((Act.getNextTime i now_ms).effect s) := by
  have hplaced := h.placed.effect (.getNextTime i now_ms) hpc
  simp only [Act.effect, getNextTime_manager] at hplaced ⊢
  refine ⟨hplaced, h.started_later hle, UInt64.le_trans h.previous hle, ?_, ?_, ?_⟩
  · intro j now hj
    obtain ⟨hw, h1, h2⟩ := h.listing j now hj
    exact ⟨hw, h1, UInt64.le_trans h2 hle⟩
  · intro head told hw _
    obtain ⟨rfl, _⟩ := Prod.mk.inj (Option.some.inj hw)
    exact front_atLeast h.placed.ordered
  · intro head told _ ht
    cases ht

theorem Covered.resetLocked (h : Covered w s) {i : Nat} {a : Addr} {ms : UInt64} {from_now : Bool}
    {now_ms : UInt64} (hpc : s.pc i = .resetting a ms from_now) (hle : s.clock ≤ now_ms)
    (hsum : (if from_now then now_ms
      else (s.manager.heap a).next - (s.manager.heap a).ms).toNat + ms.toNat < 2 ^ 64) :
    Covered w ((Act.resetLocked i a ms from_now now_ms).effect s) := by
  have hplaced := h.placed.resetLocked i a ms from_now now_ms
  have hi : ∀ a fresh, s.pc i ≠ .notifying a fresh := fun _ _ hc => by rw [hpc] at hc; cases hc
  rcases Timer.resetLocked_cases h.placed.ordered a ms from_now now_ms with ⟨_, hr⟩ | ⟨_, hin, hr⟩
  · simp only [Act.effect, hr, Bool.false_eq_true, if_false] at hplaced ⊢
    obtain ⟨hlist, hnot⟩ := goto_keeps (s := s) .out hi fun _ => ⟨by simp, by simp⟩
    exact h.keep hplaced hle (h.started_later hle) rfl rfl hlist hnot
      (fun x hx => ⟨hx, UInt64.le_refl _⟩) rfl
  · simp only [Act.effect, hr, if_true] at hplaced ⊢
    obtain ⟨hlist, hnot⟩ := goto_keeps (s := s) (.adding a false) hi fun _ => ⟨by simp, by simp⟩
    have hstart : (if from_now then now_ms
        else (s.manager.heap a).next - (s.manager.heap a).ms) ≤ now_ms := by
      split
      · exact UInt64.le_refl _
      · exact UInt64.le_trans (h.started a (h.placed.created a hin)).start_le hle
    refine h.keep hplaced hle (started_update (h.started_later hle) a ?_) rfl rfl hlist hnot ?_ rfl
    · exact Started.of_sum hstart rfl hsum
    · intro x hx
      obtain ⟨hxa, hx⟩ := h.placed.ordered.mem_erase.mp hx
      refine ⟨hx, ?_⟩
      show _ ≤ (Function.update s.manager.heap a _ x).next
      rw [Function.update_of_ne hxa]
      exact UInt64.le_refl _

theorem Covered.cancel (h : Covered w s) {i : Nat} {a : Addr} (hl : (Act.cancel i a).guard s) :
    Covered w ((Act.cancel i a).effect s) := by
  have hplaced := h.placed.effect (.cancel i a) hl
  obtain ⟨_, hsub⟩ := cancel_sub h.placed.ordered a
  have hkept : (Timer.cancel a s.manager).1.previousTime = s.manager.previousTime ∧
      (Timer.cancel a s.manager).1.tickled = s.manager.tickled ∧
      ∀ x, ((Timer.cancel a s.manager).1.heap x).next = (s.manager.heap x).next ∧
        ((Timer.cancel a s.manager).1.heap x).ms = (s.manager.heap x).ms := by
    have hstore : ∀ x, (Function.update s.manager.heap a { s.manager.heap a with cb := none } x).next
          = (s.manager.heap x).next ∧
        (Function.update s.manager.heap a { s.manager.heap a with cb := none } x).ms
          = (s.manager.heap x).ms := by
      intro x
      by_cases hxa : x = a
      · rw [hxa, Function.update_self]
        exact ⟨rfl, rfl⟩
      · rw [Function.update_of_ne hxa]
        exact ⟨rfl, rfl⟩
    rcases Timer.cancel_cases h.placed.ordered a with ⟨_, hr⟩ | ⟨_, _, hr⟩ | ⟨_, _, hr⟩
    · rw [hr]
      exact ⟨rfl, rfl, fun _ => ⟨rfl, rfl⟩⟩
    · rw [hr]
      exact ⟨rfl, rfl, hstore⟩
    · rw [hr]
      exact ⟨rfl, rfl, hstore⟩
  refine h.keep hplaced (UInt64.le_refl _) ?_ hkept.1 hkept.2.1 (fun _ _ hj => hj)
    (fun _ _ _ hj => hj) ?_ rfl
  · intro x hx
    show Started s.clock ((Timer.cancel a s.manager).1.heap x)
    unfold Started
    rw [(hkept.2.2 x).1, (hkept.2.2 x).2]
    exact h.started x hx
  · intro x hx
    exact ⟨hsub x hx, UInt64.le_of_eq (hkept.2.2 x).1.symm⟩

theorem Covered.refresh (h : Covered w s) {i : Nat} {a : Addr} {now_ms : UInt64}
    (hl : (Act.refresh i a now_ms).guard s) (hle : s.clock ≤ now_ms)
    (hsum : now_ms.toNat + (s.manager.heap a).ms.toNat < 2 ^ 64) :
    Covered w ((Act.refresh i a now_ms).effect s) := by
  have hplaced := h.placed.effect (.refresh i a now_ms) hl
  rcases Timer.refresh_cases h.placed.ordered a now_ms with ⟨_, hr⟩ | ⟨_, hin, hr⟩
  · simp only [Act.effect, hr] at hplaced ⊢
    exact h.keep hplaced hle (h.started_later hle) rfl rfl (fun _ _ hj => hj) (fun _ _ _ hj => hj)
      (fun x hx => ⟨hx, UInt64.le_refl _⟩) rfl
  · simp only [Act.effect, hr] at hplaced ⊢
    refine h.keep hplaced hle (started_update (h.started_later hle) a ?_) rfl rfl
      (fun _ _ hj => hj) (fun _ _ _ hj => hj) ?_ rfl
    · exact Started.of_sum (UInt64.le_refl now_ms) rfl hsum
    · intro x hx
      show _ ∧ _ ≤ (Function.update s.manager.heap a _ x).next
      rcases mem_insert.mp hx with rfl | hx
      · rw [Function.update_self]
        exact ⟨hin, (h.started_later hle x (h.placed.created x hin)).next_le hsum⟩
      · obtain ⟨hxa, hx⟩ := h.placed.ordered.mem_erase.mp hx
        rw [Function.update_of_ne hxa]
        exact ⟨hx, UInt64.le_refl _⟩

theorem Covered.listExpiredCb (h : Covered w s) {now_ms : UInt64} (hpc : s.pc w = .out)
    (hle : s.clock ≤ now_ms) : Covered w ((Act.listExpiredCb w now_ms).effect s) := by
  refine ⟨h.placed.effect (.listExpiredCb w now_ms) hpc, h.started_later hle,
    UInt64.le_trans h.previous hle, ?_, h.untold, ?_⟩
  · rintro j now (hj | hj)
    · rcases goto_pc hj with ⟨hjw, he⟩ | ⟨_, hj⟩
      · obtain rfl := Pc.listing.inj he
        exact ⟨hjw, UInt64.le_trans h.previous hle, UInt64.le_refl _⟩
      · obtain ⟨hw, h1, h2⟩ := h.listing j now (.inl hj)
        exact ⟨hw, h1, UInt64.le_trans h2 hle⟩
    · rcases goto_pc hj with ⟨_, he⟩ | ⟨_, hj⟩
      · cases he
      · obtain ⟨hw, h1, h2⟩ := h.listing j now (.inr hj)
        exact ⟨hw, h1, UInt64.le_trans h2 hle⟩
  · intro head told hw ht
    have hno : ∀ a fresh, s.pc w ≠ .notifying a fresh := fun a fresh hn => by
      rw [hpc] at hn
      cases hn
    exact (h.told head told hw ht).imp id (Exists.imp fun j => Exists.imp fun a =>
      Exists.imp fun fresh => notifying_kept _ hno j a fresh)

theorem Covered.lookEmpty (h : Covered w s) {i : Nat} {now_ms : UInt64}
    (hpc : s.pc i = .listing now_ms) : Covered w ((Act.lookEmpty i now_ms).effect s) := by
  refine ⟨h.placed.effect (.lookEmpty i now_ms) hpc, h.started, h.previous, ?_, h.untold, ?_⟩
  · rintro j now (hj | hj)
    · rcases goto_pc hj with ⟨_, he⟩ | ⟨_, hj⟩
      · split at he <;> cases he
      · exact h.listing j now (.inl hj)
    · rcases goto_pc hj with ⟨hji, he⟩ | ⟨_, hj⟩
      · split at he
        · cases he
        · obtain rfl := Pc.expiring.inj he
          rw [hji]
          exact h.listing i now (.inl hpc)
      · exact h.listing j now (.inr hj)
  · intro head told hw ht
    have hno : ∀ a fresh, s.pc i ≠ .notifying a fresh := fun a fresh hn => by
      rw [hpc] at hn
      cases hn
    exact (h.told head told hw ht).imp id (Exists.imp fun j => Exists.imp fun a =>
      Exists.imp fun fresh => notifying_kept _ hno j a fresh)

theorem Covered.expire (h : Covered w s) {i : Nat} {now_ms : UInt64} {probe : Addr}
    (hpc : s.pc i = .expiring now_ms)
    (hsum : ∀ a ∈ s.manager.timers, now_ms.toNat + (s.manager.heap a).ms.toNat < 2 ^ 64) :
    Covered w ((Act.expire i now_ms probe).effect s) := by
  have hplaced := h.placed.effect (.expire i now_ms probe) hpc
  have hr := listExpiredCb_spec now_ms probe ([] : List (Option Cb)) h.placed.ordered
  obtain ⟨hiw, hprev, hnow⟩ := h.listing i now_ms (.inr hpc)
  have hnext : ∀ x ∈ s.manager.expired now_ms probe, (s.manager.heap x).next ≤ now_ms :=
    fun x hx => expired_next_le h.placed.ordered hprev hx
  have hheap : ∀ x, (s.manager.listExpiredCb now_ms probe []).1.heap x
      = if x ∈ s.manager.expired now_ms probe then fired now_ms (s.manager.heap x)
        else s.manager.heap x := hr.heap
  refine ⟨hplaced, ?_, ?_, ?_, ?_, ?_⟩
  · intro x hx
    show Started s.clock ((s.manager.listExpiredCb now_ms probe []).1.heap x)
    rw [hheap]
    split
    · rename_i hd
      unfold fired
      split
      · exact Started.of_sum hnow rfl (hsum x (hr.sub x hd))
      · exact h.started x hx
    · exact h.started x hx
  · rcases hr.time with ht | ht
    · exact UInt64.le_trans (UInt64.le_of_eq ht) h.previous
    · exact UInt64.le_trans (UInt64.le_of_eq ht) hnow
  · -- the waiter has left, and no other thread waits
    have hgone : ∀ j now, s.pc j = .listing now ∨ s.pc j = .expiring now → j ≠ i → False :=
      fun j now hj hji => hji ((h.listing j now hj).1.trans hiw.symm)
    rintro j now (hj | hj)
    · rcases goto_pc hj with ⟨_, he⟩ | ⟨hji, hj⟩
      · cases he
      · exact (hgone j now (.inl hj) hji).elim
    · rcases goto_pc hj with ⟨_, he⟩ | ⟨hji, hj⟩
      · cases he
      · exact (hgone j now (.inr hj) hji).elim
  · intro head told hw ht
    have hw : lastWait s.history = some (head, told) := by
      rw [← hw]
      exact (lastWait_collected _ _).symm
    have ht : s.manager.tickled = false := hr.tickled.symm.trans ht
    refine (h.untold head told hw ht).mono ?_
    intro x hx
    show _ ∧ _ ≤ ((s.manager.listExpiredCb now_ms probe []).1.heap x).next
    rw [hheap]
    rcases (hr.mem x).mp hx with ⟨hin, hd⟩ | ⟨hd, hrec⟩
    · rw [if_neg hd]
      exact ⟨hin, UInt64.le_refl _⟩
    · rw [if_pos hd, fired, if_pos hrec]
      refine ⟨hr.sub x hd, UInt64.le_trans (hnext x hd) ?_⟩
      show now_ms ≤ now_ms + (s.manager.heap x).ms
      rw [UInt64.le_iff_toNat_le, toNat_add_of_lt (hsum x (hr.sub x hd))]
      omega
  · intro head told hw ht
    have hw : lastWait s.history = some (head, told) := by
      rw [← hw]
      exact (lastWait_collected _ _).symm
    have ht : s.manager.tickled = true := hr.tickled.symm.trans ht
    have hno : ∀ a fresh, s.pc i ≠ .notifying a fresh := fun a fresh hn => by
      rw [hpc] at hn
      cases hn
    exact (h.told head told hw ht).imp id (Exists.imp fun j => Exists.imp fun a =>
      Exists.imp fun fresh => notifying_kept _ hno j a fresh)

theorem Covered.effect (h : Covered w s) (l : Act Cb) (hl : l.guard s) (hc : Waits w s l) :
    Covered w (l.effect s) := by
  cases l with
  | addTimer i a ms cb recurring now_ms => exact h.addTimer hl.1 hl.2 hc.1 hc.2
  | add i a fresh => exact h.add hl
  | notify i a fresh => exact h.notify hl
  | cancel i a => exact h.cancel hl
  | refresh i a now_ms => exact h.refresh hl hc.1 hc.2
  | reset i a ms from_now =>
    have hplaced := h.placed.effect (.reset i a ms from_now) hl
    simp only [Act.effect] at hplaced ⊢
    split
    · exact h
    · rw [if_neg ‹_›] at hplaced
      obtain ⟨hlist, hnot⟩ := goto_keeps (s := s) (i := i) (.resetting a ms from_now)
        (fun _ _ hc => by rw [hl.1] at hc; cases hc) fun _ => ⟨by simp, by simp⟩
      exact h.keep hplaced (UInt64.le_refl _) h.started rfl rfl hlist hnot
        (fun x hx => ⟨hx, UInt64.le_refl _⟩) rfl
  | resetLocked i a ms from_now now_ms => exact h.resetLocked hl hc.1 hc.2
  | getNextTime i now_ms => exact h.getNextTime hl hc.2
  | listExpiredCb i now_ms =>
    obtain ⟨rfl, hle⟩ := hc
    exact h.listExpiredCb hl hle
  | lookEmpty i now_ms => exact h.lookEmpty hl
  | expire i now_ms probe => exact h.expire hl hc

end

/-- **No wake-up is missed**: when no call is about to tell the waiter, and the timer in front is
earlier than the one that the last `getNextTime` saw, then `onTimerInsertedAtFront` ran since. -/
theorem no_missed_wakeup (w : Nat) (heap : Addr → Timer Cb) (now_ms : UInt64) (ls : List (Act Cb))
    (h : (threads.meeting (Waits w)).Allowed (Threads.start heap now_ms) ls) :
    let s := threads.after (Threads.start heap now_ms) ls
    (∀ i a fresh, s.pc i ≠ .notifying a fresh) →
    ∀ later head earlier, s.history = later ++ .gotNext head :: earlier →
      (∀ x, .gotNext x ∉ later) → Earlier s.manager.front head → .notified ∈ later := by
  intro s hquiet later head earlier hhist hlast hearlier
  have hc : Covered w s := by
    have hc : Covered w ((threads.meeting (Waits w)).after (Threads.start heap now_ms) ls) :=
      h.inv (fun s l hs hl => hs.effect l hl.1 hl.2) (.start w heap now_ms)
    rw [Machine.meeting_after] at hc
    exact hc
  have hw : lastWait s.history = some (head, decide (.notified ∈ later)) := by
    rw [hhist]
    exact lastWait_append hlast
  by_cases ht : s.manager.tickled = true
  · rcases hc.told head _ hw ht with htold | ⟨i, a, fresh, hi⟩
    · exact of_decide_eq_true htold
    · exact absurd hi (hquiet i a fresh)
  · exact absurd hearlier (hc.untold head _ hw (Bool.eq_false_iff.mpr ht)).not_earlier

/-- a timer that comes in front of the one that the waiter saw -/
def overtaking : List (Act Unit) :=
  [.addTimer 1 8 100 (some ()) false 1000, .add 1 8 true, .notify 1 8 true, .getNextTime 0 1001,
    .addTimer 2 16 20 (some ()) false 1010, .add 2 16 true, .notify 2 16 true]

/-- the waiter saw the time 1100, the timer in front is at 1030, and the waiter was told -/
theorem overtaking_told :
    Event.notified ∈ [Event.notified] ∧
      (threads.after (Threads.start (fun _ => ⟨0, none, false, 0⟩) 900) overtaking).manager.front
        = some 1030 := by
  refine ⟨?_, by decide⟩
  refine no_missed_wakeup 0 (fun _ => ⟨0, none, false, 0⟩) 900 overtaking (by decide) ?_ [.notified]
    (some 1100) [.notified] (by decide) (fun x hx => ?_) (by decide)
  · intro i a fresh hi
    rcases goto_pc hi with ⟨_, he⟩ | ⟨h2, hi⟩
    · cases he
    · rcases goto_pc hi with ⟨h2', _⟩ | ⟨_, hi⟩
      · exact h2 h2'
      · rcases goto_pc hi with ⟨h2', _⟩ | ⟨_, hi⟩
        · exact h2 h2'
        · rcases goto_pc hi with ⟨_, he⟩ | ⟨h1, hi⟩
          · cases he
          · rcases goto_pc hi with ⟨h1', _⟩ | ⟨_, hi⟩
            · exact h1 h1'
            · rcases goto_pc hi with ⟨h1', _⟩ | ⟨_, hi⟩
              · exact h1 h1'
              · cases hi
  · cases List.mem_singleton.mp hx

end Timers
end KitServer
