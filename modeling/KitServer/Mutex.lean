import KitServer.Lib.Machine

/-!
# `ScopedLockImpl` over `CASMutex`

Any number of threads, each with a scoped lock of its own.  The flag of the mutex is tested and set
in one step; `m_locked` is a variable of the scoped lock, so its writes are steps of their own.
What the mutex guards is read and written by a thread that is in its scope and has the lock; a value
that was read is not used behind the `unlock`.

* `Inv`               the invariant: the flag is set exactly when one thread has the lock;
* `mutual_exclusion`  no two threads have the lock, and every `unlock` gives back its own;
* `updates_in_order`  every update is made on the result of the one before it.
-/

set_option linter.unusedVariables false

namespace KitServer
namespace Mutex

/-- where a thread is in the life of its scoped lock -/
inductive Pc where
  | out
  -- the constructor, in front of `m_mutex.lock()` and behind it
  | constructing
  | constructed
  | inside
  -- `lock()`, behind `m_locked = true`
  | locking
  -- `unlock()`, behind `m_mutex.unlock()`; in the destructor or not
  | unlocking (leaving : Bool)
deriving DecidableEq

structure State (D : Type) where
  m_mutex : Bool
  pc : Nat → Pc
  m_locked : Nat → Bool
  shared : D
  seen : Nat → Option D
  -- the latest update first
  updates : List (D → D)

/-- a step of the thread `i` -/
inductive Act (D : Type) where
  | enter (i : Nat)
  | testAndSet (i : Nat)
  | setLocked (i : Nat)
  | lock (i : Nat)
  | unlock (i : Nat) (leaving : Bool)
  | clearLocked (i : Nat)
  | read (i : Nat)
  | write (i : Nat) (f : D → D)

variable {D : Type}

/-- an uninitialised `m_locked` may be anything -/
def State.start (garbage : Nat → Bool) (d : D) : State D :=
  ⟨false, fun _ => .out, garbage, d, fun _ => none, []⟩

def Act.guard (s : State D) : Act D → Prop
  | .enter i => s.pc i = .out
  | .testAndSet i => s.pc i = .constructing ∨ s.pc i = .locking
  | .setLocked i => s.pc i = .constructed
  | .lock i => s.pc i = .inside
  | .unlock i _ => s.pc i = .inside
  | .clearLocked i => ∃ leaving, s.pc i = .unlocking leaving
  | .read i => s.pc i = .inside ∧ s.m_locked i = true
  | .write i _ => s.pc i = .inside ∧ s.m_locked i = true ∧ (s.seen i).isSome = true

instance (s : State D) : ∀ l : Act D, Decidable (l.guard s)
  | .enter i => inferInstanceAs (Decidable (s.pc i = .out))
  | .testAndSet i => inferInstanceAs (Decidable (s.pc i = .constructing ∨ s.pc i = .locking))
  | .setLocked i => inferInstanceAs (Decidable (s.pc i = .constructed))
  | .lock i => inferInstanceAs (Decidable (s.pc i = .inside))
  | .unlock i _ => inferInstanceAs (Decidable (s.pc i = .inside))
  | .clearLocked i => inferInstanceAs (Decidable (∃ leaving, s.pc i = .unlocking leaving))
  | .read i => inferInstanceAs (Decidable (s.pc i = .inside ∧ s.m_locked i = true))
  | .write i _ => inferInstanceAs
      (Decidable (s.pc i = .inside ∧ s.m_locked i = true ∧ (s.seen i).isSome = true))

def State.goto (s : State D) (i : Nat) (pc : Pc) : State D :=
  { s with pc := Function.update s.pc i pc }

def State.setLocked (s : State D) (i : Nat) (v : Bool) : State D :=
  { s with m_locked := Function.update s.m_locked i v }

def State.setSeen (s : State D) (i : Nat) (v : Option D) : State D :=
  { s with seen := Function.update s.seen i v }

section
variable (s : State D) (i : Nat) (pc : Pc) (b : Bool) (v : Option D)

@[simp] theorem goto_m_mutex : (s.goto i pc).m_mutex = s.m_mutex := rfl
@[simp] theorem goto_pc : (s.goto i pc).pc = Function.update s.pc i pc := rfl
@[simp] theorem goto_m_locked : (s.goto i pc).m_locked = s.m_locked := rfl
@[simp] theorem goto_shared : (s.goto i pc).shared = s.shared := rfl
@[simp] theorem goto_seen : (s.goto i pc).seen = s.seen := rfl
@[simp] theorem goto_updates : (s.goto i pc).updates = s.updates := rfl
@[simp] theorem setLocked_m_mutex : (s.setLocked i b).m_mutex = s.m_mutex := rfl
@[simp] theorem setLocked_pc : (s.setLocked i b).pc = s.pc := rfl
@[simp] theorem setLocked_m_locked :
    (s.setLocked i b).m_locked = Function.update s.m_locked i b := rfl
@[simp] theorem setLocked_shared : (s.setLocked i b).shared = s.shared := rfl
@[simp] theorem setLocked_seen : (s.setLocked i b).seen = s.seen := rfl
@[simp] theorem setLocked_updates : (s.setLocked i b).updates = s.updates := rfl
@[simp] theorem setSeen_m_mutex : (s.setSeen i v).m_mutex = s.m_mutex := rfl
@[simp] theorem setSeen_pc : (s.setSeen i v).pc = s.pc := rfl
@[simp] theorem setSeen_m_locked : (s.setSeen i v).m_locked = s.m_locked := rfl
@[simp] theorem setSeen_shared : (s.setSeen i v).shared = s.shared := rfl
@[simp] theorem setSeen_seen : (s.setSeen i v).seen = Function.update s.seen i v := rfl
@[simp] theorem setSeen_updates : (s.setSeen i v).updates = s.updates := rfl

end

/-- where `unlock()` returns to -/
def behindUnlock (leaving : Bool) : Pc := if leaving then .out else .inside

def Act.effect (s : State D) : Act D → State D
  | .enter i => s.goto i .constructing
  | .testAndSet i =>
    -- the loop goes on while the flag was set
    if s.m_mutex then s
    else
      { s with m_mutex := true }.goto i (if s.pc i = Pc.constructing then .constructed else .inside)
  | .setLocked i => (s.setLocked i true).goto i .inside
  | .lock i => if s.m_locked i then s else (s.setLocked i true).goto i .locking
  | .unlock i leaving =>
    if s.m_locked i then
      ({ s with m_mutex := false }.setSeen i none).goto i (.unlocking leaving)
    else s.goto i (behindUnlock leaving)
  | .clearLocked i =>
    match s.pc i with
    | .unlocking leaving => (s.setLocked i false).goto i (behindUnlock leaving)
    | _ => s
  | .read i => s.setSeen i (some s.shared)
  | .write i f =>
    match s.seen i with
    | some d => { s with shared := f d, updates := f :: s.updates }.setSeen i (some (f d))
    | none => s

def machine (D : Type) : Machine (State D) (Act D) := ⟨Act.guard, Act.effect⟩

instance (s : State D) (l : Act D) : Decidable ((machine D).guard s l) :=
  inferInstanceAs (Decidable (l.guard s))

def State.holds (s : State D) (i : Nat) : Prop :=
  s.pc i = .constructed ∨ s.pc i = .inside ∧ s.m_locked i = true

/-! ## the invariant -/

structure Inv (d : D) (s : State D) : Prop where
  taken : ∀ i, s.holds i → s.m_mutex = true
  unique : ∀ i j, s.holds i → s.holds j → i = j
  held : s.m_mutex = true → ∃ i, s.holds i
  locking : ∀ i, s.pc i = .locking → s.m_locked i = true
  fresh : ∀ i v, s.seen i = some v → s.holds i ∧ v = s.shared
  value : s.shared = s.updates.foldr (fun f v => f v) d

variable {d : D} {s s' : State D} {i : Nat} {l : Act D}

def Act.thread : Act D → Nat
  | .enter i => i
  | .testAndSet i => i
  | .setLocked i => i
  | .lock i => i
  | .unlock i _ => i
  | .clearLocked i => i
  | .read i => i
  | .write i _ => i

/-- a step moves its own thread only -/
theorem effect_other (s : State D) (l : Act D) {j : Nat} (hj : j ≠ l.thread) :
    (l.effect s).pc j = s.pc j ∧ (l.effect s).m_locked j = s.m_locked j
      ∧ (l.effect s).seen j = s.seen j := by
  cases l with
  | enter i => exact ⟨Function.update_of_ne hj _ _, rfl, rfl⟩
  | testAndSet i =>
    simp only [Act.effect]
    split
    · exact ⟨rfl, rfl, rfl⟩
    · exact ⟨Function.update_of_ne hj _ _, rfl, rfl⟩
  | setLocked i => exact ⟨Function.update_of_ne hj _ _, Function.update_of_ne hj _ _, rfl⟩
  | lock i =>
    simp only [Act.effect]
    split
    · exact ⟨rfl, rfl, rfl⟩
    · exact ⟨Function.update_of_ne hj _ _, Function.update_of_ne hj _ _, rfl⟩
  | unlock i leaving =>
    simp only [Act.effect]
    split
    · exact ⟨Function.update_of_ne hj _ _, rfl, Function.update_of_ne hj _ _⟩
    · exact ⟨Function.update_of_ne hj _ _, rfl, rfl⟩
  | clearLocked i =>
    simp only [Act.effect]
    split
    · exact ⟨Function.update_of_ne hj _ _, Function.update_of_ne hj _ _, rfl⟩
    · exact ⟨rfl, rfl, rfl⟩
  | read i => exact ⟨rfl, rfl, Function.update_of_ne hj _ _⟩
  | write i f =>
    simp only [Act.effect]
    split
    · exact ⟨rfl, rfl, Function.update_of_ne hj _ _⟩
    · exact ⟨rfl, rfl, rfl⟩

theorem holds_other (s : State D) (l : Act D) {j : Nat} (hj : j ≠ l.thread) :
    (l.effect s).holds j ↔ s.holds j := by
  obtain ⟨hpc, hlocked, _⟩ := effect_other s l hj
  rw [State.holds, State.holds, hpc, hlocked]

/-- a step that gives the lock to nobody and takes it from nobody, and lets what is guarded alone -/
theorem Inv.keep (h : Inv d s) (hsame : (l.effect s).holds l.thread ↔ s.holds l.thread)
    (hlocking : (l.effect s).pc l.thread = .locking → (l.effect s).m_locked l.thread = true)
    (hmutex : (l.effect s).m_mutex = s.m_mutex) (hseen : (l.effect s).seen = s.seen)
    (hshared : (l.effect s).shared = s.shared) (hupdates : (l.effect s).updates = s.updates) :
    Inv d (l.effect s) := by
  have hholds : ∀ j, (l.effect s).holds j ↔ s.holds j := by
    intro j
    by_cases hj : j = l.thread
    · rw [hj]
      exact hsame
    · exact holds_other s l hj
  refine ⟨fun j hj => ?_, fun j k hj hk => ?_, fun hset => ?_, fun j hj => ?_, fun j v hv => ?_, ?_⟩
  · rw [hmutex]
    exact h.taken j ((hholds j).mp hj)
  · exact h.unique j k ((hholds j).mp hj) ((hholds k).mp hk)
  · rw [hmutex] at hset
    obtain ⟨j, hj⟩ := h.held hset
    exact ⟨j, (hholds j).mpr hj⟩
  · by_cases hne : j = l.thread
    · rw [hne] at hj ⊢
      exact hlocking hj
    · obtain ⟨hpc, hlocked, _⟩ := effect_other s l hne
      rw [hpc] at hj
      rw [hlocked]
      exact h.locking j hj
  · rw [hseen] at hv
    obtain ⟨hj, heq⟩ := h.fresh j v hv
    exact ⟨(hholds j).mpr hj, by rw [heq, hshared]⟩
  · rw [hshared, hupdates]
    exact h.value

theorem not_holds (hout : s.pc i ≠ .constructed) (hin : s.pc i = .inside → s.m_locked i = false) :
    ¬ s.holds i := by
  rintro (h | ⟨h, hlocked⟩)
  · exact hout h
  · rw [hin h] at hlocked
    cases hlocked

/-- a lock that is free is taken -/
theorem Inv.take (h : Inv d s) (hguard : (Act.testAndSet i : Act D).guard s)
    (hfree : s.m_mutex = false) : Inv d ((Act.testAndSet i : Act D).effect s) := by
  have heffect : (Act.testAndSet i : Act D).effect s = { s with m_mutex := true }.goto i
      (if s.pc i = Pc.constructing then .constructed else .inside) := by
    rw [Act.effect, if_neg (by rw [hfree]; exact Bool.false_ne_true)]
  have hnone : ∀ j, ¬ s.holds j := by
    intro j hj
    rw [h.taken j hj] at hfree
    cases hfree
  have hlocked : s.pc i = .locking → s.m_locked i = true := h.locking i
  have hi : ((Act.testAndSet i : Act D).effect s).holds i := by
    rcases hguard with hpc | hpc
    · exact .inl (by simp [heffect, hpc])
    · exact .inr ⟨by simp [heffect, hpc], by simp [heffect, hlocked hpc]⟩
  have honly : ∀ j, ((Act.testAndSet i : Act D).effect s).holds j → j = i := by
    intro j hj
    by_contra hne
    exact hnone j ((holds_other s (.testAndSet i) hne).mp hj)
  refine ⟨fun j _ => ?_, fun j k hj hk => ?_, fun _ => ⟨i, hi⟩, fun j hj => ?_,
    fun j v hv => ?_, ?_⟩
  · rw [heffect]
    rfl
  · rw [honly j hj, honly k hk]
  · by_cases hne : j = i
    · rw [hne, heffect, goto_pc, Function.update_self] at hj
      split at hj <;> cases hj
    · obtain ⟨hpc, hsame, _⟩ := effect_other s (.testAndSet i : Act D) hne
      rw [hpc] at hj
      rw [hsame]
      exact h.locking j hj
  · rw [heffect] at hv
    exact absurd (h.fresh j v hv).1 (hnone j)
  · rw [heffect]
    exact h.value

theorem Inv.release (h : Inv d s) {leaving : Bool} (hin : s.pc i = .inside)
    (hlocked : s.m_locked i = true) : Inv d ((Act.unlock i leaving : Act D).effect s) := by
  have heffect : (Act.unlock i leaving : Act D).effect s
      = ({ s with m_mutex := false }.setSeen i none).goto i (.unlocking leaving) := by
    rw [Act.effect, if_pos hlocked]
  have hi : s.holds i := .inr ⟨hin, hlocked⟩
  have hnone : ∀ j, ¬ ((Act.unlock i leaving : Act D).effect s).holds j := by
    intro j hj
    by_cases hne : j = i
    · simp [hne, heffect, State.holds] at hj
    · exact hne (h.unique j i ((holds_other s (.unlock i leaving) hne).mp hj) hi)
  refine ⟨fun j hj => absurd hj (hnone j), fun j k hj _ => absurd hj (hnone j), fun hset => ?_,
    fun j hj => ?_, fun j v hv => ?_, ?_⟩
  · rw [heffect] at hset
    cases hset
  · by_cases hne : j = i
    · simp [hne, heffect] at hj
    · obtain ⟨hpc, hsame, _⟩ := effect_other s (.unlock i leaving : Act D) hne
      rw [hpc] at hj
      rw [hsame]
      exact h.locking j hj
  · by_cases hne : j = i
    · simp [hne, heffect] at hv
    · rw [(effect_other s (.unlock i leaving : Act D) hne).2.2] at hv
      exact absurd (h.unique j i (h.fresh j v hv).1 hi) hne
  · rw [heffect]
    exact h.value

theorem Inv.access (h : Inv d s) {v : D} {fs : List (D → D)} (hi : s.holds i)
    (hvalue : v = fs.foldr (fun f v => f v) d) :
    Inv d ({ s with shared := v, updates := fs }.setSeen i (some v)) where
  taken := h.taken
  unique := h.unique
  held := h.held
  locking := h.locking
  fresh j w hw := by
    by_cases hne : j = i
    · rw [hne, setSeen_seen, Function.update_self] at hw
      cases hw
      exact ⟨hne ▸ hi, rfl⟩
    · rw [setSeen_seen, Function.update_of_ne hne] at hw
      exact absurd (h.unique j i (h.fresh j w hw).1 hi) hne
  value := hvalue

theorem Inv.step (h : Inv d s) (l : Act D) (hguard : l.guard s) : Inv d (l.effect s) := by
  cases l with
  | enter i =>
    refine h.keep (iff_of_false (not_holds ?_ ?_) (not_holds ?_ ?_)) ?_ rfl rfl rfl rfl
    all_goals simp_all [Act.effect, Act.guard, Act.thread]
  | testAndSet i =>
    cases hset : s.m_mutex with
    | false => exact h.take hguard hset
    | true =>
      rw [Act.effect, if_pos hset]
      exact h
  | setLocked i =>
    have hpc : s.pc i = .constructed := hguard
    refine h.keep (iff_of_true (.inr ⟨?_, ?_⟩) (.inl hpc)) ?_ rfl rfl rfl rfl
    all_goals simp [Act.effect, Act.thread]
  | lock i =>
    have hpc : s.pc i = .inside := hguard
    cases hlocked : s.m_locked i with
    | true =>
      rw [Act.effect, if_pos hlocked]
      exact h
    | false =>
      have heffect : (Act.lock i : Act D).effect s = (s.setLocked i true).goto i .locking := by
        rw [Act.effect, if_neg (by rw [hlocked]; exact Bool.false_ne_true)]
      refine h.keep (iff_of_false (not_holds ?_ ?_) (not_holds ?_ fun _ => hlocked)) ?_ ?_ ?_ ?_ ?_
      all_goals simp [heffect, hpc, Act.thread]
  | unlock i leaving =>
    have hpc : s.pc i = .inside := hguard
    cases hlocked : s.m_locked i with
    | true => exact h.release hpc hlocked
    | false =>
      have heffect : (Act.unlock i leaving : Act D).effect s = s.goto i (behindUnlock leaving) := by
        rw [Act.effect, if_neg (by rw [hlocked]; exact Bool.false_ne_true)]
      refine h.keep (iff_of_false (not_holds ?_ ?_) (not_holds ?_ fun _ => hlocked)) ?_ ?_ ?_ ?_ ?_
      all_goals cases leaving <;> simp [heffect, hpc, hlocked, behindUnlock, Act.thread]
  | clearLocked i =>
    obtain ⟨leaving, hpc⟩ := hguard
    have heffect : (Act.clearLocked i : Act D).effect s
        = (s.setLocked i false).goto i (behindUnlock leaving) := by
      simp only [Act.effect, hpc]
    refine h.keep (iff_of_false (not_holds ?_ ?_) (not_holds ?_ ?_)) ?_ ?_ ?_ ?_ ?_
    all_goals cases leaving <;>
      simp [heffect, hpc, behindUnlock, Act.thread]
  | read i => exact h.access (.inr hguard) h.value
  | write i f =>
    obtain ⟨hpc, hlocked, hsome⟩ := hguard
    obtain ⟨v, hv⟩ := Option.isSome_iff_exists.mp hsome
    have heffect : (Act.write i f : Act D).effect s
        = { s with shared := f v, updates := f :: s.updates }.setSeen i (some (f v)) := by
      simp only [Act.effect, hv]
    rw [heffect]
    refine h.access (.inr ⟨hpc, hlocked⟩) ?_
    rw [List.foldr_cons, ← h.value, (h.fresh i v hv).2]

theorem Inv.run (garbage : Nat → Bool) (d : D) {ls : List (Act D)}
    (h : (machine D).Allowed (.start garbage d) ls) :
    Inv d ((machine D).after (.start garbage d) ls) := by
  refine h.inv (I := Inv d) (fun s l hs hg => hs.step l hg) ⟨?_, ?_, ?_, ?_, ?_, rfl⟩
  · rintro i (hi | ⟨hi, _⟩) <;> cases hi
  · rintro i j (hi | ⟨hi, _⟩) <;> cases hi
  · intro hset
    cases hset
  · intro i hi
    cases hi
  · intro i v hv
    cases hv

/-! ## every run -/

/-- two threads add to one counter, and the second spins while the first is in its scope -/
def exampleRun : List (Act Nat) :=
  [.enter 0, .enter 1, .testAndSet 0, .testAndSet 1, .setLocked 0, .read 0, .testAndSet 1,
    .write 0 (· + 1), .unlock 0 true, .testAndSet 1, .clearLocked 0, .setLocked 1, .read 1,
    .write 1 (· + 10)]

/-- **No two threads have the lock, the flag says whether one has it, and a thread that unlocks
gives back its own.** -/
theorem mutual_exclusion (garbage : Nat → Bool) (d : D) (ls : List (Act D))
    (h : (machine D).Allowed (.start garbage d) ls) :
    let s := (machine D).after (.start garbage d) ls
    (∀ i j, s.holds i → s.holds j → i = j) ∧ (s.m_mutex = true ↔ ∃ i, s.holds i) ∧
      ∀ i leaving, (Act.unlock i leaving : Act D).guard s →
        ((Act.unlock i leaving).effect s).m_mutex ≠ s.m_mutex → s.holds i := by
  intro s
  have hinv : Inv d s := Inv.run garbage d h
  refine ⟨hinv.unique, ⟨hinv.held, fun ⟨i, hi⟩ => hinv.taken i hi⟩, fun i leaving hguard hne => ?_⟩
  cases hlocked : s.m_locked i with
  | true => exact .inr ⟨hguard, hlocked⟩
  | false =>
    rw [Act.effect, if_neg (by rw [hlocked]; exact Bool.false_ne_true)] at hne
    exact absurd rfl hne

theorem mutual_exclusion_two :
    ((machine Nat).after (.start (fun _ => true) 0) exampleRun).holds 1 ∧
      ∀ i, ((machine Nat).after (.start (fun _ => true) 0) exampleRun).holds i → i = 1 := by
  have hone : ((machine Nat).after (.start (fun _ => true) 0) exampleRun).holds 1 :=
    .inr ⟨by decide, by decide⟩
  refine ⟨hone, fun i hi => ?_⟩
  exact (mutual_exclusion (fun _ => true) 0 exampleRun (by decide)).1 i 1 hi hone

/-- **Every update is made on the result of the one before it.** -/
theorem updates_in_order (garbage : Nat → Bool) (d : D) (ls : List (Act D))
    (h : (machine D).Allowed (.start garbage d) ls) :
    ((machine D).after (.start garbage d) ls).shared
      = ((machine D).after (.start garbage d) ls).updates.foldr (fun f v => f v) d :=
  (Inv.run garbage d h).value

theorem updates_in_order_two :
    ((machine Nat).after (.start (fun _ => true) 0) exampleRun).shared = 11 :=
  (updates_in_order (fun _ => true) 0 exampleRun (by decide)).trans (by decide)

end Mutex
end KitServer
