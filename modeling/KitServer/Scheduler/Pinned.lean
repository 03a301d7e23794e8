import KitServer.Scheduler.Tasks

/-!
# `threadId`: on which threads a task is run

The pool beside the thread that was given for every coroutine.  The queue has it in the entry, and
the entry is gone when `run` puts the coroutine back.

* `Act.pins`         the steps that give a thread for a coroutine, or that give none;
* `Act.KeepsPins`    the condition on a step;
* `Followed`         only the thread that was given can come to swap in the coroutine;
* `followed_step`    a step keeps that exactly when it meets the condition;
* `pins_run`         what was swapped in, and by which worker.
-/

set_option linter.unusedVariables false

namespace KitServer
namespace Scheduler
open IOManager (Task)
variable {F : Type}

/-- what one `swapIn` was about -/
structure Swapped where
  worker : Nat
  cor : Cor
  pin : Option Nat

/-- `pin` is the thread that the last call of `schedule` has given, with the calls in `run` left
out; a callback takes its thread with it to its coroutine -/
structure Pinned (F : Type) where
  pool : Pool F
  -- `threadId` of the entry that the worker has taken last
  taken : Nat → Option Nat
  pin : Cor → Option Nat
  swapped : List Swapped

def Pinned.start : Pinned F := ⟨Pool.start, fun _ => none, fun _ => none, []⟩

/-- the coroutine that the worker puts a callback on -/
def Pool.target (s : Pool F) (i : Nat) : Cor :=
  (s.workers i).cb_coroutine.getD (.callback s.nextCallback)

/-- the coroutine for which the step gives a thread, or none; `dispatch` is the call of `schedule`
in `triggerEvent` -/
def Act.pins (s : Pinned F) : Act F → Option (Cor × Option Nat)
  | .takeCallback i _ => some (s.pool.target i, s.taken i)
  | .schedule _ ⟨.coroutine c, threadId⟩ => some (c, threadId)
  | .dispatch _ k =>
    match s.pool.registered[k]? with
    | some (.coroutine c) => some (c, none)
    | _ => none
  | _ => none

def Pinned.pinAfter (s : Pinned F) (l : Act F) : Cor → Option Nat :=
  match l.pins s with
  | some (c, p) => Function.update s.pin c p
  | none => s.pin

def Pinned.takenAfter (s : Pinned F) (l : Act F) : Nat → Option Nat :=
  match l.taken s.pool with
  | some (i, co) => Function.update s.taken i co.threadId
  | none => s.taken

def Pinned.swaps (s : Pinned F) : Act F → List Swapped
  | .switchIn i c _ => [⟨i, c, s.pin c⟩]
  | _ => []

def Pinned.step (s : Pinned F) (l : Act F) : Pinned F :=
  ⟨l.effect s.pool, s.takenAfter l, s.pinAfter l, s.swapped ++ s.swaps l⟩

/-- the pool of `n` workers -/
def pinned (n : Nat) : Machine (Pinned F) (Act F) := ⟨fun s l => l.guard n s.pool, Pinned.step⟩

instance pinned_decidable [DecidableEq F] (n : Nat) (s : Pinned F) (l : Act F) :
    Decidable ((pinned n).guard s l) :=
  inferInstanceAs (Decidable (l.guard n s.pool))

/-- a coroutine with a pin was swapped in by no other worker -/
def Pinned.Observed (s : Pinned F) : Prop := ∀ x ∈ s.swapped, ∀ t ∈ x.pin, x.worker = t

instance Pinned.decidableObserved (s : Pinned F) : Decidable s.Observed :=
  inferInstanceAs (Decidable (∀ x ∈ s.swapped, ∀ t ∈ x.pin, x.worker = t))

/-! ## the condition -/

/-- the coroutine that the worker has taken and not yet swapped in -/
def Pc.ahead : Pc F → Option Cor
  | .dequeued (some (.coroutine c)) => some c
  | .swapIn c _ => some c
  | .entered c _ => some c
  | .switching c _ => some c
  | _ => none

/-- the worker may take the entry -/
def CoroutineObject.allows (co : CoroutineObject F) (j : Nat) : Prop :=
  co.threadId = none ∨ co.threadId = some j

/-- the worker can come to swap in the coroutine -/
def Pool.mayRun (s : Pool F) (c : Cor) (j : Nat) : Prop :=
  (∃ co ∈ s.coroutines, co.task = .coroutine c ∧ co.allows j) ∨ (s.pc j).ahead = some c

/-- the coroutine that `run` puts back -/
def Act.putsBack : Act F → Option Cor
  | .requeue _ c _ => some c
  | _ => none

/-- what `run` puts back has no pin, or there is no other worker; and no other worker can come to
swap in a coroutine when it is given a thread -/
structure Act.KeepsPins (n : Nat) (s : Pinned F) (l : Act F) : Prop where
  putsBack : ∀ c ∈ l.putsBack, ∀ t ∈ s.pin c, ∀ j < n, j = t
  pins : ∀ p ∈ l.pins s, ∀ t ∈ p.2, ∀ j < n, s.pool.mayRun p.1 j → j = t

instance CoroutineObject.decidableAllows (co : CoroutineObject F) (j : Nat) :
    Decidable (co.allows j) :=
  inferInstanceAs (Decidable (_ ∨ _))

instance Pool.decidableMayRun [DecidableEq F] (s : Pool F) (c : Cor) (j : Nat) :
    Decidable (s.mayRun c j) :=
  inferInstanceAs (Decidable (_ ∨ _))

instance Act.decidableKeepsPins [DecidableEq F] (n : Nat) (s : Pinned F) (l : Act F) :
    Decidable (l.KeepsPins n s) :=
  decidable_of_iff
    ((∀ c ∈ l.putsBack, ∀ t ∈ s.pin c, ∀ j < n, j = t) ∧
      ∀ p ∈ l.pins s, ∀ t ∈ p.2, ∀ j < n, s.pool.mayRun p.1 j → j = t)
    ⟨fun h => ⟨h.1, h.2⟩, fun h => ⟨h.1, h.2⟩⟩

/-- only the thread that was given can come to swap in the coroutine -/
def Followed (n : Nat) (s : Pinned F) : Prop :=
  ∀ c, ∀ t ∈ s.pin c, ∀ j < n, s.pool.mayRun c j → j = t

/-! ## one step of the pool -/

section
variable {n : Nat} {s s' : Pool F} {i j : Nat} {w : Worker F} {c : Cor} {l : Act F}

theorem ahead_of_update (hw : s'.workers = Function.update s.workers i w)
    (h : (s'.pc j).ahead = some c) : (s.pc j).ahead = some c ∨ j = i ∧ w.pc.ahead = some c := by
  rw [Pool.pc, hw] at h
  by_cases hj : j = i
  · rw [hj, Function.update_self] at h
    exact .inr ⟨hj, h⟩
  · rw [Function.update_of_ne hj] at h
    exact .inl h

theorem ahead_of_none (hw : s'.workers = Function.update s.workers i w) (hq : w.pc.ahead = none)
    (h : (s'.pc j).ahead = some c) : (s.pc j).ahead = some c := by
  rcases ahead_of_update hw h with h | ⟨rfl, h⟩
  · exact h
  · rw [hq] at h
    cases h

theorem ahead_of_same {p : Pc F} (hp : s.pc i = p) (hw : s'.workers = Function.update s.workers i w)
    (hq : w.pc.ahead = p.ahead) (h : (s'.pc j).ahead = some c) : (s.pc j).ahead = some c := by
  rcases ahead_of_update hw h with h | ⟨rfl, h⟩
  · exact h
  · rw [hp, ← hq]
    exact h

theorem workers_prepare (s : Pool F) (i : Nat) :
    (s.prepare i).workers = s.workers ∨
      ∃ w, (s.prepare i).workers = Function.update s.workers i w ∧
        w.pc = .swapIn (s.target i) true := by
  unfold Pool.prepare Pool.target
  cases (s.workers i).cb_coroutine with
  | none => exact .inr ⟨_, rfl, rfl⟩
  | some c =>
    dsimp only
    split
    · exact .inr ⟨_, rfl, rfl⟩
    · exact .inl rfl

/-- **What a worker has ahead** it had before, or it has taken it from the queue, or made it for a
callback. -/
theorem ahead_effect (hl : l.guard n s) (h : ((l.effect s).pc j).ahead = some c) :
    (s.pc j).ahead = some c ∨ (∃ co, l.taken s = some (j, co) ∧ co.task = .coroutine c) ∨
      ∃ f, l = .takeCallback j f ∧ c = s.target j := by
  cases l with
  | dequeue i =>
    simp only [Act.effect] at h
    rcases dequeueFrom_find i s.state s.coroutines with
      ⟨hd, hf⟩ | ⟨before, co, after, hcos, hd, hf⟩
    · rw [hd] at h
      exact .inl (ahead_of_none rfl rfl h)
    · rw [hd] at h
      rcases ahead_of_update rfl h with h | ⟨rfl, h⟩
      · exact .inl h
      · refine .inr (.inl ⟨co, ?_, ?_⟩)
        · rw [Act.taken, hf]
          rfl
        · cases htask : co.task with
          | cb f =>
            rw [htask] at h
            cases h
          | coroutine c' =>
            rw [htask] at h
            exact congrArg _ (Option.some.inj h)
  | takeCallback i f =>
    rcases workers_prepare s i with hw | ⟨w, hw, hpc⟩
    · rw [Pool.pc, Act.effect, hw] at h
      exact .inl h
    · rcases ahead_of_update hw h with hahead | ⟨rfl, hahead⟩
      · exact .inl hahead
      · rw [hpc] at hahead
        exact .inr (.inr ⟨f, rfl, (Option.some.inj hahead).symm⟩)
  | testState i c' =>
    have hp := (hl.at_place rfl).2
    unfold Act.effect at h
    dsimp only at h
    split at h
    · exact .inl (ahead_of_none rfl rfl h)
    · exact .inl (ahead_of_same hp rfl rfl h)
  | assertState i c' cb =>
    have hp := (hl.at_place rfl).2
    unfold Act.effect at h
    dsimp only at h
    split at h
    · exact .inl h
    · exact .inl (ahead_of_same hp rfl rfl h)
  | setExec i c' cb => exact .inl (ahead_of_same (hl.at_place rfl).2 rfl rfl h)
  | yieldToReady i c' cb =>
    unfold Act.effect at h
    dsimp only at h
    split at h
    · exact .inl (ahead_of_none rfl rfl h)
    · exact .inl h
  | yieldToHold i c' cb =>
    unfold Act.effect at h
    dsimp only at h
    split at h
    · exact .inl (ahead_of_none rfl rfl h)
    · exact .inl h
  | inspect i c' cb =>
    unfold Act.effect at h
    dsimp only at h
    split at h
    · exact .inl (ahead_of_none rfl rfl h)
    split at h
    · refine .inl (ahead_of_none rfl ?_ h)
      cases cb <;> rfl
    · exact .inl (ahead_of_none rfl rfl h)
  | resetCallback i c' =>
    unfold Act.effect at h
    dsimp only at h
    split at h
    · exact .inl (ahead_of_none rfl rfl h)
    · exact .inl h
  | idleIn i =>
    unfold Act.effect at h
    dsimp only at h
    split at h
    · exact .inl (ahead_of_none rfl rfl h)
    split at h
    · exact .inl h
    · exact .inl (ahead_of_none rfl rfl h)
  | schedulerStopping i events timers =>
    unfold Act.effect at h
    dsimp only at h
    split at h
    · exact .inl (ahead_of_none rfl rfl h)
    · exact .inl (ahead_of_none rfl rfl h)
  | listExpiredCb i expired =>
    refine .inl (ahead_of_none rfl ?_ h)
    dsimp only
    split <;> rfl
  | dispatch i k =>
    unfold Act.effect at h
    dsimp only at h
    split at h
    · exact .inl h
    · exact .inl (ahead_of_none rfl rfl h)
  | schedule caller co => exact .inl h
  | addEvent caller t => exact .inl h
  | addTimer caller t => exact .inl h
  | setAutoStop => exact .inl h
  | setStopping => exact .inl h
  | _ => exact .inl (ahead_of_none rfl rfl h)

/-- **A worker can come to swap in a coroutine** as before, by an entry that the step puts, or by a
callback that it takes. -/
theorem mayRun_effect (hl : l.guard n s) (h : (l.effect s).mayRun c j) :
    s.mayRun c j ∨ (∃ co ∈ l.puts s, co.task = .coroutine c ∧ co.allows j) ∨
      ∃ f, l = .takeCallback j f ∧ c = s.target j := by
  have hperm := coroutines_effect s l
  have hentry : ∀ co, co ∈ (l.taken s).toList.map Prod.snd ++ (l.effect s).coroutines →
      co.task = .coroutine c → co.allows j →
      s.mayRun c j ∨ ∃ co ∈ l.puts s, co.task = .coroutine c ∧ co.allows j := by
    intro co hco htask hallows
    rcases List.mem_append.mp (hperm.mem_iff.mpr hco) with hco | hco
    · exact .inl (.inl ⟨co, hco, htask, hallows⟩)
    · exact .inr ⟨co, hco, htask, hallows⟩
  rcases h with ⟨co, hco, htask, hallows⟩ | hahead
  · rcases hentry co (List.mem_append_right _ hco) htask hallows with h | h
    · exact .inl h
    · exact .inr (.inl h)
  · rcases ahead_effect hl hahead with h | ⟨co, htaken, htask⟩ | h
    · exact .inl (.inr h)
    · have hco : co ∈ (l.taken s).toList.map Prod.snd :=
        List.mem_map.mpr ⟨(j, co), Option.mem_toList.mpr htaken, rfl⟩
      rcases hentry co (List.mem_append_left _ hco) htask (Act.taken_threadId htaken) with h | h
      · exact .inl h
      · exact .inr (.inl h)
    · exact .inr (.inr h)

theorem ahead_stays {p : Pc F} (hp : s.pc i = p) (hnone : p.ahead = none)
    (hw : s'.workers = Function.update s.workers i w) (h : (s.pc j).ahead = some c) :
    (s'.pc j).ahead = some c := by
  have hj : j ≠ i := by
    intro hj
    rw [hj, hp, hnone] at h
    cases h
  rw [Pool.pc, hw, Function.update_of_ne hj]
  exact h

theorem mayRun_of_untaken (htaken : l.taken s = none)
    (hahead : (s.pc j).ahead = some c → ((l.effect s).pc j).ahead = some c) (h : s.mayRun c j) :
    (l.effect s).mayRun c j := by
  rcases h with ⟨co, hco, htask, hallows⟩ | h
  · have hperm := coroutines_effect s l
    rw [htaken] at hperm
    exact .inl ⟨co, hperm.mem_iff.mp (List.mem_append_left _ hco), htask, hallows⟩
  · exact .inr (hahead h)

theorem mayRun_of_pins {s : Pinned F} (hl : l.guard n s.pool) {p : Cor × Option Nat}
    (hp : l.pins s = some p) (h : s.pool.mayRun c j) : (l.effect s.pool).mayRun c j := by
  cases l with
  | takeCallback i f =>
    refine mayRun_of_untaken rfl (fun hahead => ?_) h
    rcases workers_prepare s.pool i with hw | ⟨w, hw, hpc⟩
    · rw [Pool.pc, Act.effect, hw]
      exact hahead
    · exact ahead_stays (hl.at_place rfl).2 rfl hw hahead
  | schedule caller co => exact mayRun_of_untaken rfl id h
  | dispatch i k =>
    refine mayRun_of_untaken rfl (fun hahead => ?_) h
    unfold Act.effect
    dsimp only
    split
    · exact hahead
    · exact ahead_stays (hl.at_place rfl).2 rfl rfl hahead
  | _ => cases hp

end

/-! ## runs -/

section
variable {n : Nat} {s : Pinned F} {l : Act F}

theorem pinAfter_of_pins {c : Cor} {p : Option Nat} (h : l.pins s = some (c, p)) :
    s.pinAfter l c = p := by
  rw [Pinned.pinAfter, h]
  exact Function.update_self _ _ _

/-- a worker has taken only what it may take -/
def Pinned.TakesOwn (s : Pinned F) : Prop := ∀ i, ∀ t ∈ s.taken i, i = t

theorem Pinned.TakesOwn.step (h : s.TakesOwn) : (s.step l).TakesOwn := by
  intro i t ht
  change s.takenAfter l i = some t at ht
  unfold Pinned.takenAfter at ht
  cases htaken : l.taken s.pool with
  | none =>
    rw [htaken] at ht
    exact h i t ht
  | some r =>
    rw [htaken] at ht
    by_cases hi : i = r.1
    · change Function.update s.taken r.1 r.2.threadId i = some t at ht
      rw [hi, Function.update_self] at ht
      rcases Act.taken_threadId htaken with hnone | hsome
      · rw [hnone] at ht
        cases ht
      · exact hi.trans (Option.some.inj (hsome.symm.trans ht))
    · exact h i t ((Function.update_of_ne hi r.2.threadId s.taken).symm.trans ht)

theorem pinAfter_cases (l : Act F) (c : Cor) :
    l.pins s = some (c, s.pinAfter l c) ∨
      (∀ p, l.pins s ≠ some (c, p)) ∧ s.pinAfter l c = s.pin c := by
  cases hp : l.pins s with
  | none =>
    refine .inr ⟨fun p h => (by cases h), ?_⟩
    rw [Pinned.pinAfter, hp]
  | some q =>
    obtain ⟨c', p⟩ := q
    by_cases hc : c = c'
    · refine .inl ?_
      rw [← hc] at hp ⊢
      rw [pinAfter_of_pins hp]
    · refine .inr ⟨fun p' h => hc (congrArg Prod.fst (Option.some.inj h)).symm, ?_⟩
      rw [Pinned.pinAfter, hp]
      exact Function.update_of_ne hc _ _

/-- what a step puts for a coroutine: it has the thread that the step gives for it, or `run` puts it
back -/
theorem puts_cases {co : CoroutineObject F} {c : Cor} (hco : co ∈ l.puts s.pool)
    (htask : co.task = .coroutine c) :
    l.pins s = some (c, co.threadId) ∨ l.putsBack = some c ∧ ∀ p, l.pins s ≠ some p := by
  cases l with
  | requeue i c' cb =>
    rw [List.mem_singleton.mp hco] at htask
    cases htask
    exact .inr ⟨rfl, fun p h => (by cases h)⟩
  | schedule caller co' =>
    rw [List.mem_singleton.mp hco] at htask ⊢
    obtain ⟨task, threadId⟩ := co'
    cases htask
    exact .inl rfl
  | scheduleExpired i cbs =>
    obtain ⟨f, hf, rfl⟩ := List.mem_map.mp hco
    cases htask
  | dispatch i k =>
    refine .inl ?_
    obtain ⟨t, ht, rfl⟩ := List.mem_map.mp hco
    cases htask
    simp only [Act.pins, Option.mem_toList.mp ht]
  | _ => cases hco

/-- **One step** from where the threads are followed: they still are exactly when the step keeps the
pins. -/
theorem followed_step (htaken : s.TakesOwn) (hl : l.guard n s.pool) (h : Followed n s) :
    Followed n (s.step l) ↔ l.KeepsPins n s := by
  constructor
  · intro h'
    refine ⟨fun c hc t ht j hj => ?_, fun p hp t ht j hj hrun => ?_⟩
    · cases l with
      | requeue i c' cb =>
        obtain rfl : c' = c := Option.some.inj hc
        refine h' c' t ht j hj (.inl ⟨⟨.coroutine c', none⟩, ?_, rfl, .inl rfl⟩)
        exact List.mem_append_right _ List.mem_cons_self
      | _ => cases hc
    · obtain ⟨c, p⟩ := p
      exact h' c t ((pinAfter_of_pins hp).trans ht) j hj (mayRun_of_pins hl hp hrun)
  · intro hkeep c t ht j hj hrun
    change s.pinAfter l c = some t at ht
    rcases pinAfter_cases l c with hpins | ⟨hpins, hsame⟩
    · rw [ht] at hpins
      rcases mayRun_effect hl hrun with hrun | ⟨co, hco, htask, hallows⟩ | ⟨f, rfl, hc⟩
      · exact hkeep.pins _ hpins t rfl j hj hrun
      · rcases puts_cases hco htask with hput | ⟨_, hno⟩
        · rw [hpins] at hput
          have hid : some t = co.threadId := congrArg Prod.snd (Option.some.inj hput)
          rcases hallows with hnone | hsome
          · exact absurd (hid.trans hnone) (Option.some_ne_none t)
          · exact (Option.some.inj (hid.trans hsome)).symm
        · exact absurd hpins (hno _)
      · exact htaken j t (congrArg Prod.snd (Option.some.inj hpins))
    · rw [hsame] at ht
      rcases mayRun_effect hl hrun with hrun | ⟨co, hco, htask, hallows⟩ | ⟨f, rfl, hc⟩
      · exact h c t ht j hj hrun
      · rcases puts_cases hco htask with hput | ⟨hback, _⟩
        · exact absurd hput (hpins _)
        · exact hkeep.putsBack c hback t ht j hj
      · rw [hc] at hpins
        exact absurd rfl (hpins (s.taken j))

/-- what holds behind every run that keeps the pins -/
structure PinsOk (n : Nat) (s : Pinned F) : Prop where
  taken : s.TakesOwn
  followed : Followed n s
  observed : s.Observed

theorem PinsOk.start (n : Nat) : PinsOk n (Pinned.start : Pinned F) where
  taken i t ht := by cases ht
  followed c t ht := by cases ht
  observed x hx := by cases hx

theorem PinsOk.step (h : PinsOk n s) (hl : l.guard n s.pool) (hkeep : l.KeepsPins n s) :
    PinsOk n (s.step l) := by
  refine ⟨h.taken.step, (followed_step h.taken hl h.followed).mpr hkeep, fun x hx t ht => ?_⟩
  rcases List.mem_append.mp hx with hx | hx
  · exact h.observed x hx t ht
  · cases l with
    | switchIn i c cb =>
      rw [List.mem_singleton.mp hx] at ht ⊢
      obtain ⟨hi, hp⟩ := hl.at_place rfl
      refine h.followed c t ht i hi (.inr ?_)
      rw [hp]
      rfl
    | _ => cases hx

end

/-- **A run keeps the pins in every step exactly when, in every state that it reaches, only the
thread that was given can come to swap in a coroutine.** -/
theorem followed_run_iff (n : Nat) (ls : List (Act F))
    (h : (pinned n).Allowed (Pinned.start : Pinned F) ls) :
    (∀ ms, ms <+: ls → Followed n ((pinned n).after (Pinned.start : Pinned F) ms)) ↔
      ((pinned n).meeting fun s l => l.KeepsPins n s).Allowed Pinned.start ls :=
  Machine.Allowed.always_iff (I := Pinned.TakesOwn) (fun s l hs hl => hs.step)
    (fun s l hs hl hf => followed_step hs hl hf) h (PinsOk.start n).taken (PinsOk.start n).followed

/-- **A coroutine or a callback with a thread is swapped in by that thread only**, in every run that
keeps the pins. -/
theorem pins_run (n : Nat) (ls : List (Act F))
    (h : ((pinned n).meeting fun s l => l.KeepsPins n s).Allowed (Pinned.start : Pinned F) ls) :
    ((pinned n).after (Pinned.start : Pinned F) ls).Observed := by
  have hstep (s : Pinned F) (l : Act F) (hs : PinsOk n s)
      (hl : ((pinned n).meeting fun s l => l.KeepsPins n s).guard s l) : PinsOk n (s.step l) :=
    hs.step hl.1 hl.2
  have hrun := h.inv hstep (.start n)
  rw [Machine.meeting_after] at hrun
  exact hrun.observed

/-- the steps of a worker from the queue into a coroutine -/
def Act.toRunning (i : Nat) (c : Cor) : List (Act F) :=
  [.dequeue i, .testState i c, .assertState i c false, .setExec i c false, .switchIn i c false]

/-- a coroutine and a callback, each with a thread, and the coroutine is scheduled once more -/
theorem pins_run_held :
    ((pinned 2).after (Pinned.start : Pinned Nat)
      ([.schedule none ⟨.coroutine (.user 0), some 1⟩, .schedule none ⟨.cb 5, some 0⟩]
        ++ Act.toRunning 1 (.user 0)
        ++ [.dequeue 0, .takeCallback 0 5, .assertState 0 (.callback 0) true,
          .setExec 0 (.callback 0) true, .switchIn 0 (.callback 0) true,
          .schedule (some 0) ⟨.coroutine (.user 0), some 1⟩, .yieldToHold 1 (.user 0) false,
          .switchOut 1 (.user 0) false])).Observed :=
  pins_run 2 _ (by decide)

/-- **The thread is lost** when `run` puts the coroutine back: the other worker swaps it in. -/
theorem pin_lost : ¬ ∀ (n : Nat) (ls : List (Act Nat)), (pinned n).Allowed Pinned.start ls →
    ((pinned n).after Pinned.start ls).Observed := by
  intro h
  have hrun := h 2
    (.schedule none ⟨.coroutine (.user 0), some 0⟩ :: Act.toRunning 0 (.user 0)
      ++ [.yieldToReady 0 (.user 0) false, .switchOut 0 (.user 0) false, .count 0 (.user 0) false,
        .inspect 0 (.user 0) false, .requeue 0 (.user 0) false]
      ++ Act.toRunning 1 (.user 0)) (by decide)
  revert hrun
  decide

end Scheduler
end KitServer
