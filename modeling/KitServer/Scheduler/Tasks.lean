import KitServer.Scheduler.Shutdown

/-!
# The tasks of the queue

The pool beside the forms of `schedule`, and beside what was put into the queue and what was taken
from it.

* `scheduleNoLock`, `scheduleRange`   the locked sections of `schedule`;
* `dequeueFrom_find`                  what the loop of `run` takes is the first entry it does not skip;
* `tasks_run`                         every task is taken at most once, by a thread that may take it,
                                      and the active workers are counted.
-/

set_option linter.unusedVariables false

namespace KitServer
namespace Scheduler
open IOManager (Task)
variable {F : Type}

/-- `vars` are the variables of callers that `schedule` gets a pointer to; an empty pointer or an
empty function is `none` -/
structure Tasks (F : Type) where
  pool : Pool F
  vars : Nat → Option (Task Cor F)
  put : List (CoroutineObject F)
  taken : List (Nat × CoroutineObject F)

def Tasks.start : Tasks F := ⟨Pool.start, fun _ => none, [], []⟩

/-- whether the queue was empty, and the queue with the task, unless that is empty -/
def scheduleNoLock (cc : Option (Task Cor F)) (threadId : Option Nat) (s : Tasks F) :
    Bool × Tasks F :=
  (s.pool.coroutines.isEmpty,
    match cc with
    | some t => { s with pool := s.pool.push [⟨t, threadId⟩], put := s.put ++ [⟨t, threadId⟩] }
    | none => s)

/-- the form with a pointer, which swaps the variable with an empty one -/
def scheduleSwap (v : Nat) (threadId : Option Nat) (s : Tasks F) : Bool × Tasks F :=
  scheduleNoLock (s.vars v) threadId { s with vars := Function.update s.vars v none }

def scheduleRange : List Nat → Tasks F → Bool × Tasks F
  | [], s => (false, s)
  | v :: vs, s =>
    let r := scheduleSwap v none s
    let r' := scheduleRange vs r.2
    (r.1 || r'.1, r'.2)

/-- a step of the pool, or a call of `schedule`; `assign` is a caller that sets a variable -/
inductive TaskAct (F : Type) where
  | act (l : Act F)
  | schedule (caller : Option Nat) (cc : Option (Task Cor F)) (threadId : Option Nat)
  | scheduleSwap (caller : Option Nat) (v : Nat) (threadId : Option Nat)
  | scheduleRange (caller : Option Nat) (vs : List Nat)
  | assign (v : Nat) (cc : Option (Task Cor F))

/-- what a step of the pool puts into the queue -/
def Act.puts (s : Pool F) : Act F → List (CoroutineObject F)
  | .requeue _ c _ => [⟨.coroutine c, none⟩]
  | .scheduleExpired _ cbs => cbs.map fun f => ⟨.cb f, none⟩
  | .dispatch _ k => s.registered[k]?.toList.map fun t => ⟨t, none⟩
  | .schedule _ co => [co]
  | _ => []

/-- the worker that takes an entry from the queue, and the entry -/
def Act.taken (s : Pool F) : Act F → Option (Nat × CoroutineObject F)
  | .dequeue i => (s.coroutines.find? fun co => !co.skipped i s.state).map fun co => (i, co)
  | _ => none

def Act.isSchedule : Act F → Bool
  | .schedule _ _ => true
  | _ => false

/-- the coroutine of a task was made -/
def Pool.knownOpt (s : Pool F) : Option (Task Cor F) → Bool
  | some t => s.known t
  | none => true

def TaskAct.guard (n : Nat) (s : Tasks F) : TaskAct F → Prop
  | .act l => l.guard n s.pool ∧ l.isSchedule = false
  | .schedule caller cc _ => s.pool.calls n caller = true ∧ s.pool.knownOpt cc = true
  | .scheduleSwap caller v _ => s.pool.calls n caller = true ∧ s.pool.knownOpt (s.vars v) = true
  | .scheduleRange caller vs =>
    s.pool.calls n caller = true ∧ ∀ v ∈ vs, s.pool.knownOpt (s.vars v) = true
  | .assign _ _ => True

instance TaskAct.decidableGuard [DecidableEq F] (n : Nat) (s : Tasks F) :
    ∀ l : TaskAct F, Decidable (l.guard n s)
  | .act l => inferInstanceAs (Decidable (l.guard n s.pool ∧ l.isSchedule = false))
  | .schedule _ _ _ => inferInstanceAs (Decidable (_ ∧ _))
  | .scheduleSwap _ _ _ => inferInstanceAs (Decidable (_ ∧ _))
  | .scheduleRange _ _ => inferInstanceAs (Decidable (_ ∧ _))
  | .assign _ _ => inferInstanceAs (Decidable True)

def TaskAct.effect (s : Tasks F) : TaskAct F → Tasks F
  | .act l =>
    { s with
      pool := l.effect s.pool
      put := s.put ++ l.puts s.pool
      taken := s.taken ++ (l.taken s.pool).toList }
  | .schedule _ cc threadId => (Scheduler.scheduleNoLock cc threadId s).2
  | .scheduleSwap _ v threadId => (Scheduler.scheduleSwap v threadId s).2
  | .scheduleRange _ vs => (Scheduler.scheduleRange vs s).2
  | .assign v cc => { s with vars := Function.update s.vars v cc }

/-- the pool of `n` workers, and the threads that call `schedule` -/
def tasks (n : Nat) : Machine (Tasks F) (TaskAct F) := ⟨fun s l => l.guard n s, fun s l => l.effect s⟩

instance tasks_decidable [DecidableEq F] (n : Nat) (s : Tasks F) (l : TaskAct F) :
    Decidable ((tasks n).guard s l) :=
  inferInstanceAs (Decidable (l.guard n s))

/-! ## one step -/

theorem dequeueFrom_find (i : Nat) (state : Cor → State) (cos : List (CoroutineObject F)) :
    (dequeueFrom i state cos = none ∧ cos.find? (fun co => !co.skipped i state) = none) ∨
    ∃ before co after, cos = before ++ co :: after ∧
      dequeueFrom i state cos = some (co.task, before ++ after) ∧
      cos.find? (fun co => !co.skipped i state) = some co := by
  induction cos with
  | nil => exact .inl ⟨rfl, rfl⟩
  | cons co cos ih =>
    by_cases hskip : co.skipped i state = true
    · have hfind : (co :: cos).find? (fun co => !co.skipped i state)
          = cos.find? fun co => !co.skipped i state := by
        rw [List.find?_cons_of_neg]
        rw [hskip]
        exact Bool.false_ne_true
      rw [dequeueFrom, if_pos hskip, hfind]
      rcases ih with ⟨hd, hf⟩ | ⟨before, co', after, hcos, hd, hf⟩
      · rw [hd]
        exact .inl ⟨rfl, hf⟩
      · rw [hd]
        refine .inr ⟨co :: before, co', after, ?_, rfl, hf⟩
        rw [hcos]
        rfl
    · have hkeep : (!co.skipped i state) = true := by
        rw [Bool.eq_false_iff.mpr hskip]
        rfl
      refine .inr ⟨[], co, cos, rfl, ?_, List.find?_cons_of_pos hkeep⟩
      rw [dequeueFrom, if_neg hskip]
      rfl

theorem threadId_of_not_skipped {i : Nat} (state : Cor → State) {co : CoroutineObject F}
    (h : co.skipped i state = false) : co.threadId = none ∨ co.threadId = some i := by
  obtain ⟨t, threadId⟩ := co
  cases threadId with
  | none => exact .inl rfl
  | some j =>
    refine .inr (congrArg some ?_)
    by_contra hj
    cases t <;> simp [CoroutineObject.skipped, hj] at h

theorem Act.taken_threadId {s : Pool F} {l : Act F} {r : Nat × CoroutineObject F}
    (h : r ∈ l.taken s) : r.2.threadId = none ∨ r.2.threadId = some r.1 := by
  cases l with
  | dequeue i =>
    obtain ⟨co, hfind, rfl⟩ := Option.map_eq_some_iff.mp h
    refine threadId_of_not_skipped s.state ?_
    have hkeep := List.find?_some hfind
    simpa using hkeep
  | _ => cases h

theorem perm_of_same {s s' : Pool F} (h : s'.coroutines = s.coroutines) :
    (s.coroutines ++ []).Perm (([] : List (CoroutineObject F)) ++ s'.coroutines) := by
  rw [h, List.append_nil]
  exact .refl _

theorem perm_of_push {s s' : Pool F} {cos : List (CoroutineObject F)}
    (h : s'.coroutines = s.coroutines ++ cos) :
    (s.coroutines ++ cos).Perm (([] : List (CoroutineObject F)) ++ s'.coroutines) := by
  rw [h]
  exact .refl _

/-- **A step puts its entries at the end of the queue, takes at most one out, and drops none.** -/
theorem coroutines_effect (s : Pool F) (l : Act F) :
    (s.coroutines ++ l.puts s).Perm ((l.taken s).toList.map Prod.snd ++ (l.effect s).coroutines) := by
  cases l with
  | dequeue i =>
    simp only [Act.puts, Act.taken, Act.effect]
    rcases dequeueFrom_find i s.state s.coroutines with
      ⟨hd, hf⟩ | ⟨before, co, after, hcos, hd, hf⟩
    · rw [hd, hf]
      exact perm_of_same rfl
    · rw [hd, hf, hcos, List.append_nil]
      exact List.perm_middle
  | requeue i c cb => exact perm_of_push rfl
  | scheduleExpired i cbs => exact perm_of_push rfl
  | schedule caller co => exact perm_of_push rfl
  | dispatch i k =>
    simp only [Act.puts, Act.taken, Act.effect]
    cases hk : s.registered[k]? with
    | none => exact perm_of_same rfl
    | some t => exact perm_of_push rfl
  | testState i c =>
    refine perm_of_same ?_
    unfold Act.effect
    dsimp only
    split <;> rfl
  | takeCallback i f =>
    refine perm_of_same ?_
    show (s.prepare i).coroutines = _
    unfold Pool.prepare
    split
    · split <;> rfl
    · rfl
  | assertState i c cb =>
    refine perm_of_same ?_
    unfold Act.effect
    dsimp only
    split <;> rfl
  | yieldToReady i c cb =>
    refine perm_of_same ?_
    unfold Act.effect
    dsimp only
    split <;> rfl
  | yieldToHold i c cb =>
    refine perm_of_same ?_
    unfold Act.effect
    dsimp only
    split <;> rfl
  | inspect i c cb =>
    refine perm_of_same ?_
    unfold Act.effect
    dsimp only
    split
    · rfl
    split <;> rfl
  | resetCallback i c =>
    refine perm_of_same ?_
    unfold Act.effect
    dsimp only
    split <;> rfl
  | idleIn i =>
    refine perm_of_same ?_
    unfold Act.effect
    dsimp only
    split
    · rfl
    split <;> rfl
  | schedulerStopping i events timers =>
    refine perm_of_same ?_
    unfold Act.effect
    dsimp only
    split <;> rfl
  | _ => exact perm_of_same rfl

/-! ## runs -/

/-- what was put is in the queue or was taken, by a thread that may take it, and the counters count -/
structure Conserved (n : Nat) (s : Tasks F) : Prop where
  put : s.put.Perm (s.taken.map Prod.snd ++ s.pool.coroutines)
  taken : ∀ r ∈ s.taken, r.2.threadId = none ∨ r.2.threadId = some r.1
  counted : Counted n s.pool

section
variable {n : Nat} {s : Tasks F}

theorem Conserved.start (n : Nat) : Conserved n (Tasks.start : Tasks F) :=
  ⟨.refl _, fun r hr => (by cases hr), .start n⟩

theorem Conserved.act (h : Conserved n s) {l : Act F} (hl : l.guard n s.pool) :
    Conserved n ((TaskAct.act l).effect s) := by
  refine ⟨?_, ?_, h.counted.effect l hl⟩
  · have hput : (s.put ++ l.puts s.pool).Perm
        (s.taken.map Prod.snd ++ (s.pool.coroutines ++ l.puts s.pool)) := by
      rw [← List.append_assoc]
      exact h.put.append_right _
    refine hput.trans ?_
    show List.Perm _ ((s.taken ++ (l.taken s.pool).toList).map Prod.snd
      ++ (l.effect s.pool).coroutines)
    rw [List.map_append, List.append_assoc]
    exact (coroutines_effect s.pool l).append_left _
  · intro r hr
    rcases List.mem_append.mp hr with hr | hr
    · exact h.taken r hr
    · exact Act.taken_threadId (Option.mem_toList.mp hr)

theorem Conserved.vars (h : Conserved n s) (vars : Nat → Option (Task Cor F)) :
    Conserved n { s with vars := vars } := ⟨h.put, h.taken, h.counted⟩

theorem Conserved.scheduleNoLock (h : Conserved n s) (cc : Option (Task Cor F))
    (threadId : Option Nat) : Conserved n (Scheduler.scheduleNoLock cc threadId s).2 := by
  cases cc with
  | none => exact h
  | some t =>
    refine ⟨?_, h.taken, h.counted.same rfl ⟨rfl, rfl, rfl, rfl, rfl, rfl⟩⟩
    show List.Perm _ (s.taken.map Prod.snd ++ (s.pool.coroutines ++ [⟨t, threadId⟩]))
    rw [← List.append_assoc]
    exact h.put.append_right _

theorem Conserved.scheduleRange (h : Conserved n s) (vs : List Nat) :
    Conserved n (Scheduler.scheduleRange vs s).2 := by
  induction vs generalizing s with
  | nil => exact h
  | cons v vs ih => exact ih ((h.vars _).scheduleNoLock _ _)

theorem Conserved.effect (h : Conserved n s) {l : TaskAct F} (hl : l.guard n s) :
    Conserved n (l.effect s) := by
  cases l with
  | act l => exact h.act hl.1
  | schedule caller cc threadId => exact h.scheduleNoLock cc threadId
  | scheduleSwap caller v threadId => exact (h.vars _).scheduleNoLock _ _
  | scheduleRange caller vs => exact h.scheduleRange vs
  | assign v cc => exact h.vars _

end

/-- **Every task that was put into the queue is still there or was taken once, by a thread that may
take it, and `m_activeThreadCount` is the number of the active workers.** -/
theorem tasks_run (n : Nat) (ls : List (TaskAct F)) (h : (tasks n).Allowed (Tasks.start : Tasks F) ls) :
    let s := (tasks n).after (Tasks.start : Tasks F) ls
    s.put.Perm (s.taken.map Prod.snd ++ s.pool.coroutines) ∧
      (∀ r ∈ s.taken, r.2.threadId = none ∨ r.2.threadId = some r.1) ∧
      s.pool.activeThreadCount = Nat.count (fun i => (s.pool.pc i).active = true) n ∧
      0 ≤ s.pool.activeThreadCount ∧
      ((∀ i < n, (s.pool.pc i).active = false) → s.pool.activeThreadCount = 0) := by
  intro s
  have hs : Conserved n s := h.inv (fun s l hs hl => hs.effect hl) (.start n)
  have hcount := hs.counted.active
  refine ⟨hs.put, hs.taken, hcount, by omega, fun hquiet => ?_⟩
  rw [hcount, Nat.count_iff_forall_not.mpr fun i hi => Bool.eq_false_iff.mp (hquiet i hi)]
  rfl

/-- a range with an empty task, and a pinned task that the other worker skips -/
theorem tasks_run_range :
    let s := (tasks 2).after (Tasks.start : Tasks Nat)
      [.schedule none (some (.cb 5)) (some 1), .assign 0 (some (.coroutine (.user 0))),
        .scheduleRange none [0, 0, 1], .act (.dequeue 0), .act (.testState 0 (.user 0)),
        .act (.dequeue 1), .act (.takeCallback 1 5)]
    s.put.Perm (s.taken.map Prod.snd ++ s.pool.coroutines) ∧
      (∀ r ∈ s.taken, r.2.threadId = none ∨ r.2.threadId = some r.1) ∧
      s.pool.activeThreadCount = Nat.count (fun i => (s.pool.pc i).active = true) 2 ∧
      0 ≤ s.pool.activeThreadCount ∧
      ((∀ i < 2, (s.pool.pc i).active = false) → s.pool.activeThreadCount = 0) :=
  tasks_run 2 _ (by decide)

end Scheduler
end KitServer
