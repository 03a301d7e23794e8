import KitServer.Lib.Machine
import KitServer.Scheduler.Pool

/-!
# `IOManager::tickle`

The workers of one `IOManager`, the threads that call `schedule`, `m_idleThreadCount` and the pipe.
Every label is one section under the lock of the queue, one access to the counter or to the pipe, one
assignment to a state, or the begin or the end of `epoll_wait`.

* `Wakeups`, `wakeups`   the machine;
* `Lost`                 a task waits, and every worker that may take it sleeps;
* `Heard`                the three kinds of steps that may leave a task to workers that fall asleep;
* `woken_run`            no wake-up is lost when these steps are heard;
* `wakeup_lost`          a task that is scheduled between the look at the queue and the counter.

A worker reads the pipe as often as it likes, and `epoll_wait` may return at any time.
-/

set_option linter.unusedVariables false

namespace KitServer
namespace Tickle
open Scheduler (Cor State CoroutineObject dequeueFrom)
open IOManager (Task)
variable {F : Type}

/-- where a worker stands; `task` is what it has taken -/
inductive Pc (F : Type) where
  | looping
  -- behind the look at the queue, in `tickle`: in front of the counter, and of the pipe
  | tickling (task : Option (Task Cor F))
  | writing (task : Option (Task Cor F))
  | taken (task : Task Cor F)
  | running (c : Cor)
  -- behind `swapIn`, or with a coroutine that has ended
  | returning (c : Option Cor)
  -- without a task, in front of `++m_idleThreadCount`
  | window
  -- in `idle`: in front of `epoll_wait`, in it, and behind it
  | idling
  | blocked
  | woken
  | finished
deriving DecidableEq

/-- the call of `schedule` that a worker is in, behind the locked section -/
inductive Call where
  | none
  | checking
  | writing
deriving DecidableEq

/-- `checks` and `writes` are the calls by other threads that are in `tickle` -/
structure Wakeups (F : Type) where
  pc : Nat → Pc F
  call : Nat → Call
  coroutines : List (CoroutineObject F)
  state : Cor → State
  idleThreadCount : Nat
  bytes : Nat
  checks : Nat
  writes : Nat

/-- behind `start()` -/
def Wakeups.start : Wakeups F :=
  ⟨fun _ => .looping, fun _ => .none, [], fun _ => .INIT, 0, 0, 0, 0⟩

/-- the worker `i` may take the entry -/
def mayRun (i : Nat) (co : CoroutineObject F) : Bool :=
  match co.threadId with
  | none => true
  | some j => decide (j = i)

/-- the entry is a coroutine in the state EXEC -/
def executing (state : Cor → State) (co : CoroutineObject F) : Bool :=
  match co.task with
  | .coroutine c => decide (state c = .EXEC)
  | .cb _ => false

/-- `is_tickle` behind the loop of `run` over the queue -/
def isTickle (i : Nat) (state : Cor → State) : List (CoroutineObject F) → Bool
  | [] => false
  | co :: rest => if mayRun i co && executing state co then isTickle i state rest else true

namespace Wakeups

def goto (i : Nat) (q : Pc F) (s : Wakeups F) : Wakeups F :=
  { s with pc := Function.update s.pc i q }

/-- a caller that is in `tickle` next, or through with its call -/
def setCall (caller : Option Nat) (old new : Call) (s : Wakeups F) : Wakeups F :=
  match caller with
  | some i => { s with call := Function.update s.call i new }
  | none =>
    { s with
      checks := s.checks - (if old = .checking then 1 else 0)
        + (if new = .checking then 1 else 0)
      writes := s.writes - (if old = .writing then 1 else 0) + (if new = .writing then 1 else 0) }

end Wakeups

/-- a step of the worker `i`; `caller` is the worker that makes the call, if it is one -/
inductive Act (F : Type) where
  | scan (i : Nat)
  | check (i : Nat) (task : Option (Task Cor F))
  | write (i : Nat) (task : Option (Task Cor F))
  | swapIn (i : Nat) (task : Task Cor F) (c : Cor)
  | discard (i : Nat) (task : Task Cor F)
  -- `st` is the state in which the body leaves; `YieldToHold` leaves it alone
  | leave (i : Nat) (c : Cor) (st : Option State)
  | setHold (i : Nat) (c : Cor)
  | loop (i : Nat) (c : Option Cor)
  | increment (i : Nat)
  | finish (i : Nat)
  | epollWait (i : Nat)
  | epollReturn (i : Nat)
  | read (i : Nat)
  -- `idle` yields, or `stopping` is true; `--m_idleThreadCount`
  | decrement (i : Nat)
  | stop (i : Nat)
  | schedule (caller : Option Nat) (cos : List (CoroutineObject F))
  | callCheck (caller : Option Nat)
  | callWrite (caller : Option Nat)
  -- another thread calls `tickle`
  | tickle
  -- another scheduler runs the coroutine
  | setState (c : Cor) (st : State)

namespace Act

def place : Act F → Option (Nat × Pc F)
  | .scan i => some (i, .looping)
  | .check i task => some (i, .tickling task)
  | .write i task => some (i, .writing task)
  | .swapIn i task _ => some (i, .taken task)
  | .discard i task => some (i, .taken task)
  | .leave i c _ => some (i, .running c)
  | .setHold i c => some (i, .returning (some c))
  | .loop i c => some (i, .returning c)
  | .increment i => some (i, .window)
  | .finish i => some (i, .window)
  | .epollWait i => some (i, .idling)
  | .epollReturn i => some (i, .blocked)
  | .read i => some (i, .woken)
  | .decrement i => some (i, .woken)
  | .stop i => some (i, .idling)
  | _ => none

/-- the place of a worker from which `schedule` is called -/
def calls : Pc F → Bool
  | .running _ => true
  | .returning _ => true
  | .woken => true
  | _ => false

/-- the state of the call of the caller -/
def inCall (n : Nat) (s : Wakeups F) (c : Call) : Option Nat → Bool
  | some i => decide (i < n ∧ s.call i = c)
  | none => match c with
    | .none => true
    | .checking => decide (0 < s.checks)
    | .writing => decide (0 < s.writes)

def premise (n : Nat) (s : Wakeups F) : Act F → Bool
  | .swapIn _ task c => decide (s.state c ≠ .EXEC) && match task with
    | .coroutine c' => decide (c' = c)
    | .cb _ => true
  | .leave _ _ st => decide (st ≠ some .EXEC)
  | .schedule caller _ => inCall n s .none caller && match caller with
    | some i => calls (s.pc i)
    | none => true
  | .callCheck caller => inCall n s .checking caller
  | .callWrite caller => inCall n s .writing caller
  | _ => true

def guard (n : Nat) (s : Wakeups F) (l : Act F) : Prop :=
  (∀ p ∈ l.place, p.1 < n ∧ s.pc p.1 = p.2 ∧ s.call p.1 = .none) ∧ l.premise n s = true

instance [DecidableEq F] (n : Nat) (s : Wakeups F) (l : Act F) : Decidable (l.guard n s) :=
  inferInstanceAs (Decidable (_ ∧ _))

/-- behind `tickle` in `run` -/
def ticklePc : Option (Task Cor F) → Pc F
  | some task => .taken task
  | none => .window

def effect (s : Wakeups F) : Act F → Wakeups F
  | .scan i =>
    let r := dequeueFrom i s.state s.coroutines
    let task := r.map Prod.fst
    { s.goto i (if isTickle i s.state s.coroutines then .tickling task else ticklePc task) with
      coroutines := (r.map Prod.snd).getD s.coroutines }
  | .check i task => s.goto i (if 0 < s.idleThreadCount then .writing task else ticklePc task)
  | .write i task => { s.goto i (ticklePc task) with bytes := s.bytes + 1 }
  | .swapIn i _ c => { s.goto i (.running c) with state := Function.update s.state c .EXEC }
  | .discard i _ => s.goto i (.returning none)
  | .leave i c st =>
    { s.goto i (.returning (some c)) with state := Function.update s.state c (st.getD (s.state c)) }
  | .setHold i c => { s.goto i (.returning none) with state := Function.update s.state c .HOLD }
  | .loop i _ => s.goto i .looping
  | .increment i => { s.goto i .idling with idleThreadCount := s.idleThreadCount + 1 }
  | .finish i => s.goto i .finished
  | .epollWait i => s.goto i .blocked
  | .epollReturn i => s.goto i .woken
  | .read i => { s with bytes := s.bytes - 256 }
  | .decrement i => { s.goto i .looping with idleThreadCount := s.idleThreadCount - 1 }
  | .stop i => { s.goto i .looping with idleThreadCount := s.idleThreadCount - 1 }
  | .schedule caller cos =>
    let s' := { s with coroutines := s.coroutines ++ cos }
    if s.coroutines.isEmpty then s'.setCall caller .none .checking else s'
  | .callCheck caller =>
    s.setCall caller .checking (if 0 < s.idleThreadCount then .writing else .none)
  | .callWrite caller => { s.setCall caller .writing .none with bytes := s.bytes + 1 }
  | .tickle => { s with checks := s.checks + 1 }
  | .setState c st => { s with state := Function.update s.state c st }

end Act

/-- `n` workers, and other threads -/
def wakeups (n : Nat) : Machine (Wakeups F) (Act F) :=
  ⟨fun s l => l.guard n s, fun s l => l.effect s⟩

instance wakeups_decidable [DecidableEq F] (n : Nat) (s : Wakeups F) (l : Act F) :
    Decidable ((wakeups n).guard s l) :=
  inferInstanceAs (Decidable (l.guard n s))

/-! ## who wakes up whom -/

/-- the worker is on its way to its next look at the queue, or has looked and not yet tickled -/
def Pc.looks : Pc F → Bool
  | .looping => true
  | .tickling _ => true
  | .writing _ => true
  | .returning _ => true
  | .woken => true
  | _ => false

/-- the worker has looked at the queue in vain, and will not look again before it sleeps -/
def Pc.asleep : Pc F → Bool
  | .window => true
  | .idling => true
  | .blocked => true
  | .finished => true
  | _ => false

/-- a wake-up is under way: a byte in the pipe, a call that is in `tickle`, or a worker that looks -/
def Covered (n : Nat) (s : Wakeups F) : Prop :=
  0 < s.bytes ∨ 0 < s.checks ∨ 0 < s.writes ∨ ∃ i < n, (s.pc i).looks = true ∨ s.call i ≠ .none

instance (n : Nat) (s : Wakeups F) : Decidable (Covered n s) :=
  inferInstanceAs (Decidable (_ ∨ _ ∨ _ ∨ ∃ i, i < n ∧ _))

/-- a worker may run the task, which does not execute, but all workers that may are among `asleep` -/
def Stranded (n : Nat) (s : Wakeups F) (asleep : Nat → Bool) (co : CoroutineObject F) : Prop :=
  executing s.state co = false ∧ (∃ i < n, mayRun i co = true ∧ s.pc i ≠ .finished) ∧
    ∀ i < n, mayRun i co = true → asleep i = true

instance [DecidableEq F] (n : Nat) (s : Wakeups F) (asleep : Nat → Bool)
    (co : CoroutineObject F) : Decidable (Stranded n s asleep co) :=
  inferInstanceAs (Decidable (_ ∧ (∃ i, i < n ∧ _) ∧ _))

/-- no call of `schedule` is in its middle and no worker is about to tickle, no byte is unread, a
task is queued that does not execute, and every worker that may take it is blocked in `epoll_wait` -/
def Lost (n : Nat) (s : Wakeups F) : Prop :=
  ¬ Covered n s ∧ ∃ co ∈ s.coroutines, executing s.state co = false ∧
    (∃ i < n, mayRun i co = true ∧ s.pc i ≠ .finished) ∧
    ∀ i < n, mayRun i co = true → s.pc i ≠ .finished → s.pc i = .blocked

instance [DecidableEq F] (n : Nat) (s : Wakeups F) : Decidable (Lost n s) :=
  inferInstanceAs (Decidable (¬ _ ∧ ∃ co ∈ s.coroutines, _ ∧ (∃ i, i < n ∧ _) ∧ _))

def Wakeups.asleep (s : Wakeups F) (j : Nat) : Bool := (s.pc j).asleep

/-- The steps that may leave a task to workers that fall asleep: a push onto a queue that is not
empty, a `tickle` that finds no idle worker, and a coroutine that another scheduler lets go.  They are
heard if another wake-up is under way, or no such task is left to workers that have looked at the
queue in vain. -/
def Heard (n : Nat) (s : Wakeups F) : Act F → Prop
  | .schedule _ cos => s.coroutines = [] ∨ Covered n s ∨ ∀ co ∈ cos, ¬ Stranded n s s.asleep co
  | .check i task => 0 < s.idleThreadCount ∨ Covered n ((Act.check i task).effect s) ∨
      ∀ co ∈ s.coroutines, ¬ Stranded n s (Function.update s.asleep i task.isNone) co
  | .callCheck caller => 0 < s.idleThreadCount ∨ Covered n ((Act.callCheck caller).effect s) ∨
      ∀ co ∈ s.coroutines, ¬ Stranded n s s.asleep co
  | .setState c st => Covered n s ∨ ∀ co ∈ s.coroutines, executing s.state co = true →
      ¬ Stranded n { s with state := Function.update s.state c st } s.asleep co
  | _ => True

instance Heard.decidable [DecidableEq F] (n : Nat) (s : Wakeups F) :
    ∀ l : Act F, Decidable (Heard n s l)
  | .schedule _ _ => inferInstanceAs (Decidable (_ ∨ _ ∨ ∀ co ∈ _, _))
  | .check _ _ => inferInstanceAs (Decidable (_ ∨ _ ∨ ∀ co ∈ _, _))
  | .callCheck _ => inferInstanceAs (Decidable (_ ∨ _ ∨ ∀ co ∈ _, _))
  | .setState _ _ => inferInstanceAs (Decidable (_ ∨ ∀ co ∈ _, _ → _))
  | .scan _ => .isTrue trivial
  | .write _ _ => .isTrue trivial
  | .swapIn _ _ _ => .isTrue trivial
  | .discard _ _ => .isTrue trivial
  | .leave _ _ _ => .isTrue trivial
  | .setHold _ _ => .isTrue trivial
  | .loop _ _ => .isTrue trivial
  | .increment _ => .isTrue trivial
  | .finish _ => .isTrue trivial
  | .epollWait _ => .isTrue trivial
  | .epollReturn _ => .isTrue trivial
  | .read _ => .isTrue trivial
  | .decrement _ => .isTrue trivial
  | .stop _ => .isTrue trivial
  | .callWrite _ => .isTrue trivial
  | .tickle => .isTrue trivial

section
variable {n : Nat} {s s' : Wakeups F} {i : Nat} {p q : Pc F} {co : CoroutineObject F}

/-- a wake-up is under way, or no task is left to workers that sleep or are about to -/
def Woken (n : Nat) (s : Wakeups F) : Prop :=
  Covered n s ∨ ∀ co ∈ s.coroutines, ¬ Stranded n s s.asleep co

theorem Woken.not_lost (h : Woken n s) : ¬ Lost n s := by
  rintro ⟨hcovered, co, hin, hexec, hsome, hall⟩
  refine h.elim hcovered fun hno => hno co hin ⟨hexec, hsome, fun i hi hmay => ?_⟩
  show (s.pc i).asleep = true
  by_cases hfin : s.pc i = .finished
  · rw [hfin]
    rfl
  · rw [hall i hi hmay hfin]
    rfl

theorem Covered.of_looks (hi : i < n) (h : (s.pc i).looks = true) : Covered n s :=
  .inr (.inr (.inr ⟨i, hi, .inl h⟩))

theorem Covered.goto (h : Covered n s) (hp : s.pc i = p) (hlooks : p.looks = false)
    (hpc : s'.pc = Function.update s.pc i q)
    (hsame : s'.call = s.call ∧ s'.bytes = s.bytes ∧ s'.checks = s.checks ∧ s'.writes = s.writes) :
    Covered n s' := by
  obtain ⟨hcall, hbytes, hchecks, hwrites⟩ := hsame
  rw [Covered, hcall, hbytes, hchecks, hwrites, hpc]
  rcases h with h | h | h | ⟨j, hj, h⟩
  · exact .inl h
  · exact .inr (.inl h)
  · exact .inr (.inr (.inl h))
  · refine .inr (.inr (.inr ⟨j, hj, h.imp_left fun hl => ?_⟩))
    have hne : j ≠ i := by
      rintro rfl
      rw [hp, hlooks] at hl
      cases hl
    rw [Function.update_of_ne hne]
    exact hl

theorem Stranded.of_goto (h : Stranded n s' s'.asleep co) (hfin : s.pc i ≠ .finished)
    (hpc : s'.pc = Function.update s.pc i q)
    (hexec : executing s'.state co = false → executing s.state co = false) :
    Stranded n s (Function.update s.asleep i q.asleep) co := by
  obtain ⟨hnot, ⟨j, hj, hmay, hne⟩, hall⟩ := h
  refine ⟨hexec hnot, ⟨j, hj, hmay, ?_⟩, fun k hk hmay => ?_⟩
  · by_cases hji : j = i
    · rw [hji]
      exact hfin
    · rw [hpc, Function.update_of_ne hji] at hne
      exact hne
  · have hk := hall k hk hmay
    rw [Wakeups.asleep, hpc] at hk
    by_cases hki : k = i
    · rw [hki, Function.update_self] at hk ⊢
      exact hk
    · rw [Function.update_of_ne hki] at hk ⊢
      exact hk

/-- **A worker goes on between two places that look, or sleep, alike.** -/
theorem Woken.goto (h : Woken n s) (hp : s.pc i = p) (hlooks : p.looks = false)
    (hfin : p ≠ .finished) (hasleep : q.asleep = p.asleep)
    (hpc : s'.pc = Function.update s.pc i q)
    (hsame : s'.call = s.call ∧ s'.bytes = s.bytes ∧ s'.checks = s.checks ∧ s'.writes = s.writes)
    (hcos : s'.coroutines = s.coroutines)
    (hexec : ∀ co : CoroutineObject F, executing s'.state co = false →
      executing s.state co = false) : Woken n s' := by
  rcases h with h | h
  · exact .inl (h.goto hp hlooks hpc hsame)
  · refine .inr fun co hco hstr => h co (hcos ▸ hco) ?_
    have hold := hstr.of_goto (hp ▸ hfin) hpc (hexec co)
    have hsame : Function.update s.asleep i q.asleep = s.asleep := by
      rw [hasleep, ← hp]
      exact Function.update_eq_self i s.asleep
    rw [hsame] at hold
    exact hold

theorem executing_of_not_tickle {state : Cor → State} {cos : List (CoroutineObject F)}
    (h : isTickle i state cos = false) : ∀ co ∈ cos, executing state co = true := by
  induction cos with
  | nil => exact fun co hco => (by cases hco)
  | cons x cos ih =>
    rw [isTickle] at h
    split at h
    · rename_i hx
      intro co hco
      rcases List.mem_cons.mp hco with rfl | hco
      · exact (Bool.and_eq_true_iff.mp hx).2
      · exact ih h co hco
    · cases h

theorem Woken.scan (h : Woken n s) (hi : i < n) (hp : s.pc i = .looping) :
    Woken n ((Act.scan i).effect s) := by
  cases htickle : isTickle i s.state s.coroutines with
  | true =>
    refine .inl (.of_looks hi ?_)
    simp only [Act.effect, htickle, if_true, Wakeups.goto, Function.update_self]
    rfl
  | false =>
    refine .inr fun co hco hstr => ?_
    have hin : co ∈ s.coroutines := by
      cases hd : dequeueFrom i s.state s.coroutines with
      | none =>
        simp only [Act.effect, hd] at hco
        exact hco
      | some r =>
        simp only [Act.effect, hd] at hco
        exact (Scheduler.dequeueFrom_some hd).2.1 co hco
    have hexec := executing_of_not_tickle htickle co hin
    rw [show executing s.state co = false from hstr.1] at hexec
    cases hexec

theorem Woken.check (h : Woken n s) (hi : i < n) {task : Option (Task Cor F)}
    (hp : s.pc i = .tickling task) (hc : Heard n s (.check i task)) :
    Woken n ((Act.check i task).effect s) := by
  by_cases hidle : 0 < s.idleThreadCount
  · refine .inl (.of_looks hi ?_)
    simp only [Act.effect, hidle, if_true, Wakeups.goto, Function.update_self]
    rfl
  · have heff : (Act.check i task).effect s = s.goto i (Act.ticklePc task) := by
      simp only [Act.effect, hidle, if_false]
    rcases hc with hc | hc | hc
    · exact absurd hc hidle
    · exact .inl hc
    · refine .inr fun co hco hstr => ?_
      rw [heff] at hco hstr
      refine hc co hco ?_
      have hold := hstr.of_goto (s := s) (i := i) (q := Act.ticklePc task)
        (by rw [hp]; exact fun hf => (by cases hf)) rfl id
      have hsleep : (Act.ticklePc task : Pc F).asleep = task.isNone := by
        cases task <;> rfl
      rw [hsleep] at hold
      exact hold

theorem Woken.swapIn (h : Woken n s) {task : Task Cor F} {c : Cor}
    (hp : s.pc i = .taken task) : Woken n ((Act.swapIn i task c).effect s) := by
  refine h.goto (q := .running c) hp rfl (fun hf => (by cases hf)) rfl rfl ⟨rfl, rfl, rfl, rfl⟩ rfl ?_
  intro co hco
  obtain ⟨t, threadId⟩ := co
  cases t with
  | cb f => rfl
  | coroutine c' =>
    have hne : Function.update s.state c .EXEC c' ≠ .EXEC := of_decide_eq_false hco
    refine decide_eq_false fun hexec => hne ?_
    by_cases hc : c' = c
    · rw [hc, Function.update_self]
    · rw [Function.update_of_ne hc]
      exact hexec

theorem Covered.of_call {caller : Option Nat} {old new : Call} {c : Call} (hnew : new ≠ .none)
    (hin : Act.inCall n s c caller = true) : Covered n (s.setCall caller old new) := by
  cases caller with
  | some i =>
    obtain ⟨hi, _⟩ := of_decide_eq_true hin
    refine .inr (.inr (.inr ⟨i, hi, .inr ?_⟩))
    show Function.update s.call i new i ≠ .none
    rw [Function.update_self]
    exact hnew
  | none =>
    cases new with
    | none => exact absurd rfl hnew
    | checking => exact .inr (.inl (Nat.succ_pos _))
    | writing => exact .inr (.inr (.inl (Nat.succ_pos _)))

theorem stranded_setCall {caller : Option Nat} {old new : Call} :
    Stranded n (s.setCall caller old new) (s.setCall caller old new).asleep co
      ↔ Stranded n s s.asleep co := by
  cases caller <;> exact Iff.rfl

theorem coroutines_setCall {caller : Option Nat} {old new : Call} :
    (s.setCall caller old new).coroutines = s.coroutines := by
  cases caller <;> rfl

theorem Woken.schedule (h : Woken n s) {caller : Option Nat} {cos : List (CoroutineObject F)}
    (hl : (Act.schedule caller cos).guard n s) (hc : Heard n s (.schedule caller cos)) :
    Woken n ((Act.schedule caller cos).effect s) := by
  have hin : Act.inCall n s .none caller = true := (Bool.and_eq_true_iff.mp hl.2).1
  have hin : Act.inCall n { s with coroutines := s.coroutines ++ cos } .none caller = true := by
    cases caller <;> exact hin
  cases hempty : s.coroutines.isEmpty with
  | true =>
    refine .inl ?_
    simp only [Act.effect, hempty, if_true]
    exact .of_call (fun hf => (by cases hf)) hin
  | false =>
    have heff : (Act.schedule caller cos).effect s = { s with coroutines := s.coroutines ++ cos } := by
      simp only [Act.effect, hempty, Bool.false_eq_true, if_false]
    rw [heff]
    have hcases : Covered n s ∨ ((∀ co ∈ s.coroutines, ¬ Stranded n s s.asleep co) ∧
        ∀ co ∈ cos, ¬ Stranded n s s.asleep co) := by
      rcases hc with hnil | hcovered | hno
      · rw [hnil] at hempty
        cases hempty
      · exact .inl hcovered
      · exact h.imp_right fun hold => ⟨hold, hno⟩
    refine hcases.imp id fun hno co hco => ?_
    rcases List.mem_append.mp hco with hco | hco
    · exact hno.1 co hco
    · exact hno.2 co hco

theorem Woken.callCheck {caller : Option Nat}
    (h : Woken n s) (hl : (Act.callCheck caller).guard n s) (hc : Heard n s (.callCheck caller)) :
    Woken n ((Act.callCheck caller).effect s) := by
  have hin : Act.inCall n s .checking caller = true := hl.2
  by_cases hidle : 0 < s.idleThreadCount
  · refine .inl ?_
    simp only [Act.effect, hidle, if_true]
    exact .of_call (fun hf => (by cases hf)) hin
  · rcases hc with hc | hc | hc
    · exact absurd hc hidle
    · exact .inl hc
    · refine .inr fun co hco hstr => hc co ?_ ?_
      · simp only [Act.effect, coroutines_setCall] at hco
        exact hco
      · simp only [Act.effect, stranded_setCall] at hstr
        exact hstr

theorem Woken.setState (h : Woken n s) {c : Cor} {st : State} (hc : Heard n s (.setState c st)) :
    Woken n ((Act.setState c st).effect s) := by
  by_cases hcovered : Covered n s
  · exact .inl hcovered
  · refine .inr fun co hco hstr => ?_
    cases hexec : executing s.state co with
    | true => exact hc.resolve_left hcovered co hco hexec hstr
    | false => exact h.resolve_left hcovered co hco ⟨hexec, hstr.2⟩

/-- **Every step that is heard leaves a wake-up under way, or no task to workers that sleep.** -/
theorem Woken.effect (h : Woken n s) {l : Act F} (hl : l.guard n s) (hc : Heard n s l) :
    Woken n (l.effect s) := by
  have hplace : ∀ {i : Nat} {p : Pc F}, l.place = some (i, p) → i < n ∧ s.pc i = p := by
    intro i p hp
    obtain ⟨hi, hpc, _⟩ := hl.1 (i, p) hp
    exact ⟨hi, hpc⟩
  have hlooks : ∀ {i : Nat} {p q : Pc F}, l.place = some (i, p) →
      (l.effect s).pc = Function.update s.pc i q → q.looks = true → Woken n (l.effect s) := by
    intro i p q hp hpc hq
    refine .inl (.of_looks (hplace hp).1 ?_)
    rw [hpc, Function.update_self]
    exact hq
  cases l with
  | scan i =>
    obtain ⟨hi, hp⟩ := hplace rfl
    exact h.scan hi hp
  | check i task =>
    obtain ⟨hi, hp⟩ := hplace rfl
    exact h.check hi hp hc
  | write i task => exact .inl (.inl (Nat.succ_pos _))
  | swapIn i task c => exact h.swapIn (hplace rfl).2
  | discard i task => exact hlooks rfl rfl rfl
  | leave i c st => exact hlooks rfl rfl rfl
  | setHold i c => exact hlooks rfl rfl rfl
  | loop i c => exact hlooks rfl rfl rfl
  | increment i =>
    exact h.goto (q := .idling) (hplace rfl).2 rfl (fun hf => (by cases hf)) rfl rfl
      ⟨rfl, rfl, rfl, rfl⟩ rfl fun _ => id
  | finish i =>
    exact h.goto (q := .finished) (hplace rfl).2 rfl (fun hf => (by cases hf)) rfl rfl
      ⟨rfl, rfl, rfl, rfl⟩ rfl fun _ => id
  | epollWait i =>
    exact h.goto (q := .blocked) (hplace rfl).2 rfl (fun hf => (by cases hf)) rfl rfl
      ⟨rfl, rfl, rfl, rfl⟩ rfl fun _ => id
  | epollReturn i => exact hlooks rfl rfl rfl
  | read i =>
    obtain ⟨hi, hp⟩ := hplace rfl
    refine .inl (.of_looks hi ?_)
    show (s.pc i).looks = true
    rw [hp]
    rfl
  | decrement i => exact hlooks rfl rfl rfl
  | stop i => exact hlooks rfl rfl rfl
  | schedule caller cos => exact h.schedule hl hc
  | callCheck caller => exact h.callCheck hl hc
  | callWrite caller => exact .inl (.inl (Nat.succ_pos _))
  | tickle => exact .inl (.inr (.inl (Nat.succ_pos _)))
  | setState c st => exact h.setState hc

end

/-- **No wake-up is lost, in every run whose steps are heard.** -/
theorem woken_run (n : Nat) (ls : List (Act F))
    (h : ((wakeups n).meeting (Heard n)).Allowed (Wakeups.start : Wakeups F) ls) :
    ¬ Lost n ((wakeups n).after (Wakeups.start : Wakeups F) ls) := by
  have hs : Woken n (((wakeups n).meeting (Heard n)).after (Wakeups.start : Wakeups F) ls) :=
    h.inv (fun s l hs hl => hs.effect hl.1 hl.2) (.inr fun co hco => (by cases hco))
  rw [Machine.meeting_after] at hs
  exact hs.not_lost

/-- a task for the worker 1 wakes up the worker 0, which sends the wake-up on -/
theorem woken_run_pinned : ¬ Lost 2 ((wakeups 2).after (Wakeups.start : Wakeups Nat)
    [.scan 0, .increment 0, .epollWait 0, .scan 1, .increment 1, .epollWait 1,
      .schedule none [⟨.cb 7, some 1⟩], .callCheck none, .callWrite none, .epollReturn 0, .read 0,
      .decrement 0, .scan 0, .check 0 none, .write 0 none, .increment 0, .epollWait 0]) :=
  woken_run 2 _ (by decide)

/-- **A task is scheduled when the only worker has looked at the queue and has not counted itself.** -/
theorem wakeup_lost : ¬ ∀ (n : Nat) (ls : List (Act Nat)),
    (wakeups n).Allowed (Wakeups.start : Wakeups Nat) ls →
    ¬ Lost n ((wakeups n).after (Wakeups.start : Wakeups Nat) ls) := by
  intro h
  exact absurd (h 1 [.scan 0, .schedule none [⟨.cb 7, none⟩], .callCheck none, .increment 0,
    .epollWait 0] (by decide)) (by decide)

end Tickle
end KitServer
