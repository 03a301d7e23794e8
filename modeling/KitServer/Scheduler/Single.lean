import KitServer.Scheduler.Exclusive
import KitServer.Scheduler.Tasks

/-!
# One worker and the coroutine that it reuses

The pool with one worker, beside what each coroutine object holds: the callback of its body, and how
often it was reset.  An entry of the queue keeps the number of resets that its coroutine had when it
was scheduled.

* `Body`, `Single`, `single`   the machine;
* `Unreferenced`               when the body on `cb_coroutine` ends, the queue does not refer to it;
* `Sound`                      what the queue and the worker refer to;
* `single_run`                 no assertion fails, every swap-in finds the body that was meant, and
                               every scheduled callback is entered once or still waits;
* `empty_callback`             a callback that schedules its own coroutine and returns.
-/

set_option linter.unusedVariables false

namespace KitServer
namespace Scheduler
open IOManager (Task)
variable {F : Type}

/-- the body of a coroutine object: not entered, with its callback if it has one, or entered, or
ended -/
inductive Body (F : Type) where
  | fresh (cb : Option F)
  | started (f : F)
  | ended
deriving DecidableEq

def Body.isStarted : Body F → Bool
  | .started _ => true
  | _ => false

def Body.isEnded : Body F → Bool
  | .ended => true
  | _ => false

def Body.isFresh : Body F → Bool
  | .fresh _ => true
  | _ => false

/-- what `switchIn` finds; `stale` is that the object was reset since the task was scheduled -/
structure SwapIn (F : Type) where
  body : Body F
  stale : Bool
deriving DecidableEq

/-- the body has not ended, it has a callback, and it is the one that was scheduled -/
def SwapIn.Fits (w : SwapIn F) : Prop :=
  w.stale = false ∧ w.body.isEnded = false ∧ (w.body.isFresh = true → ∃ f, w.body = .fresh (some f))

/-- `queue` is the queue with the number of resets for each entry, `hand` is that number for the task
that the worker has taken, and `entered` is in reverse order -/
structure Single (F : Type) where
  pool : Pool F
  body : Cor → Body F
  resets : Cor → Nat
  queue : List (CoroutineObject F × Nat)
  hand : Nat
  swapped : List (SwapIn F)
  put : List F
  entered : List F

/-- `user n` is what the coroutine `n` of a user was made with -/
def Single.start (user : Nat → F) : Single F where
  pool := Pool.start
  body := fun c => match c with
    | .user n => .fresh (some (user n))
    | .callback _ => .fresh none
  resets := fun _ => 0
  queue := []
  hand := 0
  swapped := []
  put := []
  entered := []

/-- the callbacks among the entries -/
def callbacks (cos : List (CoroutineObject F)) : List F :=
  cos.filterMap fun co => match co.task with
    | .cb f => some f
    | .coroutine _ => none

/-- the callback that the worker has taken and not entered -/
def Pc.pending (body : Cor → Body F) : Pc F → List F
  | .dequeued (some (.cb f)) => [f]
  | .swapIn c _ => waiting body c
  | .entered c _ => waiting body c
  | .switching c _ => waiting body c
  | _ => []
where
  waiting (body : Cor → Body F) : Cor → List F
    | .callback k => match body (.callback k) with
      | .fresh (some f) => [f]
      | _ => []
    | .user _ => []

namespace Single

def worker (s : Single F) : Worker F := s.pool.workers 0

/-- the object that `takeCallback` resets or makes -/
def target (s : Single F) : Cor :=
  match s.worker.cb_coroutine with
  | some c => c
  | none => .callback s.pool.nextCallback

/-- the entry, with the number of resets of its coroutine -/
def tagged (s : Single F) (co : CoroutineObject F) : CoroutineObject F × Nat :=
  (co, match co.task with
    | .coroutine c => s.resets c
    | .cb _ => 0)

end Single

namespace Act

/-- the step is made by the body of a coroutine -/
def byBody : Act F → Bool
  | .yieldToReady _ _ _ => true
  | .yieldToHold _ _ _ => true
  | .finish _ _ _ ok => ok
  | .schedule (some _) _ => true
  | .addEvent (some _) _ => true
  | .addTimer (some _) _ => true
  | _ => false

/-- the coroutine that runs has a callback; an empty one only throws -/
def bodyRuns (s : Single F) (l : Act F) : Bool :=
  match s.pool.pc 0 with
  | .running c _ => !l.byBody || (s.body c).isStarted
  | _ => true

def bodyAfter (s : Single F) : Act F → Cor → Body F
  | .takeCallback _ f => Function.update s.body s.target (.fresh (some f))
  | .switchIn _ c _ =>
    match s.body c with
    | .fresh (some f) => Function.update s.body c (.started f)
    | _ => s.body
  | .finish _ c _ _ => Function.update s.body c .ended
  | .resetCallback _ c => Function.update s.body c (.fresh none)
  | _ => s.body

def resetsAfter (s : Single F) : Act F → Cor → Nat
  | .takeCallback _ _ => Function.update s.resets s.target (s.resets s.target + 1)
  | .resetCallback _ c => Function.update s.resets c (s.resets c + 1)
  | _ => s.resets

/-- the entry that the loop of `run` takes -/
def takesEntry (s : Single F) (e : CoroutineObject F × Nat) : Bool := !e.1.skipped 0 s.pool.state

def queueAfter (s : Single F) (l : Act F) : List (CoroutineObject F × Nat) :=
  match l with
  | .dequeue _ => s.queue.eraseP (takesEntry s)
  | _ => s.queue ++ (l.puts s.pool).map s.tagged

def handAfter (s : Single F) : Act F → Nat
  | .dequeue _ => ((s.queue.find? (takesEntry s)).map Prod.snd).getD 0
  | .takeCallback _ _ => s.resets s.target + 1
  | _ => s.hand

def swaps (s : Single F) : Act F → List (SwapIn F)
  | .switchIn _ c _ => [⟨s.body c, decide (s.hand ≠ s.resets c)⟩]
  | _ => []

/-- the callback that the step enters -/
def enters (s : Single F) : Act F → List F
  | .switchIn _ c _ => Pc.pending.waiting s.body c
  | _ => []

end Act

/-- the pool with one worker, and what its coroutine objects hold -/
def single : Machine (Single F) (Act F) where
  guard := fun s l => l.guard 1 s.pool ∧ l.bodyRuns s = true
  effect := fun s l =>
    { pool := l.effect s.pool
      body := l.bodyAfter s
      resets := l.resetsAfter s
      queue := l.queueAfter s
      hand := l.handAfter s
      swapped := s.swapped ++ l.swaps s
      put := s.put ++ callbacks (l.puts s.pool)
      entered := l.enters s ++ s.entered }

instance single_decidable [DecidableEq F] (s : Single F) (l : Act F) :
    Decidable (single.guard s l) :=
  inferInstanceAs (Decidable (l.guard 1 s.pool ∧ l.bodyRuns s = true))

/-- the coroutine of an entry may be scheduled: it is not the `cb_coroutine` of the worker, or its
body runs or is suspended -/
def Single.schedulable (s : Single F) (co : CoroutineObject F) : Bool :=
  match co.task with
  | .coroutine c => decide (s.worker.cb_coroutine ≠ some c) || (s.body c).isStarted
  | .cb _ => true

/-- the entry does not refer to the coroutine -/
def CoroutineObject.unrelated (c : Cor) (co : CoroutineObject F) : Bool :=
  match co.task with
  | .coroutine c' => decide (c' ≠ c)
  | .cb _ => true

/-- the `cb_coroutine` whose body ends in the step -/
def Act.ends : Act F → Option Cor
  | .finish _ c cb _ => if cb then some c else none
  | _ => none

/-- when the body on the `cb_coroutine` ends, no entry refers to that coroutine, and it is not
scheduled before it has a body again that runs -/
def Unreferenced (s : Single F) (l : Act F) : Prop :=
  (l.puts s.pool).all s.schedulable = true ∧
    ∀ c ∈ l.ends, s.pool.coroutines.all (CoroutineObject.unrelated c) = true

instance (s : Single F) (l : Act F) : Decidable (Unreferenced s l) :=
  inferInstanceAs (Decidable (_ ∧ _))

/-! ## what the queue and the worker refer to -/

namespace Single
variable {s s' : Single F} {p q : Pc F}

/-- an entry of the queue may refer to the coroutine -/
def Live (s : Single F) (c : Cor) : Prop :=
  ((s.body c).isFresh = true → ∃ n, c = .user n) ∧
    ((s.body c).isEnded = true → s.worker.cb_coroutine ≠ some c)

/-- what the place of the worker says about the coroutine there -/
def PlaceOk (s : Single F) : Pc F → Prop
  | .dequeued (some (.coroutine c)) => s.hand = s.resets c ∧ s.Live c
  | .swapIn c _ => s.hand = s.resets c ∧ (s.body c).isEnded = false ∧ s.body c ≠ .fresh none
  | .entered c _ => s.hand = s.resets c ∧ (s.body c).isEnded = false ∧ s.body c ≠ .fresh none
  | .switching c _ => s.hand = s.resets c ∧ (s.body c).isEnded = false ∧ s.body c ≠ .fresh none
  | .running c _ => (s.body c).isStarted = true
  | .leaving c _ => (s.body c).isFresh = false
  | .returned c _ => (s.body c).isFresh = false
  | .counted c _ => (s.body c).isFresh = false
  | .requeueing c _ => (s.body c).isStarted = true
  | .holding c _ => (s.body c).isStarted = true
  | .resetting c => (s.body c).isEnded = true
  | _ => True

structure Sound (s : Single F) : Prop where
  pool : Exclusive 1 s.pool
  queue : s.queue.map Prod.fst = s.pool.coroutines
  entries : ∀ e ∈ s.queue, ∀ c, e.1.task = .coroutine c → e.2 = s.resets c ∧ s.Live c
  place : s.PlaceOk s.worker.pc
  ended : ∀ c, (s.body c).isEnded = (s.pool.state c).ended
  kind : ∀ c, s.worker.cb_coroutine = some c → ∃ k, c = .callback k
  user : ∀ n, s.body (.user n) ≠ .fresh none
  spare : ∀ c, s.worker.cb_coroutine = some c → (∀ cb, s.worker.pc.hand ≠ some (c, cb)) →
    s.body c = .fresh none
  given : ∀ k < s.pool.nextCallback, s.worker.cb_coroutine ≠ some (.callback k) →
    (s.body (.callback k)).isFresh = false

theorem Sound.start (user : Nat → F) : Sound (Single.start user) := by
  refine ⟨.start 1, rfl, fun e he => (by cases he), trivial, fun c => ?_, fun c hc => (by cases hc),
    fun n hn => (by cases hn), fun c hc => (by cases hc), fun k hk => absurd hk (Nat.not_lt_zero k)⟩
  cases c <;> rfl

/-- what the worker has as its `cb_coroutine` behind a step; it lets go only of a body that runs -/
structure KeepsCb (s : Single F) (cb' : Option Cor) : Prop where
  old : ∀ c, cb' = some c → s.worker.cb_coroutine = some c
  given : ∀ c, s.worker.cb_coroutine = some c → cb' = some c ∨ (s.body c).isFresh = false

theorem KeepsCb.refl (s : Single F) : KeepsCb s s.worker.cb_coroutine :=
  ⟨fun c hc => hc, fun c hc => .inl hc⟩

theorem Live.keep {c : Cor} (h : s.Live c) (hbody : s'.body = s.body)
    (hcb : KeepsCb s s'.worker.cb_coroutine) : s'.Live c := by
  refine ⟨fun hfresh => h.1 (hbody ▸ hfresh), fun hended hc => ?_⟩
  exact h.2 (hbody ▸ hended) (hcb.old c hc)

theorem PlaceOk.keep {p : Pc F} (h : s.PlaceOk p) (hhand : s'.hand = s.hand)
    (hbody : s'.body = s.body) (hresets : s'.resets = s.resets)
    (hcb : KeepsCb s s'.worker.cb_coroutine) : s'.PlaceOk p := by
  cases p with
  | dequeued t =>
    cases t with
    | none => trivial
    | some t =>
      cases t with
      | cb f => trivial
      | coroutine c =>
        refine ⟨?_, h.2.keep hbody hcb⟩
        rw [hhand, hresets]
        exact h.1
  | looping => trivial
  | discarding => trivial
  | idle p => trivial
  | finished => trivial
  | _ =>
    simp only [PlaceOk, hhand, hbody, hresets]
    exact h

theorem map_tagged (cos : List (CoroutineObject F)) : (cos.map s.tagged).map Prod.fst = cos := by
  rw [List.map_map]
  exact List.map_id cos

theorem tagged_snd {co : CoroutineObject F} {c : Cor} (h : co.task = .coroutine c) :
    (s.tagged co).2 = s.resets c := by
  simp only [tagged, h]

theorem Sound.live_of_schedulable (h : Sound s) {co : CoroutineObject F}
    (hknown : s.pool.known co.task = true) (hs : s.schedulable co = true) {c : Cor}
    (hc : co.task = .coroutine c) : s.Live c := by
  rw [schedulable, hc] at hs
  rcases Bool.or_eq_true_iff.mp hs with hcb | hstarted
  · have hcb := of_decide_eq_true hcb
    refine ⟨fun hfresh => ?_, fun _ => hcb⟩
    cases c with
    | user n => exact ⟨n, rfl⟩
    | callback k =>
      rw [hc] at hknown
      rw [h.given k (of_decide_eq_true hknown) hcb] at hfresh
      cases hfresh
  · cases hb : s.body c with
    | started f =>
      rw [Live, hb]
      exact ⟨fun he => (by cases he), fun he => (by cases he)⟩
    | fresh cb =>
      rw [hb] at hstarted
      cases hstarted
    | ended =>
      rw [hb] at hstarted
      cases hstarted

/-- **A step that leaves the bodies alone, and perhaps adds to the queue.** -/
theorem Sound.walk (h : Sound s) {l : Act F} {pool' : Pool F} (hpool : Exclusive 1 (l.effect s.pool))
    (hcond : Unreferenced s l)
    (hkeep : l.queueAfter s = s.queue ++ (l.puts s.pool).map s.tagged ∧ l.bodyAfter s = s.body ∧
      l.resetsAfter s = s.resets ∧ l.handAfter s = s.hand)
    (heff : l.effect s.pool = pool')
    (hsame : pool'.coroutines = s.pool.coroutines ++ l.puts s.pool ∧
      pool'.nextCallback = s.pool.nextCallback)
    (hpc : (pool'.workers 0).pc = q)
    (hcb : KeepsCb s (pool'.workers 0).cb_coroutine)
    (hended : ∀ c, (pool'.state c).ended = (s.pool.state c).ended)
    (hhand : ∀ c, (pool'.workers 0).cb_coroutine = some c →
      (∀ cb, q.hand ≠ some (c, cb)) → ∀ cb, s.worker.pc.hand ≠ some (c, cb))
    (hplace : s.PlaceOk q) : Sound (single.effect s l) := by
  obtain ⟨hqueue, hbody, hresets, hh⟩ := hkeep
  have hqueue : (single.effect s l).queue = s.queue ++ (l.puts s.pool).map s.tagged := hqueue
  have hbody : (single.effect s l).body = s.body := hbody
  have hresets : (single.effect s l).resets = s.resets := hresets
  have hpool' : (single.effect s l).pool = pool' := heff
  have hw : (single.effect s l).worker = pool'.workers 0 := congrArg (fun p => p.workers 0) heff
  rw [← hw] at hcb hhand hpc
  refine ⟨hpool, ?_, ?_, ?_, ?_, ?_, ?_, ?_, ?_⟩
  · rw [hqueue, hpool', hsame.1, List.map_append, map_tagged, h.queue]
  · intro e he c hc
    rw [hresets]
    rw [hqueue] at he
    rcases List.mem_append.mp he with he | he
    · exact ⟨(h.entries e he c hc).1, (h.entries e he c hc).2.keep hbody hcb⟩
    · obtain ⟨co, hco, rfl⟩ := List.mem_map.mp he
      have hc : co.task = .coroutine c := hc
      have hin : co ∈ (l.effect s.pool).coroutines := by
        rw [heff, hsame.1]
        exact List.mem_append_right _ hco
      have hknown : s.pool.known co.task = true :=
        (known_congr (by rw [heff, hsame.2]) co.task).symm.trans (hpool.queued co hin)
      have hlive := h.live_of_schedulable hknown (List.all_eq_true.mp hcond.1 co hco) hc
      exact ⟨tagged_snd hc, hlive.keep hbody hcb⟩
  · rw [hpc]
    exact hplace.keep hh hbody hresets hcb
  · intro c
    rw [hbody, hpool', hended]
    exact h.ended c
  · exact fun c hc => h.kind c (hcb.old c hc)
  · rw [hbody]
    exact h.user
  · rw [hbody, hpc]
    intro c hc hno
    exact h.spare c (hcb.old c hc) (hhand c hc hno)
  · rw [hpool', hsame.2, hbody]
    intro k hk hno
    by_cases hold : s.worker.cb_coroutine = some (.callback k)
    · exact (hcb.given _ hold).resolve_left hno
    · exact h.given k hk hold

theorem hand_kept (hp : s.pool.pc 0 = p) (hq : q.hand = p.hand) (c : Cor)
    (hno : ∀ cb, q.hand ≠ some (c, cb)) (cb : Bool) : s.worker.pc.hand ≠ some (c, cb) := by
  rw [show s.worker.pc = p from hp, ← hq]
  exact hno cb

theorem Sound.hand_dropped (h : Sound s) (hp : s.pool.pc 0 = p) {c : Cor}
    (hhand : p.hand = some (c, false)) (c' : Cor) (hc : s.worker.cb_coroutine = some c') (cb : Bool) :
    s.worker.pc.hand ≠ some (c', cb) := by
  intro hcb
  have hflag := (h.pool.worker 0).flag c' cb hcb
  have hcb' : p.hand = some (c', cb) := (show s.worker.pc = p from hp) ▸ hcb
  obtain ⟨_, rfl⟩ := Prod.mk.inj (Option.some.inj (hhand.symm.trans hcb'))
  exact Bool.false_ne_true (hflag.mpr hc)

theorem Sound.at_place (h : Sound s) (hp : s.pool.pc 0 = p) : s.PlaceOk p := by
  have hplace := h.place
  rw [show s.worker.pc = p from hp] at hplace
  exact hplace

section
variable {c : Cor} {cb : Bool}

theorem Sound.testState (h : Sound s) (hl : (Act.testState 0 c).guard 1 s.pool)
    (hcond : Unreferenced s (.testState 0 c)) : Sound (single.effect s (.testState 0 c)) := by
  have hp := (hl.at_place rfl).2
  have hpool := h.pool.effect _ hl (fun t ht => (by cases ht))
  obtain ⟨hhand, hlive⟩ := h.at_place hp
  by_cases hended : (s.pool.state c).ended = true
  · exact h.walk hpool hcond ⟨rfl, rfl, rfl, rfl⟩ (if_pos hended) ⟨(List.append_nil _).symm, rfl⟩
      (q := .discarding) rfl (.refl s) (fun _ => rfl) (fun c' hc _ => h.hand_dropped hp rfl c' hc)
      trivial
  · refine h.walk hpool hcond ⟨rfl, rfl, rfl, rfl⟩ (if_neg hended) ⟨(List.append_nil _).symm, rfl⟩
      (q := .swapIn c false) rfl (.refl s) (fun _ => rfl) (fun c' _ => hand_kept hp rfl c') ?_
    have hnot : (s.body c).isEnded = false := by
      rw [h.ended c]
      exact Bool.eq_false_iff.mpr hended
    refine ⟨hhand, hnot, fun hfresh => ?_⟩
    obtain ⟨n, rfl⟩ := hlive.1 (by rw [hfresh]; rfl)
    exact h.user n hfresh

theorem ended_update {st : State} (h : st.ended = (s.pool.state c).ended) (c' : Cor) :
    (Function.update s.pool.state c st c').ended = (s.pool.state c').ended := by
  by_cases hc : c' = c
  · rw [hc, Function.update_self, h]
  · rw [Function.update_of_ne hc]

theorem Sound.not_ended (h : Sound s) (hb : (s.body c).isEnded = false) :
    (s.pool.state c).ended = false := (h.ended c).symm.trans hb

theorem isEnded_of_isStarted {b : Body F} (h : b.isStarted = true) : b.isEnded = false := by
  cases b with
  | started f => rfl
  | fresh cb => cases h
  | ended => cases h

theorem isFresh_of_isStarted {b : Body F} (h : b.isStarted = true) : b.isFresh = false := by
  cases b with
  | started f => rfl
  | fresh cb => cases h
  | ended => cases h

theorem isStarted_of_not {b : Body F} (hf : b.isFresh = false) (he : b.isEnded = false) :
    b.isStarted = true := by
  cases b with
  | started f => rfl
  | fresh cb => cases hf
  | ended => cases he

theorem Sound.assertState (h : Sound s) (hl : (Act.assertState 0 c cb).guard 1 s.pool)
    (hcond : Unreferenced s (.assertState 0 c cb)) :
    Sound (single.effect s (.assertState 0 c cb)) := by
  have hp := (hl.at_place rfl).2
  have hpool := h.pool.effect _ hl (fun t ht => (by cases ht))
  have hne : s.pool.state c ≠ .EXEC := h.pool.not_exec hp rfl fun he => by cases he
  exact h.walk hpool hcond ⟨rfl, rfl, rfl, rfl⟩ (if_neg hne) ⟨(List.append_nil _).symm, rfl⟩
    (q := .entered c cb) rfl (.refl s) (fun _ => rfl) (fun c' _ => hand_kept hp rfl c')
    (show s.PlaceOk (.swapIn c cb) from h.at_place hp)

theorem Sound.setExec (h : Sound s) (hl : (Act.setExec 0 c cb).guard 1 s.pool)
    (hcond : Unreferenced s (.setExec 0 c cb)) : Sound (single.effect s (.setExec 0 c cb)) := by
  have hp := (hl.at_place rfl).2
  have hplace := h.at_place hp
  exact h.walk (h.pool.effect _ hl (fun t ht => (by cases ht))) hcond ⟨rfl, rfl, rfl, rfl⟩ rfl
    ⟨(List.append_nil _).symm, rfl⟩ (q := .switching c cb) rfl (.refl s)
    (ended_update (h.not_ended hplace.2.1).symm) (fun c' _ => hand_kept hp rfl c') hplace

theorem Sound.yieldToReady (h : Sound s) (hl : (Act.yieldToReady 0 c cb).guard 1 s.pool)
    (hcond : Unreferenced s (.yieldToReady 0 c cb)) :
    Sound (single.effect s (.yieldToReady 0 c cb)) := by
  have hp := (hl.at_place rfl).2
  have hstarted : (s.body c).isStarted = true := h.at_place hp
  exact h.walk (h.pool.effect _ hl (fun t ht => (by cases ht))) hcond ⟨rfl, rfl, rfl, rfl⟩
    (if_pos (h.pool.exec_of_running hp)) ⟨(List.append_nil _).symm, rfl⟩ (q := .leaving c cb) rfl
    (.refl s) (ended_update (h.not_ended (isEnded_of_isStarted hstarted)).symm)
    (fun c' _ => hand_kept hp rfl c') (isFresh_of_isStarted hstarted)

theorem Sound.yieldToHold (h : Sound s) (hl : (Act.yieldToHold 0 c cb).guard 1 s.pool)
    (hcond : Unreferenced s (.yieldToHold 0 c cb)) :
    Sound (single.effect s (.yieldToHold 0 c cb)) := by
  have hp := (hl.at_place rfl).2
  have hstarted : (s.body c).isStarted = true := h.at_place hp
  exact h.walk (h.pool.effect _ hl (fun t ht => (by cases ht))) hcond ⟨rfl, rfl, rfl, rfl⟩
    (if_pos (h.pool.exec_of_running hp)) ⟨(List.append_nil _).symm, rfl⟩ (q := .leaving c cb) rfl
    (.refl s) (fun _ => rfl) (fun c' _ => hand_kept hp rfl c') (isFresh_of_isStarted hstarted)

theorem Sound.inspect (h : Sound s) (hl : (Act.inspect 0 c cb).guard 1 s.pool)
    (hcond : Unreferenced s (.inspect 0 c cb)) : Sound (single.effect s (.inspect 0 c cb)) := by
  have hp := (hl.at_place rfl).2
  have hpool := h.pool.effect _ hl (fun t ht => (by cases ht))
  have hfresh : (s.body c).isFresh = false := h.at_place hp
  by_cases hready : s.pool.state c = .READY
  · refine h.walk hpool hcond ⟨rfl, rfl, rfl, rfl⟩ (if_pos hready) ⟨(List.append_nil _).symm, rfl⟩
      (q := .requeueing c cb) rfl (.refl s) (fun _ => rfl) (fun c' _ => hand_kept hp rfl c') ?_
    refine isStarted_of_not hfresh ?_
    rw [h.ended c, hready]
    rfl
  by_cases hended : (s.pool.state c).ended = true
  · have heff : (Act.inspect 0 c cb).effect s.pool
        = s.pool.goto 0 (if cb then .resetting c else .looping) :=
      (if_neg hready).trans (if_pos hended)
    cases cb with
    | true =>
      exact h.walk hpool hcond ⟨rfl, rfl, rfl, rfl⟩ heff ⟨(List.append_nil _).symm, rfl⟩
        (q := .resetting c) rfl (.refl s) (fun _ => rfl) (fun c' _ => hand_kept hp rfl c')
        ((h.ended c).trans hended)
    | false =>
      exact h.walk hpool hcond ⟨rfl, rfl, rfl, rfl⟩ heff ⟨(List.append_nil _).symm, rfl⟩
        (q := .looping) rfl (.refl s) (fun _ => rfl) (fun c' hc _ => h.hand_dropped hp rfl c' hc)
        trivial
  · refine h.walk hpool hcond ⟨rfl, rfl, rfl, rfl⟩ ((if_neg hready).trans (if_neg hended))
      ⟨(List.append_nil _).symm, rfl⟩ (q := .holding c cb) rfl (.refl s) (fun _ => rfl)
      (fun c' _ => hand_kept hp rfl c') ?_
    refine isStarted_of_not hfresh ?_
    rw [h.ended c]
    exact Bool.eq_false_iff.mpr hended

theorem Sound.keepsCb_release (h : Sound s) (hp : s.pool.pc 0 = p) (hhand : p.hand = some (c, cb))
    (hb : (s.body c).isStarted = true) :
    KeepsCb s (if cb then none else s.worker.cb_coroutine) := by
  cases cb with
  | false => exact .refl s
  | true =>
    refine ⟨fun c' hc => (by cases hc), fun c' hc => .inr ?_⟩
    have hw : s.worker.pc.hand = some (c, true) := by rw [show s.worker.pc = p from hp, hhand]
    have hflag : s.worker.cb_coroutine = some c := ((h.pool.worker 0).flag c true hw).mp rfl
    obtain rfl := Option.some.inj (hflag.symm.trans hc)
    exact isFresh_of_isStarted hb

theorem Sound.hand_released (h : Sound s) (hp : s.pool.pc 0 = p) (hhand : p.hand = some (c, cb))
    (c' : Cor) (hc : (if cb then none else s.worker.cb_coroutine) = some c') (cb' : Bool) :
    s.worker.pc.hand ≠ some (c', cb') := by
  cases cb with
  | false => exact h.hand_dropped hp hhand c' hc cb'
  | true => cases hc

theorem Sound.requeue (h : Sound s) (hl : (Act.requeue 0 c cb).guard 1 s.pool)
    (hcond : Unreferenced s (.requeue 0 c cb)) : Sound (single.effect s (.requeue 0 c cb)) := by
  have hp := (hl.at_place rfl).2
  exact h.walk (h.pool.effect _ hl (fun t ht => (by cases ht))) hcond ⟨rfl, rfl, rfl, rfl⟩ rfl
    ⟨rfl, rfl⟩ (q := .looping) rfl (h.keepsCb_release hp rfl (h.at_place hp)) (fun _ => rfl)
    (fun c' hc _ => h.hand_released hp rfl c' hc) trivial

theorem Sound.setHold (h : Sound s) (hl : (Act.setHold 0 c cb).guard 1 s.pool)
    (hcond : Unreferenced s (.setHold 0 c cb)) : Sound (single.effect s (.setHold 0 c cb)) := by
  have hp := (hl.at_place rfl).2
  have hstarted : (s.body c).isStarted = true := h.at_place hp
  exact h.walk (h.pool.effect _ hl (fun t ht => (by cases ht))) hcond ⟨rfl, rfl, rfl, rfl⟩ rfl
    ⟨(List.append_nil _).symm, rfl⟩ (q := .looping) rfl (h.keepsCb_release hp rfl hstarted)
    (ended_update (h.not_ended (isEnded_of_isStarted hstarted)).symm)
    (fun c' hc _ => h.hand_released hp rfl c' hc) trivial

theorem dequeueFrom_map (i : Nat) (state : Cor → State) (queue : List (CoroutineObject F × Nat)) :
    let P := fun e : CoroutineObject F × Nat => !e.1.skipped i state
    (dequeueFrom i state (queue.map Prod.fst) = none ∧ queue.eraseP P = queue) ∨
      ∃ e ∈ queue, queue.find? P = some e ∧
        dequeueFrom i state (queue.map Prod.fst) = some (e.1.task, (queue.eraseP P).map Prod.fst) := by
  intro P
  induction queue with
  | nil => exact .inl ⟨rfl, rfl⟩
  | cons e queue ih =>
    rw [List.map_cons, dequeueFrom]
    by_cases hskip : e.1.skipped i state = true
    · have hP : ¬ P e = true := by
        show ¬ (!e.1.skipped i state) = true
        rw [hskip]
        exact Bool.false_ne_true
      rw [if_pos hskip, List.eraseP_cons_of_neg hP, List.find?_cons_of_neg hP]
      rcases ih with ⟨hd, herase⟩ | ⟨e', hin, hf, hd⟩
      · rw [hd, herase]
        exact .inl ⟨rfl, rfl⟩
      · rw [hd]
        exact .inr ⟨e', List.mem_cons_of_mem _ hin, hf, rfl⟩
    · have hP : P e = true := by
        show (!e.1.skipped i state) = true
        rw [Bool.eq_false_iff.mpr hskip]
        rfl
      rw [if_neg hskip, List.eraseP_cons_of_pos hP, List.find?_cons_of_pos hP]
      exact .inr ⟨e, List.mem_cons_self, rfl, rfl⟩

theorem Sound.not_has (h : Sound s) (hp : s.pool.pc 0 = .looping) (hlive : s.Live c) :
    ¬ (s.pool.workers 0).has c := by
  rintro (⟨cb, hc⟩ | hc)
  · rw [show (s.pool.workers 0).pc = .looping from hp] at hc
    cases hc
  · have hspare := h.spare c hc fun cb hcb => by
      rw [show s.worker.pc = .looping from hp] at hcb
      cases hcb
    obtain ⟨n, rfl⟩ := hlive.1 (by rw [hspare]; rfl)
    obtain ⟨k, hk⟩ := h.kind _ hc
    cases hk

theorem Sound.takenOnce (h : Sound s) (hp : s.pool.pc 0 = .looping) :
    TakenOnce 1 s.pool (.dequeue 0) := by
  intro t ht
  obtain ⟨r, hr, rfl⟩ := Option.map_eq_some_iff.mp ht
  obtain ⟨⟨co, hin, hco⟩, _, _⟩ := dequeueFrom_some hr
  rw [← h.queue] at hin
  obtain ⟨e, he, rfl⟩ := List.mem_map.mp hin
  rw [← hco]
  cases htask : e.1.task with
  | cb f => trivial
  | coroutine c =>
    intro j hj
    obtain rfl : j = 0 := by omega
    exact h.not_has hp (h.entries e he c htask).2

/-- the queue without the entry that was taken -/
theorem Sound.taken (h : Sound s) (hp : s.pool.pc 0 = .looping) {pool' : Pool F}
    (hpool : Exclusive 1 ((Act.dequeue 0).effect s.pool))
    (heff : (Act.dequeue 0).effect s.pool = pool')
    (hmap : (s.queue.eraseP (Act.takesEntry s)).map Prod.fst = pool'.coroutines)
    (hsame : pool'.state = s.pool.state ∧ pool'.nextCallback = s.pool.nextCallback ∧
      (pool'.workers 0).cb_coroutine = s.worker.cb_coroutine)
    (hplace : (single.effect s (.dequeue 0)).PlaceOk (pool'.workers 0).pc) :
    Sound (single.effect s (.dequeue 0)) := by
  obtain ⟨hstate, hnext, hcb⟩ := hsame
  have hpool' : (single.effect s (.dequeue 0)).pool = pool' := heff
  have hw : (single.effect s (.dequeue 0)).worker = pool'.workers 0 :=
    congrArg (fun p => p.workers 0) heff
  have hkeep : KeepsCb s (single.effect s (.dequeue 0)).worker.cb_coroutine := by
    rw [hw, hcb]
    exact .refl s
  refine ⟨hpool, ?_, ?_, ?_, ?_, ?_, h.user, ?_, ?_⟩
  · rw [hpool']
    exact hmap
  · intro e he c hc
    obtain ⟨hresets, hlive⟩ := h.entries e (List.mem_of_mem_eraseP he) c hc
    exact ⟨hresets, hlive.keep rfl hkeep⟩
  · rw [hw]
    exact hplace
  · intro c
    rw [hpool', hstate]
    exact h.ended c
  · exact fun c hc => h.kind c (hkeep.old c hc)
  · refine fun c hc _ => h.spare c (hkeep.old c hc) fun cb hcb' => ?_
    rw [show s.worker.pc = .looping from hp] at hcb'
    cases hcb'
  · rw [hpool', hnext, hw, hcb]
    exact h.given

theorem Sound.dequeue (h : Sound s) (hl : (Act.dequeue 0).guard 1 s.pool) :
    Sound (single.effect s (.dequeue 0)) := by
  have hp := (hl.at_place rfl).2
  have hpool := h.pool.effect _ hl (h.takenOnce hp)
  rcases dequeueFrom_map 0 s.pool.state s.queue with ⟨hd, herase⟩ | ⟨e, hin, hfind, hd⟩
  · rw [h.queue] at hd
    have heff : (Act.dequeue 0).effect s.pool = s.pool.goto 0 (.dequeued none) := by
      simp only [Act.effect, hd]
    exact h.taken hp hpool heff ((congrArg _ herase).trans h.queue) ⟨rfl, rfl, rfl⟩ trivial
  · rw [h.queue] at hd
    have heff : (Act.dequeue 0).effect s.pool = { s.pool.goto 0 (.dequeued (some e.1.task)) with
        coroutines := (s.queue.eraseP (Act.takesEntry s)).map Prod.fst
        activeThreadCount := s.pool.activeThreadCount + 1 } := by
      simp only [Act.effect, hd]
      rfl
    have hhand : (Act.dequeue 0).handAfter s = e.2 := by
      have hfind : s.queue.find? (Act.takesEntry s) = some e := hfind
      simp only [Act.handAfter, hfind, Option.map_some, Option.getD_some]
    refine h.taken hp hpool heff rfl ⟨rfl, rfl, rfl⟩ ?_
    show PlaceOk _ (.dequeued (some e.1.task))
    cases htask : e.1.task with
    | cb f => trivial
    | coroutine c =>
      obtain ⟨hresets, hlive⟩ := h.entries e hin c htask
      refine ⟨hhand.trans hresets, hlive.keep rfl ?_⟩
      rw [show (single.effect s (.dequeue 0)).worker.cb_coroutine = s.worker.cb_coroutine from
        congrArg (fun p => (p.workers 0).cb_coroutine) heff]
      exact .refl s

/-- **A step that gives the coroutine `c` the body `b`.** -/
theorem Sound.rebody (h : Sound s) {l : Act F} {pool' : Pool F} {b : Body F}
    (hpool : Exclusive 1 (l.effect s.pool)) (heff : l.effect s.pool = pool')
    (hqueue : l.queueAfter s = s.queue ++ [])
    (hbody : l.bodyAfter s = Function.update s.body c b)
    (hresets : ∀ c', c' ≠ c → l.resetsAfter s c' = s.resets c')
    (hcos : pool'.coroutines = s.pool.coroutines)
    (hentries : ∀ e ∈ s.queue, e.1.task = .coroutine c → l.resetsAfter s c = s.resets c ∧
      b.isFresh = false ∧ (b.isEnded = true → (pool'.workers 0).cb_coroutine ≠ some c))
    (hstate : ∀ c', c' ≠ c → pool'.state c' = s.pool.state c')
    (hended : b.isEnded = (pool'.state c).ended)
    (hcb : ∀ c', (pool'.workers 0).cb_coroutine = some c' → c' ≠ c →
      s.worker.cb_coroutine = some c')
    (hkind : ∀ c', (pool'.workers 0).cb_coroutine = some c' → ∃ k, c' = .callback k)
    (huser : ∀ n, c = .user n → b ≠ .fresh none)
    (hspare : ∀ c', (pool'.workers 0).cb_coroutine = some c' →
      (∀ cb, (pool'.workers 0).pc.hand ≠ some (c', cb)) →
        Function.update s.body c b c' = .fresh none)
    (hgiven : ∀ k < pool'.nextCallback, (pool'.workers 0).cb_coroutine ≠ some (.callback k) →
      (Function.update s.body c b (.callback k)).isFresh = false)
    (hplace : (single.effect s l).PlaceOk (pool'.workers 0).pc) : Sound (single.effect s l) := by
  have hq : (single.effect s l).queue = s.queue := hqueue.trans (List.append_nil _)
  have hb : (single.effect s l).body = Function.update s.body c b := hbody
  have hr : (single.effect s l).resets = l.resetsAfter s := rfl
  have hpool' : (single.effect s l).pool = pool' := heff
  have hw : (single.effect s l).worker = pool'.workers 0 := congrArg (fun p => p.workers 0) heff
  have hother : ∀ c', c' ≠ c → (single.effect s l).body c' = s.body c' := by
    intro c' hne
    rw [hb, Function.update_of_ne hne]
  have hself : (single.effect s l).body c = b := by rw [hb, Function.update_self]
  refine ⟨hpool, ?_, ?_, ?_, ?_, ?_, ?_, ?_, ?_⟩
  · rw [hq, hpool', hcos]
    exact h.queue
  · intro e he c' hc'
    rw [hq] at he
    rw [hr]
    by_cases hne : c' = c
    · subst hne
      obtain ⟨h1, h2, h3⟩ := hentries e he hc'
      refine ⟨(h.entries e he c' hc').1.trans h1.symm, fun hf => ?_, fun he' => ?_⟩
      · rw [hself, h2] at hf
        cases hf
      · rw [hself] at he'
        rw [hw]
        exact h3 he'
    · obtain ⟨h1, h2, h3⟩ := h.entries e he c' hc'
      refine ⟨h1.trans (hresets c' hne).symm, fun hf => h2 (hother c' hne ▸ hf), fun he' hc => ?_⟩
      rw [hw] at hc
      exact h3 (hother c' hne ▸ he') (hcb c' hc hne)
  · rw [hw]
    exact hplace
  · intro c'
    rw [hpool']
    by_cases hne : c' = c
    · rw [hne, hself, hended]
    · rw [hother c' hne, hstate c' hne]
      exact h.ended c'
  · rw [hw]
    exact hkind
  · intro n
    by_cases hne : Cor.user n = c
    · rw [hne, hself]
      exact huser n hne.symm
    · rw [hother _ hne]
      exact h.user n
  · rw [hw, hb]
    exact hspare
  · rw [hw, hb, hpool']
    exact hgiven

theorem Sound.switchIn (h : Sound s) (hl : (Act.switchIn 0 c cb).guard 1 s.pool) :
    Sound (single.effect s (.switchIn 0 c cb)) := by
  have hp := (hl.at_place rfl).2
  obtain ⟨hhand, hnot, hnull⟩ := h.at_place hp
  obtain ⟨f, hbody⟩ : ∃ f, (Act.switchIn 0 c cb).bodyAfter s = Function.update s.body c (.started f) := by
    simp only [Act.bodyAfter]
    cases hb : s.body c with
    | fresh o =>
      cases o with
      | none => exact absurd hb hnull
      | some f => exact ⟨f, rfl⟩
    | started f =>
      have hself : Function.update s.body c (.started f) = s.body := by
        rw [← hb, Function.update_eq_self]
      exact ⟨f, hself.symm⟩
    | ended =>
      rw [hb] at hnot
      cases hnot
  refine h.rebody (h.pool.effect _ hl (fun t ht => (by cases ht))) rfl rfl
    hbody (fun c' _ => rfl) rfl (fun e he hc => ⟨rfl, rfl, fun he' => (by cases he')⟩)
    (fun c' _ => rfl) ((h.not_ended hnot).symm) (fun c' hc _ => hc) h.kind
    (fun n _ hf => (by cases hf)) ?_ ?_ ?_
  · intro c' hc hno
    have hne : c' ≠ c := fun he => hno cb (by rw [he]; rfl)
    rw [Function.update_of_ne hne]
    exact h.spare c' hc (hand_kept hp rfl c' hno)
  · intro k hk hno
    by_cases hne : Cor.callback k = c
    · rw [hne, Function.update_self]
      rfl
    · rw [Function.update_of_ne hne]
      exact h.given k hk hno
  · show ((Act.switchIn 0 c cb).bodyAfter s c).isStarted = true
    rw [hbody, Function.update_self]
    rfl

theorem Sound.finish {ok : Bool} (h : Sound s) (hl : (Act.finish 0 c cb ok).guard 1 s.pool)
    (hcond : Unreferenced s (.finish 0 c cb ok)) : Sound (single.effect s (.finish 0 c cb ok)) := by
  have hp := (hl.at_place rfl).2
  have hflag := (h.pool.worker 0).flag c cb (by
    rw [show (s.pool.workers 0).pc = .running c cb from hp]
    rfl)
  refine h.rebody (b := .ended) (h.pool.effect _ hl (fun t ht => (by cases ht))) rfl
    rfl rfl (fun c' _ => rfl) rfl ?_
    (fun c' hne => Function.update_of_ne hne _ _) ?_ (fun c' hc _ => hc) h.kind
    (fun n _ hf => (by cases hf)) ?_ ?_ ?_
  · refine fun e he hc => ⟨rfl, rfl, fun _ hcb => ?_⟩
    obtain rfl : cb = true := hflag.mpr hcb
    have hall := hcond.2 c rfl
    have hin : e.1 ∈ s.pool.coroutines := by
      rw [← h.queue]
      exact List.mem_map_of_mem he
    have hne := List.all_eq_true.mp hall e.1 hin
    rw [CoroutineObject.unrelated, hc] at hne
    exact of_decide_eq_true hne rfl
  · show true = (Function.update s.pool.state c (if ok then .TERM else .EXCEPTION) c).ended
    rw [Function.update_self]
    cases ok <;> rfl
  · intro c' hc hno
    have hne : c' ≠ c := fun he => hno cb (by rw [he]; rfl)
    rw [Function.update_of_ne hne]
    exact h.spare c' hc (hand_kept hp rfl c' hno)
  · intro k hk hno
    by_cases hne : Cor.callback k = c
    · rw [hne, Function.update_self]
      rfl
    · rw [Function.update_of_ne hne]
      exact h.given k hk hno
  · show (Function.update s.body c .ended c).isFresh = false
    rw [Function.update_self]
    rfl

theorem Sound.resetCallback (h : Sound s) (hl : (Act.resetCallback 0 c).guard 1 s.pool) :
    Sound (single.effect s (.resetCallback 0 c)) := by
  have hp := (hl.at_place rfl).2
  have hpw : (s.pool.workers 0).pc = .resetting c := hp
  have hcb : s.worker.cb_coroutine = some c :=
    ((h.pool.worker 0).flag c true (by rw [hpw]; rfl)).mp rfl
  have hbody : (s.body c).isEnded = true := h.at_place hp
  refine h.rebody (b := .fresh none) (h.pool.effect _ hl (fun t ht => (by cases ht)))
    (if_pos (.inr ((h.pool.worker 0).resetting c hpw))) rfl rfl
    (fun c' hne => Function.update_of_ne hne _ _) rfl ?_
    (fun c' hne => Function.update_of_ne hne _ _) ?_ (fun c' hc _ => hc) h.kind ?_ ?_ ?_ trivial
  · exact fun e he hc => absurd hcb ((h.entries e he c hc).2.2 hbody)
  · show false = (Function.update s.pool.state c .INIT c).ended
    rw [Function.update_self]
    rfl
  · rintro n rfl
    obtain ⟨k, hk⟩ := h.kind _ hcb
    cases hk
  · intro c' hc _
    obtain rfl := Option.some.inj (hcb.symm.trans hc)
    exact Function.update_self _ _ _
  · intro k hk hno
    have hne : Cor.callback k ≠ c := fun he => hno (he ▸ hcb)
    rw [Function.update_of_ne hne]
    exact h.given k hk hno

theorem target_fresh (s : Single F) (f : F) :
    s.resets s.target + 1 = Function.update s.resets s.target (s.resets s.target + 1) s.target
    ∧ (Function.update s.body s.target (.fresh (some f)) s.target).isEnded = false
    ∧ Function.update s.body s.target (.fresh (some f)) s.target ≠ .fresh none := by
  rw [Function.update_self, Function.update_self]
  exact ⟨rfl, rfl, fun hf => by cases hf⟩

/-- the callback is put on the coroutine that the worker has spare -/
theorem Sound.takeSpare (h : Sound s) {f : F} (hl : (Act.takeCallback 0 f).guard 1 s.pool)
    (hcb : s.worker.cb_coroutine = some c) : Sound (single.effect s (.takeCallback 0 f)) := by
  have hp := (hl.at_place rfl).2
  have hpw : s.worker.pc = .dequeued (some (.cb f)) := hp
  have hnone : ∀ cb, s.worker.pc.hand ≠ some (c, cb) := by
    intro cb hc
    rw [hpw] at hc
    cases hc
  have htarget : s.target = c := by
    rw [target, hcb]
  have hinit : s.pool.state c = .INIT := (h.pool.worker 0).spare c hcb hnone
  have hfresh : s.body c = .fresh none := h.spare c hcb hnone
  have heff : (Act.takeCallback 0 f).effect s.pool
      = (s.pool.setState c .INIT).goto 0 (.swapIn c true) := by
    have hcb : (s.pool.workers 0).cb_coroutine = some c := hcb
    simp only [Act.effect, Pool.prepare, hcb]
    exact if_pos (.inl hinit)
  refine h.rebody (b := .fresh (some f)) (h.pool.effect _ hl (fun t ht => (by cases ht))) heff rfl ?_
    ?_ rfl ?_ (fun c' hne => Function.update_of_ne hne _ _) ?_ (fun c' hc _ => hc) h.kind
    (fun n _ hf => (by cases hf)) ?_ ?_ ?_
  · simp only [Act.bodyAfter, htarget]
  · intro c' hne
    simp only [Act.resetsAfter, htarget]
    exact Function.update_of_ne hne _ _
  · intro e he hc
    obtain ⟨n, rfl⟩ := (h.entries e he c hc).2.1 (by rw [hfresh]; rfl)
    obtain ⟨k, hk⟩ := h.kind _ hcb
    cases hk
  · show false = (Function.update s.pool.state c .INIT c).ended
    rw [Function.update_self]
    rfl
  · intro c' hc hno
    obtain rfl := Option.some.inj (hcb.symm.trans hc)
    exact absurd rfl (hno true)
  · intro k hk hno
    have hne : Cor.callback k ≠ c := fun he => hno (he ▸ hcb)
    rw [Function.update_of_ne hne]
    exact h.given k hk hno
  · exact htarget ▸ target_fresh s f

/-- the worker makes a coroutine for the callback -/
theorem Sound.takeNew (h : Sound s) {f : F} (hl : (Act.takeCallback 0 f).guard 1 s.pool)
    (hcb : s.worker.cb_coroutine = none) : Sound (single.effect s (.takeCallback 0 f)) := by
  have hp := (hl.at_place rfl).2
  have htarget : s.target = .callback s.pool.nextCallback := by
    rw [target, hcb]
  have heff : (Act.takeCallback 0 f).effect s.pool
      = { (s.pool.setState (.callback s.pool.nextCallback) .INIT).setWorker 0
            { s.pool.workers 0 with
              pc := .swapIn (.callback s.pool.nextCallback) true
              cb_coroutine := some (.callback s.pool.nextCallback) } with
          nextCallback := s.pool.nextCallback + 1 } := by
    have hcb : (s.pool.workers 0).cb_coroutine = none := hcb
    simp only [Act.effect, Pool.prepare, hcb]
  refine h.rebody (c := .callback s.pool.nextCallback) (b := .fresh (some f))
    (h.pool.effect _ hl (fun t ht => (by cases ht))) heff rfl ?_ ?_ rfl ?_
    (fun c' hne => Function.update_of_ne hne _ _) ?_ ?_ ?_ (fun n hn => (by cases hn)) ?_ ?_ ?_
  · simp only [Act.bodyAfter, htarget]
  · intro c' hne
    simp only [Act.resetsAfter, htarget]
    exact Function.update_of_ne hne _ _
  · intro e he hc
    have hin : e.1 ∈ s.pool.coroutines := by
      rw [← h.queue]
      exact List.mem_map_of_mem he
    have hknown := h.pool.queued e.1 hin
    rw [hc] at hknown
    exact absurd (of_decide_eq_true hknown) (Nat.lt_irrefl _)
  · show false = (Function.update s.pool.state _ .INIT _).ended
    rw [Function.update_self]
    rfl
  · intro c' hc hne
    exact absurd (Option.some.inj hc).symm hne
  · intro c' hc
    exact ⟨_, (Option.some.inj hc).symm⟩
  · intro c' hc hno
    obtain rfl : Cor.callback s.pool.nextCallback = c' := Option.some.inj hc
    exact absurd rfl (hno true)
  · intro k hk hno
    have hne : Cor.callback k ≠ .callback s.pool.nextCallback := fun he => hno (congrArg some he.symm)
    have hk : k < s.pool.nextCallback + 1 := hk
    have hlt : k ≠ s.pool.nextCallback := fun he => hne (congrArg Cor.callback he)
    rw [Function.update_of_ne hne]
    refine h.given k (by omega) ?_
    rw [hcb]
    exact fun hc => (by cases hc)
  · exact htarget ▸ target_fresh s f

theorem Sound.idle (h : Sound s) {l : Act F} {pool' : Pool F} (hpool : Exclusive 1 (l.effect s.pool))
    (hcond : Unreferenced s l)
    (hkeep : l.queueAfter s = s.queue ++ (l.puts s.pool).map s.tagged ∧ l.bodyAfter s = s.body ∧
      l.resetsAfter s = s.resets ∧ l.handAfter s = s.hand)
    (heff : l.effect s.pool = pool')
    (hsame : pool'.coroutines = s.pool.coroutines ++ l.puts s.pool ∧
      pool'.nextCallback = s.pool.nextCallback ∧ pool'.state = s.pool.state ∧
      (pool'.workers 0).cb_coroutine = s.worker.cb_coroutine)
    (hp : s.pool.pc 0 = p) (hhand : p.hand = none) (hq : (pool'.workers 0).pc.hand = none)
    (hplace : s.PlaceOk (pool'.workers 0).pc) : Sound (single.effect s l) := by
  obtain ⟨hcos, hnext, hstate, hcb⟩ := hsame
  refine h.walk hpool hcond hkeep heff ⟨hcos, hnext⟩ rfl ?_ (fun c => by rw [hstate]) ?_ hplace
  · rw [hcb]
    exact .refl s
  · exact fun c _ => hand_kept hp (hq.trans hhand.symm) c

theorem Sound.call (h : Sound s) {l : Act F} (hpool : Exclusive 1 (l.effect s.pool))
    (hcond : Unreferenced s l)
    (hkeep : l.queueAfter s = s.queue ++ (l.puts s.pool).map s.tagged ∧ l.bodyAfter s = s.body ∧
      l.resetsAfter s = s.resets ∧ l.handAfter s = s.hand)
    (hcos : (l.effect s.pool).coroutines = s.pool.coroutines ++ l.puts s.pool)
    (hsame : (l.effect s.pool).nextCallback = s.pool.nextCallback ∧
      (l.effect s.pool).state = s.pool.state ∧ (l.effect s.pool).workers = s.pool.workers) :
    Sound (single.effect s l) := by
  obtain ⟨hnext, hstate, hw⟩ := hsame
  refine h.walk hpool hcond hkeep rfl ⟨hcos, hnext⟩ (q := s.worker.pc) (by rw [hw]; rfl) ?_
    (fun c => by rw [hstate]) (fun c _ => hand_kept rfl rfl c) h.place
  rw [hw]
  exact .refl s

end

/-- **Every step that meets the condition keeps what the queue and the worker refer to.** -/
theorem Sound.effect (h : Sound s) {l : Act F} (hl : l.guard 1 s.pool) (hcond : Unreferenced s l) :
    Sound (single.effect s l) := by
  have hzero : ∀ {i : Nat} {p : Pc F}, l.place = some (i, p) → i = 0 ∧ s.pool.pc 0 = p := by
    intro i p hplace
    obtain ⟨hi, hp⟩ := hl.at_place hplace
    obtain rfl : i = 0 := by omega
    exact ⟨rfl, hp⟩
  have hpool : l.takes s.pool = none → Exclusive 1 (l.effect s.pool) := by
    intro hnone
    refine h.pool.effect l hl fun t ht => ?_
    rw [hnone] at ht
    cases ht
  cases l with
  | dequeue i =>
    obtain ⟨rfl, hp⟩ := hzero rfl
    exact h.dequeue hl
  | testState i c =>
    obtain ⟨rfl, hp⟩ := hzero rfl
    exact h.testState hl hcond
  | discard i =>
    obtain ⟨rfl, hp⟩ := hzero rfl
    exact h.idle (hpool rfl) hcond ⟨rfl, rfl, rfl, rfl⟩ rfl
      ⟨(List.append_nil _).symm, rfl, rfl, rfl⟩ hp rfl rfl trivial
  | takeCallback i f =>
    obtain ⟨rfl, hp⟩ := hzero rfl
    cases hcb : s.worker.cb_coroutine with
    | some c => exact h.takeSpare hl hcb
    | none => exact h.takeNew hl hcb
  | assertState i c cb =>
    obtain ⟨rfl, hp⟩ := hzero rfl
    exact h.assertState hl hcond
  | setExec i c cb =>
    obtain ⟨rfl, hp⟩ := hzero rfl
    exact h.setExec hl hcond
  | switchIn i c cb =>
    obtain ⟨rfl, hp⟩ := hzero rfl
    exact h.switchIn hl
  | yieldToReady i c cb =>
    obtain ⟨rfl, hp⟩ := hzero rfl
    exact h.yieldToReady hl hcond
  | yieldToHold i c cb =>
    obtain ⟨rfl, hp⟩ := hzero rfl
    exact h.yieldToHold hl hcond
  | finish i c cb ok =>
    obtain ⟨rfl, hp⟩ := hzero rfl
    exact h.finish hl hcond
  | switchOut i c cb =>
    obtain ⟨rfl, hp⟩ := hzero rfl
    exact h.walk (hpool rfl) hcond ⟨rfl, rfl, rfl, rfl⟩ rfl ⟨(List.append_nil _).symm, rfl⟩
      (q := .returned c cb) rfl (.refl s) (fun _ => rfl) (fun c' _ => hand_kept hp rfl c')
      (show s.PlaceOk (.leaving c cb) from h.at_place hp)
  | count i c cb =>
    obtain ⟨rfl, hp⟩ := hzero rfl
    exact h.walk (hpool rfl) hcond ⟨rfl, rfl, rfl, rfl⟩ rfl ⟨(List.append_nil _).symm, rfl⟩
      (q := .counted c cb) rfl (.refl s) (fun _ => rfl) (fun c' _ => hand_kept hp rfl c')
      (show s.PlaceOk (.returned c cb) from h.at_place hp)
  | inspect i c cb =>
    obtain ⟨rfl, hp⟩ := hzero rfl
    exact h.inspect hl hcond
  | requeue i c cb =>
    obtain ⟨rfl, hp⟩ := hzero rfl
    exact h.requeue hl hcond
  | resetCallback i c =>
    obtain ⟨rfl, hp⟩ := hzero rfl
    exact h.resetCallback hl
  | setHold i c cb =>
    obtain ⟨rfl, hp⟩ := hzero rfl
    exact h.setHold hl hcond
  | idleIn i =>
    obtain ⟨rfl, hp⟩ := hzero rfl
    have hex := hpool rfl
    by_cases hterm : s.worker.idle_coroutine = .TERM
    · exact h.idle hex hcond ⟨rfl, rfl, rfl, rfl⟩ (if_pos hterm)
        ⟨(List.append_nil _).symm, rfl, rfl, rfl⟩ hp rfl rfl trivial
    · have hne : s.worker.idle_coroutine ≠ .EXEC := by
        intro hexec
        obtain ⟨q, hq⟩ := (h.pool.worker 0).idle hexec
        rw [show (s.pool.workers 0).pc = _ from hp] at hq
        cases hq
      exact h.idle hex hcond ⟨rfl, rfl, rfl, rfl⟩ ((if_neg hterm).trans (if_neg hne))
        ⟨(List.append_nil _).symm, rfl, rfl, rfl⟩ hp rfl rfl trivial
  | readPending i =>
    obtain ⟨rfl, hp⟩ := hzero rfl
    exact h.idle (hpool rfl) hcond ⟨rfl, rfl, rfl, rfl⟩ rfl
      ⟨(List.append_nil _).symm, rfl, rfl, rfl⟩ hp rfl rfl trivial
  | readTimers i events =>
    obtain ⟨rfl, hp⟩ := hzero rfl
    exact h.idle (hpool rfl) hcond ⟨rfl, rfl, rfl, rfl⟩ rfl
      ⟨(List.append_nil _).symm, rfl, rfl, rfl⟩ hp rfl rfl trivial
  | schedulerStopping i events timers =>
    obtain ⟨rfl, hp⟩ := hzero rfl
    by_cases hstop : s.pool.schedulerStopping = true
    · exact h.idle (hpool rfl) hcond ⟨rfl, rfl, rfl, rfl⟩ (if_pos hstop)
        ⟨(List.append_nil _).symm, rfl, rfl, rfl⟩ hp rfl rfl trivial
    · exact h.idle (hpool rfl) hcond ⟨rfl, rfl, rfl, rfl⟩ (if_neg hstop)
        ⟨(List.append_nil _).symm, rfl, rfl, rfl⟩ hp rfl rfl trivial
  | listExpiredCb i expired =>
    obtain ⟨rfl, hp⟩ := hzero rfl
    exact h.idle (hpool rfl) hcond ⟨rfl, rfl, rfl, rfl⟩ rfl
      ⟨(List.append_nil _).symm, rfl, rfl, rfl⟩ hp rfl rfl trivial
  | scheduleExpired i cbs =>
    obtain ⟨rfl, hp⟩ := hzero rfl
    exact h.idle (hpool rfl) hcond ⟨rfl, rfl, rfl, rfl⟩ rfl ⟨rfl, rfl, rfl, rfl⟩ hp rfl rfl trivial
  | dispatch i k =>
    obtain ⟨rfl, hp⟩ := hzero rfl
    have hex := hpool rfl
    have hk : k < s.pool.registered.length := of_decide_eq_true hl.2.2
    have hget := List.getElem?_eq_getElem hk
    have hputs : (Act.dispatch 0 k).puts s.pool = [⟨s.pool.registered[k], none⟩] := by
      simp only [Act.puts, hget, Option.toList_some, List.map_cons, List.map_nil]
    have heff : (Act.dispatch 0 k).effect s.pool
        = { (s.pool.push [⟨s.pool.registered[k], none⟩]).goto 0 (.idle .decrementing) with
          registered := s.pool.registered.eraseIdx k } := by
      simp only [Act.effect, hget]
    exact h.idle hex hcond ⟨rfl, rfl, rfl, rfl⟩ heff ⟨by rw [hputs]; rfl, rfl, rfl, rfl⟩ hp rfl rfl
      trivial
  | decrement i =>
    obtain ⟨rfl, hp⟩ := hzero rfl
    exact h.idle (hpool rfl) hcond ⟨rfl, rfl, rfl, rfl⟩ rfl
      ⟨(List.append_nil _).symm, rfl, rfl, rfl⟩ hp rfl rfl trivial
  | idleOut i =>
    obtain ⟨rfl, hp⟩ := hzero rfl
    exact h.idle (hpool rfl) hcond ⟨rfl, rfl, rfl, rfl⟩ rfl
      ⟨(List.append_nil _).symm, rfl, rfl, rfl⟩ hp rfl rfl trivial
  | schedule caller co =>
    exact h.call (hpool rfl) hcond ⟨rfl, rfl, rfl, rfl⟩ rfl ⟨rfl, rfl, rfl⟩
  | addEvent caller t =>
    exact h.call (hpool rfl) hcond ⟨rfl, rfl, rfl, rfl⟩ (List.append_nil _).symm ⟨rfl, rfl, rfl⟩
  | addTimer caller t =>
    exact h.call (hpool rfl) hcond ⟨rfl, rfl, rfl, rfl⟩ (List.append_nil _).symm ⟨rfl, rfl, rfl⟩
  | setAutoStop =>
    exact h.call (hpool rfl) hcond ⟨rfl, rfl, rfl, rfl⟩ (List.append_nil _).symm ⟨rfl, rfl, rfl⟩
  | setStopping =>
    exact h.call (hpool rfl) hcond ⟨rfl, rfl, rfl, rfl⟩ (List.append_nil _).symm ⟨rfl, rfl, rfl⟩

theorem Sound.swaps (h : Sound s) {l : Act F} (hl : l.guard 1 s.pool) :
    ∀ w ∈ l.swaps s, w.Fits := by
  intro w hw
  cases l with
  | switchIn i c cb =>
    obtain ⟨hi, hp⟩ := hl.at_place rfl
    obtain rfl : i = 0 := by omega
    obtain ⟨hhand, hnot, hnull⟩ := h.at_place hp
    rw [Act.swaps, List.mem_singleton] at hw
    subst hw
    refine ⟨decide_eq_false fun hne => hne hhand, hnot, fun hfresh => ?_⟩
    show ∃ f, s.body c = .fresh (some f)
    cases hb : s.body c with
    | fresh o =>
      cases o with
      | none => exact absurd hb hnull
      | some f => exact ⟨f, rfl⟩
    | started f =>
      rw [show (SwapIn.mk (s.body c) _).body = s.body c from rfl, hb] at hfresh
      cases hfresh
    | ended =>
      rw [hb] at hnot
      cases hnot
  | _ => cases hw

/-! ## what becomes of the callbacks -/

def pending (s : Single F) : List F := s.worker.pc.pending s.body

theorem waiting_of_live {c : Cor} (h : s.Live c) : Pc.pending.waiting s.body c = [] := by
  cases c with
  | user n => rfl
  | callback k =>
    rw [Pc.pending.waiting]
    split
    · rename_i f hf
      obtain ⟨n, hn⟩ := h.1 (by rw [hf]; rfl)
      cases hn
    · rfl

theorem pending_eq (hp : s.pool.pc 0 = p) : s.pending = p.pending s.body := by
  rw [pending, show s.worker.pc = p from hp]

theorem pending_dequeue (hl : (Act.dequeue 0).guard 1 s.pool) :
    callbacks (((Act.dequeue 0).taken s.pool).toList.map Prod.snd) ++ s.pending
      = (single.effect s (.dequeue 0)).pending := by
  rw [pending_eq (hl.at_place rfl).2]
  rcases dequeueFrom_find 0 s.pool.state s.pool.coroutines with
    ⟨hd, hf⟩ | ⟨before, co, after, _, hd, hf⟩
  · have heff : (Act.dequeue 0).effect s.pool = s.pool.goto 0 (.dequeued none) := by
      simp only [Act.effect, hd]
    have hpc : (single.effect s (.dequeue 0)).pool.pc 0 = .dequeued none :=
      congrArg (fun p => p.pc 0) heff
    rw [pending_eq hpc, Act.taken, hf]
    rfl
  · have hpc : (single.effect s (.dequeue 0)).pool.pc 0 = .dequeued (some co.task) := by
      show ((Act.dequeue 0).effect s.pool).pc 0 = _
      simp only [Act.effect, hd]
      rfl
    rw [pending_eq hpc, Act.taken, hf]
    obtain ⟨t, threadId⟩ := co
    cases t <;> rfl

theorem pending_takeCallback (h : Sound s) {f : F} (hl : (Act.takeCallback 0 f).guard 1 s.pool) :
    s.pending = (single.effect s (.takeCallback 0 f)).pending := by
  have hp := (hl.at_place rfl).2
  have hpc : (single.effect s (.takeCallback 0 f)).pool.pc 0 = .swapIn s.target true := by
    show (s.pool.prepare 0).pc 0 = _
    unfold Pool.prepare target
    cases hcb : s.worker.cb_coroutine with
    | some c =>
      have hinit : s.pool.state c = .INIT := (h.pool.worker 0).spare c hcb fun cb hc => by
        rw [show (s.pool.workers 0).pc = _ from hp] at hc
        cases hc
      rw [show (s.pool.workers 0).cb_coroutine = some c from hcb]
      dsimp only
      rw [if_pos (.inl hinit)]
      rfl
    | none =>
      rw [show (s.pool.workers 0).cb_coroutine = none from hcb]
      rfl
  obtain ⟨k, hk⟩ : ∃ k, s.target = .callback k := by
    unfold target
    cases hcb : s.worker.cb_coroutine with
    | some c => exact h.kind c hcb
    | none => exact ⟨_, rfl⟩
  have hbody : (single.effect s (.takeCallback 0 f)).body (.callback k) = .fresh (some f) := by
    show Function.update s.body s.target (.fresh (some f)) (.callback k) = _
    rw [hk, Function.update_self]
  rw [pending_eq hp, pending_eq hpc, hk]
  show [f] = Pc.pending.waiting _ (.callback k)
  rw [Pc.pending.waiting, hbody]

theorem pending_none {l : Act F} {pool' : Pool F} (heff : l.effect s.pool = pool')
    (hp : s.pool.pc 0 = p) (hnone : ∀ body : Cor → Body F, p.pending body = [])
    (hnone' : ∀ body : Cor → Body F, (pool'.pc 0).pending body = []) :
    s.pending = (single.effect s l).pending := by
  have hpc : (single.effect s l).pool.pc 0 = pool'.pc 0 := congrArg (fun p => p.pc 0) heff
  rw [pending_eq hp, pending_eq hpc, hnone, hnone']

/-- **What the worker takes it has in hand until it enters it.** -/
theorem pending_effect (h : Sound s) {l : Act F} (hl : l.guard 1 s.pool) :
    callbacks ((l.taken s.pool).toList.map Prod.snd) ++ s.pending
      = (single.effect s l).pending ++ l.enters s := by
  have hzero : ∀ {i : Nat} {p : Pc F}, l.place = some (i, p) → i = 0 ∧ s.pool.pc 0 = p := by
    intro i p hplace
    obtain ⟨hi, hp⟩ := hl.at_place hplace
    obtain rfl : i = 0 := by omega
    exact ⟨rfl, hp⟩
  have hquiet : l.taken s.pool = none → l.enters s = [] →
      s.pending = (single.effect s l).pending →
      callbacks ((l.taken s.pool).toList.map Prod.snd) ++ s.pending
        = (single.effect s l).pending ++ l.enters s := by
    intro htaken henters heq
    rw [htaken, henters, ← heq, List.append_nil]
    rfl
  cases l with
  | dequeue i =>
    obtain ⟨rfl, hp⟩ := hzero rfl
    exact (pending_dequeue hl).trans (List.append_nil _).symm
  | testState i c =>
    obtain ⟨rfl, hp⟩ := hzero rfl
    refine hquiet rfl rfl ?_
    have hlive : s.Live c := (h.at_place hp).2
    rw [pending_eq hp]
    by_cases hended : (s.pool.state c).ended = true
    · have heff : (Act.testState 0 c).effect s.pool = s.pool.goto 0 .discarding := if_pos hended
      have hpc : (single.effect s (.testState 0 c)).pool.pc 0 = .discarding :=
        congrArg (fun p => p.pc 0) heff
      rw [pending_eq hpc]
      rfl
    · have heff : (Act.testState 0 c).effect s.pool = s.pool.goto 0 (.swapIn c false) :=
        if_neg hended
      have hpc : (single.effect s (.testState 0 c)).pool.pc 0 = .swapIn c false :=
        congrArg (fun p => p.pc 0) heff
      rw [pending_eq hpc]
      exact (waiting_of_live hlive).symm
  | takeCallback i f =>
    obtain ⟨rfl, hp⟩ := hzero rfl
    exact hquiet rfl rfl (pending_takeCallback h hl)
  | assertState i c cb =>
    obtain ⟨rfl, hp⟩ := hzero rfl
    have hpc : (single.effect s (.assertState 0 c cb)).pool.pc 0 = .entered c cb ∨
        (single.effect s (.assertState 0 c cb)).pool.pc 0 = .swapIn c cb := by
      show ((Act.assertState 0 c cb).effect s.pool).pc 0 = _ ∨
        ((Act.assertState 0 c cb).effect s.pool).pc 0 = _
      unfold Act.effect
      dsimp only
      split
      · exact .inr hp
      · exact .inl rfl
    refine hquiet rfl rfl ?_
    rcases hpc with hpc | hpc
    · rw [pending_eq hp, pending_eq hpc]
      rfl
    · rw [pending_eq hp, pending_eq hpc]
      rfl
  | setExec i c cb =>
    obtain ⟨rfl, hp⟩ := hzero rfl
    refine hquiet rfl rfl ?_
    rw [pending_eq hp]
    rfl
  | switchIn i c cb =>
    obtain ⟨rfl, hp⟩ := hzero rfl
    rw [pending_eq hp]
    rfl
  | discard i =>
    obtain ⟨rfl, hp⟩ := hzero rfl
    exact hquiet rfl rfl (pending_none rfl hp (fun _ => rfl) fun _ => rfl)
  | yieldToReady i c cb =>
    obtain ⟨rfl, hp⟩ := hzero rfl
    exact hquiet rfl rfl (pending_none (if_pos (h.pool.exec_of_running hp)) hp (fun _ => rfl)
      fun _ => rfl)
  | yieldToHold i c cb =>
    obtain ⟨rfl, hp⟩ := hzero rfl
    exact hquiet rfl rfl (pending_none (if_pos (h.pool.exec_of_running hp)) hp (fun _ => rfl)
      fun _ => rfl)
  | finish i c cb ok =>
    obtain ⟨rfl, hp⟩ := hzero rfl
    exact hquiet rfl rfl (pending_none rfl hp (fun _ => rfl) fun _ => rfl)
  | switchOut i c cb =>
    obtain ⟨rfl, hp⟩ := hzero rfl
    exact hquiet rfl rfl (pending_none rfl hp (fun _ => rfl) fun _ => rfl)
  | count i c cb =>
    obtain ⟨rfl, hp⟩ := hzero rfl
    exact hquiet rfl rfl (pending_none rfl hp (fun _ => rfl) fun _ => rfl)
  | inspect i c cb =>
    obtain ⟨rfl, hp⟩ := hzero rfl
    refine hquiet rfl rfl (pending_none rfl hp (fun _ => rfl) fun body => ?_)
    unfold Act.effect
    dsimp only
    split
    · rfl
    split
    · cases cb <;> rfl
    · rfl
  | requeue i c cb =>
    obtain ⟨rfl, hp⟩ := hzero rfl
    exact hquiet rfl rfl (pending_none rfl hp (fun _ => rfl) fun _ => rfl)
  | resetCallback i c =>
    obtain ⟨rfl, hp⟩ := hzero rfl
    refine hquiet rfl rfl (pending_none rfl hp (fun _ => rfl) fun body => ?_)
    unfold Act.effect
    dsimp only
    split
    · rfl
    · rw [show ({ s.pool with fault := some Fault.resetState } : Pool F).pc 0 = _ from hp]
      rfl
  | setHold i c cb =>
    obtain ⟨rfl, hp⟩ := hzero rfl
    exact hquiet rfl rfl (pending_none rfl hp (fun _ => rfl) fun _ => rfl)
  | idleIn i =>
    obtain ⟨rfl, hp⟩ := hzero rfl
    refine hquiet rfl rfl (pending_none rfl hp (fun _ => rfl) fun body => ?_)
    unfold Act.effect
    dsimp only
    split
    · rfl
    split
    · rw [show ({ s.pool with fault := some Fault.swapInExec } : Pool F).pc 0 = _ from hp]
      rfl
    · rfl
  | readPending i =>
    obtain ⟨rfl, hp⟩ := hzero rfl
    exact hquiet rfl rfl (pending_none rfl hp (fun _ => rfl) fun _ => rfl)
  | readTimers i events =>
    obtain ⟨rfl, hp⟩ := hzero rfl
    exact hquiet rfl rfl (pending_none rfl hp (fun _ => rfl) fun _ => rfl)
  | schedulerStopping i events timers =>
    obtain ⟨rfl, hp⟩ := hzero rfl
    refine hquiet rfl rfl (pending_none rfl hp (fun _ => rfl) fun body => ?_)
    unfold Act.effect
    dsimp only
    split <;> rfl
  | listExpiredCb i expired =>
    obtain ⟨rfl, hp⟩ := hzero rfl
    exact hquiet rfl rfl (pending_none rfl hp (fun _ => rfl) fun _ => rfl)
  | scheduleExpired i cbs =>
    obtain ⟨rfl, hp⟩ := hzero rfl
    exact hquiet rfl rfl (pending_none rfl hp (fun _ => rfl) fun _ => rfl)
  | dispatch i k =>
    obtain ⟨rfl, hp⟩ := hzero rfl
    refine hquiet rfl rfl (pending_none rfl hp (fun _ => rfl) fun body => ?_)
    unfold Act.effect
    dsimp only
    split
    · rw [hp]
      rfl
    · rfl
  | decrement i =>
    obtain ⟨rfl, hp⟩ := hzero rfl
    exact hquiet rfl rfl (pending_none rfl hp (fun _ => rfl) fun _ => rfl)
  | idleOut i =>
    obtain ⟨rfl, hp⟩ := hzero rfl
    exact hquiet rfl rfl (pending_none rfl hp (fun _ => rfl) fun _ => rfl)
  | schedule caller co => exact hquiet rfl rfl rfl
  | addEvent caller t => exact hquiet rfl rfl rfl
  | addTimer caller t => exact hquiet rfl rfl rfl
  | setAutoStop => exact hquiet rfl rfl rfl
  | setStopping => exact hquiet rfl rfl rfl

theorem callbacks_append (as bs : List (CoroutineObject F)) :
    callbacks (as ++ bs) = callbacks as ++ callbacks bs := List.filterMap_append

/-- every callback that was put into the queue waits there, or in the hand of the worker, or was
entered -/
def Kept (s : Single F) : Prop :=
  s.put.Perm (callbacks s.pool.coroutines ++ (s.pending ++ s.entered))

theorem Kept.effect (hk : Kept s) (h : Sound s) {l : Act F} (hl : l.guard 1 s.pool) :
    Kept (single.effect s l) := by
  have hcos : (callbacks s.pool.coroutines ++ callbacks (l.puts s.pool)).Perm
      (callbacks ((l.taken s.pool).toList.map Prod.snd)
        ++ callbacks (l.effect s.pool).coroutines) := by
    rw [← callbacks_append, ← callbacks_append]
    exact (coroutines_effect s.pool l).filterMap _
  have hhand := pending_effect h hl
  classical
  rw [Kept, List.perm_iff_count] at hk ⊢
  intro f
  have hk := hk f
  have hcos := List.perm_iff_count.mp hcos f
  have hhand := congrArg (List.count f) hhand
  show (s.put ++ callbacks (l.puts s.pool)).count f = (callbacks (l.effect s.pool).coroutines
    ++ ((single.effect s l).pending ++ (l.enters s ++ s.entered))).count f
  simp only [List.count_append] at hk hcos hhand ⊢
  omega

end Single

/-- **No assertion fails, the worker swaps in only a body that has not ended, has a callback and is
the one that was scheduled, and every scheduled callback is entered once or still waits, in every run
in which the queue does not refer to a coroutine that is reset.** -/
theorem single_run (user : Nat → F) (ls : List (Act F))
    (h : (single.meeting Unreferenced).Allowed (Single.start user) ls) :
    let s := single.after (Single.start user) ls
    s.pool.fault = none ∧ (∀ w ∈ s.swapped, w.Fits) ∧
      s.put.Perm (callbacks s.pool.coroutines ++ (s.pending ++ s.entered)) := by
  intro s
  have hs : Single.Sound s ∧ (∀ w ∈ s.swapped, w.Fits) ∧ Single.Kept s := by
    have hrun := h.inv (I := fun s => Single.Sound s ∧ (∀ w ∈ s.swapped, w.Fits) ∧ Single.Kept s)
      ?_ ⟨.start user, fun w hw => (by cases hw), .refl _⟩
    · rw [Machine.meeting_after] at hrun
      exact hrun
    · rintro s l ⟨hsound, hswapped, hkept⟩ ⟨⟨hl, _⟩, hcond⟩
      refine ⟨hsound.effect hl hcond, ?_, hkept.effect hsound hl⟩
      intro w hw
      rcases List.mem_append.mp hw with hw | hw
      · exact hswapped w hw
      · exact hsound.swaps hl w hw
  exact ⟨hs.1.pool.noFault, hs.2⟩

/-- a callback that schedules its own coroutine, yields, and ends when it is resumed -/
theorem single_run_resumed :
    let s := single.after (Single.start id)
      [.schedule none ⟨.cb 7, none⟩, .dequeue 0, .takeCallback 0 7,
        .assertState 0 (.callback 0) true, .setExec 0 (.callback 0) true,
        .switchIn 0 (.callback 0) true, .schedule (some 0) ⟨.coroutine (.callback 0), none⟩,
        .yieldToHold 0 (.callback 0) true, .switchOut 0 (.callback 0) true,
        .count 0 (.callback 0) true, .inspect 0 (.callback 0) true, .setHold 0 (.callback 0) true,
        .dequeue 0, .testState 0 (.callback 0), .assertState 0 (.callback 0) false,
        .setExec 0 (.callback 0) false, .switchIn 0 (.callback 0) false,
        .finish 0 (.callback 0) false true]
    s.pool.fault = none ∧ (∀ w ∈ s.swapped, w.Fits) ∧
      s.put.Perm (callbacks s.pool.coroutines ++ (s.pending ++ s.entered)) :=
  single_run id _ (by decide)

/-- **A callback that schedules its own coroutine and returns: the worker enters an empty callback.**
-/
theorem empty_callback : ¬ ∀ (user : Nat → Nat) (ls : List (Act Nat)),
    single.Allowed (Single.start user) ls →
    let s := single.after (Single.start user) ls
    s.pool.fault = none ∧ (∀ w ∈ s.swapped, w.Fits) ∧
      s.put.Perm (callbacks s.pool.coroutines ++ (s.pending ++ s.entered)) := by
  intro h
  have hrun := (h id [.schedule none ⟨.cb 7, none⟩, .dequeue 0, .takeCallback 0 7,
    .assertState 0 (.callback 0) true, .setExec 0 (.callback 0) true,
    .switchIn 0 (.callback 0) true, .schedule (some 0) ⟨.coroutine (.callback 0), none⟩,
    .finish 0 (.callback 0) true true, .switchOut 0 (.callback 0) true,
    .count 0 (.callback 0) true, .inspect 0 (.callback 0) true, .resetCallback 0 (.callback 0),
    .dequeue 0, .testState 0 (.callback 0), .assertState 0 (.callback 0) false,
    .setExec 0 (.callback 0) false, .switchIn 0 (.callback 0) false] (by decide)).2.1
    ⟨.fresh none, true⟩ (by decide)
  cases hrun.1

end Scheduler
end KitServer
