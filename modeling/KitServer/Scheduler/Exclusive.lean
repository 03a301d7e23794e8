import KitServer.Scheduler.Pool

/-!
# One worker at a time in a coroutine

A worker has a coroutine from the locked section that takes it out of the queue until `run` is
through with it, and its `cb_coroutine` in between.

* `WorkerOk`, `Exclusive`   what holds of a worker, and of the pool;
* `Exclusive.move`          a step of one worker that touches no coroutine of another one;
* `exclusive_run`           every run in which no worker takes a coroutine that a worker has;
* `taken_twice`             a coroutine that is in the queue twice.
-/

set_option linter.unusedVariables false

namespace KitServer
namespace Scheduler
open IOManager (Task)
variable {F : Type}

/-- the coroutine that the worker has in hand, and whether it is its `cb_coroutine` -/
def Pc.hand : Pc F → Option (Cor × Bool)
  | .dequeued (some (.coroutine c)) => some (c, false)
  | .swapIn c cb => some (c, cb)
  | .entered c cb => some (c, cb)
  | .switching c cb => some (c, cb)
  | .running c cb => some (c, cb)
  | .leaving c cb => some (c, cb)
  | .returned c cb => some (c, cb)
  | .counted c cb => some (c, cb)
  | .requeueing c cb => some (c, cb)
  | .resetting c => some (c, true)
  | .holding c cb => some (c, cb)
  | _ => none

/-- the coroutine between the begin of `swapIn` and the end of `swapOut` -/
def Pc.inside : Pc F → Option Cor
  | .swapIn c _ => some c
  | .entered c _ => some c
  | .switching c _ => some c
  | .running c _ => some c
  | .leaving c _ => some c
  | _ => none

/-- the coroutine between the assignment of EXEC and the first yield -/
def Pc.awake : Pc F → Option Cor
  | .switching c _ => some c
  | .running c _ => some c
  | _ => none

/-- the coroutine whose state may be EXEC -/
def Pc.executing : Pc F → Option Cor
  | .switching c _ => some c
  | .running c _ => some c
  | .leaving c _ => some c
  | .returned c _ => some c
  | .counted c _ => some c
  | .holding c _ => some c
  | _ => none

def Worker.has (w : Worker F) (c : Cor) : Prop :=
  (∃ cb, w.pc.hand = some (c, cb)) ∨ w.cb_coroutine = some c

instance (w : Worker F) (c : Cor) : Decidable (w.has c) :=
  decidable_of_iff (w.pc.hand = some (c, true) ∨ w.pc.hand = some (c, false) ∨
      w.cb_coroutine = some c) <| by
    rw [Worker.has, Bool.exists_bool]
    tauto

def Pool.free (n : Nat) (s : Pool F) : Task Cor F → Prop
  | .coroutine c => ∀ j < n, ¬ (s.workers j).has c
  | .cb _ => True

instance Pool.decidableFree (n : Nat) (s : Pool F) : ∀ t : Task Cor F, Decidable (s.free n t)
  | .coroutine c => inferInstanceAs (Decidable (∀ j < n, ¬ (s.workers j).has c))
  | .cb _ => .isTrue trivial

/-- what the step takes from the queue -/
def Act.takes (s : Pool F) : Act F → Option (Task Cor F)
  | .dequeue i => (dequeueFrom i s.state s.coroutines).map Prod.fst
  | _ => none

/-- no worker takes a coroutine from the queue that a worker has -/
def TakenOnce (n : Nat) (s : Pool F) (l : Act F) : Prop := ∀ t ∈ l.takes s, s.free n t

instance TakenOnce.decidable (n : Nat) (s : Pool F) (l : Act F) : Decidable (TakenOnce n s l) :=
  inferInstanceAs (Decidable (∀ t ∈ l.takes s, s.free n t))

theorem Pc.hand_of_inside {p : Pc F} {c : Cor} (h : p.inside = some c) :
    ∃ cb, p.hand = some (c, cb) := by
  cases p <;> cases h <;> exact ⟨_, rfl⟩

theorem Pc.hand_of_executing {p : Pc F} {c : Cor} (h : p.executing = some c) :
    ∃ cb, p.hand = some (c, cb) := by
  cases p <;> cases h <;> exact ⟨_, rfl⟩

theorem Pc.executing_of_awake {p : Pc F} {c : Cor} (h : p.awake = some c) :
    p.executing = some c := by
  cases p <;> cases h <;> rfl

/-- a worker, against the states of the coroutines that it has -/
structure WorkerOk (state : Cor → State) (w : Worker F) : Prop where
  awake : ∀ c, w.pc.awake = some c → state c = .EXEC
  spare : ∀ c, w.cb_coroutine = some c → (∀ cb, w.pc.hand ≠ some (c, cb)) → state c = .INIT
  flag : ∀ c cb, w.pc.hand = some (c, cb) → (cb = true ↔ w.cb_coroutine = some c)
  resetting : ∀ c, w.pc = .resetting c → (state c).ended = true
  idle : w.idle_coroutine = .EXEC → ∃ p, w.pc = .idle p

structure Exclusive (n : Nat) (s : Pool F) : Prop where
  noFault : s.fault = none
  own : ∀ i j c, (s.workers i).has c → (s.workers j).has c → i = j
  exec : ∀ c, s.state c = .EXEC → ∃ i, (s.pc i).executing = some c
  worker : ∀ i, WorkerOk s.state (s.workers i)
  beyond : ∀ i c, n ≤ i → ¬ (s.workers i).has c
  fresh : ∀ i k, (s.workers i).has (.callback k) → k < s.nextCallback
  queued : ∀ co ∈ s.coroutines, s.known co.task = true
  registered : ∀ t ∈ s.registered, s.known t = true

theorem WorkerOk.congr {state state' : Cor → State} {w : Worker F} (h : WorkerOk state w)
    (hs : ∀ c, w.has c → state' c = state c) : WorkerOk state' w where
  awake := by
    intro c hc
    rw [hs c (.inl (Pc.hand_of_executing (Pc.executing_of_awake hc)))]
    exact h.awake c hc
  spare := by
    intro c hc hno
    rw [hs c (.inr hc)]
    exact h.spare c hc hno
  flag := h.flag
  resetting := by
    intro c hc
    rw [hs c (.inl ⟨true, by rw [hc]; rfl⟩)]
    exact h.resetting c hc
  idle := h.idle

theorem Exclusive.start (n : Nat) : Exclusive n (Pool.start : Pool F) := by
  have hno : ∀ i c, ¬ ((Pool.start : Pool F).workers i).has c := by
    rintro i c (⟨cb, h⟩ | h) <;> cases h
  refine ⟨rfl, fun i j c h => absurd h (hno i c), fun c h => (by cases h), fun i => ?_,
    fun i c _ => hno i c, fun i k h => absurd h (hno i _), fun _ h => (by cases h),
    fun _ h => (by cases h)⟩
  exact ⟨fun c h => (by cases h), fun c h => (by cases h), fun c cb h => (by cases h),
    fun c h => (by cases h), fun h => (by cases h)⟩

section
variable {n : Nat} {s s' : Pool F} {i : Nat} {w : Worker F}

/-- what the pool has besides the workers and the states still names coroutines that were made -/
structure Shared (s s' : Pool F) : Prop where
  noFault : s'.fault = none
  next : s.nextCallback ≤ s'.nextCallback
  queued : ∀ co ∈ s'.coroutines, s'.known co.task = true
  registered : ∀ t ∈ s'.registered, s'.known t = true

/-- **A step of the worker `i` that changes no state of a coroutine of another worker, and takes
none of them.** -/
theorem Exclusive.move (h : Exclusive n s) (hi : i < n) (hw : s'.workers = Function.update s.workers i w)
    (hshared : Shared s s')
    (hothers : ∀ j, j ≠ i → ∀ c, (s.workers j).has c → s'.state c = s.state c ∧ ¬ w.has c)
    (hok : WorkerOk s'.state w)
    (hexec : ∀ c, s'.state c = .EXEC → w.pc.executing = some c ∨
      (s.state c = .EXEC ∧ (s.pc i).executing ≠ some c))
    (hfresh : ∀ k, w.has (.callback k) → k < s'.nextCallback) : Exclusive n s' := by
  have hself : s'.workers i = w := by rw [hw, Function.update_self]
  have hsame : ∀ j, j ≠ i → s'.workers j = s.workers j := by
    intro j hj
    rw [hw, Function.update_of_ne hj]
  refine ⟨hshared.noFault, ?_, ?_, ?_, ?_, ?_, hshared.queued, hshared.registered⟩
  · intro j k c hj hk
    by_cases hji : j = i
    · by_cases hki : k = i
      · rw [hji, hki]
      · rw [hji, hself] at hj
        rw [hsame k hki] at hk
        exact absurd hj (hothers k hki c hk).2
    · by_cases hki : k = i
      · rw [hki, hself] at hk
        rw [hsame j hji] at hj
        exact absurd hk (hothers j hji c hj).2
      · rw [hsame j hji] at hj
        rw [hsame k hki] at hk
        exact h.own j k c hj hk
  · intro c hc
    rcases hexec c hc with hnow | ⟨hold, hnot⟩
    · exact ⟨i, by rw [Pool.pc, hself]; exact hnow⟩
    · obtain ⟨j, hj⟩ := h.exec c hold
      have hji : j ≠ i := fun hji => hnot (hji ▸ hj)
      exact ⟨j, by rw [Pool.pc, hsame j hji]; exact hj⟩
  · intro j
    by_cases hji : j = i
    · rw [hji, hself]
      exact hok
    · rw [hsame j hji]
      exact (h.worker j).congr fun c hc => (hothers j hji c hc).1
  · intro j c hj
    rw [hsame j (by omega)]
    exact h.beyond j c hj
  · intro j k hk
    by_cases hji : j = i
    · rw [hji, hself] at hk
      exact hfresh k hk
    · rw [hsame j hji] at hk
      exact Nat.lt_of_lt_of_le (h.fresh j k hk) hshared.next

theorem known_congr (hn : s'.nextCallback = s.nextCallback) (t : Task Cor F) :
    s'.known t = s.known t := by
  cases t with
  | cb f => rfl
  | coroutine c =>
    cases c with
    | user k => rfl
    | callback k =>
      show decide (k < s'.nextCallback) = decide (k < s.nextCallback)
      rw [hn]

theorem Exclusive.shared (h : Exclusive n s) (hf : s'.fault = none)
    (hn : s'.nextCallback = s.nextCallback) (hc : ∀ co ∈ s'.coroutines, co ∈ s.coroutines)
    (hr : ∀ t ∈ s'.registered, t ∈ s.registered) : Shared s s' := by
  have hknown : ∀ t : Task Cor F, s.known t = true → s'.known t = true := by
    intro t ht
    rw [known_congr hn]
    exact ht
  exact ⟨hf, Nat.le_of_eq hn.symm, fun co hco => hknown _ (h.queued co (hc co hco)),
    fun t ht => hknown _ (h.registered t (hr t ht))⟩

theorem Exclusive.keep (h : Exclusive n s) (hi : i < n)
    (hw : s'.workers = Function.update s.workers i w) (hst : s'.state = s.state)
    (hshared : Shared s s') (hhas : ∀ c, w.has c → (s.workers i).has c)
    (hok : WorkerOk s.state w)
    (hexec : ∀ c, s.state c = .EXEC → (s.pc i).executing = some c → w.pc.executing = some c) :
    Exclusive n s' := by
  refine h.move hi hw hshared ?_ (by rw [hst]; exact hok) ?_ ?_
  · intro j hj c hc
    exact ⟨by rw [hst], fun hwc => hj (h.own j i c hc (hhas c hwc))⟩
  · intro c hc
    rw [hst] at hc
    by_cases he : (s.pc i).executing = some c
    · exact .inl (hexec c hc he)
    · exact .inr ⟨hc, he⟩
  · exact fun k hk => Nat.lt_of_lt_of_le (h.fresh i k (hhas _ hk)) hshared.next

theorem Exclusive.assign (h : Exclusive n s) (hi : i < n)
    (hw : s'.workers = Function.update s.workers i w) {c : Cor} {st : State}
    (hst : s'.state = Function.update s.state c st) (hshared : Shared s s')
    (hc : (s.workers i).has c) (hhas : ∀ c, w.has c → (s.workers i).has c)
    (hok : WorkerOk s'.state w) (hexec : st = .EXEC → w.pc.executing = some c)
    (honly : ∀ c', (s.pc i).executing = some c' → c' = c) : Exclusive n s' := by
  have hother : ∀ c', c' ≠ c → s'.state c' = s.state c' := by
    intro c' hne
    rw [hst, Function.update_of_ne hne]
  refine h.move hi hw hshared ?_ hok ?_ ?_
  · intro j hj c' hc'
    refine ⟨hother c' ?_, fun hwc => hj (h.own j i c' hc' (hhas c' hwc))⟩
    rintro rfl
    exact hj (h.own j i c' hc' hc)
  · intro c' hc'
    by_cases hne : c' = c
    · subst hne
      rw [hst, Function.update_self] at hc'
      exact .inl (hexec hc')
    · rw [hother c' hne] at hc'
      exact .inr ⟨hc', fun he => hne (honly c' he)⟩
  · exact fun k hk => Nat.lt_of_lt_of_le (h.fresh i k (hhas _ hk)) hshared.next

/-- the worker goes on to the place `p`, with the coroutine it has in hand, or without it when that
is not its `cb_coroutine` -/
theorem WorkerOk.goto {state : Cor → State} (h : WorkerOk state w) {p : Pc F}
    (hhand : p.hand = w.pc.hand ∨ (p.hand = none ∧ ∀ c, w.pc.hand ≠ some (c, true)))
    (hawake : ∀ c, p.awake = some c → state c = .EXEC)
    (hreset : ∀ c, p = .resetting c → (state c).ended = true)
    (hidle : w.idle_coroutine = .EXEC → ∃ q, p = .idle q) : WorkerOk state { w with pc := p } where
  awake := hawake
  spare := by
    intro c hc hno
    refine h.spare c hc fun cb hcb => ?_
    rcases hhand with hsame | ⟨_, hfalse⟩
    · exact hno cb (hsame.trans hcb)
    · cases cb with
      | true => exact hfalse c hcb
      | false => exact Bool.false_ne_true ((h.flag c false hcb).mpr hc)
  flag := by
    intro c cb hcb
    rcases hhand with hsame | ⟨hnone, _⟩
    · exact h.flag c cb (hsame ▸ hcb)
    · rw [show (({ w with pc := p } : Worker F).pc).hand = none from hnone] at hcb
      cases hcb
  resetting := hreset
  idle := hidle

theorem Exclusive.goto (h : Exclusive n s) (hi : i < n) {p : Pc F}
    (hw : s'.workers = (s.goto i p).workers) (hst : s'.state = s.state) (hshared : Shared s s')
    (hhand : p.hand = (s.pc i).hand ∨ (p.hand = none ∧ ∀ c, (s.pc i).hand ≠ some (c, true)))
    (hawake : ∀ c, p.awake = some c → s.state c = .EXEC)
    (hreset : ∀ c, p = .resetting c → (s.state c).ended = true)
    (hidle : (s.workers i).idle_coroutine = .EXEC → ∃ q, p = .idle q)
    (hexec : ∀ c, s.state c = .EXEC → (s.pc i).executing = some c → p.executing = some c) :
    Exclusive n s' := by
  refine h.keep hi hw hst hshared ?_ ((h.worker i).goto hhand hawake hreset hidle) hexec
  rintro c (⟨cb, hc⟩ | hc)
  · rcases hhand with hsame | ⟨hnone, _⟩
    · exact .inl ⟨cb, hsame ▸ hc⟩
    · have hc : p.hand = some (c, cb) := hc
      rw [hnone] at hc
      cases hc
  · exact .inr hc

theorem Exclusive.not_idle (h : Exclusive n s) {p : Pc F} (hp : s.pc i = p)
    (hno : ∀ q, p ≠ .idle q) {q : Pc F} (he : (s.workers i).idle_coroutine = .EXEC) :
    ∃ r, q = .idle r := by
  obtain ⟨r, hr⟩ := (h.worker i).idle he
  exact absurd (hp.symm.trans hr) (hno r)

theorem Exclusive.executing_of_has (h : Exclusive n s) {c : Cor} (hc : (s.workers i).has c)
    (he : s.state c = .EXEC) : (s.pc i).executing = some c := by
  obtain ⟨j, hj⟩ := h.exec c he
  obtain rfl := h.own j i c (.inl (Pc.hand_of_executing hj)) hc
  exact hj

theorem Exclusive.has_of_hand (h : Exclusive n s) {p : Pc F} (hp : s.pc i = p) {c : Cor} {cb : Bool}
    (hh : p.hand = some (c, cb)) : (s.workers i).has c :=
  .inl ⟨cb, by rw [show (s.workers i).pc = p from hp]; exact hh⟩

theorem Exclusive.not_exec (h : Exclusive n s) {p : Pc F} (hp : s.pc i = p) {c : Cor} {cb : Bool}
    (hh : p.hand = some (c, cb)) (hno : p.executing ≠ some c) : s.state c ≠ .EXEC := by
  intro he
  have hexec := h.executing_of_has (h.has_of_hand hp hh) he
  rw [hp] at hexec
  exact hno hexec

theorem Exclusive.unshared (h : Exclusive n s) (hf : s'.fault = s.fault)
    (hn : s'.nextCallback = s.nextCallback) (hc : s'.coroutines = s.coroutines)
    (hr : s'.registered = s.registered) : Shared s s' :=
  h.shared (hf.trans h.noFault) hn (fun _ hco => hc ▸ hco) (fun _ ht => hr ▸ ht)

theorem Exclusive.walk (h : Exclusive n s) (hi : i < n) {p q : Pc F} (hp : s.pc i = p)
    (hnidle : ∀ r, p ≠ .idle r) (hw : s'.workers = (s.goto i q).workers) (hst : s'.state = s.state)
    (hshared : Shared s s') (hhand : q.hand = p.hand)
    (hawake : ∀ c, q.awake = some c → s.state c = .EXEC)
    (hreset : ∀ c, q = .resetting c → (s.state c).ended = true)
    (hexec : ∀ c, s.state c = .EXEC → p.executing = some c → q.executing = some c) :
    Exclusive n s' :=
  h.goto hi hw hst hshared (.inl (hp ▸ hhand)) hawake hreset (h.not_idle hp hnidle)
    (fun c hc he => hexec c hc (hp ▸ he))

theorem Exclusive.drop (h : Exclusive n s) (hi : i < n) {p q : Pc F} (hp : s.pc i = p)
    (hnidle : ∀ r, p ≠ .idle r) (hw : s'.workers = (s.goto i q).workers) (hst : s'.state = s.state)
    (hshared : Shared s s') (hhand : ∀ c, p.hand ≠ some (c, true)) (hq : q.hand = none)
    (hreset : ∀ c, q ≠ .resetting c)
    (hexec : ∀ c, s.state c = .EXEC → p.executing ≠ some c) : Exclusive n s' := by
  have hqa : ∀ c, q.awake ≠ some c := by
    intro c hc
    obtain ⟨cb, hcb⟩ := Pc.hand_of_executing (Pc.executing_of_awake hc)
    rw [hq] at hcb
    cases hcb
  exact h.goto hi hw hst hshared (.inr ⟨hq, fun c => hp ▸ hhand c⟩) (fun c hc => absurd hc (hqa c))
    (fun c hc => absurd hc (hreset c)) (h.not_idle hp hnidle)
    (fun c hc he => absurd (hp ▸ he) (hexec c hc))

theorem Exclusive.idle (h : Exclusive n s) (hi : i < n) {p q : IdlePc F} (hp : s.pc i = .idle p)
    (hw : s'.workers = (s.goto i (.idle q)).workers) (hst : s'.state = s.state)
    (hshared : Shared s s') : Exclusive n s' :=
  h.goto hi hw hst hshared (.inl (by rw [hp]; rfl)) (fun c hc => (by cases hc))
    (fun c hc => (by cases hc)) (fun _ => ⟨q, rfl⟩) (fun c _ he => by rw [hp] at he; cases he)

theorem Exclusive.loop (h : Exclusive n s) (hi : i < n) {p : IdlePc F} (hp : s.pc i = .idle p)
    (st : State) (hne : st ≠ .EXEC)
    (hw : s'.workers = (s.setWorker i { s.workers i with pc := .looping, idle_coroutine := st }).workers)
    (hst : s'.state = s.state) (hshared : Shared s s') : Exclusive n s' := by
  have hok := h.worker i
  have hnone : ∀ c cb, (s.workers i).pc.hand ≠ some (c, cb) := by
    intro c cb
    rw [show (s.workers i).pc = _ from hp]
    exact fun hc => (by cases hc)
  refine h.keep hi hw hst hshared ?_ ?_ fun c _ he => by rw [hp] at he; cases he
  · rintro c (⟨cb, hc⟩ | hc)
    · cases hc
    · exact .inr hc
  · exact ⟨fun c hc => (by cases hc), fun c hc _ => hok.spare c hc (hnone c), fun c cb hc => (by cases hc),
      fun c hc => (by cases hc), fun he => absurd he hne⟩

theorem Exclusive.call (h : Exclusive n s) (hw : s'.workers = s.workers) (hst : s'.state = s.state)
    (hn : s'.nextCallback = s.nextCallback) (hshared : Shared s s') : Exclusive n s' := by
  refine ⟨hshared.noFault, ?_, ?_, ?_, ?_, ?_, hshared.queued, hshared.registered⟩
  · rw [hw]
    exact h.own
  · rw [hst]
    intro c hc
    obtain ⟨i, hi⟩ := h.exec c hc
    exact ⟨i, by rw [Pool.pc, hw]; exact hi⟩
  · rw [hw, hst]
    exact h.worker
  · rw [hw]
    exact h.beyond
  · rw [hw, hn]
    exact h.fresh

theorem Exclusive.pushed (h : Exclusive n s) {cos : List (CoroutineObject F)} (hf : s'.fault = none)
    (hn : s'.nextCallback = s.nextCallback) (hcos : ∀ co ∈ cos, s.known co.task = true)
    (hc : s'.coroutines = s.coroutines ++ cos) (hr : ∀ t ∈ s'.registered, t ∈ s.registered) :
    Shared s s' := by
  refine ⟨hf, Nat.le_of_eq hn.symm, ?_, fun t ht => (known_congr hn t).trans (h.registered t (hr t ht))⟩
  intro co hco
  rw [hc] at hco
  rw [known_congr hn]
  rcases List.mem_append.mp hco with hco | hco
  · exact h.queued co hco
  · exact hcos co hco

/-! ## the steps of `run` -/

/-- an assignment to the state of the coroutine in hand, which stays in hand -/
theorem Exclusive.set (h : Exclusive n s) (hi : i < n) {p : Pc F} (hp : s.pc i = p) (q : Pc F)
    (st : State) (hnidle : ∀ r, p ≠ .idle r) {c : Cor} {cb : Bool} (hpc : p.hand = some (c, cb))
    (hqc : q.hand = some (c, cb)) (hawake : q.awake = some c → st = .EXEC)
    (hreset : ∀ c, q ≠ .resetting c) (hexec : st = .EXEC → q.executing = some c)
    (hw : s'.workers = (s.goto i q).workers) (hst : s'.state = Function.update s.state c st)
    (hshared : Shared s s') : Exclusive n s' := by
  have honly : ∀ (r : Pc F) (c' : Cor), r.hand = some (c, cb) → r.executing = some c' → c' = c := by
    intro r c' hr he
    obtain ⟨cb', hh⟩ := Pc.hand_of_executing he
    rw [hr] at hh
    exact (Prod.mk.inj (Option.some.inj hh)).1.symm
  have hok := h.worker i
  have hpw : (s.workers i).pc = p := hp
  refine h.assign hi hw hst hshared (h.has_of_hand hp hpc) ?_ ?_ hexec ?_
  · rintro c' (⟨cb', hc'⟩ | hc')
    · have hc' : q.hand = some (c', cb') := hc'
      exact .inl ⟨cb', by rw [hpw, hpc, ← hqc]; exact hc'⟩
    · exact .inr hc'
  · refine ⟨?_, ?_, ?_, fun c' hc' => absurd hc' (hreset c'), h.not_idle hp hnidle⟩
    · intro c' hc'
      obtain rfl := honly q c' hqc (Pc.executing_of_awake hc')
      rw [hst, Function.update_self]
      exact hawake hc'
    · intro c' hc' hno
      have hne : c' ≠ c := fun he => hno cb (by rw [he]; exact hqc)
      rw [hst, Function.update_of_ne hne]
      refine hok.spare c' hc' fun cb' hcb' => ?_
      rw [hpw, hpc] at hcb'
      exact hne (Prod.mk.inj (Option.some.inj hcb')).1.symm
    · intro c' cb' hc'
      exact hok.flag c' cb' (by rw [hpw, hpc, ← hqc]; exact hc')
  · exact fun c' he => honly p c' hpc (hp ▸ he)

theorem Exclusive.dequeue (h : Exclusive n s) (hi : i < n) (hp : s.pc i = .looping)
    (hc : TakenOnce n s (.dequeue i)) : Exclusive n ((Act.dequeue i).effect s) := by
  have hok := h.worker i
  have hpw : (s.workers i).pc = .looping := hp
  unfold Act.effect
  dsimp only
  cases hd : dequeueFrom i s.state s.coroutines with
  | none =>
    exact h.walk hi hp (fun r hr => (by cases hr)) rfl rfl (h.unshared rfl rfl rfl rfl) rfl (fun c hc => (by cases hc))
      (fun c hc => (by cases hc)) (fun c _ he => (by cases he))
  | some r =>
    obtain ⟨t, rest⟩ := r
    obtain ⟨⟨co, hin, hco⟩, hsub, hrun⟩ := dequeueFrom_some hd
    have hshared : Shared s { s.goto i (.dequeued (some t)) with
        coroutines := rest, activeThreadCount := s.activeThreadCount + 1 } :=
      h.shared h.noFault rfl hsub fun _ hr => hr
    cases t with
    | cb f =>
      exact h.walk hi hp (fun r hr => (by cases hr)) rfl rfl hshared rfl (fun c hc => (by cases hc))
        (fun c hc => (by cases hc)) (fun c _ he => (by cases he))
    | coroutine c =>
      have hfree : ∀ j, ¬ (s.workers j).has c := by
        intro j
        by_cases hj : j < n
        · exact hc (.coroutine c) (by rw [Act.takes, hd]; rfl) j hj
        · exact h.beyond j c (by omega)
      refine h.move hi rfl hshared ?_ ?_ ?_ ?_
      · intro j hj c' hc'
        refine ⟨rfl, ?_⟩
        rintro (⟨cb, he⟩ | he)
        · obtain ⟨rfl, _⟩ := Prod.mk.inj (Option.some.inj he)
          exact hfree j hc'
        · exact hj (h.own j i c' hc' (.inr he))
      · refine ⟨fun c' hc' => (by cases hc'), ?_, ?_, fun c' hc' => (by cases hc'),
          h.not_idle hp fun r hr => (by cases hr)⟩
        · exact fun c' hc' _ => hok.spare c' hc' fun cb hcb => by rw [hpw] at hcb; cases hcb
        · intro c' cb he
          obtain ⟨rfl, rfl⟩ := Prod.mk.inj (Option.some.inj he)
          exact ⟨fun hf => (by cases hf), fun he => absurd (.inr he) (hfree i)⟩
      · intro c' hc'
        exact .inr ⟨hc', fun he => by rw [hp] at he; cases he⟩
      · rintro k (⟨cb, he⟩ | he)
        · obtain ⟨rfl, _⟩ := Prod.mk.inj (Option.some.inj he)
          have hknown := h.queued co hin
          rw [hco] at hknown
          exact of_decide_eq_true hknown
        · exact h.fresh i k (.inr he)

theorem Exclusive.takeCallback (h : Exclusive n s) (hi : i < n) {f : F}
    (hp : s.pc i = .dequeued (some (.cb f))) : Exclusive n (s.prepare i) := by
  have hok := h.worker i
  have hpw : (s.workers i).pc = .dequeued (some (.cb f)) := hp
  have hnone : ∀ c cb, (s.workers i).pc.hand ≠ some (c, cb) := by
    intro c cb hc
    rw [hpw] at hc
    cases hc
  unfold Pool.prepare
  cases hcb : (s.workers i).cb_coroutine with
  | some c =>
    have hinit : s.state c = .INIT := hok.spare c hcb (hnone c)
    dsimp only
    rw [if_pos (.inl hinit)]
    refine h.assign hi rfl rfl ?_ (.inr hcb) ?_ ?_ (fun he => (by cases he)) ?_
    · exact h.unshared rfl rfl rfl rfl
    · rintro c' (⟨cb, he⟩ | he)
      · obtain ⟨rfl, _⟩ := Prod.mk.inj (Option.some.inj he)
        exact .inr hcb
      · exact .inr he
    · refine ⟨fun c' hc' => (by cases hc'), ?_, ?_, fun c' hc' => (by cases hc'),
        h.not_idle hp fun r hr => (by cases hr)⟩
      · intro c' hc' hno
        obtain rfl : c = c' := Option.some.inj (hcb.symm.trans hc')
        exact absurd rfl (hno true)
      · intro c' cb he
        obtain ⟨rfl, rfl⟩ := Prod.mk.inj (Option.some.inj he)
        exact ⟨fun _ => hcb, fun _ => rfl⟩
    · exact fun c' he => by rw [hp] at he; cases he
  | none =>
    have hfree : ∀ j, ¬ (s.workers j).has (.callback s.nextCallback) :=
      fun j hj => Nat.lt_irrefl _ (h.fresh j _ hj)
    have hknown : ∀ t : Task Cor F, s.known t = true →
        ({ s with nextCallback := s.nextCallback + 1 } : Pool F).known t = true := by
      intro t ht
      cases t with
      | cb f => rfl
      | coroutine c =>
        cases c with
        | user k => rfl
        | callback k => exact decide_eq_true (Nat.lt_succ_of_lt (of_decide_eq_true ht))
    refine h.move hi rfl ⟨h.noFault, Nat.le_succ _, fun co hco => hknown _ (h.queued co hco),
      fun t ht => hknown _ (h.registered t ht)⟩ ?_ ?_ ?_ ?_
    · intro j hj c' hc'
      have hne : c' ≠ .callback s.nextCallback := fun he => hfree j (he ▸ hc')
      refine ⟨Function.update_of_ne hne _ _, ?_⟩
      rintro (⟨cb, he⟩ | he)
      · exact hne (Prod.mk.inj (Option.some.inj he)).1.symm
      · exact hne (Option.some.inj he).symm
    · refine ⟨fun c' hc' => (by cases hc'), ?_, ?_, fun c' hc' => (by cases hc'),
        h.not_idle hp fun r hr => (by cases hr)⟩
      · intro c' hc' hno
        obtain rfl : Cor.callback s.nextCallback = c' := Option.some.inj hc'
        exact absurd rfl (hno true)
      · intro c' cb he
        obtain ⟨rfl, rfl⟩ := Prod.mk.inj (Option.some.inj he)
        exact ⟨fun _ => rfl, fun _ => rfl⟩
    · intro c' hc'
      refine .inr ⟨?_, fun he => by rw [hp] at he; cases he⟩
      have hc' : Function.update s.state (.callback s.nextCallback) .INIT c' = .EXEC := hc'
      by_cases hne : c' = .callback s.nextCallback
      · rw [hne, Function.update_self] at hc'
        cases hc'
      · rw [Function.update_of_ne hne] at hc'
        exact hc'
    · rintro k (⟨cb, he⟩ | he)
      · obtain ⟨he, _⟩ := Prod.mk.inj (Option.some.inj he)
        obtain rfl := Cor.callback.inj he
        exact Nat.lt_succ_self _
      · obtain rfl := Cor.callback.inj (Option.some.inj he)
        exact Nat.lt_succ_self _

/-- the worker gives the coroutine in hand away, with a state other than EXEC -/
theorem Exclusive.release (h : Exclusive n s) (hi : i < n) {p : Pc F} (hp : s.pc i = p)
    (st : State) (hnidle : ∀ r, p ≠ .idle r) {c : Cor} {cb : Bool} (hpc : p.hand = some (c, cb))
    (hne : st ≠ .EXEC) (hw : s'.workers = (s.release i cb).workers)
    (hst : s'.state = Function.update s.state c st) (hshared : Shared s s') : Exclusive n s' := by
  have hok := h.worker i
  have hpw : (s.workers i).pc = p := hp
  have hflag := hok.flag c cb (by rw [hpw]; exact hpc)
  have hspare : ∀ c', (if cb then none else (s.workers i).cb_coroutine) = some c' →
      (s.workers i).cb_coroutine = some c' ∧ c' ≠ c := by
    intro c' hc'
    cases cb with
    | true => cases hc'
    | false =>
      refine ⟨hc', ?_⟩
      rintro rfl
      exact Bool.false_ne_true (hflag.mpr hc')
  refine h.assign hi hw hst hshared (h.has_of_hand hp hpc) ?_ ?_ (fun he => absurd he hne) ?_
  · rintro c' (⟨cb', hc'⟩ | hc')
    · cases hc'
    · exact .inr (hspare c' hc').1
  · refine ⟨fun c' hc' => (by cases hc'), ?_, fun c' cb' hc' => (by cases hc'),
      fun c' hc' => (by cases hc'), h.not_idle hp hnidle⟩
    intro c' hc' _
    obtain ⟨hold, hcc⟩ := hspare c' hc'
    rw [hst, Function.update_of_ne hcc]
    refine hok.spare c' hold fun cb' hcb' => ?_
    rw [hpw, hpc] at hcb'
    exact hcc (Prod.mk.inj (Option.some.inj hcb')).1.symm
  · intro c' he
    obtain ⟨cb', hh⟩ := Pc.hand_of_executing (hp ▸ he)
    rw [hpc] at hh
    exact (Prod.mk.inj (Option.some.inj hh)).1.symm

theorem Exclusive.resetCallback (h : Exclusive n s) (hi : i < n) {c : Cor}
    (hp : s.pc i = .resetting c) : Exclusive n ((Act.resetCallback i c).effect s) := by
  have hok := h.worker i
  have hpw : (s.workers i).pc = .resetting c := hp
  have hended := hok.resetting c hpw
  unfold Act.effect
  dsimp only
  rw [if_pos (.inr hended)]
  refine h.assign hi rfl rfl (h.unshared rfl rfl rfl rfl)
    (h.has_of_hand hp rfl) ?_ ?_ (fun he => (by cases he)) ?_
  · rintro c' (⟨cb', hc'⟩ | hc')
    · cases hc'
    · exact .inr hc'
  · refine ⟨fun c' hc' => (by cases hc'), ?_, fun c' cb' hc' => (by cases hc'),
      fun c' hc' => (by cases hc'), h.not_idle hp fun r hr => (by cases hr)⟩
    intro c' hc' _
    have hcc : c' = c := Option.some.inj
      (hc'.symm.trans ((hok.flag c true (by rw [hpw]; rfl)).mp rfl))
    rw [hcc]
    exact Function.update_self _ _ _
  · exact fun c' he => by rw [hp] at he; cases he

theorem Exclusive.inspect (h : Exclusive n s) (hi : i < n) {c : Cor} {cb : Bool}
    (hp : s.pc i = .counted c cb) : Exclusive n ((Act.inspect i c cb).effect s) := by
  have honly : ∀ c', s.state c' = .EXEC → (Pc.counted c cb : Pc F).executing = some c' →
      s.state c = .EXEC := by
    intro c' hc' he
    obtain rfl : c = c' := Option.some.inj he
    exact hc'
  unfold Act.effect
  dsimp only
  split
  · rename_i hready
    refine h.walk hi hp (fun r hr => (by cases hr)) rfl rfl (h.unshared rfl rfl rfl rfl) rfl (fun c hc => (by cases hc))
      (fun c hc => (by cases hc)) fun c' hc' he => ?_
    rw [honly c' hc' he] at hready
    cases hready
  split
  · rename_i hended
    have hnot : ∀ c', s.state c' = .EXEC → (Pc.counted c cb : Pc F).executing ≠ some c' := by
      intro c' hc' he
      rw [honly c' hc' he] at hended
      cases hended
    cases cb with
    | true =>
      refine h.walk hi hp (fun r hr => (by cases hr)) rfl rfl (h.unshared rfl rfl rfl rfl) rfl
        (fun c hc => (by cases hc)) ?_ fun c' hc' he => absurd he (hnot c' hc')
      intro c' hc'
      obtain rfl := Pc.resetting.inj hc'
      exact hended
    | false =>
      exact h.drop hi hp (fun r hr => (by cases hr)) rfl rfl (h.unshared rfl rfl rfl rfl)
        (fun c' hc' => (by cases hc')) rfl (fun c' hc' => (by cases hc')) hnot
  · exact h.walk hi hp (fun r hr => (by cases hr)) rfl rfl (h.unshared rfl rfl rfl rfl) rfl (fun c hc => (by cases hc))
      (fun c hc => (by cases hc)) fun c' _ he => he

theorem Exclusive.idleIn (h : Exclusive n s) (hi : i < n) (hp : s.pc i = .dequeued none) :
    Exclusive n ((Act.idleIn i).effect s) := by
  have hpw : (s.workers i).pc = .dequeued none := hp
  have hok := h.worker i
  unfold Act.effect
  dsimp only
  split
  · exact h.walk hi hp (fun r hr => (by cases hr)) rfl rfl (h.unshared rfl rfl rfl rfl) rfl (fun c hc => (by cases hc))
      (fun c hc => (by cases hc)) (fun c _ he => (by cases he))
  split
  · rename_i he
    obtain ⟨r, hr⟩ := hok.idle he
    rw [hpw] at hr
    cases hr
  · refine h.keep hi rfl rfl (h.unshared rfl rfl rfl rfl) ?_ ?_ fun c _ he => by rw [hp] at he; cases he
    · rintro c (⟨cb, hc⟩ | hc)
      · cases hc
      · exact .inr hc
    · refine ⟨fun c hc => (by cases hc), fun c hc _ => hok.spare c hc fun cb hcb => ?_,
        fun c cb hc => (by cases hc), fun c hc => (by cases hc), fun _ => ⟨_, rfl⟩⟩
      rw [hpw] at hcb
      cases hcb

theorem Exclusive.exec_of_running (h : Exclusive n s) {c : Cor} {cb : Bool}
    (hp : s.pc i = .running c cb) : s.state c = .EXEC :=
  (h.worker i).awake c (by rw [show (s.workers i).pc = _ from hp]; rfl)

/-- **Every step keeps the invariant, when no worker takes a coroutine that a worker has.** -/
theorem Exclusive.effect (h : Exclusive n s) (l : Act F) (hl : l.guard n s) (hc : TakenOnce n s l) :
    Exclusive n (l.effect s) := by
  cases l with
  | dequeue i =>
    obtain ⟨hi, hp⟩ := hl.at_place rfl
    exact h.dequeue hi hp hc
  | testState i c =>
    obtain ⟨hi, hp⟩ := hl.at_place rfl
    unfold Act.effect
    dsimp only
    split
    · exact h.drop hi hp (fun r hr => (by cases hr)) rfl rfl (h.unshared rfl rfl rfl rfl)
        (fun c' hc' => (by cases hc')) rfl (fun c' hc' => (by cases hc')) (fun c' _ he => (by cases he))
    · exact h.walk hi hp (fun r hr => (by cases hr)) rfl rfl (h.unshared rfl rfl rfl rfl) rfl
        (fun c' hc' => (by cases hc')) (fun c' hc' => (by cases hc')) (fun c' _ he => (by cases he))
  | discard i =>
    obtain ⟨hi, hp⟩ := hl.at_place rfl
    exact h.walk hi hp (fun r hr => (by cases hr)) rfl rfl (h.unshared rfl rfl rfl rfl) rfl
      (fun c' hc' => (by cases hc')) (fun c' hc' => (by cases hc')) (fun c' _ he => (by cases he))
  | takeCallback i f =>
    obtain ⟨hi, hp⟩ := hl.at_place rfl
    exact h.takeCallback hi hp
  | assertState i c cb =>
    obtain ⟨hi, hp⟩ := hl.at_place rfl
    have hne : s.state c ≠ .EXEC := h.not_exec hp rfl fun he => by cases he
    unfold Act.effect
    dsimp only
    rw [if_neg hne]
    exact h.walk hi hp (fun r hr => (by cases hr)) rfl rfl (h.unshared rfl rfl rfl rfl) rfl
      (fun c' hc' => (by cases hc')) (fun c' hc' => (by cases hc')) (fun c' _ he => (by cases he))
  | setExec i c cb =>
    obtain ⟨hi, hp⟩ := hl.at_place rfl
    exact h.set hi hp (.switching c cb) .EXEC (fun r hr => (by cases hr)) rfl rfl (fun _ => rfl)
      (fun c' hc' => (by cases hc')) (fun _ => rfl) rfl rfl (h.unshared rfl rfl rfl rfl)
  | switchIn i c cb =>
    obtain ⟨hi, hp⟩ := hl.at_place rfl
    refine h.walk hi hp (fun r hr => (by cases hr)) rfl rfl (h.unshared rfl rfl rfl rfl) rfl
      (fun c' hc' => ?_) (fun c' hc' => (by cases hc')) (fun c' _ he => he)
    exact (h.worker i).awake c' (by rw [show (s.workers i).pc = _ from hp]; exact hc')
  | yieldToReady i c cb =>
    obtain ⟨hi, hp⟩ := hl.at_place rfl
    unfold Act.effect
    dsimp only
    rw [if_pos (h.exec_of_running hp)]
    exact h.set hi hp (.leaving c cb) .READY (fun r hr => (by cases hr)) rfl rfl (fun he => (by cases he))
      (fun c' hc' => (by cases hc')) (fun he => (by cases he)) rfl rfl (h.unshared rfl rfl rfl rfl)
  | yieldToHold i c cb =>
    obtain ⟨hi, hp⟩ := hl.at_place rfl
    unfold Act.effect
    dsimp only
    rw [if_pos (h.exec_of_running hp)]
    exact h.walk hi hp (fun r hr => (by cases hr)) rfl rfl (h.unshared rfl rfl rfl rfl) rfl
      (fun c' hc' => (by cases hc')) (fun c' hc' => (by cases hc')) (fun c' _ he => he)
  | finish i c cb ok =>
    obtain ⟨hi, hp⟩ := hl.at_place rfl
    exact h.set hi hp (.leaving c cb) (if ok then .TERM else .EXCEPTION) (fun r hr => (by cases hr)) rfl
      rfl (fun he => (by cases he)) (fun c' hc' => (by cases hc')) (fun he => by cases ok <;> cases he) rfl rfl
      (h.unshared rfl rfl rfl rfl)
  | switchOut i c cb =>
    obtain ⟨hi, hp⟩ := hl.at_place rfl
    exact h.walk hi hp (fun r hr => (by cases hr)) rfl rfl (h.unshared rfl rfl rfl rfl) rfl
      (fun c' hc' => (by cases hc')) (fun c' hc' => (by cases hc')) (fun c' _ he => he)
  | count i c cb =>
    obtain ⟨hi, hp⟩ := hl.at_place rfl
    exact h.walk hi hp (fun r hr => (by cases hr)) rfl rfl (h.unshared rfl rfl rfl rfl) rfl
      (fun c' hc' => (by cases hc')) (fun c' hc' => (by cases hc')) (fun c' _ he => he)
  | inspect i c cb =>
    obtain ⟨hi, hp⟩ := hl.at_place rfl
    exact h.inspect hi hp
  | requeue i c cb =>
    obtain ⟨hi, hp⟩ := hl.at_place rfl
    have hne : s.state c ≠ .EXEC := h.not_exec hp rfl fun he => by cases he
    have hknown : s.known (.coroutine c) = true := by
      cases c with
      | user k => rfl
      | callback k => exact decide_eq_true (h.fresh i k (h.has_of_hand hp rfl))
    refine h.release hi hp _ (fun r hr => (by cases hr)) rfl hne rfl (Function.update_eq_self c s.state).symm
      (h.pushed h.noFault rfl ?_ rfl fun _ ht => ht)
    intro co hco
    rw [List.mem_singleton.mp hco]
    exact hknown
  | resetCallback i c =>
    obtain ⟨hi, hp⟩ := hl.at_place rfl
    exact h.resetCallback hi hp
  | setHold i c cb =>
    obtain ⟨hi, hp⟩ := hl.at_place rfl
    exact h.release hi hp .HOLD (fun r hr => (by cases hr)) rfl (fun he => (by cases he)) rfl rfl
      (h.unshared rfl rfl rfl rfl)
  | idleIn i =>
    obtain ⟨hi, hp⟩ := hl.at_place rfl
    exact h.idleIn hi hp
  | readPending i =>
    obtain ⟨hi, hp⟩ := hl.at_place rfl
    exact h.idle hi hp rfl rfl (h.unshared rfl rfl rfl rfl)
  | readTimers i events =>
    obtain ⟨hi, hp⟩ := hl.at_place rfl
    exact h.idle hi hp rfl rfl (h.unshared rfl rfl rfl rfl)
  | schedulerStopping i events timers =>
    obtain ⟨hi, hp⟩ := hl.at_place rfl
    unfold Act.effect
    dsimp only
    split
    · exact h.loop hi hp .TERM (fun he => (by cases he)) rfl rfl (h.unshared rfl rfl rfl rfl)
    · exact h.idle hi hp rfl rfl (h.unshared rfl rfl rfl rfl)
  | listExpiredCb i expired =>
    obtain ⟨hi, hp⟩ := hl.at_place rfl
    exact h.idle hi hp rfl rfl (h.unshared rfl rfl rfl rfl)
  | scheduleExpired i cbs =>
    obtain ⟨hi, hp⟩ := hl.at_place rfl
    refine h.idle hi hp rfl rfl (h.pushed h.noFault rfl ?_ rfl fun _ ht => ht)
    intro co hco
    obtain ⟨f, _, rfl⟩ := List.mem_map.mp hco
    rfl
  | dispatch i k =>
    obtain ⟨hi, hp⟩ := hl.at_place rfl
    unfold Act.effect
    dsimp only
    cases ht : s.registered[k]? with
    | none => exact h
    | some t =>
      refine h.idle hi hp rfl rfl (h.pushed h.noFault rfl ?_ rfl fun t ht => List.mem_of_mem_eraseIdx ht)
      intro co hco
      rw [List.mem_singleton.mp hco]
      exact h.registered t (List.mem_of_getElem? ht)
  | decrement i =>
    obtain ⟨hi, hp⟩ := hl.at_place rfl
    exact h.idle hi hp rfl rfl (h.unshared rfl rfl rfl rfl)
  | idleOut i =>
    obtain ⟨hi, hp⟩ := hl.at_place rfl
    exact h.loop hi hp .HOLD (fun he => (by cases he)) rfl rfl (h.unshared rfl rfl rfl rfl)
  | schedule caller co =>
    refine h.call rfl rfl rfl (h.pushed h.noFault rfl ?_ rfl fun _ ht => ht)
    intro co' hco
    rw [List.mem_singleton.mp hco]
    exact (Bool.and_eq_true_iff.mp hl.2.2).2
  | addEvent caller t =>
    refine h.call rfl rfl rfl ⟨h.noFault, Nat.le_refl _, h.queued, ?_⟩
    intro t' ht
    rcases List.mem_append.mp ht with ht | ht
    · exact h.registered t' ht
    · rw [List.mem_singleton.mp ht]
      exact (Bool.and_eq_true_iff.mp hl.2.2).2
  | addTimer caller t => exact h.call rfl rfl rfl (h.unshared rfl rfl rfl rfl)
  | setAutoStop => exact h.call rfl rfl rfl (h.unshared rfl rfl rfl rfl)
  | setStopping => exact h.call rfl rfl rfl (h.unshared rfl rfl rfl rfl)

end

/-- **In every run in which no worker takes a coroutine from the queue that a worker has, at most one
worker is between the begin of `swapIn` and the end of `swapOut` of a coroutine, and `swapIn` is
called on no coroutine in the state EXEC.** -/
theorem exclusive_run (n : Nat) (ls : List (Act F))
    (h : ((pool n).meeting (TakenOnce n)).Allowed (Pool.start : Pool F) ls) :
    let s := (pool n).after (Pool.start : Pool F) ls
    (∀ i j c, (s.pc i).inside = some c → (s.pc j).inside = some c → i = j) ∧
      s.fault ≠ some .swapInExec := by
  intro s
  have hs : Exclusive n (((pool n).meeting (TakenOnce n)).after (Pool.start : Pool F) ls) :=
    h.inv (fun s l hs hl => hs.effect l hl.1 hl.2) (.start n)
  rw [Machine.meeting_after] at hs
  refine ⟨fun i j c hi hj => ?_, ?_⟩
  · exact hs.own i j c (.inl (Pc.hand_of_inside hi)) (.inl (Pc.hand_of_inside hj))
  · rw [hs.noFault]
    exact fun he => (by cases he)

/-- a coroutine that yields and is taken by another worker, and a callback beside it -/
theorem exclusive_run_yield :
    let s := (pool 2).after (Pool.start : Pool Nat)
      [.schedule none ⟨.coroutine (.user 0), none⟩, .schedule none ⟨.cb 7, some 1⟩, .dequeue 0,
        .testState 0 (.user 0), .dequeue 1, .takeCallback 1 7, .assertState 0 (.user 0) false,
        .setExec 0 (.user 0) false, .switchIn 0 (.user 0) false, .yieldToReady 0 (.user 0) false,
        .switchOut 0 (.user 0) false, .count 0 (.user 0) false, .inspect 0 (.user 0) false,
        .requeue 0 (.user 0) false, .assertState 1 (.callback 0) true]
    (∀ i j c, (s.pc i).inside = some c → (s.pc j).inside = some c → i = j) ∧
      s.fault ≠ some .swapInExec :=
  exclusive_run 2 _ (by decide)

/-- **A coroutine that is in the queue twice is swapped in by two workers.** -/
theorem taken_twice : ¬ ∀ (n : Nat) (ls : List (Act Nat)),
    (pool n).Allowed (Pool.start : Pool Nat) ls →
      let s := (pool n).after (Pool.start : Pool Nat) ls
      (∀ i j c, (s.pc i).inside = some c → (s.pc j).inside = some c → i = j) ∧
        s.fault ≠ some .swapInExec := by
  intro h
  have hsame := (h 2 [.schedule none ⟨.coroutine (.user 0), none⟩,
    .schedule none ⟨.coroutine (.user 0), none⟩, .dequeue 0, .dequeue 1, .testState 0 (.user 0),
    .testState 1 (.user 0), .assertState 0 (.user 0) false, .assertState 1 (.user 0) false,
    .setExec 0 (.user 0) false, .setExec 1 (.user 0) false, .switchIn 0 (.user 0) false,
    .switchIn 1 (.user 0) false] (by decide)).1 0 1 (.user 0) (by decide) (by decide)
  cases hsame

end Scheduler
end KitServer
