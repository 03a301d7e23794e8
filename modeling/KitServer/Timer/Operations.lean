import KitServer.Timer.Expired

/-!
# The operations on a timer

`Timer::cancel`, `refresh` and `reset`, `TimerManager::addTimer` and `getNextTime`, each as what it
does in its sections under the lock of the manager.

* `cancel_cases`, `refresh_cases`, `resetLocked_cases`   everything that a section can do;
* `addLocked_spec`       the insertion of a timer;
* `listExpiredCb_spec`   the set, the heap and the callbacks behind `listExpiredCb`, with the
                         vector `expired` of the call.
-/

set_option linter.unusedVariables false

namespace KitServer
namespace Timers
open OrderedSet
variable {Cb : Type}

namespace TimerManager

/-- `m_timers.find(a)` -/
def find (a : Addr) (m : TimerManager Cb) : Option Addr := OrderedSet.find (less m.heap) a m.timers

/-- what is stored at the address `a` is now `t` -/
def store (a : Addr) (t : Timer Cb) (m : TimerManager Cb) : TimerManager Cb :=
  { m with heap := Function.update m.heap a t }

/-- `m_timers.erase(it)` -/
def erase (a : Addr) (m : TimerManager Cb) : TimerManager Cb :=
  { m with timers := m.timers.erase a }

/-- `m_timers.insert(a)` -/
def insert (a : Addr) (m : TimerManager Cb) : TimerManager Cb :=
  { m with timers := OrderedSet.insert (less m.heap) a m.timers }

/-- `addTimer(Timer::ptr)` under the lock; the result is `is_front` -/
def addLocked (a : Addr) (m : TimerManager Cb) : TimerManager Cb × Bool :=
  let m := m.insert a
  let is_front := m.timers.head? = some a && !m.tickled
  ({ m with tickled := m.tickled || is_front }, is_front)

/-- `getNextTime` under the lock -/
def getNextTime (now_ms : UInt64) (m : TimerManager Cb) : TimerManager Cb × UInt64 :=
  let m := { m with tickled := false }
  match m.timers with
  | [] => (m, ~~~0)
  | next :: _ =>
    if now_ms ≥ (m.heap next).next then (m, 0) else (m, (m.heap next).next - now_ms)

def isTimersEmpty (m : TimerManager Cb) : Bool := m.timers.isEmpty

/-- the vector `expired` of a call of `listExpiredCb` -/
def expired (now_ms : UInt64) (probe : Addr) (m : TimerManager Cb) : List Addr :=
  match m.timers with
  | [] => []
  | first :: _ =>
    let changed := (m.checkClockChange now_ms).1
    if !changed && (m.heap first).next < now_ms then [] else (m.cut changed now_ms probe).1

end TimerManager

namespace Timer
open TimerManager

/-- `Timer::Timer(ms, cb, recurring, manager)` -/
def new (ms : UInt64) (cb : Option Cb) (recurring : Bool) (now_ms : UInt64) : Timer Cb :=
  ⟨ms, cb, recurring, now_ms + ms⟩

def cancel (a : Addr) (m : TimerManager Cb) : TimerManager Cb × Bool :=
  let t := m.heap a
  if t.cb.isSome then
    let m := m.store a { t with cb := none }
    match m.find a with
    | none => (m, false)
    | some it => (m.erase it, true)
  else (m, false)

def refresh (a : Addr) (now_ms : UInt64) (m : TimerManager Cb) : TimerManager Cb × Bool :=
  let t := m.heap a
  if t.cb.isNone then (m, false)
  else
    match m.find a with
    | none => (m, false)
    | some it => (((m.erase it).store a { t with next := now_ms + t.ms }).insert a, true)

/-- the test of `reset` in front of the lock: nothing is to be done -/
def unchanged (a : Addr) (ms : UInt64) (from_now : Bool) (m : TimerManager Cb) : Bool :=
  (m.heap a).ms = ms && !from_now

/-- `reset` under the lock; the result says whether the timer is to be added again -/
def resetLocked (a : Addr) (ms : UInt64) (from_now : Bool) (now_ms : UInt64)
    (m : TimerManager Cb) : TimerManager Cb × Bool :=
  let t := m.heap a
  if t.cb.isNone then (m, false)
  else
    match m.find a with
    | none => (m, false)
    | some it =>
      let start := if from_now then now_ms else t.next - t.ms
      ((m.erase it).store a { t with ms := ms, next := start + ms }, true)

/-- `reset` when no other thread comes between -/
def reset (a : Addr) (ms : UInt64) (from_now : Bool) (now_ms : UInt64) (m : TimerManager Cb) :
    TimerManager Cb × Bool :=
  if unchanged a ms from_now m then (m, true)
  else
    let (m, found) := resetLocked a ms from_now now_ms m
    if found then ((m.addLocked a).1, true) else (m, false)

end Timer

/-- `addTimer(ms, cb, recurring)` when no other thread comes between -/
def TimerManager.addTimer (a : Addr) (ms : UInt64) (cb : Option Cb) (recurring : Bool)
    (now_ms : UInt64) (m : TimerManager Cb) : TimerManager Cb :=
  ((m.store a (Timer.new ms cb recurring now_ms)).addLocked a).1

/-- what a run of the manager records: a `Timer::cancel` that returned, a callback that
`listExpiredCb` collected, a call of `onTimerInsertedAtFront`, and a `getNextTime` with the `m_next`
of the timer in front -/
inductive Event where
  | cancelled (a : Addr) (ok : Bool)
  | collected (a : Addr)
  | notified
  | gotNext (head : Option UInt64)
deriving DecidableEq

/-! ## the set and the heap -/

namespace TimerManager
variable {m : TimerManager Cb} {a : Addr}

@[simp] theorem store_heap (t : Timer Cb) : (m.store a t).heap = Function.update m.heap a t := rfl

@[simp] theorem store_timers (t : Timer Cb) : (m.store a t).timers = m.timers := rfl

@[simp] theorem erase_heap : (m.erase a).heap = m.heap := rfl

@[simp] theorem erase_timers : (m.erase a).timers = m.timers.erase a := rfl

@[simp] theorem insert_heap : (m.insert a).heap = m.heap := rfl

theorem Ordered.nodup (h : m.Ordered) : m.timers.Nodup := OrderedSet.Sorted.nodup (less_irrefl _) h

theorem Ordered.store (h : m.Ordered) (ha : a ∉ m.timers) (t : Timer Cb) : (m.store a t).Ordered :=
  sorted_update h ha t

theorem Ordered.erase (h : m.Ordered) (a : Addr) : (m.erase a).Ordered :=
  List.Pairwise.sublist List.erase_sublist h

theorem Ordered.insert (h : m.Ordered) (a : Addr) : (m.insert a).Ordered :=
  insert_sorted (less_trans _) h

theorem Ordered.mem_erase (h : m.Ordered) {x : Addr} :
    x ∈ (m.erase a).timers ↔ x ≠ a ∧ x ∈ m.timers :=
  h.nodup.mem_erase_iff

theorem mem_insert {x : Addr} : x ∈ (m.insert a).timers ↔ x = a ∨ x ∈ m.timers := by
  constructor
  · exact mem_of_mem_insert
  · rintro (rfl | hx)
    · by_cases hin : x ∈ m.timers
      · exact mem_insert_of_mem hin
      · refine mem_insert_self fun y hy => less_total _ ?_
        rintro rfl
        exact hin hy
    · exact mem_insert_of_mem hx

theorem less_store {t : Timer Cb} (ht : t.next = (m.heap a).next) :
    less (m.store a t).heap = less m.heap := by
  have hnext : ∀ x, ((m.store a t).heap x).next = (m.heap x).next := by
    intro x
    by_cases hx : x = a
    · rw [hx, store_heap, Function.update_self, ht]
    · rw [store_heap, Function.update_of_ne hx]
  funext x y
  rw [Bool.eq_iff_iff, less_iff, less_iff, hnext, hnext]

theorem Ordered.store_next (h : m.Ordered) {t : Timer Cb} (ht : t.next = (m.heap a).next) :
    (m.store a t).Ordered := by
  show Sorted (less (m.store a t).heap) m.timers
  rw [less_store ht]
  exact h

theorem Ordered.find_iff (h : m.Ordered) {x : Addr} :
    m.find a = some x ↔ x = a ∧ a ∈ m.timers :=
  find_eq_some_iff (less_irrefl _) (fun _ _ => less_total _) h

theorem Ordered.find_mem (h : m.Ordered) (ha : a ∈ m.timers) : m.find a = some a :=
  h.find_iff.mpr ⟨rfl, ha⟩

theorem Ordered.find_not_mem (h : m.Ordered) (ha : a ∉ m.timers) : m.find a = none := by
  cases hf : m.find a with
  | none => rfl
  | some x => exact absurd (h.find_iff.mp hf).2 ha

/-! ## one section each -/

theorem mem_addLocked {x : Addr} : x ∈ (m.addLocked a).1.timers ↔ x = a ∨ x ∈ m.timers :=
  mem_insert

theorem Ordered.addLocked (h : m.Ordered) (a : Addr) : (m.addLocked a).1.Ordered := h.insert a

theorem getNextTime_manager (now_ms : UInt64) (m : TimerManager Cb) :
    (m.getNextTime now_ms).1 = { m with tickled := false } := by
  simp only [getNextTime]
  split
  · rfl
  · split <;> rfl

theorem Ordered.head_next_le (h : m.Ordered) {first x : Addr} (hf : m.timers.head? = some first)
    (hx : x ∈ m.timers) : (m.heap first).next ≤ (m.heap x).next := by
  cases ht : m.timers with
  | nil =>
    rw [ht] at hx
    cases hx
  | cons y ys =>
    have hs : Sorted (less m.heap) (y :: ys) := ht ▸ h
    rw [ht] at hf hx
    obtain rfl : y = first := Option.some.inj hf
    rcases head_le hs hx with rfl | hlt
    · exact UInt64.le_refl _
    · exact less_next_le hlt

end TimerManager

namespace Timer
open TimerManager
variable {m : TimerManager Cb}

theorem cancel_cases (h : m.Ordered) (a : Addr) :
    ((m.heap a).cb = none ∧ cancel a m = (m, false)) ∨
    ((m.heap a).cb ≠ none ∧ a ∉ m.timers ∧
      cancel a m = (m.store a { m.heap a with cb := none }, false)) ∨
    ((m.heap a).cb ≠ none ∧ a ∈ m.timers ∧
      cancel a m = ((m.store a { m.heap a with cb := none }).erase a, true)) := by
  cases hcb : (m.heap a).cb with
  | none =>
    refine .inl ⟨rfl, ?_⟩
    simp [cancel, hcb]
  | some cb =>
    have hord : (m.store a { m.heap a with cb := none }).Ordered := h.store_next rfl
    by_cases ha : a ∈ m.timers
    · refine .inr (.inr ⟨fun hn => (by cases hn), ha, ?_⟩)
      simp [cancel, hcb, hord.find_mem (a := a) ha]
    · refine .inr (.inl ⟨fun hn => (by cases hn), ha, ?_⟩)
      simp [cancel, hcb, hord.find_not_mem (a := a) ha]

theorem refresh_cases (h : m.Ordered) (a : Addr) (now_ms : UInt64) :
    (((m.heap a).cb = none ∨ a ∉ m.timers) ∧ refresh a now_ms m = (m, false)) ∨
    ((m.heap a).cb ≠ none ∧ a ∈ m.timers ∧ refresh a now_ms m
      = (((m.erase a).store a { m.heap a with next := now_ms + (m.heap a).ms }).insert a, true)) := by
  cases hcb : (m.heap a).cb with
  | none =>
    refine .inl ⟨.inl rfl, ?_⟩
    simp [refresh, hcb]
  | some cb =>
    by_cases ha : a ∈ m.timers
    · refine .inr ⟨fun hn => (by cases hn), ha, ?_⟩
      simp [refresh, hcb, h.find_mem ha]
    · refine .inl ⟨.inr ha, ?_⟩
      simp [refresh, hcb, h.find_not_mem ha]

theorem resetLocked_cases (h : m.Ordered) (a : Addr) (ms : UInt64) (from_now : Bool)
    (now_ms : UInt64) :
    (((m.heap a).cb = none ∨ a ∉ m.timers) ∧ resetLocked a ms from_now now_ms m = (m, false)) ∨
    ((m.heap a).cb ≠ none ∧ a ∈ m.timers ∧ resetLocked a ms from_now now_ms m
      = ((m.erase a).store a { m.heap a with
          ms := ms
          next := (if from_now then now_ms else (m.heap a).next - (m.heap a).ms) + ms }, true)) := by
  cases hcb : (m.heap a).cb with
  | none =>
    refine .inl ⟨.inl rfl, ?_⟩
    simp [resetLocked, hcb]
  | some cb =>
    by_cases ha : a ∈ m.timers
    · refine .inr ⟨fun hn => (by cases hn), ha, ?_⟩
      simp [resetLocked, hcb, h.find_mem ha]
    · refine .inl ⟨.inr ha, ?_⟩
      simp [resetLocked, hcb, h.find_not_mem ha]

end Timer

/-! ## `listExpiredCb` -/

namespace TimerManager

theorem expireLoop_kept (now_ms : UInt64) (expired : List Addr) :
    ∀ (cbs : List (Option Cb)) (m : TimerManager Cb),
      (expireLoop now_ms expired cbs m).1.tickled = m.tickled ∧
      (expireLoop now_ms expired cbs m).1.previousTime = m.previousTime := by
  induction expired with
  | nil => exact fun _ _ => ⟨rfl, rfl⟩
  | cons x expired ih =>
    intro cbs m
    obtain ⟨h1, h2⟩ := ih (cbs ++ [(m.heap x).cb]) (m.expireOne now_ms x)
    have h3 : (m.expireOne now_ms x).tickled = m.tickled ∧
        (m.expireOne now_ms x).previousTime = m.previousTime := by
      unfold expireOne
      by_cases hr : (m.heap x).recurring = true
      · simp only [if_pos hr, and_self]
      · simp only [if_neg hr, and_self]
    exact ⟨h1.trans h3.1, h2.trans h3.2⟩

theorem listExpiredCb_loop (now_ms : UInt64) (probe : Addr) (cbs : List (Option Cb))
    (m : TimerManager Cb) : ∃ m' : TimerManager Cb, m'.heap = m.heap ∧ m'.tickled = m.tickled ∧
      (m'.previousTime = m.previousTime ∨ m'.previousTime = now_ms) ∧
      m.expired now_ms probe ++ m'.timers = m.timers ∧
      m.listExpiredCb now_ms probe cbs = expireLoop now_ms (m.expired now_ms probe) cbs m' := by
  cases ht : m.timers with
  | nil =>
    refine ⟨m, rfl, rfl, .inl rfl, ?_, ?_⟩
    · simp [expired, ht]
    · simp [expired, listExpiredCb, ht, expireLoop]
  | cons first rest =>
    by_cases hearly : (!(m.checkClockChange now_ms).1 && decide ((m.heap first).next < now_ms)) = true
    · refine ⟨{ m with previousTime := now_ms }, rfl, rfl, .inr rfl, ?_, ?_⟩
      · simp only [expired, ht, if_pos hearly, List.nil_append]
      · have hheap : ((m.checkClockChange now_ms).2).heap = m.heap := rfl
        simp only [expired, listExpiredCb, ht, hheap, if_pos hearly, expireLoop]
        rw [← ht]
        rfl
    · refine ⟨{ m with
          previousTime := now_ms
          timers := (m.cut (m.checkClockChange now_ms).1 now_ms probe).2 },
        rfl, rfl, .inr rfl, ?_, ?_⟩
      · simp only [expired, ht, if_neg hearly]
        rw [← ht]
        exact cut_append _ now_ms probe m
      · have hheap : ((m.checkClockChange now_ms).2).heap = m.heap := rfl
        simp only [expired, listExpiredCb, ht, hheap, if_neg hearly]
        rfl

/-- **What a call of `listExpiredCb` does**: it collects the callbacks of the timers `d`, takes the
one-shot ones out and puts the recurring ones back. -/
structure Expires (now_ms : UInt64) (d : List Addr) (cbs : List (Option Cb))
    (m : TimerManager Cb) (r : TimerManager Cb × List (Option Cb)) : Prop where
  cbs : r.2 = cbs ++ d.map (fun a => (m.heap a).cb)
  sub : ∀ a ∈ d, a ∈ m.timers
  ordered : r.1.Ordered
  heap : ∀ a, r.1.heap a = if a ∈ d then fired now_ms (m.heap a) else m.heap a
  mem : ∀ a, a ∈ r.1.timers ↔ (a ∈ m.timers ∧ a ∉ d) ∨ (a ∈ d ∧ (m.heap a).recurring = true)
  tickled : r.1.tickled = m.tickled
  time : r.1.previousTime = m.previousTime ∨ r.1.previousTime = now_ms

theorem listExpiredCb_spec (now_ms : UInt64) (probe : Addr) (cbs : List (Option Cb))
    {m : TimerManager Cb} (h : m.Ordered) :
    Expires now_ms (m.expired now_ms probe) cbs m (m.listExpiredCb now_ms probe cbs) := by
  obtain ⟨m', hheap, htick, htime, hcut, hr⟩ := listExpiredCb_loop now_ms probe cbs m
  have hnd : (m.expired now_ms probe ++ m'.timers).Nodup := by
    rw [hcut]
    exact h.nodup
  obtain ⟨hnd1, _, hdis⟩ := List.nodup_append.mp hnd
  have hout : ∀ a ∈ m.expired now_ms probe, a ∉ m'.timers := fun a ha hin => hdis a ha a hin rfl
  have hord : m'.Ordered := by
    show Sorted (less m'.heap) m'.timers
    rw [hheap]
    refine List.Pairwise.sublist ?_ h
    rw [← hcut]
    exact List.sublist_append_right _ _
  obtain ⟨hcbs, hord', hheap', hmem⟩ := expireLoop_spec now_ms _ cbs m' hord hnd1 hout
  obtain ⟨htick', htime'⟩ := expireLoop_kept now_ms (m.expired now_ms probe) cbs m'
  rw [hheap] at hcbs hheap' hmem
  rw [hr]
  refine ⟨hcbs, fun a ha => ?_, hord', hheap', fun a => ?_, htick'.trans htick, ?_⟩
  · rw [← hcut]
    exact List.mem_append_left _ ha
  · rw [hmem, ← hcut, List.mem_append]
    constructor
    · rintro (ha | ha)
      · exact .inl ⟨.inr ha, fun hin => hout a hin ha⟩
      · exact .inr ha
    · rintro (⟨ha | ha, hna⟩ | ha)
      · exact absurd ha hna
      · exact .inl ha
      · exact .inr ha
  · rw [htime']
    exact htime

end TimerManager
end Timers
end KitServer
