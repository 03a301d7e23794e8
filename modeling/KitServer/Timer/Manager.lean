import KitServer.Lib.OrderedSet

/-!
# `TimerManager`: the set of timers and `listExpiredCb`

A timer lives at an address.  `heap` is what is stored at each address and `timers` the ordered set
`m_timers` of the addresses of the pending timers.  A callback is a value of the type `Cb`, and
`none` is a null `m_cb`.  Times are `uint64_t` milliseconds.

`listExpiredCb` takes the clock reading `now_ms` of the call, and `probe`, the address that the
allocator gives to the timer `now_timer` that is only used for the comparison.
-/

set_option linter.unusedVariables false

namespace KitServer
namespace Timers

abbrev Addr := Nat

structure Timer (Cb : Type) where
  ms : UInt64
  cb : Option Cb
  recurring : Bool
  next : UInt64
deriving DecidableEq

structure TimerManager (Cb : Type) where
  heap : Addr → Timer Cb
  timers : List Addr
  tickled : Bool
  previousTime : UInt64

variable {Cb : Type}

/-- `Timer::Timer(uint64_t next)` -/
def Timer.atTime (next : UInt64) : Timer Cb := ⟨0, none, false, next⟩

/-- `Timer::Comparator` on two pointers and what they point to -/
def Comparator : Option (Addr × Timer Cb) → Option (Addr × Timer Cb) → Bool
  | none, none => false
  | none, some _ => true
  | some _, none => false
  | some (la, lhs), some (ra, rhs) =>
    if lhs.next < rhs.next then true
    else if lhs.next > rhs.next then false
    else la < ra

/-- the order of `m_timers` -/
def less (heap : Addr → Timer Cb) (a b : Addr) : Bool :=
  Comparator (some (a, heap a)) (some (b, heap b))

namespace TimerManager

def checkClockChange (now_ms : UInt64) (m : TimerManager Cb) : Bool × TimerManager Cb :=
  (now_ms < m.previousTime && now_ms < m.previousTime - 60 * 60 * 1000,
    { m with previousTime := now_ms })

/-- one round of the loop over `expired`, after `cbs.emplace_back(x->m_cb)` -/
def expireOne (now_ms : UInt64) (x : Addr) (m : TimerManager Cb) : TimerManager Cb :=
  let t := m.heap x
  if t.recurring then
    let heap := Function.update m.heap x { t with next := now_ms + t.ms }
    { m with heap := heap, timers := OrderedSet.insert (less heap) x m.timers }
  else { m with heap := Function.update m.heap x { t with cb := none } }

def expireLoop (now_ms : UInt64) :
    List Addr → List (Option Cb) → TimerManager Cb → TimerManager Cb × List (Option Cb)
  | [], cbs, m => (m, cbs)
  | x :: expired, cbs, m => expireLoop now_ms expired (cbs ++ [(m.heap x).cb]) (m.expireOne now_ms x)

/-- the cut that `listExpiredCb` makes in the set: the timers before `lower_bound` (or the end) and
those of just this time behind it, and the rest -/
def cut (changed : Bool) (now_ms : UInt64) (probe : Addr) (m : TimerManager Cb) :
    List Addr × List Addr :=
  let now_timer := some (probe, Timer.atTime now_ms)
  let below := fun a => changed || Comparator (some (a, m.heap a)) now_timer
  let skipped := fun a => (m.heap a).next = now_ms
  let rest := OrderedSet.after below m.timers
  (OrderedSet.before below m.timers ++ OrderedSet.before skipped rest, OrderedSet.after skipped rest)

def listExpiredCb (now_ms : UInt64) (probe : Addr) (cbs : List (Option Cb)) (m : TimerManager Cb) :
    TimerManager Cb × List (Option Cb) :=
  match m.timers with
  | [] => (m, cbs)
  | first :: _ =>
    let (changed, m) := m.checkClockChange now_ms
    if !changed && (m.heap first).next < now_ms then (m, cbs)
    else
      let (expired, timers) := m.cut changed now_ms probe
      expireLoop now_ms expired cbs { m with timers := timers }

end TimerManager
end Timers
end KitServer
