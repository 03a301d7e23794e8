import KitServer.Lib.Machine
import KitServer.Lib.Resize

/-!
# `FdManager`: the objects of the descriptors

`get` looks for the object of `fd` under the read lock; to create it, it gives the lock away and
stores a new object under the write lock, without a second look.

* `Stable`          the invariant: the object that was returned last is the one that is stored;
* `get_same`        in any run in which every creation finds an empty slot, the calls of `get`
                    between two calls of `del` return one object;
* `get_race`        two calls that both create.
-/

set_option linter.unusedVariables false

namespace KitServer
namespace FdManager

/-- `SO_RCVTIMEO` and `SO_SNDTIMEO` -/
inductive TimeoutType where
  | recv
  | send
deriving DecidableEq

structure FdCtx where
  isInit : Bool
  isSocket : Bool
  userNonblock : Bool
  sysNonblock : Bool
  isClosed : Bool
  fd : Int
  recvTimeout : UInt64
  sendTimeout : UInt64
deriving DecidableEq

/-- the constructor with `init`; `stat` is what `fstat` says: an error, or whether `fd` is a
socket -/
def FdCtx.new (fd : Int) (stat : Option Bool) : FdCtx where
  isInit := stat.isSome
  isSocket := stat.getD false
  userNonblock := false
  sysNonblock := stat.getD false
  isClosed := false
  fd := fd
  recvTimeout := -1
  sendTimeout := -1

def FdCtx.setTimeout (type : TimeoutType) (time : UInt64) (c : FdCtx) : FdCtx :=
  match type with
  | .recv => { c with recvTimeout := time }
  | .send => { c with sendTimeout := time }

def FdCtx.getTimeout (type : TimeoutType) (c : FdCtx) : UInt64 :=
  match type with
  | .recv => c.recvTimeout
  | .send => c.sendTimeout

abbrev Addr := Nat

inductive Pc where
  | out
  -- `get(fd, true)` between its two sections
  | creating (fd : Int)
deriving DecidableEq

/-- a `get` that returned, a `del`, and an access outside of the vector -/
inductive Event where
  | got (fd : Int) (auto_create : Bool) (result : Option Addr)
  | deleted (fd : Int)
  | outOfBounds
deriving DecidableEq

structure State where
  fds : List (Option Addr)
  heap : Addr → FdCtx
  allocated : Nat
  pc : Nat → Pc
  -- the latest event first
  history : List Event

/-- the constructor calls `resize(64)` -/
def State.start (heap : Addr → FdCtx) : State :=
  ⟨resize 64 none [], heap, 0, fun _ => .out, []⟩

/-- `m_fds[fd]`, `none` when `fd` is outside of the vector -/
def State.slot (fd : Int) (s : State) : Option (Option Addr) :=
  if fd < 0 then none else s.fds[fd.toNat]?

/-- a step of the thread `i` -/
inductive Act where
  | get (i : Nat) (fd : Int) (auto_create : Bool)
  | create (i : Nat) (fd : Int) (stat : Option Bool)
  | del (i : Nat) (fd : Int)
  | setTimeout (a : Addr) (type : TimeoutType) (time : UInt64)
  | setUserNonblock (a : Addr) (flag : Bool)

def Act.guard (s : State) : Act → Prop
  | .get i _ _ => s.pc i = .out
  | .create i fd _ => s.pc i = .creating fd
  | .del i _ => s.pc i = .out
  | .setTimeout a _ _ => a < s.allocated
  | .setUserNonblock a _ => a < s.allocated

instance (s : State) : ∀ l : Act, Decidable (l.guard s)
  | .get i _ _ => inferInstanceAs (Decidable (s.pc i = .out))
  | .create i fd _ => inferInstanceAs (Decidable (s.pc i = .creating fd))
  | .del i _ => inferInstanceAs (Decidable (s.pc i = .out))
  | .setTimeout a _ _ => inferInstanceAs (Decidable (a < s.allocated))
  | .setUserNonblock a _ => inferInstanceAs (Decidable (a < s.allocated))

def State.record (e : Event) (s : State) : State := { s with history := e :: s.history }

/-- `get` under the read lock -/
def State.lookup (i : Nat) (fd : Int) (auto_create : Bool) (s : State) : State :=
  if fd = -1 then s.record (.got fd auto_create none)
  else if toInt s.fds.length ≤ fd then
    if !auto_create then s.record (.got fd auto_create none)
    else { s with pc := Function.update s.pc i (.creating fd) }
  else
    match s.slot fd with
    | none => s.record .outOfBounds
    | some ctx =>
      if ctx.isSome || !auto_create then s.record (.got fd auto_create ctx)
      else { s with pc := Function.update s.pc i (.creating fd) }

/-- `get` under the write lock -/
def State.create (i : Nat) (fd : Int) (stat : Option Bool) (s : State) : State :=
  let ctx := s.allocated
  let fds := if fd ≥ toInt s.fds.length then resize (timesOneAndHalf fd.toNat) none s.fds else s.fds
  let s := { s with
    fds := fds
    heap := Function.update s.heap ctx (.new fd stat)
    allocated := s.allocated + 1
    pc := Function.update s.pc i .out }
  if fd < 0 ∨ fds.length ≤ fd.toNat then s.record .outOfBounds
  else { s with fds := fds.set fd.toNat (some ctx) }.record (.got fd true (some ctx))

def State.del (fd : Int) (s : State) : State :=
  if toInt s.fds.length ≤ fd then s.record (.deleted fd)
  else
    match s.slot fd with
    | none => s.record .outOfBounds
    | some _ => { s with fds := s.fds.set fd.toNat none }.record (.deleted fd)

def Act.effect (s : State) : Act → State
  | .get i fd auto_create => s.lookup i fd auto_create
  | .create i fd stat => s.create i fd stat
  | .del _ fd => s.del fd
  | .setTimeout a type time =>
    { s with heap := Function.update s.heap a ((s.heap a).setTimeout type time) }
  | .setUserNonblock a flag =>
    { s with heap := Function.update s.heap a { s.heap a with userNonblock := flag } }

def fdManager : Machine State Act := ⟨fun s l => l.guard s, fun s l => l.effect s⟩

instance (s : State) (l : Act) : Decidable (fdManager.guard s l) :=
  inferInstanceAs (Decidable (l.guard s))

/-- a creation finds an empty slot, and a vector no longer than it makes it; no index is negative
but the `-1` that `get` looks for -/
def CreatesOnce (s : State) : Act → Prop
  | .get _ fd _ => -1 ≤ fd
  | .create _ fd _ => (s.slot fd).join = none ∧
      (toInt s.fds.length ≤ fd → s.fds.length ≤ timesOneAndHalf fd.toNat)
  | .del _ fd => 0 ≤ fd
  | .setTimeout _ _ _ => True
  | .setUserNonblock _ _ => True

instance (s : State) : ∀ l : Act, Decidable (CreatesOnce s l)
  | .get _ fd _ => inferInstanceAs (Decidable (-1 ≤ fd))
  | .create _ fd _ => inferInstanceAs (Decidable ((s.slot fd).join = none ∧
      (toInt s.fds.length ≤ fd → s.fds.length ≤ timesOneAndHalf fd.toNat)))
  | .del _ fd => inferInstanceAs (Decidable (0 ≤ fd))
  | .setTimeout _ _ _ => .isTrue trivial
  | .setUserNonblock _ _ => .isTrue trivial

/-- between two calls of `del(fd)` all calls of `get(fd, true)` that return an object return the
same one -/
def SameObject (history : List Event) : Prop :=
  ∀ fd c c' a a' later between earlier,
    history = later ++ .got fd c' (some a') :: (between ++ .got fd c (some a) :: earlier) →
    .deleted fd ∉ between → a' = a

/-- the invariant: an object that was returned and not deleted since is stored in its slot -/
structure Stable (s : State) : Prop where
  length : 64 ≤ s.fds.length
  creating : ∀ i fd, s.pc i = .creating fd → 0 ≤ fd
  stored : ∀ fd c a later earlier, s.history = later ++ .got fd c (some a) :: earlier →
    .deleted fd ∉ later → s.slot fd = some (some a)
  same : SameObject s.history
  inBounds : .outOfBounds ∉ s.history

theorem Stable.start (heap : Addr → FdCtx) : Stable (State.start heap) where
  length := Nat.le_of_eq (length_resize 64 none []).symm
  creating := fun _ _ h => (by cases h)
  stored := by
    intro fd c a later earlier h
    cases later <;> cases h
  same := by
    intro fd c c' a a' later between earlier h
    cases later <;> cases h
  inBounds := fun h => (by cases h)

section
variable {s : State}

theorem Stable.keep (h : Stable s) {s' : State} (hlen : s.fds.length ≤ s'.fds.length)
    (hslot : ∀ fd a, s.slot fd = some (some a) → s'.slot fd = some (some a))
    (hpc : ∀ i fd, s'.pc i = .creating fd → 0 ≤ fd) (hhist : s'.history = s.history) :
    Stable s' where
  length := Nat.le_trans h.length hlen
  creating := hpc
  stored := fun fd c a later earlier hs hd =>
    hslot fd a (h.stored fd c a later earlier (hhist ▸ hs) hd)
  same := hhist ▸ h.same
  inBounds := hhist ▸ h.inBounds

/-- a call of `get` returns, and what it returns is stored -/
theorem Stable.got (h : Stable s) {fd : Int} (c : Bool) {result : Option Addr}
    (hresult : ∀ a, result = some a → s.slot fd = some (some a)) :
    Stable (s.record (.got fd c result)) where
  length := h.length
  creating := h.creating
  stored := by
    intro fd' c' a later earlier hs hd
    cases later with
    | nil =>
      obtain ⟨he, _⟩ := List.cons.inj hs
      injection he with hfd _ hr
      subst hfd
      exact hresult a hr
    | cons e later =>
      obtain ⟨_, hs⟩ := List.cons.inj hs
      exact h.stored fd' c' a later earlier hs fun hin => hd (List.mem_cons_of_mem e hin)
  same := by
    intro fd' c' c'' a a' later between earlier hs hd
    cases later with
    | nil =>
      obtain ⟨he, hs⟩ := List.cons.inj hs
      injection he with hfd _ hr
      subst hfd
      have h1 := hresult a' hr
      have h2 := h.stored fd c' a between earlier hs hd
      rw [h1] at h2
      exact Option.some.inj (Option.some.inj h2)
    | cons e later =>
      obtain ⟨_, hs⟩ := List.cons.inj hs
      exact h.same fd' c' c'' a a' later between earlier hs hd
  inBounds := by
    intro hin
    rcases List.mem_cons.mp hin with he | hin
    · cases he
    · exact h.inBounds hin

theorem slot_of_toNat {fd : Int} (hfd : 0 ≤ fd) : s.slot fd = s.fds[fd.toNat]? := by
  rw [State.slot, if_neg (by omega)]

theorem slot_of_lt {fd : Int} (hfd : 0 ≤ fd) (hlt : fd < toInt s.fds.length) :
    ∃ ctx, s.slot fd = some ctx := by
  have hle := toInt_le s.fds.length
  have hin : fd.toNat < s.fds.length := by omega
  exact ⟨s.fds[fd.toNat], (slot_of_toNat hfd).trans (List.getElem?_eq_getElem hin)⟩

theorem Stable.lookup (h : Stable s) (i : Nat) {fd : Int} (c : Bool) (hfd : -1 ≤ fd) :
    Stable (s.lookup i fd c) := by
  have hcreate : fd ≠ -1 → Stable { s with pc := Function.update s.pc i (.creating fd) } := by
    intro hne
    refine h.keep (Nat.le_refl _) (fun _ _ hs => hs) ?_ rfl
    intro j fd' hj
    by_cases hji : j = i
    · subst hji
      have hj : Function.update s.pc j (.creating fd) j = .creating fd' := hj
      rw [Function.update_self] at hj
      obtain rfl := Pc.creating.inj hj
      omega
    · have hj : Function.update s.pc i (.creating fd) j = .creating fd' := hj
      rw [Function.update_of_ne hji] at hj
      exact h.creating j fd' hj
  unfold State.lookup
  by_cases h1 : fd = -1
  · rw [if_pos h1]
    exact h.got c fun a ha => (by cases ha)
  rw [if_neg h1]
  by_cases h2 : toInt s.fds.length ≤ fd
  · rw [if_pos h2]
    split
    · exact h.got c fun a ha => (by cases ha)
    · exact hcreate h1
  · rw [if_neg h2]
    obtain ⟨ctx, hctx⟩ := slot_of_lt (s := s) (by omega) (by omega : fd < _)
    rw [hctx]
    dsimp only
    split
    · exact h.got c fun a ha => by rw [hctx, ha]
    · exact hcreate h1

theorem grown_length (h : Stable s) {fd : Int} (hfd : 0 ≤ fd)
    (hgrow : toInt s.fds.length ≤ fd → s.fds.length ≤ timesOneAndHalf fd.toNat) :
    let fds := if fd ≥ toInt s.fds.length then resize (timesOneAndHalf fd.toNat) none s.fds
      else s.fds
    s.fds.length ≤ fds.length ∧ fd.toNat < fds.length ∧
      ∀ (k : Nat) (a : Addr), s.fds[k]? = some (some a) → fds[k]? = some (some a) := by
  have hlen := h.length
  have hle := toInt_le s.fds.length
  by_cases hge : fd ≥ toInt s.fds.length
  · have hsize := hgrow hge
    simp only [if_pos hge, length_resize]
    refine ⟨hsize, ?_, fun k a hk => getElem?_resize_of_le none hsize hk⟩
    unfold timesOneAndHalf at hsize ⊢
    omega
  · simp only [if_neg hge]
    exact ⟨Nat.le_refl _, by omega, fun _ _ hk => hk⟩

/-- a creation in an empty slot -/
theorem Stable.create (h : Stable s) {i : Nat} {fd : Int} (stat : Option Bool)
    (hpc : s.pc i = .creating fd) (hempty : (s.slot fd).join = none)
    (hgrow : toInt s.fds.length ≤ fd → s.fds.length ≤ timesOneAndHalf fd.toNat) :
    Stable (s.create i fd stat) := by
  have hfd := h.creating i fd hpc
  obtain ⟨hlen, hlt, hkept⟩ := grown_length h hfd hgrow
  unfold State.create
  dsimp only at hlen hlt hkept ⊢
  rw [if_neg (by omega)]
  refine Stable.got ?_ true ?_
  · refine h.keep ?_ ?_ ?_ rfl
    · exact Nat.le_trans hlen (Nat.le_of_eq List.length_set.symm)
    · intro fd' a hs
      by_cases hneg : fd' < 0
      · rw [State.slot, if_pos hneg] at hs
        cases hs
      · have hne : fd.toNat ≠ fd'.toNat := by
          intro he
          obtain rfl : fd = fd' := by omega
          rw [hs] at hempty
          cases hempty
        rw [State.slot, if_neg hneg] at hs ⊢
        rw [List.getElem?_set_ne hne]
        exact hkept _ _ hs
    · intro j fd' hj
      by_cases hji : j = i
      · subst hji
        have hj : Function.update s.pc j .out j = .creating fd' := hj
        rw [Function.update_self] at hj
        cases hj
      · have hj : Function.update s.pc i .out j = .creating fd' := hj
        rw [Function.update_of_ne hji] at hj
        exact h.creating j fd' hj
  · intro a ha
    obtain rfl := Option.some.inj ha
    rw [slot_of_toNat hfd]
    exact List.getElem?_set_self hlt

theorem Stable.del (h : Stable s) {fd : Int} (hfd : 0 ≤ fd) : Stable (s.del fd) := by
  have hdel : ∀ s' : State, s'.pc = s.pc → s'.fds.length = s.fds.length →
      (∀ fd', fd' ≠ fd → ∀ a, s.slot fd' = some (some a) → s'.slot fd' = some (some a)) →
      s'.history = .deleted fd :: s.history → Stable s' := by
    intro s' hpc hlen hslot hhist
    refine ⟨hlen ▸ h.length, hpc ▸ h.creating, ?_, ?_, ?_⟩
    · intro fd' c a later earlier hs hd
      rw [hhist] at hs
      cases later with
      | nil => cases hs
      | cons e later =>
        obtain ⟨he, hs⟩ := List.cons.inj hs
        have hne : fd' ≠ fd := by
          rintro rfl
          exact hd (he ▸ List.mem_cons_self)
        exact hslot fd' hne a (h.stored fd' c a later earlier hs fun hin =>
          hd (List.mem_cons_of_mem e hin))
    · intro fd' c c' a a' later between earlier hs hd
      rw [hhist] at hs
      cases later with
      | nil => cases hs
      | cons e later =>
        obtain ⟨_, hs⟩ := List.cons.inj hs
        exact h.same fd' c c' a a' later between earlier hs hd
    · rw [hhist]
      intro hin
      rcases List.mem_cons.mp hin with he | hin
      · cases he
      · exact h.inBounds hin
  unfold State.del
  by_cases hle : toInt s.fds.length ≤ fd
  · rw [if_pos hle]
    exact hdel _ rfl rfl (fun _ _ _ hs => hs) rfl
  · rw [if_neg hle]
    obtain ⟨ctx, hctx⟩ := slot_of_lt (s := s) hfd (by omega)
    rw [hctx]
    dsimp only
    refine hdel _ rfl List.length_set ?_ rfl
    intro fd' hne a hs
    by_cases hneg : fd' < 0
    · rw [State.slot, if_pos hneg] at hs
      cases hs
    · rw [State.slot, if_neg hneg] at hs
      show State.slot fd' { s with fds := s.fds.set fd.toNat none } = _
      rw [State.slot, if_neg hneg, List.getElem?_set_ne (by omega)]
      exact hs

/-- **Every step that creates only into an empty slot keeps the invariant.** -/
theorem Stable.effect (h : Stable s) (l : Act) (hl : l.guard s) (hc : CreatesOnce s l) :
    Stable (l.effect s) := by
  cases l with
  | get i fd c => exact h.lookup i c hc
  | create i fd stat => exact h.create stat hl hc.1 hc.2
  | del i fd => exact h.del hc
  | setTimeout a type time => exact h.keep (Nat.le_refl _) (fun _ _ hs => hs) h.creating rfl
  | setUserNonblock a flag => exact h.keep (Nat.le_refl _) (fun _ _ hs => hs) h.creating rfl

/-- a slot that has an object keeps it until `del` -/
theorem slot_kept (h : Stable s) {l : Act} (hl : l.guard s) (hc : CreatesOnce s l) {fd : Int}
    (hd : ∀ i, l ≠ .del i fd) {a : Addr} (hs : s.slot fd = some (some a)) :
    (l.effect s).slot fd = some (some a) := by
  cases l with
  | get i fd' c =>
    simp only [Act.effect, State.lookup]
    split
    · exact hs
    · split
      · split <;> exact hs
      · split
        · exact hs
        · split <;> exact hs
  | create i fd' stat =>
    have hfd' := h.creating i fd' hl
    have hne : fd' ≠ fd := by
      rintro rfl
      have hempty : (s.slot fd').join = none := hc.1
      rw [hs] at hempty
      cases hempty
    obtain ⟨_, hlt, hkept⟩ := grown_length h hfd' hc.2
    simp only [Act.effect, State.create]
    rw [if_neg (by omega)]
    by_cases hneg : fd < 0
    · rw [State.slot, if_pos hneg] at hs
      cases hs
    · rw [State.slot, if_neg hneg] at hs ⊢
      show (List.set _ _ _)[fd.toNat]? = _
      rw [List.getElem?_set_ne (by omega)]
      exact hkept _ _ hs
  | del i fd' =>
    have hne : fd' ≠ fd := by
      rintro rfl
      exact hd i rfl
    have hfd' : 0 ≤ fd' := hc
    simp only [Act.effect, State.del]
    split
    · exact hs
    · split
      · exact hs
      · by_cases hneg : fd < 0
        · rw [State.slot, if_pos hneg] at hs
          cases hs
        · rw [State.slot, if_neg hneg] at hs ⊢
          show (List.set _ _ _)[fd.toNat]? = _
          rw [List.getElem?_set_ne (by omega)]
          exact hs
  | setTimeout _ type time => exact hs
  | setUserNonblock _ flag => exact hs

theorem slot_run {ls : List Act} (h : Stable s) (hl : (fdManager.meeting CreatesOnce).Allowed s ls)
    {fd : Int} (hd : ∀ i, .del i fd ∉ ls) {a : Addr} (hs : s.slot fd = some (some a)) :
    (fdManager.after s ls).slot fd = some (some a) := by
  induction ls generalizing s with
  | nil => exact hs
  | cons l ls ih =>
    refine ih (h.effect l hl.1.1 hl.1.2) hl.2 (fun i hin => hd i (List.mem_cons_of_mem l hin)) ?_
    exact slot_kept h hl.1.1 hl.1.2 (fun i he => hd i (he ▸ List.mem_cons_self)) hs

end

/-- **When every creation finds an empty slot, the calls of `get` between two calls of `del` return
one object, and a slot keeps its object until `del`**, whatever other slots are filled. -/
theorem get_same (heap : Addr → FdCtx) (ls ms : List Act)
    (h : (fdManager.meeting CreatesOnce).Allowed (State.start heap) (ls ++ ms)) :
    let s := fdManager.after (State.start heap) ls
    let s' := fdManager.after (State.start heap) (ls ++ ms)
    SameObject s'.history ∧ .outOfBounds ∉ s'.history ∧
      ∀ fd a, (∀ i, .del i fd ∉ ms) → s.slot fd = some (some a) → s'.slot fd = some (some a) := by
  have hinv : ∀ ns, (fdManager.meeting CreatesOnce).Allowed (State.start heap) ns →
      Stable (fdManager.after (State.start heap) ns) := by
    intro ns hn
    have hs : Stable ((fdManager.meeting CreatesOnce).after (State.start heap) ns) :=
      hn.inv (fun s l hs hl => hs.effect l hl.1 hl.2) (.start heap)
    rw [Machine.meeting_after] at hs
    exact hs
  obtain ⟨h1, h2⟩ := Machine.allowed_append.mp h
  rw [Machine.meeting_after] at h2
  refine ⟨(hinv _ h).same, (hinv _ h).inBounds, ?_⟩
  intro fd a hd hs
  rw [Machine.after_append]
  exact slot_run (hinv ls h1) h2 hd hs

/-- the timeout is set through the object that the second call returns too -/
theorem get_same_twice :
    let s := fdManager.after (State.start fun _ => .new 0 none)
      ([.get 0 70 true, .create 0 70 (some true)] ++ [.setTimeout 0 .recv 5000, .get 1 70 true])
    SameObject s.history ∧ s.slot 70 = some (some 0) ∧ (s.heap 0).getTimeout .recv = 5000 := by
  obtain ⟨hsame, _, hslot⟩ := get_same (fun _ => .new 0 none)
    [.get 0 70 true, .create 0 70 (some true)] [.setTimeout 0 .recv 5000, .get 1 70 true]
    (by decide +kernel)
  exact ⟨hsame, hslot 70 0 (by simp) (by decide +kernel), by decide +kernel⟩

/-- **Two calls that both find no object create two.** -/
theorem get_race : ¬ ∀ (heap : Addr → FdCtx) (ls : List Act),
    fdManager.Allowed (State.start heap) ls →
      SameObject (fdManager.after (State.start heap) ls).history := by
  intro h
  have hsame := h (fun _ => .new 0 none)
    [.get 0 7 true, .get 1 7 true, .create 0 7 (some true), .create 1 7 (some true)] (by decide)
  exact absurd (hsame 7 true true 0 1 [] [] [] (by decide) (by decide)) (by decide)

end FdManager
end KitServer
