import KitServer.Lib.Machine
import KitServer.Lib.Resize

/-!
# `IOManager::addEvent`: the vector of the `FdContext`s

`addEvent` looks for the context of `fd` under the read lock.  When the vector is too short, it gives
the lock away and calls `contextResize(fd * 1.5)` under the write lock.

* `contextResize_kept`   a call that does not shrink the vector keeps all contexts;
* `contexts_kept`        so do the calls of any threads, when no call shrinks it;
* `contexts_shrink`      two calls that race.
-/

set_option linter.unusedVariables false

namespace KitServer
namespace IOManager

/-- an allocated `FdContext`: what `new` returned, and its `fd` -/
structure FdContextPtr where
  addr : Nat
  fd : Nat
deriving DecidableEq

structure Contexts where
  fdContexts : List (Option FdContextPtr)
  allocated : Nat
deriving DecidableEq

/-- the loop of `contextResize` from the index `i` on -/
def allocateFrom : Nat → Nat → List (Option FdContextPtr) → List (Option FdContextPtr) × Nat
  | _, n, [] => ([], n)
  | i, n, some c :: rest =>
    let r := allocateFrom (i + 1) n rest
    (some c :: r.1, r.2)
  | i, n, none :: rest =>
    let r := allocateFrom (i + 1) (n + 1) rest
    (some ⟨n, i⟩ :: r.1, r.2)

def contextResize (size : Nat) (c : Contexts) : Contexts :=
  let r := allocateFrom 0 c.allocated (resize size none c.fdContexts)
  ⟨r.1, r.2⟩

theorem length_allocateFrom (l : List (Option FdContextPtr)) :
    ∀ i n, (allocateFrom i n l).1.length = l.length := by
  induction l with
  | nil => exact fun _ _ => rfl
  | cons x l ih =>
    intro i n
    cases x with
    | some c => exact congrArg (· + 1) (ih (i + 1) n)
    | none => exact congrArg (· + 1) (ih (i + 1) (n + 1))

theorem allocateFrom_kept (l : List (Option FdContextPtr)) :
    ∀ (i n k : Nat) (c : FdContextPtr), l[k]? = some (some c) →
      (allocateFrom i n l).1[k]? = some (some c) := by
  induction l with
  | nil => exact fun _ _ _ _ h => (by cases h)
  | cons x l ih =>
    intro i n k c h
    cases k with
    | zero =>
      obtain rfl : x = some c := Option.some.inj h
      rfl
    | succ k =>
      cases x with
      | some _ => exact ih (i + 1) n k c h
      | none => exact ih (i + 1) (n + 1) k c h

theorem allocateFrom_some (l : List (Option FdContextPtr)) :
    ∀ i n k : Nat, k < l.length → ∃ c, (allocateFrom i n l).1[k]? = some (some c) := by
  induction l with
  | nil => exact fun _ _ _ h => (by cases h)
  | cons x l ih =>
    intro i n k h
    cases k with
    | zero =>
      cases x with
      | some c => exact ⟨c, rfl⟩
      | none => exact ⟨⟨n, i⟩, rfl⟩
    | succ k =>
      have hk : k < l.length := Nat.lt_of_succ_lt_succ h
      cases x with
      | some _ => exact ih (i + 1) n k hk
      | none => exact ih (i + 1) (n + 1) k hk

theorem length_contextResize (size : Nat) (c : Contexts) :
    (contextResize size c).fdContexts.length = size := by
  show (allocateFrom _ _ _).1.length = size
  rw [length_allocateFrom, length_resize]

theorem contextResize_kept {size : Nat} {c : Contexts} (h : c.fdContexts.length ≤ size) {fd : Nat}
    {p : FdContextPtr} (hp : c.fdContexts[fd]? = some (some p)) :
    (contextResize size c).fdContexts[fd]? = some (some p) :=
  allocateFrom_kept _ _ _ _ _ (getElem?_resize_of_le none h hp)

theorem contextResize_some (size : Nat) (c : Contexts) {fd : Nat} (h : fd < size) :
    ∃ p, (contextResize size c).fdContexts[fd]? = some (some p) :=
  allocateFrom_some _ _ _ _ (by rw [length_resize]; exact h)

/-! ## the threads in `addEvent` -/

/-- where a thread stands: with `holding` it has read `m_fdContexts[fd]`; the index may be out of
bounds, and the pointer null -/
inductive AddPc where
  | out
  | growing (fd : Nat)
  | holding (fd : Nat) (fd_ctx : Option (Option FdContextPtr))
deriving DecidableEq

structure Adders where
  contexts : Contexts
  pc : Nat → AddPc

/-- the constructor calls `contextResize(256)` -/
def Adders.start : Adders := ⟨contextResize 256 ⟨[], 0⟩, fun _ => .out⟩

/-- a step of the thread `i`: the section under the read lock, the one under the write lock, and the
return from the rest of `addEvent`, which leaves the vector alone -/
inductive AddAct where
  | lookup (i : Nat) (fd : Nat)
  | grow (i : Nat) (fd : Nat)
  | finish (i : Nat)

/-- a descriptor is a non-negative `int` -/
def AddAct.guard (s : Adders) : AddAct → Prop
  | .lookup i fd => s.pc i = .out ∧ fd < 2 ^ 31
  | .grow i fd => s.pc i = .growing fd
  | .finish i => s.pc i ≠ .out

instance (s : Adders) : ∀ l : AddAct, Decidable (l.guard s)
  | .lookup i fd => inferInstanceAs (Decidable (s.pc i = .out ∧ fd < 2 ^ 31))
  | .grow i fd => inferInstanceAs (Decidable (s.pc i = .growing fd))
  | .finish i => inferInstanceAs (Decidable (s.pc i ≠ .out))

def AddAct.effect (s : Adders) : AddAct → Adders
  | .lookup i fd =>
    if toInt s.contexts.fdContexts.length > fd then
      { s with pc := Function.update s.pc i (.holding fd (s.contexts.fdContexts[fd]?)) }
    else { s with pc := Function.update s.pc i (.growing fd) }
  | .grow i fd =>
    let c := contextResize (timesOneAndHalf fd) s.contexts
    ⟨c, Function.update s.pc i (.holding fd (c.fdContexts[fd]?))⟩
  | .finish i => { s with pc := Function.update s.pc i .out }

def adders : Machine Adders AddAct := ⟨fun s l => l.guard s, fun s l => l.effect s⟩

instance (s : Adders) (l : AddAct) : Decidable (adders.guard s l) :=
  inferInstanceAs (Decidable (l.guard s))

/-- the section under the write lock finds the vector no longer than it makes it -/
def NoShrink (s : Adders) : AddAct → Prop
  | .grow _ fd => s.contexts.fdContexts.length ≤ timesOneAndHalf fd
  | _ => True

instance (s : Adders) : ∀ l : AddAct, Decidable (NoShrink s l)
  | .grow _ fd => inferInstanceAs (Decidable (_ ≤ timesOneAndHalf fd))
  | .lookup _ _ => .isTrue trivial
  | .finish _ => .isTrue trivial

/-- the vector is not shorter and has all the contexts that it had -/
structure Kept (c c' : Contexts) : Prop where
  length : c.fdContexts.length ≤ c'.fdContexts.length
  stored : ∀ (fd : Nat) (p : FdContextPtr), c.fdContexts[fd]? = some (some p) → c'.fdContexts[fd]? = some (some p)

theorem Kept.refl (c : Contexts) : Kept c c := ⟨Nat.le_refl _, fun _ _ h => h⟩

theorem Kept.trans {c c' c'' : Contexts} (h : Kept c c') (h' : Kept c' c'') : Kept c c'' :=
  ⟨Nat.le_trans h.length h'.length, fun fd p hp => h'.stored fd p (h.stored fd p hp)⟩

/-- every access was within the vector and found a context -/
def Accessed (s : Adders) : Prop :=
  ∀ i fd fd_ctx, s.pc i = .holding fd fd_ctx → ∃ p, fd_ctx = some (some p)

/-- the invariant: the vector has its first 256 slots, and every slot has a context -/
structure Filled (s : Adders) : Prop where
  length : 256 ≤ s.contexts.fdContexts.length
  slots : ∀ fd, fd < s.contexts.fdContexts.length → ∃ p, s.contexts.fdContexts[fd]? = some (some p)
  accessed : Accessed s

theorem Filled.start : Filled .start where
  length := Nat.le_of_eq (length_contextResize 256 ⟨[], 0⟩).symm
  slots := fun fd h => contextResize_some 256 ⟨[], 0⟩ (length_contextResize 256 ⟨[], 0⟩ ▸ h)
  accessed := fun _ _ _ h => (by cases h)

section
variable {s : Adders}

theorem Filled.goto (h : Filled s) (i : Nat) (pc : AddPc)
    (hpc : ∀ fd fd_ctx, pc = .holding fd fd_ctx → ∃ p, fd_ctx = some (some p)) :
    Filled { s with pc := Function.update s.pc i pc } := by
  refine ⟨h.length, h.slots, ?_⟩
  intro j fd fd_ctx hj
  by_cases hji : j = i
  · subst hji
    have hj : Function.update s.pc j pc j = .holding fd fd_ctx := hj
    rw [Function.update_self] at hj
    exact hpc fd fd_ctx hj
  · have hj : Function.update s.pc i pc j = .holding fd fd_ctx := hj
    rw [Function.update_of_ne hji] at hj
    exact h.accessed j fd fd_ctx hj

/-- a step that shrinks nothing keeps the invariant and the contexts -/
theorem Filled.effect (h : Filled s) (l : AddAct) (hl : l.guard s) (hc : NoShrink s l) :
    Filled (l.effect s) ∧ Kept s.contexts (l.effect s).contexts := by
  cases l with
  | lookup i fd =>
    simp only [AddAct.effect]
    split
    · refine ⟨h.goto i _ ?_, .refl _⟩
      rename_i hlt
      intro fd' fd_ctx he
      obtain ⟨rfl, rfl⟩ := AddPc.holding.inj he
      have hle := toInt_le s.contexts.fdContexts.length
      exact h.slots fd (by omega)
    · exact ⟨h.goto i (.growing fd) fun _ _ he => (by cases he), .refl _⟩
  | grow i fd =>
    have hle : s.contexts.fdContexts.length ≤ timesOneAndHalf fd := hc
    have hlen := h.length
    have hkept : Kept s.contexts (contextResize (timesOneAndHalf fd) s.contexts) :=
      ⟨by rw [length_contextResize]; exact hle, fun fd p hp => contextResize_kept hle hp⟩
    have hfd : fd < timesOneAndHalf fd := by
      unfold timesOneAndHalf at hle ⊢
      omega
    have hgrown : Filled { s with contexts := contextResize (timesOneAndHalf fd) s.contexts } := by
      refine ⟨?_, ?_, h.accessed⟩
      · rw [length_contextResize]
        omega
      · intro k hk
        rw [length_contextResize] at hk
        exact contextResize_some _ _ hk
    refine ⟨hgrown.goto i _ ?_, hkept⟩
    intro fd' fd_ctx he
    obtain ⟨rfl, rfl⟩ := AddPc.holding.inj he
    exact contextResize_some _ _ hfd
  | finish i => exact ⟨h.goto i .out fun _ _ he => (by cases he), .refl _⟩

theorem Filled.run {ls : List AddAct} (h : Filled s) (hl : (adders.meeting NoShrink).Allowed s ls) :
    Filled (adders.after s ls) ∧ Kept s.contexts (adders.after s ls).contexts := by
  induction ls generalizing s with
  | nil => exact ⟨h, .refl _⟩
  | cons l ls ih =>
    obtain ⟨hfilled, hkept⟩ := h.effect l hl.1.1 hl.1.2
    obtain ⟨hfilled', hkept'⟩ := ih hfilled hl.2
    exact ⟨hfilled', hkept.trans hkept'⟩

end

/-- **When no call of `contextResize` shrinks the vector, it never gets shorter, no context is
replaced or dropped, and every access finds a context**, from any point of a run to any later one. -/
theorem contexts_kept (ls ms : List AddAct)
    (h : (adders.meeting NoShrink).Allowed .start (ls ++ ms)) :
    let s := adders.after .start ls
    let s' := adders.after .start (ls ++ ms)
    Kept s.contexts s'.contexts ∧ Accessed s' := by
  obtain ⟨h1, h2⟩ := Machine.allowed_append.mp h
  rw [Machine.meeting_after] at h2
  have hs := (Filled.start.run h1).1
  rw [Machine.after_append]
  obtain ⟨hfilled, hkept⟩ := hs.run h2
  exact ⟨hkept, hfilled.accessed⟩

/-- two calls that race, the one for the greater descriptor last -/
theorem contexts_kept_race :
    Kept (adders.after .start [.lookup 0 256, .lookup 1 300, .grow 0 256]).contexts
        (adders.after .start
          ([.lookup 0 256, .lookup 1 300, .grow 0 256] ++ [.grow 1 300])).contexts ∧
      Accessed (adders.after .start
        ([.lookup 0 256, .lookup 1 300, .grow 0 256] ++ [.grow 1 300])) :=
  contexts_kept _ _ (by decide +kernel)

/-- **The other way round the second call takes away contexts of the first one.** -/
theorem contexts_shrink : ¬ ∀ ls ms : List AddAct, adders.Allowed .start (ls ++ ms) →
    Kept (adders.after .start ls).contexts (adders.after .start (ls ++ ms)).contexts ∧
      Accessed (adders.after .start (ls ++ ms)) := by
  intro h
  have hlen := (h [.lookup 0 256, .lookup 1 300, .grow 1 300] [.grow 0 256]
    (by decide +kernel)).1.length
  exact absurd hlen (by decide +kernel)

end IOManager
end KitServer
