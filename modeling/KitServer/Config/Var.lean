import KitServer.Lib.Machine

/-!
# `ConfigVar`: the value and its listeners

Threads that set one variable, as a machine whose steps are the sections under the lock.

* `ConfigVar.compare`   the section of `setValue` under the read lock;
* `VarAct`, `configVar` the steps;
* `Told`                what the listeners were called with, in every run;
* `listeners_run`       the runs in which the listeners agree with the value.

A listener is its key, and what it was called with is logged.  The callbacks return.
-/

set_option linter.unusedVariables false

namespace KitServer
namespace Config

/-- `m_val`, and the keys of `m_cbs` in their order -/
structure ConfigVar (T : Type) where
  val : T
  cbs : List Nat

/-- a call `x.second(m_val, val)` -/
structure OnChange (T : Type) where
  key : Nat
  oldValue : T
  newValue : T
deriving DecidableEq

namespace ConfigVar
variable {T : Type}

/-- the section of `setValue` under the read lock: none if the value is the same already, else the
calls of the listeners -/
def compare [BEq T] (v : ConfigVar T) (val : T) : Option (List (OnChange T)) :=
  if val == v.val then none else some (v.cbs.map fun key => ⟨key, v.val, val⟩)

/-- the section of `setValue` under the write lock -/
def store (v : ConfigVar T) (val : T) : ConfigVar T := { v with val := val }

/-- `addListener`; the key is greater than all before -/
def addListener (v : ConfigVar T) (key : Nat) : ConfigVar T := { v with cbs := v.cbs ++ [key] }

def delListener (v : ConfigVar T) (key : Nat) : ConfigVar T := { v with cbs := v.cbs.erase key }

def clearListener (v : ConfigVar T) : ConfigVar T := { v with cbs := [] }

end ConfigVar

structure Setters (T : Type) where
  var : ConfigVar T
  -- `cb_fun_id`, which all variables of one type share
  cbFunId : Nat
  -- what the call of the thread has compared and not yet stored
  pending : Nat → Option T
  log : List (OnChange T)
  -- the value of the last call that has called the listeners
  told : Option T
  changed : Bool

/-- a step of the thread `i` -/
inductive VarAct (T : Type) where
  | compare (i : Nat) (val : T)
  | store (i : Nat) (val : T)
  | addListener (key : Nat)
  | delListener (key : Nat)
  | clearListener

namespace VarAct
variable {T : Type}

def guard (n : Nat) (s : Setters T) : VarAct T → Prop
  | .compare i _ => i < n ∧ s.pending i = none
  | .store i val => i < n ∧ s.pending i = some val
  | .addListener key => s.cbFunId < key
  | _ => True

def effect [BEq T] (s : Setters T) : VarAct T → Setters T
  | .compare i val =>
    match s.var.compare val with
    | none => s
    | some calls =>
      { s with
        pending := Function.update s.pending i (some val)
        log := s.log ++ calls
        told := some val }
  | .store i val =>
    { s with
      var := s.var.store val
      pending := Function.update s.pending i none
      changed := s.changed || !(val == s.var.val) }
  | .addListener key => { s with var := s.var.addListener key, cbFunId := key }
  | .delListener key => { s with var := s.var.delListener key }
  | .clearListener => { s with var := s.var.clearListener }

end VarAct

/-- the variable and `n` threads -/
def configVar (T : Type) [BEq T] (n : Nat) : Machine (Setters T) (VarAct T) :=
  ⟨fun s l => l.guard n s, fun s l => l.effect s⟩

instance configVar_decidable (T : Type) [DecidableEq T] (n : Nat) (s : Setters T) (l : VarAct T) :
    Decidable ((configVar T n).guard s l) := by
  cases l with
  | compare i val => exact inferInstanceAs (Decidable (_ ∧ _))
  | store i val => exact inferInstanceAs (Decidable (_ ∧ _))
  | addListener key => exact inferInstanceAs (Decidable (_ < _))
  | delListener key => exact inferInstanceAs (Decidable True)
  | clearListener => exact inferInstanceAs (Decidable True)

namespace Setters
variable {T : Type}

/-- a variable with its listeners, and no call in progress -/
def start (var : ConfigVar T) (cbFunId : Nat) : Setters T :=
  ⟨var, cbFunId, fun _ => none, [], none, false⟩

/-- what the listener was last called with -/
def lastNew (s : Setters T) (key : Nat) : Option T :=
  ((s.log.filter fun c => c.key = key).getLast?).map OnChange.newValue

/-- the listener was last called with the value, or not at all, and the value never changed -/
def Agrees (s : Setters T) (key : Nat) : Prop :=
  s.lastNew key = some s.var.val ∨ s.lastNew key = none ∧ s.changed = false

/-- when no call is in progress, every listener of `cbs` that is still registered agrees -/
def AllAgree (cbs : List Nat) (s : Setters T) : Prop :=
  (∀ i, s.pending i = none) → ∀ key ∈ cbs, key ∈ s.var.cbs → s.Agrees key

/-- a store that leaves no call in progress stores what the listeners were called with last, if a
listener of `cbs` is still registered -/
def InOrder (cbs : List Nat) (s : Setters T) : VarAct T → Prop
  | .store i val =>
    (∀ j, j ≠ i → s.pending j = none) → (∃ key ∈ cbs, key ∈ s.var.cbs) → s.told = some val
  | _ => True

section
variable {cbs : List Nat} {n : Nat} {s : Setters T} {l : VarAct T}

/-- every listener of `cbs` was last called by the call that was the last to call them -/
structure Told (cbs : List Nat) (s : Setters T) : Prop where
  last : ∀ key ∈ cbs, key ∈ s.var.cbs → s.lastNew key = s.told
  quiet : s.told = none → (∀ i, s.pending i = none) ∧ s.changed = false
  keys : ∀ key ∈ cbs, key ≤ s.cbFunId

theorem Told.start (var : ConfigVar T) (cbFunId : Nat) (h : ∀ key ∈ var.cbs, key ≤ cbFunId) :
    Told var.cbs (start var cbFunId) :=
  ⟨fun key _ _ => rfl, fun _ => ⟨fun i => rfl, rfl⟩, h⟩

theorem lastNew_append {calls : List (OnChange T)} {key : Nat} {val : T}
    (hkey : ∃ c ∈ calls, c.key = key) (hval : ∀ c ∈ calls, c.newValue = val)
    (log : List (OnChange T)) :
    (((log ++ calls).filter fun c => c.key = key).getLast?).map OnChange.newValue = some val := by
  obtain ⟨c, hc, hck⟩ := hkey
  have hmem : c ∈ calls.filter fun c => c.key = key :=
    List.mem_filter.mpr ⟨hc, decide_eq_true hck⟩
  cases hd : (calls.filter fun c => c.key = key).getLast? with
  | none => exact absurd (List.getLast?_eq_none_iff.mp hd) (List.ne_nil_of_mem hmem)
  | some d =>
    have hdc := (List.mem_filter.mp (List.mem_of_getLast? hd)).1
    rw [List.filter_append, List.getLast?_append, hd, Option.some_or, Option.map_some, hval d hdc]

variable [BEq T]

theorem Told.compare (h : Told cbs s) (i : Nat) (val : T) :
    Told cbs ((VarAct.compare i val).effect s) := by
  unfold VarAct.effect ConfigVar.compare
  dsimp only
  by_cases hval : (val == s.var.val) = true
  · rw [if_pos hval]
    exact h
  · rw [if_neg hval]
    refine ⟨fun key hkey hin => ?_, fun hnone => (by cases hnone), h.keys⟩
    refine lastNew_append ?_ ?_ s.log
    · exact ⟨⟨key, s.var.val, val⟩, List.mem_map.mpr ⟨key, hin, rfl⟩, rfl⟩
    · intro c hc
      obtain ⟨k, _, rfl⟩ := List.mem_map.mp hc
      rfl

/-- **Every section keeps what the listeners were called with.** -/
theorem Told.effect (h : Told cbs s) (hl : l.guard n s) : Told cbs (l.effect s) := by
  cases l with
  | compare i val => exact h.compare i val
  | store i val =>
    refine ⟨h.last, fun hnone => ?_, h.keys⟩
    have hpending := (h.quiet hnone).1 i
    rw [hl.2] at hpending
    cases hpending
  | addListener key =>
    have hlt : ∀ k ∈ cbs, k < key := fun k hk => Nat.lt_of_le_of_lt (h.keys k hk) hl
    refine ⟨fun k hk hin => ?_, h.quiet, fun k hk => Nat.le_of_lt (hlt k hk)⟩
    refine h.last k hk ?_
    rcases List.mem_append.mp hin with hold | hnew
    · exact hold
    · exact absurd (List.mem_singleton.mp hnew) (Nat.ne_of_lt (hlt k hk))
  | delListener key =>
    exact ⟨fun k hk hin => h.last k hk (List.mem_of_mem_erase hin), h.quiet, h.keys⟩
  | clearListener => exact ⟨fun k hk hin => (by cases hin), h.quiet, h.keys⟩

theorem Told.agree_store (h : Told cbs s) {i : Nat} {val : T} (hl : (VarAct.store i val).guard n s) :
    AllAgree cbs ((VarAct.store i val).effect s) ↔ InOrder cbs s (.store i val) := by
  have htold : s.told ≠ none := by
    intro hnone
    have hpending := (h.quiet hnone).1 i
    rw [hl.2] at hpending
    cases hpending
  constructor
  · rintro hagree hothers ⟨key, hkey, hin⟩
    have hquiet : ∀ j, Function.update s.pending i none j = none := by
      intro j
      by_cases hj : j = i
      · rw [hj, Function.update_self]
      · rw [Function.update_of_ne hj]
        exact hothers j hj
    rw [← h.last key hkey hin]
    rcases hagree hquiet key hkey hin with hsome | ⟨hnone, _⟩
    · exact hsome
    · exact absurd ((h.last key hkey hin).symm.trans hnone) htold
  · intro horder hquiet key hkey hin
    left
    refine (h.last key hkey hin).trans (horder (fun j hj => ?_) ⟨key, hkey, hin⟩)
    have hnone := hquiet j
    change Function.update s.pending i none j = none at hnone
    rw [Function.update_of_ne hj] at hnone
    exact hnone

/-- **A section takes the listeners out of agreement exactly when it stores out of order.** -/
theorem Told.agree (h : Told cbs s) (hl : l.guard n s) (hagree : AllAgree cbs s) :
    AllAgree cbs (l.effect s) ↔ InOrder cbs s l := by
  cases l with
  | compare i val =>
    refine ⟨fun _ => trivial, fun _ => ?_⟩
    unfold VarAct.effect
    dsimp only
    split
    · exact hagree
    · intro hquiet
      have hnone : Function.update s.pending i (some val) i = none := hquiet i
      rw [Function.update_self] at hnone
      cases hnone
  | store i val => exact h.agree_store hl
  | addListener key =>
    refine ⟨fun _ => trivial, fun _ hquiet k hk hin => hagree hquiet k hk ?_⟩
    rcases List.mem_append.mp hin with hold | hnew
    · exact hold
    · have hle := h.keys k hk
      rw [List.mem_singleton.mp hnew] at hle
      exact absurd hl (Nat.not_lt.mpr hle)
  | delListener key =>
    exact ⟨fun _ => trivial, fun _ hquiet k hk hin => hagree hquiet k hk (List.mem_of_mem_erase hin)⟩
  | clearListener => exact ⟨fun _ => trivial, fun _ hquiet k hk hin => (by cases hin)⟩

end
end Setters

open Setters in
/-- **Whenever no call is in progress the listeners agree with the value, in exactly the runs in
which no store that leaves no call in progress is out of order.** -/
theorem listeners_run {T : Type} [BEq T] (n : Nat) (var : ConfigVar T) (cbFunId : Nat)
    (hkeys : ∀ key ∈ var.cbs, key ≤ cbFunId) (ls : List (VarAct T))
    (h : (configVar T n).Allowed (start var cbFunId) ls) :
    (∀ ms, ms <+: ls → AllAgree var.cbs ((configVar T n).after (start var cbFunId) ms))
      ↔ ((configVar T n).meeting (InOrder var.cbs)).Allowed (start var cbFunId) ls :=
  h.always_iff (I := Told var.cbs) (fun s l hs hl => hs.effect hl) (fun s l hs hl hp => hs.agree hl hp)
    (.start var cbFunId hkeys) (fun _ key _ _ => .inr ⟨rfl, rfl⟩)

/-- two threads set a limit, and the one that called the listener first stores last -/
def storeReversed : List (VarAct Nat) :=
  [.compare 0 5, .compare 1 7, .store 1 7, .store 0 5]

theorem listeners_run_reversed :
    (∀ ms, ms <+: storeReversed →
        Setters.AllAgree [1] ((configVar Nat 2).after (.start ⟨4, [1]⟩ 1) ms))
      ↔ ((configVar Nat 2).meeting (Setters.InOrder [1])).Allowed (.start ⟨4, [1]⟩ 1)
          storeReversed :=
  listeners_run 2 ⟨4, [1]⟩ 1 (by decide) storeReversed (by decide)

/-- **The listener was last called with 7, and the value is 5.** -/
theorem listener_disagrees : ¬ ∀ (n : Nat) (var : ConfigVar Nat) (cbFunId : Nat),
    (∀ key ∈ var.cbs, key ≤ cbFunId) → ∀ ls,
    (configVar Nat n).Allowed (.start var cbFunId) ls →
    Setters.AllAgree var.cbs ((configVar Nat n).after (.start var cbFunId) ls) := by
  intro h
  have hquiet : ∀ i, ((configVar Nat 2).after (.start ⟨4, [1]⟩ 1) storeReversed).pending i
      = none := by
    intro i
    by_cases hzero : i = 0
    · rw [hzero]
      rfl
    by_cases hone : i = 1
    · rw [hone]
      rfl
    · simp [storeReversed, configVar, Machine.after, VarAct.effect, ConfigVar.compare,
        ConfigVar.store, Setters.start, Function.update, hzero, hone]
  rcases h 2 ⟨4, [1]⟩ 1 (by decide) storeReversed (by decide) hquiet 1 (by decide) (by decide)
    with hsome | ⟨hnone, _⟩
  · exact absurd hsome (by decide)
  · exact absurd hnone (by decide)

end Config
end KitServer
