import Mathlib

/-!
# Machines whose steps carry a label

A machine has a `guard`, which says when a step can be taken, and an `effect`.  Threads that
interleave are labels that name the thread; a run is a list of labels.

* `Allowed`, `after`   legality of a run and the state behind it;
* `Allowed.inv`        what every step keeps holds behind every run;
* `Allowed.budget`     what all the steps of a run weigh together;
* `meeting`            the machine of which every step also meets a condition;
* `Allowed.meeting_iff` the runs of which every step meets a condition, by their last state;
* `Allowed.always_iff`  the same runs, by all the states that they reach;
* `Allowed.refines`     a run of one machine, seen as a run of another.
-/

set_option linter.unusedVariables false

namespace KitServer

structure Machine (S L : Type) where
  guard : S → L → Prop
  effect : S → L → S

namespace Machine
variable {S L : Type} (M : Machine S L)

/-- the state behind the run `ls` -/
def after : S → List L → S
  | s, [] => s
  | s, l :: ls => after (M.effect s l) ls

/-- every step of the run `ls` can be taken where it stands -/
def Allowed : S → List L → Prop
  | _, [] => True
  | s, l :: ls => M.guard s l ∧ Allowed (M.effect s l) ls

instance decidableAllowed [∀ s l, Decidable (M.guard s l)] :
    ∀ (s : S) (ls : List L), Decidable (M.Allowed s ls)
  | _, [] => inferInstanceAs (Decidable True)
  | s, l :: ls => @instDecidableAnd _ _ _ (decidableAllowed (M.effect s l) ls)

/-- the machine of which every step also meets the condition `C` -/
def meeting (C : S → L → Prop) : Machine S L where
  guard := fun s l => M.guard s l ∧ C s l
  effect := M.effect

instance [∀ s l, Decidable (M.guard s l)] (C : S → L → Prop) [∀ s l, Decidable (C s l)] (s : S)
    (l : L) : Decidable ((M.meeting C).guard s l) :=
  inferInstanceAs (Decidable (M.guard s l ∧ C s l))

variable {M}

theorem after_append (s : S) (ls ms : List L) :
    M.after s (ls ++ ms) = M.after (M.after s ls) ms := by
  induction ls generalizing s with
  | nil => rfl
  | cons l ls ih => exact ih (M.effect s l)

theorem allowed_append {s : S} {ls ms : List L} :
    M.Allowed s (ls ++ ms) ↔ M.Allowed s ls ∧ M.Allowed (M.after s ls) ms := by
  induction ls generalizing s with
  | nil => exact ⟨fun h => ⟨trivial, h⟩, fun h => h.2⟩
  | cons l ls ih =>
    show M.guard s l ∧ M.Allowed (M.effect s l) (ls ++ ms) ↔
      (M.guard s l ∧ M.Allowed (M.effect s l) ls) ∧ _
    rw [ih, and_assoc]
    rfl

/-- **What every step keeps holds behind every run.** -/
theorem Allowed.inv {I : S → Prop} (hstep : ∀ s l, I s → M.guard s l → I (M.effect s l)) {s : S}
    {ls : List L} (h : M.Allowed s ls) (hs : I s) : I (M.after s ls) := by
  induction ls generalizing s with
  | nil => exact hs
  | cons l ls ih => exact ih h.2 (hstep s l hs h.1)

theorem meeting_after (C : S → L → Prop) (s : S) (ls : List L) :
    (M.meeting C).after s ls = M.after s ls := by
  induction ls generalizing s with
  | nil => rfl
  | cons l ls ih => exact ih (M.effect s l)

theorem Allowed.of_meeting {C : S → L → Prop} {s : S} {ls : List L}
    (h : (M.meeting C).Allowed s ls) : M.Allowed s ls := by
  induction ls generalizing s with
  | nil => trivial
  | cons l ls ih => exact ⟨h.1.1, ih h.2⟩

theorem Allowed.meeting {C : L → Prop} {s : S} {ls : List L} (h : M.Allowed s ls)
    (hls : ∀ l ∈ ls, C l) : (M.meeting fun _ l => C l).Allowed s ls := by
  induction ls generalizing s with
  | nil => trivial
  | cons l ls ih =>
    exact ⟨⟨h.1, hls l List.mem_cons_self⟩, ih h.2 fun m hm => hls m (List.mem_cons_of_mem l hm)⟩

/-- **If every step pays for its weight, the weights of a run are paid for by its first state.** -/
theorem Allowed.budget {I : S → Prop} {weight : L → Nat} {φ : S → Nat}
    (hstep : ∀ s l, I s → M.guard s l → I (M.effect s l) ∧ φ (M.effect s l) + weight l ≤ φ s)
    {s : S} {ls : List L} (h : M.Allowed s ls) (hs : I s) : (ls.map weight).sum ≤ φ s := by
  induction ls generalizing s with
  | nil => exact Nat.zero_le _
  | cons l ls ih =>
    obtain ⟨hnext, hpaid⟩ := hstep s l hs h.1
    have hrest := ih h.2 hnext
    rw [List.map_cons, List.sum_cons]
    omega

/-- **If a step takes `P` on exactly when it meets the condition, a run ends in `P` exactly when
all of its steps meet it.** -/
theorem Allowed.meeting_iff {I P : S → Prop} {C : S → L → Prop}
    (hinv : ∀ s l, I s → M.guard s l → I (M.effect s l))
    (hstep : ∀ s l, I s → M.guard s l → (P (M.effect s l) ↔ P s ∧ C s l)) {s : S} {ls : List L}
    (h : M.Allowed s ls) (hs : I s) :
    P (M.after s ls) ↔ P s ∧ (M.meeting C).Allowed s ls := by
  induction ls generalizing s with
  | nil => exact ⟨fun hok => ⟨hok, trivial⟩, fun hok => hok.1⟩
  | cons l ls ih =>
    show P (M.after (M.effect s l) ls) ↔
      P s ∧ (M.guard s l ∧ C s l) ∧ (M.meeting C).Allowed (M.effect s l) ls
    rw [ih h.2 (hinv s l hs h.1), hstep s l hs h.1]
    constructor
    · rintro ⟨⟨hok, hc⟩, hls⟩
      exact ⟨hok, ⟨h.1, hc⟩, hls⟩
    · rintro ⟨hok, ⟨_, hc⟩, hls⟩
      exact ⟨⟨hok, hc⟩, hls⟩

/-- **If a step from `P` leads to `P` exactly when it meets the condition, then `P` holds all along
a run exactly when all steps of the run meet it.** -/
theorem Allowed.always_iff {I P : S → Prop} {C : S → L → Prop}
    (hinv : ∀ s l, I s → M.guard s l → I (M.effect s l))
    (hstep : ∀ s l, I s → M.guard s l → P s → (P (M.effect s l) ↔ C s l)) {s : S} {ls : List L}
    (h : M.Allowed s ls) (hs : I s) (hp : P s) :
    (∀ ms, ms <+: ls → P (M.after s ms)) ↔ (M.meeting C).Allowed s ls := by
  induction ls generalizing s with
  | nil =>
    refine ⟨fun _ => trivial, fun _ ms hms => ?_⟩
    rw [List.prefix_nil.mp hms]
    exact hp
  | cons l ls ih =>
    have hone := hstep s l hs h.1 hp
    constructor
    · intro hall
      have hnext : P (M.effect s l) := hall [l] (List.prefix_append [l] ls)
      refine ⟨⟨h.1, hone.mp hnext⟩, (ih h.2 (hinv s l hs h.1) hnext).mp fun ms hms => ?_⟩
      exact hall (l :: ms) (List.cons_prefix_cons.mpr ⟨rfl, hms⟩)
    · rintro ⟨⟨_, hc⟩, hls⟩ ms hms
      have hnext := hone.mpr hc
      cases ms with
      | nil => exact hp
      | cons m ms =>
        obtain ⟨rfl, htail⟩ := List.cons_prefix_cons.mp hms
        exact (ih h.2 (hinv s m hs h.1) hnext).mpr hls ms htail

/-- **If every step is, for who sees only `seen`, the steps `labels` of the machine `N`, then so is
every run.** -/
theorem Allowed.refines {T K : Type} {N : Machine T K} {I : S → Prop} {seen : S → T}
    {labels : L → List K} (hinv : ∀ s l, I s → M.guard s l → I (M.effect s l))
    (hstep : ∀ s l, I s → M.guard s l →
      N.Allowed (seen s) (labels l) ∧ N.after (seen s) (labels l) = seen (M.effect s l))
    {s : S} {ls : List L} (h : M.Allowed s ls) (hs : I s) :
    N.Allowed (seen s) (ls.flatMap labels) ∧
      N.after (seen s) (ls.flatMap labels) = seen (M.after s ls) := by
  induction ls generalizing s with
  | nil => exact ⟨trivial, rfl⟩
  | cons l ls ih =>
    obtain ⟨hone, hafter⟩ := hstep s l hs h.1
    obtain ⟨hrest, hend⟩ := ih h.2 (hinv s l hs h.1)
    rw [← hafter] at hrest hend
    rw [List.flatMap_cons, allowed_append, after_append]
    exact ⟨⟨hone, hrest⟩, hend⟩

end Machine
end KitServer
