import Mathlib

/-!
# An ordered set as a sorted list

`std::set` with comparator `lt`, as the list of its elements in order.  `OrderedSet.insert` puts an
element at its place and keeps the old one when there is an equivalent one; `before` is the part in
front of `lower_bound`.

* `mem_insert`, `insert_sorted`   what insertion adds, and that it keeps the order;
* `before_append_after`, `mem_before`   the cut at a probe.
-/

set_option linter.unusedVariables false

namespace KitServer
namespace OrderedSet
variable {α : Type} (lt : α → α → Bool)

def insert (x : α) : List α → List α
  | [] => [x]
  | y :: ys => if lt y x then y :: insert x ys else if lt x y then x :: y :: ys else y :: ys

def Sorted (l : List α) : Prop := l.Pairwise fun a b => lt a b = true

/-- the elements in front of the first one that `p` does not hold of -/
def before (p : α → Bool) (l : List α) : List α := l.takeWhile p

def after (p : α → Bool) (l : List α) : List α := l.dropWhile p

/-- the element equivalent to `x`: the one at `lower_bound`, when it is not behind `x` -/
def find (x : α) (l : List α) : Option α :=
  match after (fun y => lt y x) l with
  | [] => none
  | y :: _ => if lt x y then none else some y

section
variable {lt}

theorem mem_of_mem_insert {x a : α} {l : List α} (h : a ∈ insert lt x l) : a = x ∨ a ∈ l := by
  induction l with
  | nil => exact .inl (List.mem_singleton.mp h)
  | cons y ys ih =>
    unfold insert at h
    by_cases h1 : lt y x = true
    · rw [if_pos h1] at h
      rcases List.mem_cons.mp h with rfl | h
      · exact .inr List.mem_cons_self
      · rcases ih h with rfl | h
        · exact .inl rfl
        · exact .inr (List.mem_cons_of_mem _ h)
    · rw [if_neg h1] at h
      by_cases h2 : lt x y = true
      · rw [if_pos h2] at h
        exact List.mem_cons.mp h
      · rw [if_neg h2] at h
        exact .inr h

theorem mem_insert_of_mem {x a : α} {l : List α} (h : a ∈ l) : a ∈ insert lt x l := by
  induction l with
  | nil => cases h
  | cons y ys ih =>
    unfold insert
    by_cases h1 : lt y x = true
    · rw [if_pos h1]
      rcases List.mem_cons.mp h with rfl | h
      · exact List.mem_cons_self
      · exact List.mem_cons_of_mem _ (ih h)
    · rw [if_neg h1]
      by_cases h2 : lt x y = true
      · rw [if_pos h2]
        exact List.mem_cons_of_mem _ h
      · rw [if_neg h2]
        exact h

theorem mem_insert_self {x : α} {l : List α} (h : ∀ y ∈ l, lt y x = true ∨ lt x y = true) :
    x ∈ insert lt x l := by
  induction l with
  | nil => exact List.mem_singleton.mpr rfl
  | cons y ys ih =>
    unfold insert
    by_cases h1 : lt y x = true
    · rw [if_pos h1]
      exact List.mem_cons_of_mem _ (ih fun z hz => h z (List.mem_cons_of_mem _ hz))
    · have h2 := (h y List.mem_cons_self).resolve_left h1
      rw [if_neg h1, if_pos h2]
      exact List.mem_cons_self

theorem insert_sorted (htrans : ∀ a b c, lt a b = true → lt b c = true → lt a c = true)
    {x : α} {l : List α} (h : Sorted lt l) : Sorted lt (insert lt x l) := by
  induction l with
  | nil => exact List.pairwise_singleton _ _
  | cons y ys ih =>
    obtain ⟨hy, hys⟩ := List.pairwise_cons.mp h
    unfold insert
    by_cases h1 : lt y x = true
    · rw [if_pos h1]
      refine List.pairwise_cons.mpr ⟨fun a ha => ?_, ih hys⟩
      rcases mem_of_mem_insert ha with rfl | ha
      · exact h1
      · exact hy a ha
    · rw [if_neg h1]
      by_cases h2 : lt x y = true
      · rw [if_pos h2]
        refine List.pairwise_cons.mpr ⟨fun a ha => ?_, h⟩
        rcases List.mem_cons.mp ha with rfl | ha
        · exact h2
        · exact htrans _ _ _ h2 (hy a ha)
      · rw [if_neg h2]
        exact h

theorem Sorted.congr {lt' : α → α → Bool} {l : List α} (h : Sorted lt l)
    (he : ∀ a ∈ l, ∀ b ∈ l, lt a b = lt' a b) : Sorted lt' l := by
  refine List.Pairwise.imp_of_mem ?_ h
  intro a b ha hb hab
  rw [← he a ha b hb]
  exact hab

theorem Sorted.nodup (hirrefl : ∀ a, lt a a = false) {l : List α} (h : Sorted lt l) : l.Nodup := by
  refine List.Pairwise.imp ?_ h
  rintro a _ hab rfl
  rw [hirrefl] at hab
  cases hab

/-! ## cutting at a probe -/

theorem before_append_after (p : α → Bool) (l : List α) : before p l ++ after p l = l :=
  List.takeWhile_append_dropWhile

theorem before_eq_filter {p : α → Bool} {l : List α} (h : Sorted lt l)
    (hp : ∀ a ∈ l, ∀ b ∈ l, lt a b = true → p b = true → p a = true) :
    before p l = l.filter p := by
  induction l with
  | nil => rfl
  | cons y ys ih =>
    obtain ⟨hy, hys⟩ := List.pairwise_cons.mp h
    have ih := ih hys fun a ha b hb => hp a (List.mem_cons_of_mem _ ha) b (List.mem_cons_of_mem _ hb)
    unfold before at ih ⊢
    by_cases h1 : p y = true
    · rw [List.takeWhile_cons_of_pos h1, List.filter_cons_of_pos h1, ih]
    · rw [List.takeWhile_cons_of_neg h1, List.filter_cons_of_neg h1]
      refine (List.filter_eq_nil_iff.mpr fun a ha hpa => h1 ?_).symm
      exact hp y List.mem_cons_self a (List.mem_cons_of_mem _ ha) (hy a ha) hpa

theorem not_of_mem_after {p : α → Bool} {l : List α} (h : Sorted lt l)
    (hp : ∀ a ∈ l, ∀ b ∈ l, lt a b = true → p b = true → p a = true) {a : α}
    (ha : a ∈ after p l) : p a = false := by
  induction l with
  | nil => cases ha
  | cons y ys ih =>
    obtain ⟨hy, hys⟩ := List.pairwise_cons.mp h
    unfold after at ih ha
    by_cases h1 : p y = true
    · rw [List.dropWhile_cons_of_pos h1] at ha
      exact ih hys (fun a ha b hb => hp a (List.mem_cons_of_mem _ ha) b (List.mem_cons_of_mem _ hb))
        ha
    · rw [List.dropWhile_cons_of_neg h1] at ha
      refine Bool.eq_false_iff.mpr fun hpa => h1 ?_
      rcases List.mem_cons.mp ha with rfl | hay
      · exact hpa
      · exact hp y List.mem_cons_self a ha (hy a hay) hpa

/-! ## finding an element -/

theorem find_cons_of_lt {x y : α} {ys : List α} (h : lt y x = true) :
    find lt x (y :: ys) = find lt x ys := by
  unfold find after
  rw [List.dropWhile_cons_of_pos (p := fun y => lt y x) h]

theorem find_cons_of_not_lt {x y : α} {ys : List α} (h : lt y x = false) :
    find lt x (y :: ys) = if lt x y then none else some y := by
  unfold find after
  rw [List.dropWhile_cons_of_neg (p := fun y => lt y x) (by rw [h]; exact Bool.false_ne_true)]

theorem find_eq_some_iff (hirrefl : ∀ a, lt a a = false)
    (htotal : ∀ a b, a ≠ b → lt a b = true ∨ lt b a = true) {x y : α} {l : List α}
    (h : Sorted lt l) : find lt x l = some y ↔ y = x ∧ x ∈ l := by
  induction l with
  | nil => exact ⟨fun hf => (by cases hf), fun hf => absurd hf.2 List.not_mem_nil⟩
  | cons z zs ih =>
    obtain ⟨hz, hzs⟩ := List.pairwise_cons.mp h
    by_cases h1 : lt z x = true
    · rw [find_cons_of_lt h1, ih hzs, List.mem_cons]
      have hne : x ≠ z := by
        rintro rfl
        rw [hirrefl] at h1
        cases h1
      exact and_congr_right fun _ => ⟨.inr, fun hx => hx.resolve_left hne⟩
    · rw [find_cons_of_not_lt (Bool.eq_false_iff.mpr h1)]
      by_cases h2 : lt x z = true
      · rw [if_pos h2]
        refine ⟨fun hf => (by cases hf), ?_⟩
        rintro ⟨rfl, hy⟩
        rcases List.mem_cons.mp hy with rfl | hy
        · exact absurd h2 h1
        · exact absurd (hz _ hy) h1
      · rw [if_neg h2]
        have hx : z = x := by
          by_contra hne
          exact (htotal z x hne).elim h1 h2
        subst hx
        exact ⟨fun hf => ⟨(Option.some.inj hf).symm, List.mem_cons_self⟩, fun hf => hf.1 ▸ rfl⟩

theorem head_le {x : α} {xs : List α} (h : Sorted lt (x :: xs)) {y : α} (hy : y ∈ x :: xs) :
    y = x ∨ lt x y = true :=
  (List.mem_cons.mp hy).imp id ((List.pairwise_cons.mp h).1 y)

end
end OrderedSet
end KitServer
