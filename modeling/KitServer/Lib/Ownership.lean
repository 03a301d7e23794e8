import Mathlib

/-!
# Owners of resources

Every owner holds at most one resource, and no two owners hold the same one.

* `Owned`               a resource is good for the owner that holds it, and bare without one;
* `keep`, `alone`       an owner changes, with its resource or without it;
* `take`, `drop`        it takes a resource, and gives it back;
* `idle`, `free`        an owner that holds nothing changes, and a resource that nobody holds.
-/

set_option linter.unusedSectionVars false
set_option linter.unusedVariables false

namespace KitServer

structure Owned {K V X R : Type} (held : X → Option V) (good : X → V → R → Prop)
    (bare : R → Prop) (x : K → X) (r : V → R) : Prop where
  unique : ∀ k k' v, held (x k) = some v → held (x k') = some v → k = k'
  good : ∀ k v, held (x k) = some v → good (x k) v (r v)
  bare : ∀ v, (∀ k, held (x k) ≠ some v) → bare (r v)

namespace Owned
variable {K V X R : Type} [DecidableEq K] [DecidableEq V] {held : X → Option V}
  {good : X → V → R → Prop} {bare : R → Prop} {x : K → X} {r : V → R}

/-- the owner `k` goes on to `x'`, and the resource `v`, which no other owner holds, to `r'` -/
theorem step (h : Owned held good bare x r) {k : K} {v : V} {x' : X} {r' : R}
    (hothers : ∀ j, j ≠ k → held (x j) ≠ some v)
    (hk : ∀ w, held (x k) = some w → w = v) (hx' : ∀ w, held x' = some w → w = v)
    (hgood : held x' = some v → good x' v r') (hbare : held x' ≠ some v → bare r') :
    Owned held good bare (Function.update x k x') (Function.update r v r') where
  unique i j w hi hj := by
    by_cases hik : i = k
    · by_cases hjk : j = k
      · rw [hik, hjk]
      · rw [hik, Function.update_self] at hi
        rw [Function.update_of_ne hjk, hx' w hi] at hj
        exact absurd hj (hothers j hjk)
    · rw [Function.update_of_ne hik] at hi
      by_cases hjk : j = k
      · rw [hjk, Function.update_self] at hj
        rw [hx' w hj] at hi
        exact absurd hi (hothers i hik)
      · rw [Function.update_of_ne hjk] at hj
        exact h.unique i j w hi hj
  good j w hj := by
    by_cases hjk : j = k
    · rw [hjk, Function.update_self] at hj ⊢
      obtain rfl := hx' w hj
      rw [Function.update_self]
      exact hgood hj
    · rw [Function.update_of_ne hjk] at hj ⊢
      have hw : w ≠ v := fun hw => hothers j hjk (hw ▸ hj)
      rw [Function.update_of_ne hw]
      exact h.good j w hj
  bare w hw := by
    by_cases hwv : w = v
    · rw [hwv, Function.update_self]
      refine hbare fun hx => hw k ?_
      rw [Function.update_self, hwv]
      exact hx
    · rw [Function.update_of_ne hwv]
      refine h.bare w fun j hj => ?_
      by_cases hjk : j = k
      · exact hwv (hk w (hjk ▸ hj))
      · exact hw j (by rw [Function.update_of_ne hjk]; exact hj)

theorem keep (h : Owned held good bare x r) {k : K} {v : V} {x' : X} {r' : R}
    (hk : held (x k) = some v) (hx' : held x' = some v) (hgood : good x' v r') :
    Owned held good bare (Function.update x k x') (Function.update r v r') :=
  h.step (fun j hj hv => hj (h.unique j k v hv hk))
    (fun w hw => Option.some.inj (hw.symm.trans hk))
    (fun w hw => Option.some.inj (hw.symm.trans hx')) (fun _ => hgood) fun hne => absurd hx' hne

theorem alone (h : Owned held good bare x r) {k : K} {v : V} {x' : X} (hk : held (x k) = some v)
    (hx' : held x' = some v) (hgood : good x' v (r v)) :
    Owned held good bare (Function.update x k x') r := by
  have hkeep := h.keep hk hx' hgood
  rwa [Function.update_eq_self] at hkeep

theorem take (h : Owned held good bare x r) {k : K} {v : V} {x' : X} {r' : R}
    (hk : held (x k) = none) (hfree : ∀ j, held (x j) ≠ some v) (hx' : held x' = some v)
    (hgood : good x' v r') :
    Owned held good bare (Function.update x k x') (Function.update r v r') :=
  h.step (fun j _ => hfree j) (fun w hw => by rw [hk] at hw; cases hw)
    (fun w hw => Option.some.inj (hw.symm.trans hx')) (fun _ => hgood) fun hne => absurd hx' hne

theorem drop (h : Owned held good bare x r) {k : K} {v : V} {x' : X} {r' : R}
    (hk : held (x k) = some v) (hx' : held x' = none) (hbare : bare r') :
    Owned held good bare (Function.update x k x') (Function.update r v r') :=
  h.step (fun j hj hv => hj (h.unique j k v hv hk))
    (fun w hw => Option.some.inj (hw.symm.trans hk)) (fun w hw => by rw [hx'] at hw; cases hw)
    (fun hv => by rw [hx'] at hv; cases hv) fun _ => hbare

theorem idle (h : Owned held good bare x r) {k : K} {x' : X} (hk : held (x k) = none)
    (hx' : held x' = none) : Owned held good bare (Function.update x k x') r := by
  have hheld : ∀ j, held (Function.update x k x' j) = held (x j) := by
    intro j
    by_cases hj : j = k
    · rw [hj, Function.update_self, hk, hx']
    · rw [Function.update_of_ne hj]
  refine ⟨fun i j v hi hj => ?_, fun j v hj => ?_, fun v hv => ?_⟩
  · rw [hheld] at hi hj
    exact h.unique i j v hi hj
  · have hjk : j ≠ k := by
      rintro rfl
      rw [Function.update_self, hx'] at hj
      cases hj
    rw [Function.update_of_ne hjk] at hj ⊢
    exact h.good j v hj
  · refine h.bare v fun j hj => hv j ?_
    rw [hheld]
    exact hj

theorem free (h : Owned held good bare x r) {v : V} {r' : R} (hfree : ∀ j, held (x j) ≠ some v)
    (hbare : bare r') : Owned held good bare x (Function.update r v r') where
  unique := h.unique
  good j w hj := by
    have hw : w ≠ v := fun hw => hfree j (hw ▸ hj)
    rw [Function.update_of_ne hw]
    exact h.good j w hj
  bare w hw := by
    by_cases hwv : w = v
    · rw [hwv, Function.update_self]
      exact hbare
    · rw [Function.update_of_ne hwv]
      exact h.bare w hw

theorem unheld (h : Owned held good bare x r) {v : V} (hbad : ∀ y, ¬ good y v (r v)) (k : K) :
    held (x k) ≠ some v :=
  fun hk => hbad (x k) (h.good k v hk)

end Owned
end KitServer
