import Mathlib

/-!
# A loop with a step function

`loop step n s` runs `step` from `s` until it yields a result, for at most `n` rounds.

* `loop_total`   a measure that every round lowers, under an invariant, bounds the rounds;
* `loop_inv`     what every round keeps holds of the result;
* `loop_rounds`  the result is the one of the last state that the rounds reach.
-/

set_option linter.unusedVariables false

namespace KitServer
variable {σ β : Type}

def loop (step : σ → β ⊕ σ) : Nat → σ → Option β
  | 0, _ => none
  | n + 1, s =>
    match step s with
    | .inl b => some b
    | .inr s' => loop step n s'

theorem loop_done {step : σ → β ⊕ σ} {s : σ} {b : β} (h : step s = .inl b) (n : Nat) :
    loop step (n + 1) s = some b := by
  rw [loop, h]

theorem loop_next {step : σ → β ⊕ σ} {s s' : σ} (h : step s = .inr s') (n : Nat) :
    loop step (n + 1) s = loop step n s' := by
  rw [loop, h]

theorem loop_total {step : σ → β ⊕ σ} {I : σ → Prop} (μ : σ → Nat)
    (hstep : ∀ s s', I s → step s = .inr s' → I s' ∧ μ s' < μ s) (n : Nat) :
    ∀ s, I s → μ s < n → ∃ b, loop step n s = some b := by
  induction n with
  | zero => intro s _ hs; omega
  | succ n ih =>
    intro s hI hs
    cases h : step s with
    | inl b => exact ⟨b, loop_done h n⟩
    | inr s' =>
      rw [loop_next h]
      obtain ⟨hI', hlt⟩ := hstep s s' hI h
      exact ih s' hI' (by omega)

theorem loop_inv {step : σ → β ⊕ σ} {I : σ → Prop} {Q : β → Prop}
    (hnext : ∀ s s', I s → step s = .inr s' → I s') (hdone : ∀ s b, I s → step s = .inl b → Q b)
    (n : Nat) : ∀ (s : σ) (b : β), I s → loop step n s = some b → Q b := by
  induction n with
  | zero => intro s b _ h; cases h
  | succ n ih =>
    intro s b hs h
    cases hst : step s with
    | inl b' =>
      rw [loop_done hst] at h
      cases h
      exact hdone s b hs hst
    | inr s' =>
      rw [loop_next hst] at h
      exact ih s' b (hnext s s' hs hst) h

/-! ## the states that the rounds reach -/

def Rounds (step : σ → β ⊕ σ) : σ → σ → Prop :=
  Relation.ReflTransGen fun s s' => step s = .inr s'

theorem Rounds.inv {step : σ → β ⊕ σ} {I : σ → Prop}
    (hnext : ∀ s s', I s → step s = .inr s' → I s') {s s' : σ} (h : Rounds step s s')
    (hs : I s) : I s' := by
  induction h with
  | refl => exact hs
  | tail _ hst ih => exact hnext _ _ ih hst

theorem loop_rounds {step : σ → β ⊕ σ} {b : β} (n : Nat) : ∀ s : σ, loop step n s = some b →
    ∃ s', Rounds step s s' ∧ step s' = .inl b := by
  induction n with
  | zero => intro s h; cases h
  | succ n ih =>
    intro s h
    cases hst : step s with
    | inl b' =>
      rw [loop_done hst] at h
      cases h
      exact ⟨s, .refl, hst⟩
    | inr s' =>
      rw [loop_next hst] at h
      obtain ⟨e, he, hb⟩ := ih s' h
      exact ⟨e, he.head hst, hb⟩

theorem Rounds.eq_of_done {step : σ → β ⊕ σ} {s s' : σ} {b : β} (h : Rounds step s s')
    (hb : step s = .inl b) : s' = s := by
  rcases Relation.ReflTransGen.cases_head h with heq | ⟨c, hc, _⟩
  · exact heq.symm
  · rw [hb] at hc
    cases hc

theorem Rounds.toLast {step : σ → β ⊕ σ} {s s' e : σ} {b : β} (h : Rounds step s s')
    (he : Rounds step s e) (hb : step e = .inl b) : Rounds step s' e := by
  induction h with
  | refl => exact he
  | tail _ hst ih =>
    rcases Relation.ReflTransGen.cases_head ih with heq | ⟨c, hc, hce⟩
    · rw [heq, hb] at hst
      cases hst
    · rw [hst] at hc
      cases hc
      exact hce

theorem Rounds.result {step : σ → β ⊕ σ} {s s' : σ} {b c : β} {n : Nat} (h : Rounds step s s')
    (hc : step s' = .inl c) (hb : loop step n s = some b) : b = c := by
  obtain ⟨e, he, heb⟩ := loop_rounds n s hb
  rw [(h.toLast he heb).eq_of_done hc, hc] at heb
  cases heb
  rfl

end KitServer
