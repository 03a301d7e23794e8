import Mathlib

/-!
# A table-driven scanner with actions

`T` is the table of a deterministic machine over bytes; a transition carries actions, a target and
whether the scan stops behind the byte.  `act p a` performs the action `a` at position `p` of the
buffer.

* `scan_append`     a scan over two pieces of one buffer;
* `scan_inv`        what every action keeps holds where the scan ends;
* `scan_safe`       the same with the position, for actions that do not fail;
* `live`            a register is live when it is read before it is written on the rest of the run;
* `scan_follows`    a scan of a part of the input follows the scan of all of it, when the states
                    agree on the live registers;
* `tableTrans_all`  what a table has at every range holds of every transition, and
  `tableTrans_pick` the range that has a byte gives the transition.
-/

set_option linter.unusedVariables false

namespace KitServer

structure Trans (α : Type) where
  acts : List α
  target : Nat
  brk : Bool
deriving DecidableEq

/-- where a table goes on a byte: to a state, or to a numbered transition with actions -/
inductive Jump where
  | st (n : Nat)
  | tr (n : Nat)
deriving DecidableEq

/-- the bytes from `lo` to `hi` -/
structure Range where
  lo : Nat
  hi : Nat
  jump : Jump
deriving DecidableEq

def Jump.trans {α : Type} (tr : Nat → Trans α) : Jump → Trans α
  | .st n => ⟨[], n, false⟩
  | .tr n => tr n

def tableTrans {α : Type} (rows : List (List Range)) (tr : Nat → Trans α) (cs : Nat) (c : UInt8) :
    Option (Trans α) :=
  ((rows.getD cs []).find? fun r => r.lo ≤ c.toNat && c.toNat ≤ r.hi).map fun r => r.jump.trans tr

/-- how a scan ends: out of input, stopped by a transition behind position `p`, without a
transition at position `p`, or by an action that fails -/
inductive Scan (σ ε : Type) where
  | more (cs : Nat) (s : σ)
  | stop (cs p : Nat) (s : σ)
  | bad (p : Nat) (s : σ)
  | fail (e : ε)

variable {α σ ε ρ : Type}

def runActs (act : α → σ → Except ε σ) : List α → σ → Except ε σ
  | [], s => .ok s
  | a :: as, s =>
    match act a s with
    | .ok s' => runActs act as s'
    | .error e => .error e

theorem runActs_append (act : α → σ → Except ε σ) (as bs : List α) : ∀ s : σ,
    runActs act (as ++ bs) s =
      match runActs act as s with
      | .ok s' => runActs act bs s'
      | .error e => .error e := by
  induction as with
  | nil => intro s; rfl
  | cons a as ih =>
    intro s
    rw [List.cons_append, runActs, runActs]
    cases act a s with
    | ok s' => exact ih s'
    | error e => rfl

section
variable (T : Nat → UInt8 → Option (Trans α)) (act : Nat → α → σ → Except ε σ)

def scan : Nat → Nat → List UInt8 → σ → Scan σ ε
  | cs, _, [], s => .more cs s
  | cs, p, c :: rest, s =>
    match T cs c with
    | none => .bad p s
    | some t =>
      match runActs (act p) t.acts s with
      | .error e => .fail e
      | .ok s' => if t.brk then .stop t.target (p + 1) s' else scan t.target (p + 1) rest s'

section
variable {T act} {cs p : Nat} {c : UInt8} {rest : List UInt8} {s s' : σ} {t : Trans α} {e : ε}

theorem scan_bad (hT : T cs c = none) : scan T act cs p (c :: rest) s = .bad p s := by
  simp only [scan, hT]

theorem scan_fail (hT : T cs c = some t) (hr : runActs (act p) t.acts s = .error e) :
    scan T act cs p (c :: rest) s = .fail e := by
  simp only [scan, hT, hr]

theorem scan_ok (hT : T cs c = some t) (hr : runActs (act p) t.acts s = .ok s') :
    scan T act cs p (c :: rest) s =
      if t.brk then .stop t.target (p + 1) s' else scan T act t.target (p + 1) rest s' := by
  simp only [scan, hT, hr]

end

theorem scan_append (a b : List UInt8) : ∀ (cs p : Nat) (s : σ),
    scan T act cs p (a ++ b) s =
      match scan T act cs p a s with
      | .more cs' s' => scan T act cs' (p + a.length) b s'
      | .stop cs' p' s' => .stop cs' p' s'
      | .bad p' s' => .bad p' s'
      | .fail e => .fail e := by
  induction a with
  | nil => intro cs p s; rfl
  | cons c a ih =>
    intro cs p s
    rw [List.cons_append]
    cases hT : T cs c with
    | none => rw [scan_bad hT, scan_bad hT]
    | some t =>
      cases hr : runActs (act p) t.acts s with
      | error e => rw [scan_fail hT hr, scan_fail hT hr]
      | ok s' =>
        rw [scan_ok hT hr, scan_ok hT hr]
        by_cases hb : t.brk = true
        · rw [if_pos hb, if_pos hb]
        · rw [if_neg hb, if_neg hb, ih, List.length_cons, Nat.add_assoc p 1, Nat.add_comm 1]

/-! ## where a scan ends -/

/-- the state behind the bytes, when no transition stops in front of their end -/
def run (T : Nat → UInt8 → Option (Trans α)) : Nat → List UInt8 → Option Nat
  | cs, [] => some cs
  | cs, c :: rest =>
    match T cs c with
    | none => none
    | some t => if t.brk then none else run T t.target rest

theorem run_of_more {cs' : Nat} {s' : σ} (bs : List UInt8) : ∀ (cs p : Nat) (s : σ),
    scan T act cs p bs s = .more cs' s' → run T cs bs = some cs' := by
  induction bs with
  | nil =>
    intro cs p s h
    cases h
    rfl
  | cons c bs ih =>
    intro cs p s h
    cases hT : T cs c with
    | none =>
      rw [scan_bad hT] at h
      cases h
    | some t =>
      cases hr : runActs (act p) t.acts s with
      | error e =>
        rw [scan_fail hT hr] at h
        cases h
      | ok s₁ =>
        rw [scan_ok hT hr] at h
        by_cases hb : t.brk = true
        · rw [if_pos hb] at h
          cases h
        · rw [if_neg hb] at h
          simp only [run, hT, if_neg hb]
          exact ih t.target (p + 1) s₁ h

theorem run_of_stop {cs' q : Nat} {s' : σ} (bs : List UInt8) : ∀ (cs p : Nat) (s : σ),
    scan T act cs p bs s = .stop cs' q s' →
      run T cs bs = none ∧ p < q ∧ q ≤ p + bs.length ∧
        ∃ cs₁ c t, T cs₁ c = some t ∧ t.brk = true ∧ t.target = cs' := by
  induction bs with
  | nil => intro cs p s h; cases h
  | cons c bs ih =>
    intro cs p s h
    cases hT : T cs c with
    | none =>
      rw [scan_bad hT] at h
      cases h
    | some t =>
      cases hr : runActs (act p) t.acts s with
      | error e =>
        rw [scan_fail hT hr] at h
        cases h
      | ok s₁ =>
        rw [scan_ok hT hr] at h
        by_cases hb : t.brk = true
        · rw [if_pos hb] at h
          cases h
          refine ⟨?_, Nat.lt_succ_self p, ?_, cs, c, t, hT, hb, rfl⟩
          · simp only [run, hT, if_pos hb]
          · rw [List.length_cons]
            omega
        · rw [if_neg hb] at h
          obtain ⟨hrun, hlt, hle, hex⟩ := ih t.target (p + 1) s₁ h
          refine ⟨?_, by omega, ?_, hex⟩
          · simp only [run, hT, if_neg hb]
            exact hrun
          · rw [List.length_cons]
            omega

theorem run_append {T : Nat → UInt8 → Option (Trans α)} (a b : List UInt8) : ∀ cs,
    run T cs (a ++ b) = (run T cs a).bind fun cs' => run T cs' b := by
  induction a with
  | nil => intro cs; rfl
  | cons c a ih =>
    intro cs
    rw [List.cons_append, run, run]
    cases T cs c with
    | none => rfl
    | some t =>
      dsimp only
      by_cases hb : t.brk = true
      · rw [if_pos hb, if_pos hb]
        rfl
      · rw [if_neg hb, if_neg hb]
        exact ih t.target

theorem run_inv {T : Nat → UInt8 → Option (Trans α)} {I : Nat → Prop}
    (hT : ∀ cs c t, T cs c = some t → t.brk = false → I t.target) (bs : List UInt8) :
    ∀ cs cs', I cs → run T cs bs = some cs' → I cs' := by
  induction bs with
  | nil =>
    intro cs cs' hI h
    cases h
    exact hI
  | cons c bs ih =>
    intro cs cs' hI h
    rw [run] at h
    cases ht : T cs c with
    | none =>
      rw [ht] at h
      cases h
    | some t =>
      rw [ht] at h
      dsimp only at h
      by_cases hb : t.brk = true
      · rw [if_pos hb] at h
        cases h
      · rw [if_neg hb] at h
        exact ih t.target cs' (hT cs c t ht (by simpa using hb)) h

/-! ## what the actions keep -/

/-- `I` holds of the state in which the scan ends -/
def Scan.Ends (I : σ → Prop) : Scan σ ε → Prop
  | .more _ s => I s
  | .stop _ _ s => I s
  | .bad _ s => I s
  | .fail _ => True

theorem runActs_inv {f : α → σ → Except ε σ} {I : σ → Prop} (as : List α)
    (hact : ∀ a ∈ as, ∀ s s', I s → f a s = .ok s' → I s') :
    ∀ s s', I s → runActs f as s = .ok s' → I s' := by
  induction as with
  | nil =>
    intro s s' hs h
    cases h
    exact hs
  | cons a as ih =>
    intro s s' hs h
    rw [runActs] at h
    cases ha : f a s with
    | error e =>
      rw [ha] at h
      cases h
    | ok s₁ =>
      rw [ha] at h
      exact ih (fun b hb => hact b (List.mem_cons_of_mem a hb)) s₁ s'
        (hact a List.mem_cons_self s s₁ hs ha) h

theorem scan_inv {I : σ → Prop} (hact : ∀ p a s s', I s → act p a s = .ok s' → I s')
    (bs : List UInt8) : ∀ (cs p : Nat) (s : σ), I s → (scan T act cs p bs s).Ends I := by
  induction bs with
  | nil => intro cs p s hs; exact hs
  | cons c bs ih =>
    intro cs p s hs
    cases hT : T cs c with
    | none =>
      rw [scan_bad hT]
      exact hs
    | some t =>
      cases hr : runActs (act p) t.acts s with
      | error e =>
        rw [scan_fail hT hr]
        trivial
      | ok s' =>
        have hs' := runActs_inv t.acts (fun a _ => hact p a) s s' hs hr
        rw [scan_ok hT hr]
        by_cases hb : t.brk = true
        · rw [if_pos hb]
          exact hs'
        · rw [if_neg hb]
          exact ih t.target (p + 1) s' hs'

/-- `Q` holds of the state and the position where the scan of `n` bytes from `p` on ends, and no
action fails -/
def Scan.Safe (Q : Nat → σ → Prop) (p n : Nat) : Scan σ ε → Prop
  | .more _ s => Q (p + n) s
  | .stop _ q s => Q q s ∧ q ≤ p + n
  | .bad q s => Q q s ∧ q ≤ p + n
  | .fail _ => False

theorem runActs_safe {f : α → σ → Except ε σ} {K : σ → Prop}
    (hact : ∀ a s, K s → ∃ s', f a s = .ok s' ∧ K s') (as : List α) :
    ∀ s, K s → ∃ s', runActs f as s = .ok s' ∧ K s' := by
  induction as with
  | nil => intro s hs; exact ⟨s, rfl, hs⟩
  | cons a as ih =>
    intro s hs
    obtain ⟨s₁, h₁, hs₁⟩ := hact a s hs
    obtain ⟨s₂, h₂, hs₂⟩ := ih s₁ hs₁
    refine ⟨s₂, ?_, hs₂⟩
    rw [runActs, h₁]
    exact h₂

/-- `J p` in front of the byte at `p` and `K p` between its actions -/
theorem scan_safe {J K : Nat → σ → Prop} {N : Nat} (hJK : ∀ p s, J p s → K p s)
    (hKJ : ∀ p s, K p s → J (p + 1) s)
    (hact : ∀ p, p < N → ∀ a s, K p s → ∃ s', act p a s = .ok s' ∧ K p s') (bs : List UInt8) :
    ∀ (cs p : Nat) (s : σ), p + bs.length ≤ N → J p s →
      (scan T act cs p bs s).Safe J p bs.length := by
  induction bs with
  | nil => intro cs p s _ hs; exact hs
  | cons c bs ih =>
    intro cs p s hN hs
    rw [List.length_cons] at hN
    cases hT : T cs c with
    | none =>
      rw [scan_bad hT]
      exact ⟨hs, by omega⟩
    | some t =>
      obtain ⟨s', hr, hs'⟩ := runActs_safe (hact p (by omega)) t.acts s (hJK p s hs)
      have hnext := hKJ p s' hs'
      rw [scan_ok hT hr]
      by_cases hb : t.brk = true
      · rw [if_pos hb, List.length_cons]
        exact ⟨hnext, by omega⟩
      · rw [if_neg hb]
        have hrest := ih t.target (p + 1) s' (by omega) hnext
        have hlen : p + (c :: bs).length = p + 1 + bs.length := by
          rw [List.length_cons]
          omega
        generalize scan T act t.target (p + 1) bs s' = r at hrest
        cases r with
        | more cs₁ s₁ =>
          show J (p + (c :: bs).length) s₁
          rw [hlen]
          exact hrest
        | stop cs₁ q s₁ => exact ⟨hrest.1, hlen ▸ hrest.2⟩
        | bad q s₁ => exact ⟨hrest.1, hlen ▸ hrest.2⟩
        | fail e => exact hrest.elim

end

/-! ## registers that are read before they are written -/

section
variable (T : Nat → UInt8 → Option (Trans α)) (uses sets : α → ρ → Bool)

/-- `uses a r`: the action `a` reads the register `r`; `sets a r`: it writes it without reading -/
def needed (r : ρ) : List α → Bool → Bool
  | [], k => k
  | a :: as, k => if uses a r then true else if sets a r then false else needed r as k

/-- the register is read before it is written on the run over the bytes -/
def live (r : ρ) : Nat → List UInt8 → Bool
  | _, [] => false
  | cs, c :: rest =>
    match T cs c with
    | none => false
    | some t => needed uses sets r t.acts (if t.brk then false else live r t.target rest)

variable {T uses sets} {cs : Nat} {c : UInt8} {t : Trans α}

theorem needed_cons (r : ρ) (a : α) (as : List α) (k : Bool) :
    needed uses sets r (a :: as) k = (uses a r || (!sets a r && needed uses sets r as k)) := by
  rw [needed]
  cases uses a r
  · cases sets a r
    · rfl
    · rfl
  · rfl

theorem live_cons (hT : T cs c = some t) (r : ρ) (rest : List UInt8) :
    live T uses sets r cs (c :: rest)
      = needed uses sets r t.acts (if t.brk then false else live T uses sets r t.target rest) := by
  simp only [live, hT]

/-- a set of states that holds every state from which `r` is read first holds the states in which
it is live -/
theorem live_mem {S : Nat → Bool} {r : ρ}
    (hS : ∀ cs c t, T cs c = some t →
      needed uses sets r t.acts (!t.brk && S t.target) = true → S cs = true)
    (bs : List UInt8) : ∀ cs, live T uses sets r cs bs = true → S cs = true := by
  have hmono : ∀ (as : List α) (k k' : Bool), (k = true → k' = true) →
      needed uses sets r as k = true → needed uses sets r as k' = true := by
    intro as k k' hk
    induction as with
    | nil => exact hk
    | cons a as ih =>
      intro h
      rw [needed] at h ⊢
      by_cases hu : uses a r = true
      · rw [if_pos hu]
      · rw [if_neg hu] at h ⊢
        by_cases hw : sets a r = true
        · rw [if_pos hw] at h
          cases h
        · rw [if_neg hw] at h ⊢
          exact ih h
  induction bs with
  | nil => intro cs h; cases h
  | cons c bs ih =>
    intro cs h
    cases hT : T cs c with
    | none =>
      simp only [live, hT] at h
      cases h
    | some t =>
      rw [live_cons hT] at h
      apply hS cs c t hT
      refine hmono t.acts _ _ ?_ h
      intro hk
      by_cases hb : t.brk = true
      · rw [if_pos hb] at hk
        cases hk
      · rw [if_neg hb] at hk
        rw [ih t.target hk]
        simpa using hb

end

/-! ## two scans side by side -/

section
variable {τ ε' : Type} {T : Nat → UInt8 → Option (Trans α)} {uses sets : α → ρ → Bool}

theorem runActs_follows {f : α → σ → Except ε σ} {g : α → τ → Except ε' τ}
    {R : (ρ → Bool) → σ → τ → Prop} {k : ρ → Bool} (as : List α)
    (hact : ∀ a as', a :: as' <:+ as → ∀ s t,
      R (fun r => needed uses sets r (a :: as') (k r)) s t →
        ∃ s' t', f a s = .ok s' ∧ g a t = .ok t' ∧
          R (fun r => needed uses sets r as' (k r)) s' t') :
    ∀ s t, R (fun r => needed uses sets r as (k r)) s t →
      ∃ s' t', runActs f as s = .ok s' ∧ runActs g as t = .ok t' ∧ R k s' t' := by
  induction as with
  | nil => intro s t hR; exact ⟨s, t, rfl, rfl, hR⟩
  | cons a as ih =>
    intro s t hR
    obtain ⟨s₁, t₁, hf, hg, hR₁⟩ := hact a as List.suffix_rfl s t hR
    obtain ⟨s₂, t₂, hfs, hgs, hR₂⟩ :=
      ih (fun b bs hb => hact b bs (hb.trans (List.suffix_cons a as))) s₁ t₁ hR₁
    refine ⟨s₂, t₂, ?_, ?_, hR₂⟩
    · rw [runActs, hf]
      exact hfs
    · rw [runActs, hg]
      exact hgs

/-- the second scan runs at positions that are `o` smaller; `R k p` relates the states in front of
the byte at `p` of the second one -/
theorem scan_follows {act₁ : Nat → α → σ → Except ε σ} {act₂ : Nat → α → τ → Except ε' τ}
    {R : (ρ → Bool) → Nat → σ → τ → Prop} {At : Nat → UInt8 → Prop} {o : Nat}
    (htrans : ∀ cs c t p, T cs c = some t → At p c → ∀ rest : List UInt8,
      let k := fun r => if t.brk then false else live T uses sets r t.target rest
      ∀ s₁ s₂, R (fun r => needed uses sets r t.acts (k r)) p s₁ s₂ →
        ∃ s₁' s₂', runActs (act₁ (o + p)) t.acts s₁ = .ok s₁' ∧
          runActs (act₂ p) t.acts s₂ = .ok s₂' ∧ R k (p + 1) s₁' s₂')
    (bs rest : List UInt8) : ∀ cs p s₁ s₂, (∀ i c, bs[i]? = some c → At (p + i) c) →
      R (fun r => live T uses sets r cs (bs ++ rest)) p s₁ s₂ →
      (∃ cs' s₁' s₂', scan T act₁ cs (o + p) bs s₁ = .more cs' s₁' ∧
        scan T act₂ cs p bs s₂ = .more cs' s₂' ∧
          R (fun r => live T uses sets r cs' rest) (p + bs.length) s₁' s₂') ∨
      (∃ cs' q s₁' s₂', scan T act₁ cs (o + p) bs s₁ = .stop cs' (o + q) s₁' ∧
        scan T act₂ cs p bs s₂ = .stop cs' q s₂' ∧ R (fun _ => false) q s₁' s₂') ∨
      (∃ q s₁' s₂', scan T act₁ cs (o + p) bs s₁ = .bad (o + q) s₁' ∧
        scan T act₂ cs p bs s₂ = .bad q s₂') := by
  induction bs with
  | nil => intro cs p s₁ s₂ _ hR; exact Or.inl ⟨cs, s₁, s₂, rfl, rfl, hR⟩
  | cons c bs ih =>
    intro cs p s₁ s₂ hat hR
    cases hT : T cs c with
    | none => exact Or.inr (Or.inr ⟨p, s₁, s₂, scan_bad hT, scan_bad hT⟩)
    | some t =>
      have hfun : (fun r => live T uses sets r cs (c :: bs ++ rest))
          = fun r => needed uses sets r t.acts
            (if t.brk then false else live T uses sets r t.target (bs ++ rest)) := by
        funext r
        exact live_cons hT r (bs ++ rest)
      rw [hfun] at hR
      obtain ⟨u₁, u₂, hr₁, hr₂, hR₂⟩ := htrans cs c t p hT (hat 0 c rfl) (bs ++ rest) s₁ s₂ hR
      rw [scan_ok hT hr₁, scan_ok hT hr₂]
      by_cases hb : t.brk = true
      · simp only [if_pos hb] at hR₂ ⊢
        exact Or.inr (Or.inl ⟨t.target, p + 1, u₁, u₂, rfl, rfl, hR₂⟩)
      · simp only [if_neg hb] at hR₂ ⊢
        have hat' : ∀ i d, bs[i]? = some d → At (p + 1 + i) d := by
          intro i d hd
          rw [Nat.add_assoc, Nat.add_comm 1]
          exact hat (i + 1) d hd
        rw [List.length_cons, Nat.add_comm bs.length, ← Nat.add_assoc]
        exact ih t.target (p + 1) u₁ u₂ hat' hR₂

end

/-! ## facts about a table -/

theorem tableTrans_all {rows : List (List Range)} {tr : Nat → Trans α} {q : Nat → Range → Bool}
    (h : (rows.zipIdx.all fun x => x.1.all (q x.2)) = true) {cs : Nat} {c : UInt8} {t : Trans α}
    (ht : tableTrans rows tr cs c = some t) :
    ∃ r, q cs r = true ∧ r.lo ≤ c.toNat ∧ c.toNat ≤ r.hi ∧ t = r.jump.trans tr := by
  rw [tableTrans, Option.map_eq_some_iff] at ht
  obtain ⟨r, hr, rfl⟩ := ht
  have hmem := List.mem_of_find?_eq_some hr
  have hrange := List.find?_some hr
  have hcs : cs < rows.length := by
    by_contra hge
    rw [List.getD_eq_default _ _ (by omega)] at hmem
    cases hmem
  rw [List.getD_eq_getElem _ _ hcs] at hmem
  rw [List.all_eq_true] at h
  have hrow := h (rows[cs], cs) (List.mem_zipIdx_iff_getElem?.mpr (List.getElem?_eq_getElem hcs))
  rw [List.all_eq_true] at hrow
  simp only [Bool.and_eq_true, decide_eq_true_eq] at hrange
  exact ⟨r, hrow r hmem, hrange.1, hrange.2, rfl⟩

theorem tableTrans_pick {rows : List (List Range)} {tr : Nat → Trans α} {cs : Nat} {c : UInt8}
    (before : List Range) (r : Range) (after : List Range)
    (hrow : rows.getD cs [] = before ++ r :: after) (hr : r.lo ≤ c.toNat ∧ c.toNat ≤ r.hi)
    (hbefore : ∀ x ∈ before, c.toNat < x.lo ∨ x.hi < c.toNat) :
    tableTrans rows tr cs c = some (r.jump.trans tr) := by
  have hno : before.find? (fun r => r.lo ≤ c.toNat && c.toNat ≤ r.hi) = none := by
    rw [List.find?_eq_none]
    intro x hx
    have := hbefore x hx
    simp only [Bool.and_eq_true, decide_eq_true_eq]
    omega
  rw [tableTrans, hrow, List.find?_append, hno, Option.none_or, List.find?_cons_of_pos]
  · rfl
  · simp only [hr.1, hr.2, decide_true, Bool.and_self]

end KitServer
