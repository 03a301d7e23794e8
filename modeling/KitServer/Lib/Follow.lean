import KitServer.Lib.Regex
import KitServer.Lib.ScanMachine

/-!
# A table of transitions beside regular expressions

A spot is a state of a table with what is left of an expression.  `saturate` closes a list of nodes
under a step and is run by the kernel, so a finite table is compared with an expression once for
words of every length.

* `saturate_closed`  the nodes found are closed under the step;
* `follow_run`       a table that takes every byte the expressions take runs over all their words;
* `within_run`       a table that takes no other byte runs over no other word.
-/

set_option linter.unusedVariables false

namespace KitServer

/-! ## closing a list under a step -/

section
variable {β : Type}

/-- what is found from `todo` on in `n` rounds, with `seen`; `none` when a step fails -/
def saturate (same : β → β → Bool) (next : β → Option (List β)) :
    Nat → List β → List β → Option (List β)
  | 0, _, _ => none
  | _ + 1, [], seen => some seen
  | n + 1, p :: todo, seen =>
    if seen.any (same p) then saturate same next n todo seen
    else
      match next p with
      | none => none
      | some l => saturate same next n (l ++ todo) (p :: seen)

/-- a set of nodes that every step stays in -/
def ClosedUnder (next : β → Option (List β)) (P : List β) : Prop :=
  ∀ p ∈ P, ∃ l, next p = some l ∧ ∀ q ∈ l, q ∈ P

theorem saturate_spec {same : β → β → Bool} {next : β → Option (List β)}
    (hsame : ∀ p q, same p q = true → p = q) (n : Nat) :
    ∀ todo seen P : List β, saturate same next n todo seen = some P →
      (∀ p ∈ seen, ∃ l, next p = some l ∧ ∀ q ∈ l, q ∈ todo ∨ q ∈ seen) →
      (∀ p ∈ todo, p ∈ P) ∧ ClosedUnder next P := by
  have hkeep : ∀ (n : Nat) (todo seen P : List β), saturate same next n todo seen = some P →
      ∀ p ∈ seen, p ∈ P := by
    intro n
    induction n with
    | zero => intro todo seen P h; cases h
    | succ n ih =>
      intro todo seen P h p hp
      cases todo with
      | nil =>
        rw [saturate] at h
        cases h
        exact hp
      | cons q todo =>
        rw [saturate] at h
        split at h
        · exact ih _ _ _ h p hp
        · split at h
          · cases h
          · exact ih _ _ _ h p (List.mem_cons_of_mem q hp)
  induction n with
  | zero => intro todo seen P h; cases h
  | succ n ih =>
    intro todo seen P h hseen
    cases todo with
    | nil =>
      rw [saturate] at h
      cases h
      refine ⟨fun p hp => (by cases hp), fun p hp => ?_⟩
      obtain ⟨l, hl, hmem⟩ := hseen p hp
      exact ⟨l, hl, fun q hq => (hmem q hq).resolve_left List.not_mem_nil⟩
    | cons q todo =>
      rw [saturate] at h
      split at h
      next hany =>
        have hq : q ∈ seen := by
          obtain ⟨x, hx, hqx⟩ := List.any_eq_true.mp hany
          rw [hsame q x hqx]
          exact hx
        obtain ⟨htodo, hP⟩ := ih _ _ _ h fun p hp => by
          obtain ⟨l, hl, hmem⟩ := hseen p hp
          refine ⟨l, hl, fun x hx => ?_⟩
          rcases hmem x hx with hx | hx
          · rcases List.mem_cons.mp hx with rfl | hx
            · exact Or.inr hq
            · exact Or.inl hx
          · exact Or.inr hx
        refine ⟨fun p hp => ?_, hP⟩
        rcases List.mem_cons.mp hp with rfl | hp
        · exact hkeep n _ _ _ h p hq
        · exact htodo p hp
      next hq =>
        split at h
        · cases h
        next l hl =>
          obtain ⟨htodo, hP⟩ := ih _ _ _ h fun p hp => by
            rcases List.mem_cons.mp hp with rfl | hp
            · exact ⟨l, hl, fun x hx => Or.inl (List.mem_append_left _ hx)⟩
            · obtain ⟨l', hl', hmem⟩ := hseen p hp
              refine ⟨l', hl', fun x hx => ?_⟩
              rcases hmem x hx with hx | hx
              · rcases List.mem_cons.mp hx with rfl | hx
                · exact Or.inr List.mem_cons_self
                · exact Or.inl (List.mem_append_right _ hx)
              · exact Or.inr (List.mem_cons_of_mem _ hx)
          refine ⟨fun p hp => ?_, hP⟩
          rcases List.mem_cons.mp hp with rfl | hp
          · exact hkeep n _ _ _ h p List.mem_cons_self
          · exact htodo p (List.mem_append_right l hp)

theorem saturate_closed {same : β → β → Bool} {next : β → Option (List β)} {n : Nat}
    {todo : List β} (hsame : ∀ p q, same p q = true → p = q)
    (h : (saturate same next n todo []).isSome = true) :
    ∃ P, (∀ p ∈ todo, p ∈ P) ∧ ClosedUnder next P := by
  obtain ⟨P, hP⟩ := Option.isSome_iff_exists.mp h
  exact ⟨P, saturate_spec hsame n todo [] P hP fun p hp => by cases hp⟩

/-- the lists that `f` has, one behind the other; `none` when one of them fails -/
def gather {γ : Type} (f : γ → Option (List β)) : List γ → Option (List β)
  | [] => some []
  | n :: ns =>
    match f n with
    | none => none
    | some l => (gather f ns).map (l ++ ·)

theorem gather_mem {γ : Type} {f : γ → Option (List β)} (ns : List γ) : ∀ l : List β,
    gather f ns = some l → ∀ n ∈ ns, ∃ l', f n = some l' ∧ ∀ x ∈ l', x ∈ l := by
  induction ns with
  | nil => intro l _ n hn; cases hn
  | cons m ns ih =>
    intro l h n hn
    rw [gather] at h
    split at h
    · cases h
    next lm hlm =>
      obtain ⟨lr, hlr, rfl⟩ := Option.map_eq_some_iff.mp h
      rcases List.mem_cons.mp hn with rfl | hn
      · exact ⟨lm, hlm, fun x hx => List.mem_append_left lr hx⟩
      · obtain ⟨l', hl', hmem⟩ := ih lr hlr n hn
        exact ⟨l', hl', fun x hx => List.mem_append_right lm (hmem x hx)⟩

end

/-! ## transitions and expressions -/

variable {α σ ε : Type}

/-- the transition on the byte `n` in a row of a table -/
def rowTrans (tr : Nat → Trans α) (rs : List Range) (n : Nat) : Option (Trans α) :=
  (rs.find? fun r => r.lo ≤ n && n ≤ r.hi).map fun r => r.jump.trans tr

/-- the transitions that pass `ok` -/
def only (ok : Trans α → Bool) (T : Nat → UInt8 → Option (Trans α)) (cs : Nat) (c : UInt8) :
    Option (Trans α) :=
  (T cs c).filter ok

def quiet (t : Trans α) : Bool := t.acts.isEmpty && !t.brk

/-! ## the sets of bytes of a row -/

def addJump (j : Jump) (m : Nat) : List (Jump × Nat) → List (Jump × Nat)
  | [] => [(j, m)]
  | x :: l => if x.1 = j then (j, m ||| x.2) :: l else x :: addJump j m l

/-- the jumps of a row, each with the set of its bytes -/
def jumps (rs : List Range) : List (Jump × Nat) :=
  rs.foldr (fun r l => addJump r.jump (byteRange r.lo r.hi) l) []

theorem addJump_self (j : Jump) (m n : Nat) (hn : m.testBit n = true) (l : List (Jump × Nat)) :
    ∃ x ∈ addJump j m l, x.1 = j ∧ x.2.testBit n = true := by
  induction l with
  | nil => exact ⟨(j, m), List.mem_cons_self, rfl, hn⟩
  | cons x l ih =>
    rw [addJump]
    split
    · refine ⟨(j, m ||| x.2), List.mem_cons_self, rfl, ?_⟩
      rw [Nat.testBit_or, hn, Bool.true_or]
    · obtain ⟨y, hy, h⟩ := ih
      exact ⟨y, List.mem_cons_of_mem x hy, h⟩

theorem addJump_mem (j : Jump) (m : Nat) (l : List (Jump × Nat)) : ∀ x ∈ l,
    ∃ y ∈ addJump j m l, y.1 = x.1 ∧ ∀ n, x.2.testBit n = true → y.2.testBit n = true := by
  induction l with
  | nil => intro x hx; cases hx
  | cons z l ih =>
    intro x hx
    rw [addJump]
    rcases List.mem_cons.mp hx with rfl | hx
    · split
      next h =>
        refine ⟨(j, m ||| x.2), List.mem_cons_self, h.symm, fun n hn => ?_⟩
        rw [Nat.testBit_or, hn, Bool.or_true]
      next => exact ⟨x, List.mem_cons_self, rfl, fun n hn => hn⟩
    · split
      · exact ⟨x, List.mem_cons_of_mem _ hx, rfl, fun n hn => hn⟩
      · obtain ⟨y, hy, h⟩ := ih x hx
        exact ⟨y, List.mem_cons_of_mem z hy, h⟩

theorem jumps_mem {rs : List Range} {r : Range} {n : Nat} (hr : r ∈ rs) (hlo : r.lo ≤ n)
    (hhi : n ≤ r.hi) : ∃ x ∈ jumps rs, x.1 = r.jump ∧ x.2.testBit n = true := by
  have hn : (byteRange r.lo r.hi).testBit n = true := by
    rw [testBit_byteRange, decide_eq_true hlo, decide_eq_true hhi, Bool.true_and]
  induction rs with
  | nil => cases hr
  | cons q rs ih =>
    rw [jumps, List.foldr_cons]
    rcases List.mem_cons.mp hr with rfl | hr
    · exact addJump_self r.jump _ n hn _
    · obtain ⟨x, hx, hj, hxn⟩ := ih hr
      obtain ⟨y, hy, hyx, hyn⟩ := addJump_mem q.jump (byteRange q.lo q.hi) _ x hx
      exact ⟨y, hy, hyx.trans hj, hyn n hxn⟩

def rowSet (rs : List Range) : Nat := rs.foldr (fun r m => byteRange r.lo r.hi ||| m) 0

theorem rowSet_mem {rs : List Range} {n : Nat} (h : (rowSet rs).testBit n = true) :
    ∃ r ∈ rs, r.lo ≤ n ∧ n ≤ r.hi := by
  induction rs with
  | nil =>
    rw [rowSet, List.foldr_nil, Nat.zero_testBit] at h
    cases h
  | cons r rs ih =>
    rw [rowSet, List.foldr_cons, Nat.testBit_or, Bool.or_eq_true, testBit_byteRange] at h
    rcases h with h | h
    · simp only [Bool.and_eq_true, decide_eq_true_eq] at h
      exact ⟨r, List.mem_cons_self, h⟩
    · obtain ⟨q, hq, hn⟩ := ih h
      exact ⟨q, List.mem_cons_of_mem r hq, hn⟩

theorem rowTrans_range {tr : Nat → Trans α} {rs : List Range} {n : Nat} {t : Trans α}
    (h : rowTrans tr rs n = some t) : ∃ r ∈ rs, r.lo ≤ n ∧ n ≤ r.hi ∧ t = r.jump.trans tr := by
  rw [rowTrans, Option.map_eq_some_iff] at h
  obtain ⟨r, hr, rfl⟩ := h
  have hrange := List.find?_some hr
  simp only [Bool.and_eq_true, decide_eq_true_eq] at hrange
  exact ⟨r, List.mem_of_find?_eq_some hr, hrange.1, hrange.2, rfl⟩

theorem rowTrans_some {tr : Nat → Trans α} {rs : List Range} {n : Nat} {t : Trans α}
    (h : rowTrans tr rs n = some t) :
    ∃ x ∈ jumps rs, t = x.1.trans tr ∧ x.2.testBit n = true := by
  obtain ⟨r, hr, hlo, hhi, rfl⟩ := rowTrans_range h
  obtain ⟨x, hx, hj, hn⟩ := jumps_mem hr hlo hhi
  exact ⟨x, hx, by rw [hj], hn⟩

theorem rowTrans_isSome (tr : Nat → Trans α) {rs : List Range} {n : Nat}
    (h : (rowSet rs).testBit n = true) : ∃ t, rowTrans tr rs n = some t := by
  obtain ⟨r, hr, hlo, hhi⟩ := rowSet_mem h
  have hfind : (rs.find? fun r => r.lo ≤ n && n ≤ r.hi).isSome = true := by
    rw [List.find?_isSome]
    exact ⟨r, hr, by simp [hlo, hhi]⟩
  obtain ⟨q, hq⟩ := Option.isSome_iff_exists.mp hfind
  exact ⟨q.jump.trans tr, by rw [rowTrans, hq]; rfl⟩

/-! ## a table beside expressions -/

abbrev Spot := Nat × List Regex.Stack

def sameSpot (p q : Spot) : Bool := Nat.beq q.1 p.1 && decide (q.2 = p.2)

theorem eq_of_sameSpot (p q : Spot) (h : sameSpot p q = true) : p = q := by
  rw [sameSpot, Bool.and_eq_true, decide_eq_true_eq] at h
  exact (Prod.ext (Nat.eq_of_beq_eq_true h.1) h.2).symm

section
variable (row : Nat → List Range) (tr : Nat → Trans α)

def tableOf (cs : Nat) (c : UInt8) : Option (Trans α) := rowTrans tr (row cs) c.toNat

/-- what the bytes in a row lead to.  `none` when the row does not take a byte that the expressions
take, or takes one with a transition that fails `ok`, or when the expressions do not take a byte
that the row takes to a state that is not `dead`. -/
def rowSpots (ok : Trans α → Bool) (dead : Nat → Bool) (rs : List Range)
    (fs : List (Nat × Regex.Stack)) : Option (List Spot) :=
  let sets := Regex.firstSets fs
  let taken := rowSet rs
  if sets.all fun m => m &&& taken == m then
    gather (fun x : Jump × Nat =>
      let t := x.1.trans tr
      gather (fun m =>
        match Regex.deriveSet fs m with
        | [] => if dead t.target then some [] else none
        | k :: X => if ok t then some [(t.target, k :: X)] else none)
        (Regex.cut sets x.2)) (jumps rs)
  else none

/-- the spots behind `p`; `none` also when the empty word is left and the state is not in `F`, or it
is not left and the state is in `G` -/
def nextSpots (ok : Trans α → Bool) (dead F G : Nat → Bool) (p : Spot) : Option (List Spot) :=
  if Regex.final p.2 && !F p.1 || G p.1 && !Regex.final p.2 then none
  else rowSpots tr ok dead (row p.1) (Regex.leftFirsts p.2)

variable {row tr} {ok : Trans α → Bool} {dead F G : Nat → Bool} {P : List Spot}

theorem rowSpots_byte {rs : List Range} {fs : List (Nat × Regex.Stack)} {l : List Spot}
    (h : rowSpots tr ok dead rs fs = some l) {n : Nat} {t : Trans α}
    (ht : rowTrans tr rs n = some t) :
    (Regex.derive fs n = [] ∧ dead t.target = true) ∨
      (ok t = true ∧ (t.target, Regex.derive fs n) ∈ l) := by
  rw [rowSpots] at h
  dsimp only at h
  split at h
  next =>
    obtain ⟨x, hx, rfl, hn⟩ := rowTrans_some ht
    obtain ⟨l₁, hl₁, hmem₁⟩ := gather_mem _ l h x hx
    obtain ⟨m, hm, hmn⟩ := Regex.cut_cover (Regex.firstSets fs) x.2 _ hn
    obtain ⟨l₂, hl₂, hmem₂⟩ := gather_mem _ l₁ hl₁ m hm
    rw [Regex.deriveSet_eq hm hmn] at hl₂
    split at hl₂
    next hnil =>
      split at hl₂
      next hdead => exact Or.inl ⟨hnil, hdead⟩
      · cases hl₂
    next k X hX =>
      split at hl₂
      next hok =>
        cases hl₂
        refine Or.inr ⟨hok, hmem₁ _ (hmem₂ _ ?_)⟩
        rw [hX]
        exact List.mem_cons_self
      · cases hl₂
  · cases h

theorem rowSpots_takes {rs : List Range} {fs : List (Nat × Regex.Stack)} {l : List Spot}
    (h : rowSpots tr ok dead rs fs = some l) {n : Nat} {k : Regex.Stack}
    (hk : k ∈ Regex.derive fs n) : ∃ t, rowTrans tr rs n = some t := by
  rw [rowSpots] at h
  dsimp only at h
  split at h
  next hall =>
    rw [Regex.derive, List.mem_eraseDups] at hk
    obtain ⟨x, hx, rfl⟩ := List.mem_map.mp hk
    obtain ⟨hx, hc⟩ := List.mem_filter.mp hx
    have hset := List.all_eq_true.mp hall x.1
      (List.mem_eraseDups.mpr (List.mem_map_of_mem hx))
    rw [beq_iff_eq] at hset
    rw [← hset, Nat.testBit_and, Bool.and_eq_true] at hc
    exact rowTrans_isSome tr hc.2
  · cases h

theorem nextSpots_some {p : Spot} {l : List Spot} (h : nextSpots row tr ok dead F G p = some l) :
    (Regex.final p.2 = true → F p.1 = true) ∧ (G p.1 = true → Regex.final p.2 = true) ∧
      rowSpots tr ok dead (row p.1) (Regex.leftFirsts p.2) = some l := by
  rw [nextSpots] at h
  split at h
  · cases h
  next hFG =>
    rw [Bool.or_eq_true, not_or, Bool.and_eq_true, Bool.and_eq_true] at hFG
    refine ⟨fun hf => ?_, fun hG => ?_, h⟩
    · by_contra hF
      exact hFG.1 ⟨hf, by simpa using hF⟩
    · by_contra hf
      exact hFG.2 ⟨hG, by simpa using hf⟩

theorem rowSpots_cons {rs : List Range} {fs : List (Nat × Regex.Stack)} {l : List Spot}
    (h : rowSpots tr ok dead rs fs = some l) {n : Nat} {w : List UInt8}
    (hw : w ∈ Regex.left (Regex.derive fs n)) :
    ∃ t, rowTrans tr rs n = some t ∧ ok t = true ∧ (t.target, Regex.derive fs n) ∈ l := by
  obtain ⟨k, hk, _⟩ := id hw
  obtain ⟨t, ht⟩ := rowSpots_takes h hk
  rcases rowSpots_byte h ht with ⟨hnil, _⟩ | ⟨hok, hX⟩
  · rw [hnil] at hw
    exact absurd hw (Regex.left_nil w)
  · exact ⟨t, ht, hok, hX⟩

/-! ## runs over the words of expressions -/

theorem follow_run (hP : ClosedUnder (nextSpots row tr ok dead F G) P)
    (hbrk : ∀ t, ok t = true → t.brk = false) (w : List UInt8) : ∀ p ∈ P, w ∈ Regex.left p.2 →
      ∃ cs, run (only ok (tableOf row tr)) p.1 w = some cs ∧ F cs = true := by
  induction w with
  | nil =>
    intro p hp hw
    obtain ⟨l, hl, _⟩ := hP p hp
    exact ⟨p.1, rfl, (nextSpots_some hl).1 ((Regex.nil_mem_left p.2).mp hw)⟩
  | cons c w ih =>
    intro p hp hw
    obtain ⟨l, hl, hmem⟩ := hP p hp
    rw [Regex.cons_mem_left] at hw
    obtain ⟨t, ht, hok, hX⟩ := rowSpots_cons (nextSpots_some hl).2.2 hw
    obtain ⟨cs, hcs, hF⟩ := ih _ (hmem _ hX) hw
    refine ⟨cs, ?_, hF⟩
    have honly : only ok (tableOf row tr) p.1 c = some t := by
      rw [only, tableOf, ht, Option.filter_some, if_pos hok]
    simp only [run, honly, hbrk t hok, Bool.false_eq_true, if_false]
    exact hcs

/-! ## runs over other words -/

theorem run_cons_some {T : Nat → UInt8 → Option (Trans α)} {cs cs' : Nat} {c : UInt8}
    {w : List UInt8} (h : run T cs (c :: w) = some cs') :
    ∃ t, T cs c = some t ∧ t.brk = false ∧ run T t.target w = some cs' := by
  rw [run] at h
  cases ht : T cs c with
  | none =>
    rw [ht] at h
    cases h
  | some t =>
    rw [ht] at h
    dsimp only at h
    by_cases hb : t.brk = true
    · rw [if_pos hb] at h
      cases h
    · rw [if_neg hb] at h
      exact ⟨t, rfl, by simpa using hb, h⟩

theorem run_mono {T T' : Nat → UInt8 → Option (Trans α)}
    (h : ∀ cs c t, T cs c = some t → T' cs c = some t) (w : List UInt8) :
    ∀ cs cs', run T cs w = some cs' → run T' cs w = some cs' := by
  induction w with
  | nil => intro cs cs' hrun; exact hrun
  | cons c w ih =>
    intro cs cs' hrun
    obtain ⟨t, ht, hbrk, hrun⟩ := run_cons_some hrun
    simp only [run, h cs c t ht, hbrk, Bool.false_eq_true, if_false]
    exact ih t.target cs' hrun

theorem dead_run (hdead : ∀ cs c t, dead cs = true → tableOf row tr cs c = some t →
    dead t.target = true) (w : List UInt8) : ∀ cs cs', dead cs = true →
      run (tableOf row tr) cs w = some cs' → dead cs' = true := by
  induction w with
  | nil =>
    intro cs cs' hcs hrun
    cases hrun
    exact hcs
  | cons c w ih =>
    intro cs cs' hcs hrun
    obtain ⟨t, ht, _, hrun⟩ := run_cons_some hrun
    exact ih t.target cs' (hdead cs c t hcs ht) hrun

theorem within_run (hP : ClosedUnder (nextSpots row tr ok dead F G) P)
    (hdead : ∀ cs c t, dead cs = true → tableOf row tr cs c = some t → dead t.target = true)
    (hG : ∀ cs, dead cs = true → G cs = false) (w : List UInt8) :
    ∀ p ∈ P, ∀ cs, run (tableOf row tr) p.1 w = some cs → G cs = true → w ∈ Regex.left p.2 := by
  induction w with
  | nil =>
    intro p hp cs hrun hcs
    cases hrun
    obtain ⟨l, hl, _⟩ := hP p hp
    exact (Regex.nil_mem_left p.2).mpr ((nextSpots_some hl).2.1 hcs)
  | cons c w ih =>
    intro p hp cs hrun hcs
    obtain ⟨l, hl, hmem⟩ := hP p hp
    obtain ⟨t, ht, _, hrun⟩ := run_cons_some hrun
    rcases rowSpots_byte (nextSpots_some hl).2.2 ht with ⟨_, hd⟩ | ⟨_, hX⟩
    · rw [hG cs (dead_run hdead w t.target cs hd hrun)] at hcs
      cases hcs
    · rw [Regex.cons_mem_left]
      exact ih _ (hmem _ hX) cs hrun hcs

/-! ## segments -/

/-- the sets cut down to the bytes of `m` -/
def meet (m : Nat) (fs : List (Nat × Regex.Stack)) : List (Nat × Regex.Stack) :=
  fs.map fun x => (x.1 &&& m, x.2)

theorem derive_meet {m n : Nat} (hn : m.testBit n = true) (fs : List (Nat × Regex.Stack)) :
    Regex.derive (meet m fs) n = Regex.derive fs n := by
  have hfilter : ((meet m fs).filter fun x => x.1.testBit n).map Prod.snd
      = (fs.filter fun x => x.1.testBit n).map Prod.snd := by
    induction fs with
    | nil => rfl
    | cons x fs ih =>
      rw [meet, List.map_cons, List.filter_cons, List.filter_cons, Nat.testBit_and, hn,
        Bool.and_true]
      split
      · rw [List.map_cons, List.map_cons]
        exact congrArg _ ih
      · exact ih
  rw [Regex.derive, Regex.derive, hfilter]

/-- from every state of `S`, a word of `X` that begins with a byte of `m` performs `acts` at its
first byte and nothing behind it, and ends in `F` -/
def segment [DecidableEq α] (row : Nat → List Range) (tr : Nat → Trans α) (m : Nat)
    (acts : List α) (S : List Nat) (X : List Regex.Stack) (F : List Nat) (n : Nat) : Bool :=
  let fs := meet m (Regex.leftFirsts X)
  let ok := fun t : Trans α => decide (t.acts = acts) && !t.brk
  match gather (fun s => rowSpots tr ok (fun _ => true) (row s) fs) S with
  | none => false
  | some l =>
    (saturate sameSpot (nextSpots row tr quiet (fun _ => true) (fun s => decide (s ∈ F))
      fun _ => false) n l []).isSome

theorem scan_quiet {T : Nat → UInt8 → Option (Trans α)} (act : Nat → α → σ → Except ε σ)
    (rest : List UInt8) (s : σ) (w : List UInt8) : ∀ cs cs' p : Nat,
      run (only quiet T) cs w = some cs' →
        scan T act cs p (w ++ rest) s = scan T act cs' (p + w.length) rest s := by
  induction w with
  | nil =>
    intro cs cs' p h
    cases h
    rfl
  | cons c w ih =>
    intro cs cs' p h
    obtain ⟨t, ht, _, hrun⟩ := run_cons_some h
    rw [only, Option.filter_eq_some_iff] at ht
    obtain ⟨ht, hq⟩ := ht
    rw [quiet, Bool.and_eq_true, List.isEmpty_iff] at hq
    have hacts : runActs (act p) t.acts s = .ok s := by
      rw [hq.1]
      rfl
    have hbrk : t.brk = false := by simpa using hq.2
    rw [List.cons_append, scan_ok ht hacts, hbrk, if_neg Bool.false_ne_true, ih _ _ _ hrun,
      List.length_cons, Nat.add_assoc p 1, Nat.add_comm 1]

variable [DecidableEq α] {m n : Nat} {acts : List α} {S E : List Nat} {X : List Regex.Stack}

theorem segment_run (h : segment row tr m acts S X E n = true) {s : Nat} (hs : s ∈ S) {c : UInt8}
    {w : List UInt8} (hc : m.testBit c.toNat = true) (hw : c :: w ∈ Regex.left X) :
    ∃ t cs, tableOf row tr s c = some t ∧ t.acts = acts ∧ t.brk = false ∧
      run (only quiet (tableOf row tr)) t.target w = some cs ∧ cs ∈ E := by
  rw [segment] at h
  split at h
  · cases h
  next l hl =>
    obtain ⟨l', hl', hmem⟩ := gather_mem _ l hl s hs
    rw [Regex.cons_mem_left, ← derive_meet hc] at hw
    obtain ⟨t, ht, hok, hX⟩ := rowSpots_cons hl' hw
    rw [Bool.and_eq_true, decide_eq_true_eq] at hok
    obtain ⟨P, hl, hP⟩ := saturate_closed eq_of_sameSpot h
    have hquiet : ∀ t : Trans α, quiet t = true → t.brk = false := by
      intro t ht
      rw [quiet, Bool.and_eq_true] at ht
      simpa using ht.2
    obtain ⟨cs, hcs, hE⟩ := follow_run hP hquiet w _ (hl _ (hmem _ hX)) hw
    exact ⟨t, cs, ht, hok.1, by simpa using hok.2, hcs, of_decide_eq_true hE⟩

theorem segment_scan_in {T : Nat → UInt8 → Option (Trans α)}
    (hT : ∀ cs c t, tableOf row tr cs c = some t → T cs c = some t)
    (h : segment row tr m acts S X E n = true) {s : Nat} (hs : s ∈ S) {c : UInt8}
    {w : List UInt8} (hc : m.testBit c.toNat = true) (hw : c :: w ∈ Regex.left X)
    {act : Nat → α → σ → Except ε σ} {p : Nat} {s₁ s₂ : σ}
    (hacts : runActs (act p) acts s₁ = .ok s₂) (rest : List UInt8) :
    ∃ cs ∈ E, scan T act s p (c :: w ++ rest) s₁ = scan T act cs (p + (c :: w).length) rest s₂ := by
  obtain ⟨t, cs, ht, rfl, hbrk, hrun, hE⟩ := segment_run h hs hc hw
  have honly : ∀ cs c t, only quiet (tableOf row tr) cs c = some t → only quiet T cs c = some t := by
    intro cs c t ht
    rw [only, Option.filter_eq_some_iff] at ht ⊢
    exact ⟨hT cs c t ht.1, ht.2⟩
  refine ⟨cs, hE, ?_⟩
  rw [List.cons_append, scan_ok (hT _ _ _ ht) hacts, hbrk, if_neg Bool.false_ne_true,
    scan_quiet act rest s₂ w _ _ _ (run_mono honly w _ _ hrun), List.length_cons,
    Nat.add_assoc p 1, Nat.add_comm 1]

theorem segment_scan (h : segment row tr m acts S X E n = true) {s : Nat} (hs : s ∈ S) {c : UInt8}
    {w : List UInt8} (hc : m.testBit c.toNat = true) (hw : c :: w ∈ Regex.left X)
    {act : Nat → α → σ → Except ε σ} {p : Nat} {s₁ s₂ : σ}
    (hacts : runActs (act p) acts s₁ = .ok s₂) (rest : List UInt8) :
    ∃ cs ∈ E, scan (tableOf row tr) act s p (c :: w ++ rest) s₁
      = scan (tableOf row tr) act cs (p + (c :: w).length) rest s₂ :=
  segment_scan_in (fun _ _ _ ht => ht) h hs hc hw hacts rest

end

end KitServer
