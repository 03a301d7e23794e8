import Mathlib

/-!
# The text forms of IPv4 and IPv6 addresses

Eight groups of one to four hexadecimal digits between colons; `::` once, for one group of zeros
or more; the last two groups also as four decimal numbers between dots.

* `field`, `octet`, `dotted`   a group, a decimal byte, and four of them;
* `Denotes`                    a text and the eight groups it stands for;
* `DoubleAt`                   the places of `::`;
* `expand`                     the groups of a text, computed;
* `expand_eq_some`             `expand` accepts exactly the text forms;
* `lower`                      a number in lower case digits, read back by `number`.
-/

set_option linter.unusedVariables false

namespace KitServer.Inet

abbrev Text := List UInt8

/-! ## numbers -/

def digit (base : Nat) (c : UInt8) : Option Nat :=
  let n := c.toNat
  let d :=
    if 48 ≤ n ∧ n ≤ 57 then n - 48
    else if 97 ≤ n ∧ n ≤ 102 then n - 87
    else if 65 ≤ n ∧ n ≤ 70 then n - 55
    else base
  if d < base then some d else none

def number (base : Nat) (t : Text) : Option Nat :=
  t.foldlM (fun n c => (digit base c).map fun d => n * base + d) 0

/-- one to four hexadecimal digits -/
def field (t : Text) : Option (BitVec 16) :=
  if 1 ≤ t.length ∧ t.length ≤ 4 then (number 16 t).map (BitVec.ofNat 16) else none

/-- one to three decimal digits, and no more than 255 -/
def octet (t : Text) : Option (BitVec 8) :=
  if 1 ≤ t.length ∧ t.length ≤ 3 then
    (number 10 t).bind fun n => if n ≤ 255 then some (BitVec.ofNat 8 n) else none
  else none

/-- `ddd.ddd.ddd.ddd` -/
def dotted (t : Text) : Option (List (BitVec 8)) :=
  match t.splitOn 46 with
  | [a, b, c, d] => do
    let a ← octet a
    let b ← octet b
    let c ← octet c
    let d ← octet d
    return [a, b, c, d]
  | _ => none

/-- the four bytes as the last two groups -/
def pair : List (BitVec 8) → List (BitVec 16)
  | [a, b, c, d] => [a ++ b, c ++ d]
  | _ => []

/-! ## lists of groups -/

def fields : List Text → Option (List (BitVec 16))
  | [] => some []
  | t :: ts => do
    let v ← field t
    let vs ← fields ts
    return v :: vs

def groups : List Text → Option (List (BitVec 16))
  | [] => some []
  | t :: ts =>
    match field t with
    | some v => (groups ts).map fun vs => v :: vs
    | none => if ts = [] then (dotted t).map pair else none

def join (ts : List Text) : Text := [58].intercalate ts

/-- the text and the eight groups it stands for -/
inductive Denotes : Text → List (BitVec 16) → Prop
  | full {ts : List Text} {vs : List (BitVec 16)} : groups ts = some vs → vs.length = 8 →
      Denotes (join ts) vs
  | compressed {ts ts' : List Text} {us vs : List (BitVec 16)} : fields ts = some us →
      groups ts' = some vs → us.length + vs.length < 8 →
      Denotes (join ts ++ 58 :: 58 :: join ts')
        (us ++ List.replicate (8 - (us.length + vs.length)) 0 ++ vs)

/-! ## the characters -/

section
variable {base n : Nat} {t : Text} {c : UInt8}

theorem digit_ne {d : Nat} (h : digit base c = some d) : c ≠ 58 ∧ c ≠ 46 ∧ c ≠ 93 := by
  refine ⟨?_, ?_, ?_⟩ <;>
  · rintro rfl
    simp [digit] at h

theorem digit_of_foldlM {cs : Text} {a : Nat}
    (h : cs.foldlM (fun n c => (digit base c).map fun d => n * base + d) a = some n)
    (hc : c ∈ cs) : ∃ d, digit base c = some d := by
  induction cs generalizing a with
  | nil => cases hc
  | cons x cs ih =>
    rw [List.foldlM_cons] at h
    cases hx : digit base x with
    | none =>
      rw [hx] at h
      cases h
    | some d =>
      rw [hx] at h
      rcases List.mem_cons.mp hc with rfl | hc
      · exact ⟨d, hx⟩
      · exact ih h hc

theorem number_ne (h : number base t = some n) (hc : c ∈ t) : c ≠ 58 ∧ c ≠ 46 ∧ c ≠ 93 := by
  obtain ⟨d, hd⟩ := digit_of_foldlM h hc
  exact digit_ne hd

end

section
variable {t : Text}

theorem field_text {v : BitVec 16} (h : field t = some v) :
    t ≠ [] ∧ ∀ c ∈ t, c ≠ 58 ∧ c ≠ 46 ∧ c ≠ 93 := by
  rw [field] at h
  split_ifs at h with hlen
  obtain ⟨n, hn, -⟩ := Option.map_eq_some_iff.mp h
  refine ⟨?_, fun c hc => number_ne hn hc⟩
  rintro rfl
  exact absurd hlen.1 (by decide)

theorem octet_text {b : BitVec 8} (h : octet t = some b) :
    t ≠ [] ∧ ∀ c ∈ t, c ≠ 58 ∧ c ≠ 46 ∧ c ≠ 93 := by
  rw [octet] at h
  split_ifs at h with hlen
  obtain ⟨n, hn, -⟩ := Option.bind_eq_some_iff.mp h
  refine ⟨?_, fun c hc => number_ne hn hc⟩
  rintro rfl
  exact absurd hlen.1 (by decide)

theorem dotted_parts {bs : List (BitVec 8)} (h : dotted t = some bs) :
    ∃ a b c d : Text, t.splitOn 46 = [a, b, c, d] ∧ bs.length = 4 ∧
      ∀ x ∈ [a, b, c, d], ∃ v, octet x = some v := by
  rw [dotted] at h
  split at h
  · next a b c d hs =>
    obtain ⟨va, ha, h⟩ := Option.bind_eq_some_iff.mp h
    obtain ⟨vb, hb, h⟩ := Option.bind_eq_some_iff.mp h
    obtain ⟨vc, hc, h⟩ := Option.bind_eq_some_iff.mp h
    obtain ⟨vd, hd, h⟩ := Option.bind_eq_some_iff.mp h
    cases h
    refine ⟨a, b, c, d, hs, rfl, fun x hx => ?_⟩
    rcases List.mem_cons.mp hx with rfl | hx
    · exact ⟨va, ha⟩
    rcases List.mem_cons.mp hx with rfl | hx
    · exact ⟨vb, hb⟩
    rcases List.mem_cons.mp hx with rfl | hx
    · exact ⟨vc, hc⟩
    rcases List.mem_cons.mp hx with rfl | hx
    · exact ⟨vd, hd⟩
    cases hx
  · cases h

theorem mem_dotted {c : UInt8} {a b d e : Text} (h : t.splitOn 46 = [a, b, d, e]) :
    c ∈ t ↔ c ∈ a ∨ c ∈ b ∨ c ∈ d ∨ c ∈ e ∨ c = 46 := by
  have ht : t = a ++ 46 :: (b ++ 46 :: (d ++ 46 :: e)) := by
    have hi : [46].intercalate (t.splitOn 46) = t := List.intercalate_splitOn 46
    rw [h] at hi
    rw [← hi]
    simp
  rw [ht]
  simp only [List.mem_append, List.mem_cons]
  tauto

theorem dotted_text {bs : List (BitVec 8)} (h : dotted t = some bs) :
    t ≠ [] ∧ 46 ∈ t ∧ ∀ c ∈ t, c ≠ 58 ∧ c ≠ 93 := by
  obtain ⟨a, b, d, e, hs, -, hoct⟩ := dotted_parts h
  have h46 : (46 : UInt8) ∈ t := (mem_dotted hs).mpr (by simp)
  refine ⟨List.ne_nil_of_mem h46, h46, fun c hc => ?_⟩
  have hpart : ∀ x ∈ [a, b, d, e], c ∈ x → c ≠ 58 ∧ c ≠ 93 := by
    intro x hx hcx
    obtain ⟨v, hv⟩ := hoct x hx
    obtain ⟨h1, -, h2⟩ := (octet_text hv).2 c hcx
    exact ⟨h1, h2⟩
  rcases (mem_dotted hs).mp hc with hc | hc | hc | hc | rfl
  · exact hpart a (by simp) hc
  · exact hpart b (by simp) hc
  · exact hpart d (by simp) hc
  · exact hpart e (by simp) hc
  · exact ⟨by decide, by decide⟩

end

/-- the texts of a list of groups -/
def Plain (t : Text) : Prop := t ≠ [] ∧ ∀ c ∈ t, c ≠ 58 ∧ c ≠ 93

section
variable {ts : List Text} {vs : List (BitVec 16)}

theorem fields_plain (h : fields ts = some vs) : ∀ t ∈ ts, Plain t := by
  induction ts generalizing vs with
  | nil => exact fun t ht => absurd ht List.not_mem_nil
  | cons t ts ih =>
    obtain ⟨v, hv, h⟩ := Option.bind_eq_some_iff.mp h
    obtain ⟨ws, hws, -⟩ := Option.bind_eq_some_iff.mp h
    intro x hx
    rcases List.mem_cons.mp hx with rfl | hx
    · obtain ⟨hne, hch⟩ := field_text hv
      exact ⟨hne, fun c hc => ⟨(hch c hc).1, (hch c hc).2.2⟩⟩
    · exact ih hws x hx

theorem groups_plain (h : groups ts = some vs) : ∀ t ∈ ts, Plain t := by
  induction ts generalizing vs with
  | nil => exact fun t ht => absurd ht List.not_mem_nil
  | cons t ts ih =>
    rw [groups] at h
    intro x hx
    cases hv : field t with
    | some v =>
      rw [hv] at h
      obtain ⟨ws, hws, -⟩ := Option.map_eq_some_iff.mp h
      rcases List.mem_cons.mp hx with rfl | hx
      · obtain ⟨hne, hch⟩ := field_text hv
        exact ⟨hne, fun c hc => ⟨(hch c hc).1, (hch c hc).2.2⟩⟩
      · exact ih hws x hx
    | none =>
      simp only [hv] at h
      split_ifs at h with hts
      obtain ⟨bs, hbs, -⟩ := Option.map_eq_some_iff.mp h
      subst hts
      rcases List.mem_cons.mp hx with rfl | hx
      · obtain ⟨hne, -, hch⟩ := dotted_text hbs
        exact ⟨hne, hch⟩
      · cases hx

theorem groups_of_fields (h : fields ts = some vs) : groups ts = some vs := by
  induction ts generalizing vs with
  | nil => exact h
  | cons t ts ih =>
    obtain ⟨v, hv, h⟩ := Option.bind_eq_some_iff.mp h
    obtain ⟨ws, hws, h⟩ := Option.bind_eq_some_iff.mp h
    rw [groups, hv]
    simp only [ih hws]
    exact h

end

/-! ## the places of `::` -/

def DoubleAt (t : Text) (i : Nat) : Prop := t[i]? = some 58 ∧ t[i + 1]? = some 58

/-- no `::`, and no `:` at either end -/
structure Clean (t : Text) : Prop where
  inner : ∀ i, ¬ DoubleAt t i
  first : t[0]? ≠ some 58
  last : t[t.length - 1]? ≠ some 58

section
variable {x y : Text}

theorem clean_nil : Clean [] :=
  ⟨fun i h => (by cases h.1), nofun, nofun⟩

theorem clean_of_notMem (h : 58 ∉ x) : Clean x := by
  have hget : ∀ i : Nat, x[i]? ≠ some 58 := fun i hi => h (List.mem_of_getElem? hi)
  exact ⟨fun i hi => hget i hi.1, hget 0, hget _⟩

/-- two clean texts with a colon between them -/
theorem Clean.colon (hx : Clean x) (hx0 : x ≠ []) (hy : Clean y) (hy0 : y ≠ []) :
    Clean (x ++ 58 :: y) := by
  have hxl : 0 < x.length := List.length_pos_iff.mpr hx0
  have hyl : 0 < y.length := List.length_pos_iff.mpr hy0
  have hlow : ∀ i, i < x.length → (x ++ 58 :: y)[i]? = x[i]? := fun i hi =>
    List.getElem?_append_left hi
  have hhigh : ∀ i, (x ++ 58 :: y)[x.length + 1 + i]? = y[i]? := by
    intro i
    rw [List.getElem?_append_right (by omega), Nat.add_assoc, Nat.add_sub_cancel_left,
      Nat.add_comm 1, List.getElem?_cons_succ]
  refine ⟨fun i h => ?_, ?_, ?_⟩
  · rcases Nat.lt_trichotomy (i + 1) x.length with hi | hi | hi
    · have h1 := h.1
      have h2 := h.2
      rw [hlow i (by omega)] at h1
      rw [hlow (i + 1) hi] at h2
      exact hx.inner i ⟨h1, h2⟩
    · have h1 := h.1
      rw [hlow i (by omega), show i = x.length - 1 by omega] at h1
      exact hx.last h1
    · obtain ⟨k, rfl | hk⟩ : ∃ k, i = x.length ∨ i = x.length + 1 + k :=
        ⟨i - x.length - 1, by omega⟩
      · have h2 := h.2
        rw [← Nat.add_zero (x.length + 1), hhigh 0] at h2
        exact hy.first h2
      · have h1 := h.1
        have h2 := h.2
        rw [hk, hhigh] at h1
        rw [hk, Nat.add_assoc, hhigh] at h2
        exact hy.inner k ⟨h1, h2⟩
  · rw [hlow 0 hxl]
    exact hx.first
  · have hlen : (x ++ 58 :: y).length - 1 = x.length + 1 + (y.length - 1) := by
      rw [List.length_append, List.length_cons]
      omega
    rw [hlen, hhigh]
    exact hy.last

/-- between two clean texts `::` stands in one place -/
theorem doubleAt_iff (hx : Clean x) (hy : Clean y) (i : Nat) :
    DoubleAt (x ++ 58 :: 58 :: y) i ↔ i = x.length := by
  have hlow : ∀ j, j < x.length → (x ++ 58 :: 58 :: y)[j]? = x[j]? := fun j hj =>
    List.getElem?_append_left hj
  have hmid : ∀ j, (x ++ 58 :: 58 :: y)[x.length + j]? = (58 :: 58 :: y)[j]? := by
    intro j
    rw [List.getElem?_append_right (by omega), Nat.add_sub_cancel_left]
  constructor
  · intro h
    by_contra hne
    rcases Nat.lt_or_ge i x.length with hi | hi
    · have h1 := h.1
      rw [hlow i hi] at h1
      rcases Nat.lt_or_ge (i + 1) x.length with hi' | hi'
      · have h2 := h.2
        rw [hlow (i + 1) hi'] at h2
        exact hx.inner i ⟨h1, h2⟩
      · rw [show i = x.length - 1 by omega] at h1
        exact hx.last h1
    · obtain ⟨k, hk⟩ : ∃ k, i = x.length + (k + 1) := ⟨i - x.length - 1, by omega⟩
      have h1 := h.1
      have h2 := h.2
      rw [hk, hmid] at h1
      rw [hk, Nat.add_assoc, hmid] at h2
      cases k with
      | zero => exact hy.first h2
      | succ k => exact hy.inner k ⟨h1, h2⟩
  · rintro rfl
    refine ⟨?_, hmid 1⟩
    have h0 := hmid 0
    rwa [Nat.add_zero] at h0

end

theorem join_cons (t : Text) {ts : List Text} (h : ts ≠ []) :
    join (t :: ts) = t ++ 58 :: join ts := by
  rw [join, List.intercalate_cons_of_ne_nil h]
  simp [join]

theorem join_cons_eq (t : Text) (ts : List Text) :
    join (t :: ts) = t ++ ts.flatMap fun x => 58 :: x := by
  induction ts generalizing t with
  | nil => simp [join]
  | cons u ts ih => rw [join_cons t (List.cons_ne_nil u ts), ih, List.flatMap_cons]; rfl

theorem join_ne_nil {ts : List Text} (h : ∀ t ∈ ts, Plain t) (hne : ts ≠ []) : join ts ≠ [] := by
  cases ts with
  | nil => exact absurd rfl hne
  | cons t ts =>
    have ht := (h t List.mem_cons_self).1
    by_cases hts : ts = []
    · subst hts
      simpa [join] using ht
    · rw [join_cons t hts]
      simp

theorem join_clean {ts : List Text} (h : ∀ t ∈ ts, Plain t) : Clean (join ts) := by
  induction ts with
  | nil => exact clean_nil
  | cons t ts ih =>
    have hrest : ∀ x ∈ ts, Plain x := fun x hx => h x (List.mem_cons_of_mem t hx)
    have ht := h t List.mem_cons_self
    have hclean : Clean t := clean_of_notMem fun hc => (ht.2 58 hc).1 rfl
    by_cases hts : ts = []
    · subst hts
      simpa [join] using hclean
    · rw [join_cons t hts]
      exact hclean.colon ht.1 (ih hrest) (join_ne_nil hrest hts)

theorem Denotes.once {t : Text} {vs : List (BitVec 16)} (h : Denotes t vs) {i j : Nat}
    (hi : DoubleAt t i) (hj : DoubleAt t j) : i = j := by
  cases h with
  | full hg hlen => exact absurd hi ((join_clean (groups_plain hg)).inner i)
  | compressed hf hg hlen =>
    have hx := join_clean (fields_plain hf)
    have hy := join_clean (groups_plain hg)
    exact ((doubleAt_iff hx hy i).mp hi).trans ((doubleAt_iff hx hy j).mp hj).symm

theorem mem_join {c : UInt8} {ts : List Text} (h : c ∈ join ts) :
    c = 58 ∨ ∃ t ∈ ts, c ∈ t := by
  induction ts with
  | nil => cases h
  | cons t ts ih =>
    by_cases hts : ts = []
    · subst hts
      exact .inr ⟨t, List.mem_cons_self, by simpa [join] using h⟩
    · rw [join_cons t hts] at h
      rcases List.mem_append.mp h with h | h
      · exact .inr ⟨t, List.mem_cons_self, h⟩
      · rcases List.mem_cons.mp h with h | h
        · exact .inl h
        · rcases ih h with h | ⟨x, hx, hcx⟩
          · exact .inl h
          · exact .inr ⟨x, List.mem_cons_of_mem t hx, hcx⟩

theorem notMem_join {ts : List Text} (h : ∀ t ∈ ts, Plain t) : 93 ∉ join ts := by
  intro hc
  rcases mem_join hc with hc | ⟨t, ht, hct⟩
  · cases hc
  · exact ((h t ht).2 93 hct).2 rfl

theorem Denotes.notMem {t : Text} {vs : List (BitVec 16)} (h : Denotes t vs) : 93 ∉ t := by
  cases h with
  | full hg hlen => exact notMem_join (groups_plain hg)
  | compressed hf hg hlen =>
    intro hc
    rcases List.mem_append.mp hc with hc | hc
    · exact notMem_join (fields_plain hf) hc
    · rcases List.mem_cons.mp hc with hc | hc
      · cases hc
      · rcases List.mem_cons.mp hc with hc | hc
        · cases hc
        · exact notMem_join (groups_plain hg) hc

theorem length_groups {ts : List Text} {vs : List (BitVec 16)} (h : groups ts = some vs) :
    vs.length ≤ ts.length + 1 := by
  induction ts generalizing vs with
  | nil =>
    cases h
    exact Nat.zero_le _
  | cons t ts ih =>
    rw [groups] at h
    cases hv : field t with
    | some v =>
      rw [hv] at h
      obtain ⟨ws, hws, rfl⟩ := Option.map_eq_some_iff.mp h
      have hlen := ih hws
      rw [List.length_cons, List.length_cons]
      omega
    | none =>
      simp only [hv] at h
      split_ifs at h with hts
      obtain ⟨bs, hbs, rfl⟩ := Option.map_eq_some_iff.mp h
      have hpair : (pair bs).length ≤ 2 := by
        unfold pair
        split <;> simp
      rw [List.length_cons]
      omega

theorem Denotes.dotted_eq_none {t : Text} {vs : List (BitVec 16)} (h : Denotes t vs) :
    dotted t = none := by
  have hcolon : (58 : UInt8) ∈ t := by
    cases h with
    | @full ts _ hg hlen =>
      have hlong := length_groups hg
      cases ts with
      | nil =>
        rw [List.length_nil] at hlong
        omega
      | cons t ts =>
        cases ts with
        | nil =>
          rw [List.length_singleton] at hlong
          omega
        | cons u ts =>
          rw [join_cons t (List.cons_ne_nil u ts)]
          simp
    | compressed hf hg hlen => simp
  cases hd : dotted t with
  | none => rfl
  | some bs => exact absurd rfl ((dotted_text hd).2.2 58 hcolon).1

/-! ## the groups of a text, computed -/

/-- what is in front of the first `::` and behind it -/
def cut : Text → Option (Text × Text)
  | [] => none
  | c :: t =>
    if c = 58 ∧ t.head? = some 58 then some ([], t.tail)
    else (cut t).map fun p => (c :: p.1, p.2)

def split (t : Text) : List Text := if t = [] then [] else t.splitOn 58

def expand (t : Text) : Option (List (BitVec 16)) :=
  match cut t with
  | none => (groups (split t)).filter fun vs => vs.length = 8
  | some (a, b) =>
    (fields (split a)).bind fun us => (groups (split b)).bind fun vs =>
      if us.length + vs.length < 8 then
        some (us ++ List.replicate (8 - (us.length + vs.length)) 0 ++ vs)
      else none

section
variable {t : Text}

theorem cut_eq_some {p : Text × Text} (h : cut t = some p) : t = p.1 ++ 58 :: 58 :: p.2 := by
  induction t generalizing p with
  | nil => cases h
  | cons c t ih =>
    rw [cut] at h
    split_ifs at h with hc
    · cases h
      obtain ⟨rfl, hhead⟩ := hc
      rw [List.nil_append, List.cons_head?_tail hhead]
    · obtain ⟨q, hq, rfl⟩ := Option.map_eq_some_iff.mp h
      rw [List.cons_append, ← ih hq]

theorem cut_eq_none (h : cut t = none) (i : Nat) : ¬ DoubleAt t i := by
  induction t generalizing i with
  | nil => exact fun hd => by cases hd.1
  | cons c t ih =>
    rw [cut] at h
    split_ifs at h with hc
    rintro ⟨h1, h2⟩
    cases i with
    | zero =>
      refine hc ⟨Option.some.inj h1, ?_⟩
      rwa [List.head?_eq_getElem?]
    | succ i => exact ih (Option.map_eq_none_iff.mp h) i ⟨h1, h2⟩

theorem cut_clean (h : Clean t) : cut t = none := by
  cases hc : cut t with
  | none => rfl
  | some p =>
    have hd : DoubleAt t p.1.length := by
      rw [cut_eq_some hc]
      exact ⟨by simp, by simp⟩
    exact absurd hd (h.inner _)

theorem cut_double {x y : Text} (hx : Clean x) (hy : Clean y) :
    cut (x ++ 58 :: 58 :: y) = some (x, y) := by
  cases hc : cut (x ++ 58 :: 58 :: y) with
  | none => exact absurd ((doubleAt_iff hx hy x.length).mpr rfl) (cut_eq_none hc _)
  | some p =>
    have heq := cut_eq_some hc
    have hd : DoubleAt (x ++ 58 :: 58 :: y) p.1.length := by
      rw [heq]
      exact ⟨by simp, by simp⟩
    have hlen := (doubleAt_iff hx hy _).mp hd
    obtain ⟨h1, h2⟩ := List.append_inj heq hlen.symm
    cases h2
    rw [h1]

theorem join_split (t : Text) : join (split t) = t := by
  rw [split]
  split_ifs with h
  · rw [h]
    rfl
  · exact List.intercalate_splitOn 58

theorem split_join {ts : List Text} (h : ∀ t ∈ ts, Plain t) : split (join ts) = ts := by
  by_cases hts : ts = []
  · rw [hts]
    rfl
  · rw [split, if_neg (join_ne_nil h hts)]
    exact List.splitOn_intercalate 58 (fun t ht hc => ((h t ht).2 58 hc).1 rfl) hts

theorem expand_eq_some {vs : List (BitVec 16)} : expand t = some vs ↔ Denotes t vs := by
  constructor
  · intro h
    rw [expand] at h
    split at h
    · obtain ⟨hg, hlen⟩ := Option.filter_eq_some_iff.mp h
      rw [← join_split t]
      exact .full hg (of_decide_eq_true hlen)
    · next a b hc =>
      obtain ⟨us, hus, h⟩ := Option.bind_eq_some_iff.mp h
      obtain ⟨ws, hws, h⟩ := Option.bind_eq_some_iff.mp h
      split_ifs at h with hlen
      cases h
      rw [cut_eq_some hc, ← join_split a, ← join_split b]
      exact .compressed hus hws hlen
  · intro h
    cases h with
    | full hg hlen =>
      rw [expand, cut_clean (join_clean (groups_plain hg))]
      simp only [split_join (groups_plain hg), hg]
      exact Option.filter_eq_some_iff.mpr ⟨rfl, decide_eq_true hlen⟩
    | compressed hf hg hlen =>
      rw [expand, cut_double (join_clean (fields_plain hf)) (join_clean (groups_plain hg))]
      simp only [split_join (fields_plain hf), split_join (groups_plain hg), hf, hg,
        Option.bind_some, if_pos hlen]

theorem Denotes.unique {us vs : List (BitVec 16)} (hu : Denotes t us) (hv : Denotes t vs) :
    us = vs := by
  have h := expand_eq_some.mpr hu
  rw [expand_eq_some.mpr hv] at h
  exact (Option.some.inj h).symm

instance (vs : List (BitVec 16)) : Decidable (Denotes t vs) :=
  decidable_of_iff _ expand_eq_some

end

/-! ## printed numbers -/

/-- the digits of a number, in lower case -/
def lower (base n : Nat) : Text := (Nat.toDigits base n).map fun c => UInt8.ofNat c.toNat

section
variable {base : Nat} (hb : 1 < base) (h16 : base ≤ 16)
include hb h16

theorem digit_digitChar {d : Nat} (hd : d < base) :
    digit base (UInt8.ofNat (Nat.digitChar d).toNat) = some d := by
  have hval : digit 16 (UInt8.ofNat (Nat.digitChar d).toNat) = some d := by
    have hd16 : d < 16 := by omega
    clear hd
    interval_cases d <;> rfl
  have hbase : ∀ c : UInt8, digit 16 c = some d → digit base c = some d := by
    intro c hc
    rw [digit] at hc ⊢
    split_ifs at hc ⊢ with h1 h2 h3 h4 h5 <;> first | exact hc | (cases hc; omega)
  exact hbase _ hval

theorem number_lower (n : Nat) : number base (lower base n) = some n := by
  induction n using Nat.strong_induction_on with
  | _ n ih =>
    rcases Nat.lt_or_ge n base with hn | hn
    · rw [number, lower, Nat.toDigits_of_lt_base hn]
      simp only [List.map_cons, List.map_nil, List.foldlM_cons, List.foldlM_nil,
        digit_digitChar hb h16 hn, Option.map_some, Nat.zero_mul, Nat.zero_add]
      rfl
    · have hih := ih (n / base) (Nat.div_lt_self (by omega) hb)
      rw [number, lower] at hih
      rw [number, lower, Nat.toDigits_of_base_le hb hn, List.map_append, List.foldlM_append, hih]
      show (digit base (UInt8.ofNat (Nat.digitChar (n % base)).toNat)).map _ >>= _ = _
      rw [digit_digitChar hb h16 (Nat.mod_lt n (by omega)), Option.map_some]
      show some (n / base * base + n % base) = some n
      rw [Nat.div_add_mod']

end

theorem field_lower (v : BitVec 16) : field (lower 16 v.toNat) = some v := by
  have hle : (lower 16 v.toNat).length ≤ 4 := by
    rw [lower, List.length_map]
    exact (Nat.length_toDigits_le_iff (by decide) (by decide)).mpr v.isLt
  have hpos : 1 ≤ (lower 16 v.toNat).length := by
    rw [lower, List.length_map]
    exact Nat.length_toDigits_pos
  rw [field, if_pos ⟨hpos, hle⟩, number_lower (by decide) (by decide), Option.map_some,
    BitVec.ofNat_toNat, BitVec.setWidth_eq]

theorem fields_lower (vs : List (BitVec 16)) :
    fields (vs.map fun v => lower 16 v.toNat) = some vs := by
  induction vs with
  | nil => rfl
  | cons v vs ih =>
    rw [List.map_cons, fields, field_lower, ih]
    rfl

end KitServer.Inet
