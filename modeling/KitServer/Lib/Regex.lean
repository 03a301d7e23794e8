import Mathlib

/-!
# Regular expressions over bytes

`r.lang` is the language of an expression.  What is left of a word behind some bytes is a list of
stacks; a stack is a sequence of expressions that come one after the other.  `firsts` are the
sets of bytes that can come next, each with the stack behind it (the partial derivatives).

* `cons_mem_left`   the words behind a byte are those of the derivative;
* `mem_lang_iff`    membership in a language, decided byte by byte;
* `deriveSet_eq`    bytes that lie in the same sets leave the same stacks.
-/

set_option linter.unusedVariables false

namespace KitServer

/-- the bytes from `lo` to `hi`, as the bits of a number -/
def byteRange (lo hi : Nat) : Nat := (2 ^ (hi + 1 - lo) - 1) <<< lo

theorem testBit_byteRange (lo hi n : Nat) :
    (byteRange lo hi).testBit n = (decide (lo ≤ n) && decide (n ≤ hi)) := by
  rw [byteRange, Nat.testBit_shiftLeft, Nat.testBit_two_pow_sub_one]
  by_cases hlo : lo ≤ n
  · rw [decide_eq_true hlo, Bool.true_and, Bool.true_and, decide_eq_decide]
    omega
  · rw [decide_eq_false hlo, Bool.false_and, Bool.false_and]

/-- `bytes m` is one byte of the set `m` (a bit for each byte) -/
inductive Regex where
  | bytes (m : Nat)
  | eps
  | seq (a b : Regex)
  | alt (a b : Regex)
  | star (a : Regex)
deriving DecidableEq

namespace Regex

def lang : Regex → Language UInt8
  | bytes m => {w | ∃ c : UInt8, m.testBit c.toNat = true ∧ w = [c]}
  | eps => 1
  | seq a b => a.lang * b.lang
  | alt a b => a.lang + b.lang
  | star a => KStar.kstar a.lang

def nullable : Regex → Bool
  | bytes _ => false
  | eps => true
  | seq a b => a.nullable && b.nullable
  | alt a b => a.nullable || b.nullable
  | star _ => true

instance : Add Regex := ⟨alt⟩
instance : Mul Regex := ⟨seq⟩

def opt (r : Regex) : Regex := r + eps
def plus (r : Regex) : Regex := r * star r

/-- exactly `n` times -/
def times : Nat → Regex → Regex
  | 0, _ => eps
  | 1, r => r
  | n + 2, r => r * times (n + 1) r

/-- once up to `n + 1` times -/
def oneTo : Nat → Regex → Regex
  | 0, r => r
  | n + 1, r => r * opt (oneTo n r)

/-- up to `n` times -/
def upTo : Nat → Regex → Regex
  | 0, _ => eps
  | n + 1, r => opt (oneTo n r)

theorem nil_mem_lang (r : Regex) : [] ∈ r.lang ↔ r.nullable = true := by
  induction r with
  | bytes m =>
    constructor
    · rintro ⟨c, _, hc⟩
      cases hc
    · intro h
      cases h
  | eps => exact ⟨fun _ => rfl, fun _ => Language.nil_mem_one⟩
  | seq a b iha ihb =>
    rw [lang, Language.mem_mul, nullable, Bool.and_eq_true, ← iha, ← ihb]
    constructor
    · rintro ⟨u, hu, v, hv, huv⟩
      obtain ⟨rfl, rfl⟩ := List.append_eq_nil_iff.mp huv
      exact ⟨hu, hv⟩
    · rintro ⟨hu, hv⟩
      exact ⟨[], hu, [], hv, rfl⟩
  | alt a b iha ihb => rw [lang, Language.mem_add, nullable, Bool.or_eq_true, iha, ihb]
  | star a ih => exact ⟨fun _ => rfl, fun _ => Language.nil_mem_kstar _⟩

/-! ## stacks -/

abbrev Stack := List Regex

def stackLang : Stack → Language UInt8
  | [] => 1
  | a :: k => a.lang * stackLang k

/-- the sets of bytes that `a` can begin with, with what is left behind such a byte when `k`
follows `a` -/
def firsts : Regex → Stack → List (Nat × Stack)
  | bytes m, k => [(m, k)]
  | eps, _ => []
  | seq a b, k => firsts a (b :: k) ++ if a.nullable then firsts b k else []
  | alt a b, k => firsts a k ++ firsts b k
  | star a, k => firsts a (star a :: k)

def stackFirsts : Stack → List (Nat × Stack)
  | [] => []
  | a :: k => firsts a k ++ if a.nullable then stackFirsts k else []

theorem nil_mem_stackLang (k : Stack) : [] ∈ stackLang k ↔ k.all nullable = true := by
  induction k with
  | nil => exact ⟨fun _ => rfl, fun _ => Language.nil_mem_one⟩
  | cons a k ih =>
    rw [stackLang, Language.mem_mul, List.all_cons, Bool.and_eq_true, ← nil_mem_lang, ← ih]
    constructor
    · rintro ⟨u, hu, v, hv, huv⟩
      obtain ⟨rfl, rfl⟩ := List.append_eq_nil_iff.mp huv
      exact ⟨hu, hv⟩
    · rintro ⟨hu, hv⟩
      exact ⟨[], hu, [], hv, rfl⟩

/-- a byte in front of a word of two languages is the first one of the first language, or that
language has the empty word -/
theorem cons_mem_mul {l m : Language UInt8} {c : UInt8} {w : List UInt8} :
    c :: w ∈ l * m ↔ (∃ u v, c :: u ∈ l ∧ v ∈ m ∧ w = u ++ v) ∨ ([] ∈ l ∧ c :: w ∈ m) := by
  rw [Language.mem_mul]
  constructor
  · rintro ⟨u, hu, v, hv, huv⟩
    cases u with
    | nil =>
      rw [List.nil_append] at huv
      subst huv
      exact Or.inr ⟨hu, hv⟩
    | cons d u =>
      rw [List.cons_append] at huv
      obtain ⟨rfl, rfl⟩ := List.cons.inj huv
      exact Or.inl ⟨u, v, hu, hv, rfl⟩
  · rintro (⟨u, v, hu, hv, rfl⟩ | ⟨hnil, hw⟩)
    · exact ⟨c :: u, hu, v, hv, rfl⟩
    · exact ⟨[], hnil, c :: w, hw, rfl⟩

theorem cons_mem_kstar {l : Language UInt8} {c : UInt8} {w : List UInt8} :
    c :: w ∈ KStar.kstar l ↔ ∃ u v, c :: u ∈ l ∧ v ∈ KStar.kstar l ∧ w = u ++ v := by
  constructor
  · intro h
    obtain ⟨S, hS, hall⟩ := Language.mem_kstar_iff_exists_nonempty.mp h
    cases S with
    | nil => cases hS
    | cons x S =>
      obtain ⟨hx, hne⟩ := hall x List.mem_cons_self
      cases x with
      | nil => exact absurd rfl hne
      | cons d x =>
        rw [List.flatten_cons, List.cons_append] at hS
        obtain ⟨rfl, rfl⟩ := List.cons.inj hS
        exact ⟨x, S.flatten, hx,
          Language.join_mem_kstar fun y hy => (hall y (List.mem_cons_of_mem _ hy)).1, rfl⟩
  · rintro ⟨u, v, hu, hv, rfl⟩
    rw [← Language.one_add_self_mul_kstar_eq_kstar]
    exact Or.inr ⟨c :: u, hu, v, hv, rfl⟩

theorem mem_firsts (a : Regex) : ∀ (k : Stack) (c : UInt8) (w : List UInt8),
    (∃ u v, c :: u ∈ a.lang ∧ v ∈ stackLang k ∧ w = u ++ v) ↔
      ∃ x ∈ firsts a k, x.1.testBit c.toNat = true ∧ w ∈ stackLang x.2 := by
  induction a with
  | bytes m =>
    intro k c w
    constructor
    · rintro ⟨u, v, ⟨d, hd, hu⟩, hv, rfl⟩
      obtain ⟨rfl, rfl⟩ := List.cons.inj hu
      exact ⟨(m, k), List.mem_cons_self, hd, hv⟩
    · rintro ⟨x, hx, hc, hw⟩
      rw [firsts, List.mem_singleton] at hx
      subst hx
      exact ⟨[], w, ⟨c, hc, rfl⟩, hw, rfl⟩
  | eps =>
    intro k c w
    constructor
    · rintro ⟨u, v, hu, _⟩
      cases hu
    · rintro ⟨x, hx, _⟩
      cases hx
  | seq a b iha ihb =>
    intro k c w
    have hback := iha (b :: k) c w
    have hskip := ihb k c w
    have hnil := nil_mem_lang a
    simp only [firsts, List.mem_append, or_and_right, exists_or]
    rw [← hback]
    constructor
    · rintro ⟨u, v, hu, hv, rfl⟩
      rcases cons_mem_mul.mp hu with ⟨u₁, u₂, h₁, h₂, rfl⟩ | ⟨hn, hb⟩
      · exact Or.inl ⟨u₁, u₂ ++ v, h₁, ⟨u₂, h₂, v, hv, rfl⟩, List.append_assoc _ _ _⟩
      · rw [if_pos (hnil.mp hn)]
        exact Or.inr (hskip.mp ⟨u, v, hb, hv, rfl⟩)
    · rintro (⟨u, v, hu, ⟨v₁, h₁, v₂, h₂, rfl⟩, rfl⟩ | h)
      · exact ⟨u ++ v₁, v₂, ⟨c :: u, hu, v₁, h₁, rfl⟩, h₂, (List.append_assoc _ _ _).symm⟩
      · by_cases hn : a.nullable = true
        · rw [if_pos hn] at h
          obtain ⟨u, v, hu, hv, rfl⟩ := hskip.mpr h
          exact ⟨u, v, ⟨[], hnil.mpr hn, c :: u, hu, rfl⟩, hv, rfl⟩
        · rw [if_neg hn] at h
          obtain ⟨x, hx, _⟩ := h
          cases hx
  | alt a b iha ihb =>
    intro k c w
    simp only [firsts, List.mem_append, or_and_right, exists_or]
    rw [← iha k c w, ← ihb k c w]
    constructor
    · rintro ⟨u, v, hu | hu, hv, rfl⟩
      · exact Or.inl ⟨u, v, hu, hv, rfl⟩
      · exact Or.inr ⟨u, v, hu, hv, rfl⟩
    · rintro (⟨u, v, hu, hv, rfl⟩ | ⟨u, v, hu, hv, rfl⟩)
      · exact ⟨u, v, Or.inl hu, hv, rfl⟩
      · exact ⟨u, v, Or.inr hu, hv, rfl⟩
  | star a ih =>
    intro k c w
    rw [firsts, ← ih (star a :: k) c w]
    constructor
    · rintro ⟨u, v, hu, hv, rfl⟩
      obtain ⟨u₁, u₂, h₁, h₂, rfl⟩ := cons_mem_kstar.mp hu
      exact ⟨u₁, u₂ ++ v, h₁, ⟨u₂, h₂, v, hv, rfl⟩, List.append_assoc _ _ _⟩
    · rintro ⟨u, v, hu, ⟨v₁, h₁, v₂, h₂, rfl⟩, rfl⟩
      exact ⟨u ++ v₁, v₂, cons_mem_kstar.mpr ⟨u, v₁, hu, h₁, rfl⟩, h₂,
        (List.append_assoc _ _ _).symm⟩

theorem cons_mem_stackLang (k : Stack) (c : UInt8) (w : List UInt8) :
    c :: w ∈ stackLang k ↔ ∃ x ∈ stackFirsts k, x.1.testBit c.toNat = true ∧ w ∈ stackLang x.2 := by
  induction k with
  | nil =>
    constructor
    · intro h
      cases h
    · rintro ⟨x, hx, _⟩
      cases hx
  | cons a k ih =>
    rw [stackLang, cons_mem_mul, mem_firsts, nil_mem_lang, ih]
    simp only [stackFirsts, List.mem_append, or_and_right, exists_or]
    by_cases hn : a.nullable = true
    · simp only [hn, true_and, if_true]
    · simp only [hn, false_and, Bool.false_eq_true, if_false, List.not_mem_nil, exists_false]

/-! ## words -/

/-- every byte that the expression takes is in `m` -/
def bytesIn (m : Nat) : Regex → Bool
  | bytes s => s &&& m == s
  | eps => true
  | seq a b => a.bytesIn m && b.bytesIn m
  | alt a b => a.bytesIn m && b.bytesIn m
  | star a => a.bytesIn m

theorem testBit_of_mem_lang {m : Nat} (r : Regex) : ∀ w : List UInt8, r.bytesIn m = true →
    w ∈ r.lang → ∀ c ∈ w, m.testBit c.toNat = true := by
  induction r with
  | bytes s =>
    rintro w hr ⟨d, hd, rfl⟩ c hc
    rw [List.mem_singleton] at hc
    rw [bytesIn, beq_iff_eq] at hr
    rw [← hr, Nat.testBit_and, Bool.and_eq_true] at hd
    rw [hc]
    exact hd.2
  | eps =>
    intro w _ hw c hc
    rw [show w = [] from hw] at hc
    cases hc
  | seq a b iha ihb =>
    rintro w hr ⟨u, hu, v, hv, rfl⟩ c hc
    rw [bytesIn, Bool.and_eq_true] at hr
    rcases List.mem_append.mp hc with hc | hc
    · exact iha u hr.1 hu c hc
    · exact ihb v hr.2 hv c hc
  | alt a b iha ihb =>
    intro w hr hw c hc
    rw [bytesIn, Bool.and_eq_true] at hr
    rcases hw with hw | hw
    · exact iha w hr.1 hw c hc
    · exact ihb w hr.2 hw c hc
  | star a ih =>
    intro w hr hw c hc
    obtain ⟨S, rfl, hS⟩ := Language.mem_kstar.mp hw
    obtain ⟨x, hx, hc⟩ := List.mem_flatten.mp hc
    exact ih x hr (hS x hx) c hc

theorem append_mem_star {a : Regex} {u v : List UInt8} (hu : u ∈ a.lang) (hv : v ∈ (star a).lang) :
    u ++ v ∈ (star a).lang := by
  obtain ⟨S, rfl, hS⟩ := Language.mem_kstar.mp hv
  refine Language.mem_kstar.mpr ⟨u :: S, rfl, fun y hy => ?_⟩
  rcases List.mem_cons.mp hy with rfl | hy
  · exact hu
  · exact hS y hy

theorem mem_star_of_bytes {a : Regex} {m : Nat}
    (ha : ∀ c : UInt8, m.testBit c.toNat = true → [c] ∈ a.lang) (w : List UInt8)
    (hw : ∀ c ∈ w, m.testBit c.toNat = true) : w ∈ (star a).lang := by
  induction w with
  | nil => exact Language.nil_mem_kstar _
  | cons c w ih =>
    exact append_mem_star (ha c (hw c List.mem_cons_self))
      (ih fun d hd => hw d (List.mem_cons_of_mem c hd))

theorem star_split {a b : Regex} {w : List UInt8} (hw : w ∈ (star (a + b)).lang) :
    w ∈ (star a).lang ∨ ∃ u x v, w = u ++ (x ++ v) ∧ u ∈ (star a).lang ∧ x ∈ b.lang ∧
      v ∈ (star (a + b)).lang := by
  obtain ⟨S, rfl, hS⟩ := Language.mem_kstar.mp hw
  clear hw
  induction S with
  | nil => exact Or.inl (Language.nil_mem_kstar _)
  | cons x S ih =>
    have hrest : ∀ y ∈ S, y ∈ (a + b).lang := fun y hy => hS y (List.mem_cons_of_mem x hy)
    rw [List.flatten_cons]
    rcases hS x List.mem_cons_self with hx | hx
    · rcases ih hrest with h | ⟨u, z, v, hsplit, hu, hz, hv⟩
      · exact Or.inl (append_mem_star hx h)
      · refine Or.inr ⟨x ++ u, z, v, ?_, append_mem_star hx hu, hz, hv⟩
        rw [hsplit, List.append_assoc]
    · exact Or.inr ⟨[], x, S.flatten, rfl, Language.nil_mem_kstar _, hx,
        Language.join_mem_kstar hrest⟩

/-! ## what is left -/

/-- the words of one of the stacks -/
def left (X : List Stack) : Language UInt8 := {w | ∃ k ∈ X, w ∈ stackLang k}

def leftFirsts (X : List Stack) : List (Nat × Stack) := X.flatMap stackFirsts

/-- the stacks behind the byte `n` -/
def derive (fs : List (Nat × Stack)) (n : Nat) : List Stack :=
  ((fs.filter fun x => x.1.testBit n).map Prod.snd).eraseDups

def final (X : List Stack) : Bool := X.any fun k => k.all nullable

theorem nil_mem_left (X : List Stack) : [] ∈ left X ↔ final X = true := by
  rw [final, List.any_eq_true]
  simp only [← nil_mem_stackLang]
  exact Iff.rfl

theorem cons_mem_left (X : List Stack) (c : UInt8) (w : List UInt8) :
    c :: w ∈ left X ↔ w ∈ left (derive (leftFirsts X) c.toNat) := by
  constructor
  · rintro ⟨k, hk, hw⟩
    obtain ⟨x, hx, hc, hw⟩ := (cons_mem_stackLang k c w).mp hw
    refine ⟨x.2, ?_, hw⟩
    rw [derive, List.mem_eraseDups]
    exact List.mem_map_of_mem
      (List.mem_filter.mpr ⟨List.mem_flatMap.mpr ⟨k, hk, hx⟩, hc⟩)
  · rintro ⟨k', hk', hw⟩
    rw [derive, List.mem_eraseDups] at hk'
    obtain ⟨x, hx, rfl⟩ := List.mem_map.mp hk'
    obtain ⟨hx, hc⟩ := List.mem_filter.mp hx
    obtain ⟨k, hk, hx⟩ := List.mem_flatMap.mp hx
    exact ⟨k, hk, (cons_mem_stackLang k c w).mpr ⟨x, hx, hc, hw⟩⟩

theorem left_nil (w : List UInt8) : w ∉ left [] := by
  rintro ⟨k, hk, _⟩
  cases hk

@[simp] theorem mem_left_singleton (r : Regex) (w : List UInt8) :
    w ∈ left [[r]] ↔ w ∈ r.lang := by
  constructor
  · rintro ⟨k, hk, hw⟩
    rw [List.mem_singleton] at hk
    subst hk
    rwa [stackLang, stackLang, mul_one] at hw
  · intro hw
    refine ⟨[r], List.mem_singleton.mpr rfl, ?_⟩
    rwa [stackLang, stackLang, mul_one]

/-! ## membership -/

def behind (X : List Stack) : List UInt8 → List Stack
  | [] => X
  | c :: w => behind (derive (leftFirsts X) c.toNat) w

def accepts (r : Regex) (w : List UInt8) : Bool := final (behind [[r]] w)

theorem append_mem_left (u w : List UInt8) : ∀ X : List Stack,
    u ++ w ∈ left X ↔ w ∈ left (behind X u) := by
  induction u with
  | nil => intro X; exact Iff.rfl
  | cons c u ih =>
    intro X
    rw [List.cons_append, cons_mem_left, ih]
    rfl

theorem mem_lang_iff (r : Regex) (w : List UInt8) : w ∈ r.lang ↔ r.accepts w = true := by
  rw [accepts, ← nil_mem_left, ← append_mem_left, List.append_nil, mem_left_singleton]

instance decidableMemLang (r : Regex) (w : List UInt8) : Decidable (w ∈ r.lang) :=
  decidable_of_iff _ (mem_lang_iff r w).symm

/-! ## bytes that are read alike -/

/-- `m` cut into sets that lie in each of the sets `cs` or beside it -/
def cut : List Nat → Nat → List Nat
  | [], m => [m]
  | c :: cs, m =>
    if m &&& c == 0 || m &&& c == m then cut cs m
    else cut cs (m &&& c) ++ cut cs (m ^^^ (m &&& c))

/-- all bytes of `m` are in `c`, or none -/
def Alike (c m : Nat) : Prop := (∀ n, m.testBit n = true → c.testBit n = true) ∨ m &&& c = 0

theorem alike_of_eq {c m : Nat} (h : m &&& c = m) : Alike c m := by
  refine Or.inl fun n hn => ?_
  rw [← h, Nat.testBit_and, Bool.and_eq_true] at hn
  exact hn.2

theorem alike_diff (c m : Nat) : Alike c (m ^^^ (m &&& c)) := by
  refine Or.inr (Nat.eq_of_testBit_eq fun n => ?_)
  rw [Nat.testBit_and, Nat.testBit_xor, Nat.testBit_and, Nat.zero_testBit]
  cases m.testBit n
  · rfl
  · cases c.testBit n
    · rfl
    · rfl

theorem alike_inter (c m : Nat) : Alike c (m &&& c) := by
  refine alike_of_eq ?_
  rw [Nat.and_assoc, Nat.and_self]

theorem Alike.mono {c m m' : Nat} (h : Alike c m) (hm : ∀ n, m'.testBit n = true → m.testBit n = true) :
    Alike c m' := by
  rcases h with h | h
  · exact Or.inl fun n hn => h n (hm n hn)
  · refine Or.inr (Nat.eq_of_testBit_eq fun n => ?_)
    have hn : (m &&& c).testBit n = false := by rw [h, Nat.zero_testBit]
    rw [Nat.testBit_and] at hn ⊢
    rw [Nat.zero_testBit]
    cases hb : m'.testBit n
    · rfl
    · rw [hm n hb] at hn
      exact hn

theorem cut_sub (cs : List Nat) : ∀ m, ∀ x ∈ cut cs m, ∀ n, x.testBit n = true → m.testBit n = true := by
  induction cs with
  | nil =>
    intro m x hx n hn
    rw [cut, List.mem_singleton] at hx
    rwa [hx] at hn
  | cons c cs ih =>
    intro m x hx n hn
    rw [cut] at hx
    split at hx
    · exact ih m x hx n hn
    · rcases List.mem_append.mp hx with hx | hx
      · have h := ih _ x hx n hn
        rw [Nat.testBit_and, Bool.and_eq_true] at h
        exact h.1
      · have h := ih _ x hx n hn
        rw [Nat.testBit_xor, Nat.testBit_and] at h
        cases hm : m.testBit n
        · rw [hm] at h
          cases h
        · rfl

theorem cut_alike (cs : List Nat) : ∀ m, ∀ x ∈ cut cs m, ∀ c ∈ cs, Alike c x := by
  induction cs with
  | nil => intro m x _ c hc; cases hc
  | cons d cs ih =>
    intro m x hx c hc
    rw [cut] at hx
    split at hx
    next h =>
      rcases List.mem_cons.mp hc with rfl | hc
      · have hm : Alike c m := by
          rw [Bool.or_eq_true, beq_iff_eq, beq_iff_eq] at h
          exact h.elim Or.inr alike_of_eq
        exact hm.mono (cut_sub cs m x hx)
      · exact ih m x hx c hc
    next =>
      rcases List.mem_append.mp hx with hx | hx
      · rcases List.mem_cons.mp hc with rfl | hc
        · exact (alike_inter c m).mono (cut_sub cs _ x hx)
        · exact ih _ x hx c hc
      · rcases List.mem_cons.mp hc with rfl | hc
        · exact (alike_diff c m).mono (cut_sub cs _ x hx)
        · exact ih _ x hx c hc

theorem cut_cover (cs : List Nat) : ∀ m n, m.testBit n = true → ∃ x ∈ cut cs m, x.testBit n = true := by
  induction cs with
  | nil => intro m n hn; exact ⟨m, List.mem_singleton.mpr rfl, hn⟩
  | cons c cs ih =>
    intro m n hn
    rw [cut]
    split
    · exact ih m n hn
    · cases hc : c.testBit n
      · obtain ⟨x, hx, hxn⟩ := ih (m ^^^ (m &&& c)) n (by
          rw [Nat.testBit_xor, Nat.testBit_and, hn, hc]
          rfl)
        exact ⟨x, List.mem_append_right _ hx, hxn⟩
      · obtain ⟨x, hx, hxn⟩ := ih (m &&& c) n (by
          rw [Nat.testBit_and, hn, hc]
          rfl)
        exact ⟨x, List.mem_append_left _ hx, hxn⟩

def firstSets (fs : List (Nat × Stack)) : List Nat := (fs.map Prod.fst).eraseDups

/-- the stacks behind any byte of `m` -/
def deriveSet (fs : List (Nat × Stack)) (m : Nat) : List Stack :=
  ((fs.filter fun x => x.1 &&& m != 0).map Prod.snd).eraseDups

theorem deriveSet_eq {fs : List (Nat × Stack)} {m m' n : Nat} (hm : m ∈ cut (firstSets fs) m')
    (hn : m.testBit n = true) : deriveSet fs m = derive fs n := by
  have hfilter : (fs.filter fun x => x.1 &&& m != 0) = fs.filter fun x => x.1.testBit n := by
    refine List.filter_congr fun x hx => ?_
    have hmem : x.1 ∈ firstSets fs :=
      List.mem_eraseDups.mpr (List.mem_map_of_mem hx)
    rw [Bool.eq_iff_iff, bne_iff_ne]
    constructor
    · intro h
      rcases cut_alike _ m' m hm x.1 hmem with hin | hout
      · exact hin n hn
      · rw [Nat.and_comm] at hout
        exact absurd hout h
    · intro h h0
      have hbit : (x.1 &&& m).testBit n = true := by rw [Nat.testBit_and, h, hn]; rfl
      rw [h0, Nat.zero_testBit] at hbit
      cases hbit
  rw [deriveSet, derive, hfilter]

end Regex
end KitServer
