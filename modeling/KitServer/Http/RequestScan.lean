import KitServer.Http.Actions

/-!
# A request parser that gets its input in pieces

`mark`, `field_start`, `field_len` and `query_start` are offsets into the buffer of one call.  A
parser on the buffer `seg` is compared with one on the buffer `before ++ seg ++ after`.

* `reads`, `writes`     the offsets that an action reads and writes;
* `table_facts`         what is needed of the table, checked at every transition;
* `act_follows`         an action does the same in both parsers, when the offsets it reads agree;
* `scan_request`        so does the scan, when the offsets that are live agree.
-/

set_option linter.unusedVariables false

namespace KitServer
namespace Http
namespace Request

/-- `name` stands for `field_start` and `field_len` together, as `write_value` reads them -/
inductive Reg where
  | mark
  | fieldStart
  | name
  | queryStart
deriving DecidableEq

def reads : Act → Reg → Bool
  | .writeField, .fieldStart => true
  | .writeValue, .mark => true
  | .writeValue, .name => true
  | .requestMethod, .mark => true
  | .fragment, .mark => true
  | .queryString, .queryStart => true
  | .httpVersion, .mark => true
  | .requestPath, .mark => true
  | _, _ => false

def writes : Act → Reg → Bool
  | .mark, .mark => true
  | .startValue, .mark => true
  | .startField, .fieldStart => true
  | .writeField, .name => true
  | .startQuery, .queryStart => true
  | _, _ => false

/-! ## the table -/

/-- the states in which `name`, and those in which `queryStart`, may be read first -/
def nameStates (cs : Nat) : Bool := cs = 15 || cs = 16
def queryStates (cs : Nat) : Bool := cs = 30 || cs = 31 || cs = 32

structure TableFacts (cs : Nat) (t : Trans Act) : Prop where
  name : needed reads writes .name t.acts (!t.brk && nameStates t.target) = true →
    nameStates cs = true
  query : needed reads writes .queryStart t.acts (!t.brk && queryStates t.target) = true →
    queryStates cs = true
  startField : .startField ∈ t.acts → .writeValue ∉ t.acts ∧ nameStates t.target = false
  going : t.brk = false → t.target ≠ error ∧ t.target < firstFinal
  final : t.brk = true → firstFinal ≤ t.target

instance (cs : Nat) (t : Trans Act) : Decidable (TableFacts cs t) :=
  decidable_of_iff
    ((needed reads writes .name t.acts (!t.brk && nameStates t.target) = true →
        nameStates cs = true) ∧
      (needed reads writes .queryStart t.acts (!t.brk && queryStates t.target) = true →
        queryStates cs = true) ∧
      (.startField ∈ t.acts → .writeValue ∉ t.acts ∧ nameStates t.target = false) ∧
      (t.brk = false → t.target ≠ error ∧ t.target < firstFinal) ∧
      (t.brk = true → firstFinal ≤ t.target))
    ⟨fun h => ⟨h.1, h.2.1, h.2.2.1, h.2.2.2.1, h.2.2.2.2⟩,
      fun h => ⟨h.name, h.query, h.startField, h.going, h.final⟩⟩

/-- a method ends in front of a space -/
def entryOk (cs : Nat) (r : Range) : Bool :=
  decide (TableFacts cs (r.jump.trans tr)) &&
    (decide (.requestMethod ∉ (r.jump.trans tr).acts) || (r.lo = 32 && r.hi = 32))

theorem rows_ok : (rows.zipIdx.all fun x => x.1.all (entryOk x.2)) = true := by
  decide +kernel

theorem relaxedRows_ok : (relaxedRows.all fun x => entryOk x.1 ⟨94, 125, x.2⟩) = true := by
  decide +kernel

theorem table_facts {rel : Bool} {cs : Nat} {c : UInt8} {t : Trans Act}
    (h : trans rel cs c = some t) :
    TableFacts cs t ∧ (.requestMethod ∈ t.acts → c = 32) := by
  obtain ⟨r, hr, hlo, hhi, rfl⟩ : ∃ r : Range, entryOk cs r = true ∧ r.lo ≤ c.toNat ∧
      c.toNat ≤ r.hi ∧ t = r.jump.trans tr := by
    unfold trans at h
    split at h
    · next t' ht =>
      cases h
      exact tableTrans_all rows_ok ht
    · split at h
      · next hc =>
        rw [Option.map_eq_some_iff] at h
        obtain ⟨x, hx, rfl⟩ := h
        have hmem := List.mem_of_find?_eq_some hx
        have hcs := List.find?_some hx
        have hok := List.all_eq_true.mp relaxedRows_ok x hmem
        simp only [decide_eq_true_eq] at hcs
        rw [hcs] at hok
        have hbyte : 94 ≤ c.toNat ∧ c.toNat ≤ 125 := by
          simp only [Bool.and_eq_true, Bool.or_eq_true, decide_eq_true_eq] at hc
          obtain ⟨_, (rfl | rfl) | rfl⟩ := hc
          · decide
          · decide
          · decide
        exact ⟨⟨94, 125, x.2⟩, hok, hbyte.1, hbyte.2, rfl⟩
      · cases h
  simp only [entryOk, Bool.and_eq_true, Bool.or_eq_true, decide_eq_true_eq] at hr
  refine ⟨hr.1, ?_⟩
  intro hmem
  rcases hr.2 with hno | ⟨h32, h32'⟩
  · exact absurd hmem hno
  · apply UInt8.toNat_inj.mp
    show c.toNat = 32
    omega

theorem live_name {rel : Bool} {cs : Nat} {bs : List UInt8}
    (h : live (trans rel) reads writes .name cs bs = true) : nameStates cs = true :=
  live_mem (T := trans rel) (S := nameStates)
    (fun _ _ _ ht hk => (table_facts ht).1.name hk) bs cs h

theorem live_queryStart {rel : Bool} {cs : Nat} {bs : List UInt8}
    (h : live (trans rel) reads writes .queryStart cs bs = true) : queryStates cs = true :=
  live_mem (T := trans rel) (S := queryStates)
    (fun _ _ _ ht hk => (table_facts ht).1.query hk) bs cs h

/-! ## strings in a buffer and in a part of it -/

section
variable {before seg after : Str} {f₁ : Nat → UInt8} (f₂ : Nat → UInt8) {m n : Nat}

theorem getD_part (h : m < seg.length) :
    (before ++ seg ++ after).getD (before.length + m) (f₁ (before.length + m))
      = seg.getD m (f₂ m) := by
  have h₁ : (before ++ seg ++ after)[before.length + m]? = seg[m]? := by
    rw [List.append_assoc, List.getElem?_append_right (by omega), Nat.add_sub_cancel_left,
      List.getElem?_append_left h]
  rw [List.getD_eq_getElem?_getD, List.getD_eq_getElem?_getD, h₁, List.getElem?_eq_getElem h]
  rfl

theorem chars_part (h : m + n ≤ seg.length) :
    chars f₁ (before ++ seg ++ after) (before.length + m) n = chars f₂ seg m n := by
  unfold chars
  by_cases hn : n < 2 ^ 63
  · rw [if_pos hn, if_pos hn]
    congr 1
    apply List.map_congr_left
    intro i hi
    rw [Nat.add_assoc]
    exact getD_part f₂ (by have := List.mem_range.mp hi; omega)
  · rw [if_neg hn, if_neg hn]

theorem drop_part (h : m ≤ seg.length) :
    (before ++ seg ++ after).drop (before.length + m) = seg.drop m ++ after := by
  rw [List.append_assoc, List.drop_append, List.drop_of_length_le (by omega), List.nil_append,
    Nat.add_sub_cancel_left, List.drop_append_of_le_length h]

theorem LEN_part (h : m ≤ n) : LEN (before.length + m) (before.length + n) = LEN m n := by
  rw [LEN, LEN, if_pos (by omega), if_pos h]
  omega

theorem strncmpEq_append (x : Str) : ∀ (n : Nat) (a : Str), n ≤ a.length →
    strncmpEq n (a ++ after) x = strncmpEq n a x := by
  induction x with
  | nil =>
    intro n a h
    cases n with
    | zero => simp [strncmpEq]
    | succ n =>
      cases a with
      | nil => simp at h
      | cons c a => rfl
  | cons y x ih =>
    intro n a h
    cases n with
    | zero => simp [strncmpEq]
    | succ n =>
      cases a with
      | nil => simp at h
      | cons c a =>
        rw [List.cons_append, strncmpEq, strncmpEq, ih n a (by simpa using h)]

theorem isPrefixOf_append {name : Str} {c : UInt8} (hname : c ∉ name) :
    ∀ {a : Str}, c ∈ a → name.isPrefixOf (a ++ after) = name.isPrefixOf a := by
  induction name with
  | nil =>
    intro a _
    simp
  | cons d name ih =>
    intro a ha
    cases a with
    | nil => cases ha
    | cons e a =>
      rw [List.cons_append, List.isPrefixOf, List.isPrefixOf]
      by_cases hde : d = e
      · have hca : c ∈ a := by
          rcases List.mem_cons.mp ha with rfl | h
          · exact absurd (hde ▸ List.mem_cons_self) hname
          · exact h
        rw [ih (fun h => hname (List.mem_cons_of_mem d h)) hca]
      · rw [beq_eq_false_iff_ne.mpr hde, Bool.false_and, Bool.false_and]

theorem CharsToHttpMethod_append {a : Str} (h : 32 ∈ a) :
    CharsToHttpMethod (a ++ after) = CharsToHttpMethod a := by
  have hnames : ∀ x ∈ httpMethodMap, (32 : UInt8) ∉ x.2 := by decide +kernel
  have hfind : httpMethodMap.find? (fun x => x.2.isPrefixOf (a ++ after))
      = httpMethodMap.find? (fun x => x.2.isPrefixOf a) := by
    apply List.find?_congr
    intro x hx
    exact isPrefixOf_append (hnames x hx) h
  rw [CharsToHttpMethod, CharsToHttpMethod, hfind]

end

/-! ## two parsers side by side -/

/-- `t` is the parser on the part that starts at `o`, in front of its byte `p`; the offsets of `k`
agree, and lie within the part -/
structure Follows (o : Nat) (k : Reg → Bool) (p : Nat) (s t : HttpRequestParser) : Prop where
  request : t.request = s.request
  error : t.error = s.error
  mark : k .mark = true → s.mark = o + t.mark ∧ t.mark ≤ p
  fieldStart : k .fieldStart = true → s.fieldStart = o + t.fieldStart ∧ t.fieldStart ≤ p
  name : k .name = true → s.fieldStart = o + t.fieldStart ∧ s.fieldLen = t.fieldLen ∧
    t.fieldStart + t.fieldLen ≤ p
  queryStart : k .queryStart = true → s.queryStart = o + t.queryStart ∧ t.queryStart ≤ p

theorem Follows.mono {o p q : Nat} {k k' : Reg → Bool} {s t : HttpRequestParser}
    (h : Follows o k p s t) (hk : ∀ r, k' r = true → k r = true) (hpq : p ≤ q) :
    Follows o k' q s t := by
  refine ⟨h.request, h.error, ?_, ?_, ?_, ?_⟩
  · intro hr
    have := h.mark (hk _ hr)
    omega
  · intro hr
    have := h.fieldStart (hk _ hr)
    omega
  · intro hr
    have := h.name (hk _ hr)
    omega
  · intro hr
    have := h.queryStart (hk _ hr)
    omega

section
variable {before seg after : Str} {f₁ f₂ : Nat → UInt8} {p : Nat} {n : Reg → Bool}
  {s t : HttpRequestParser}

theorem withChars_part (f₁ f₂ : Nat → UInt8) (s t : HttpRequestParser) {off₁ off : Nat}
    (cb : Str → HttpRequestParser → HttpRequestParser) (hseg : seg.length < 2 ^ 63)
    (hp : p < seg.length) (hoff : off₁ = before.length + off) (hle : off ≤ p) :
    ∃ v, withChars f₁ (before ++ seg ++ after) off₁ (before.length + p) cb s = .ok (cb v s) ∧
      withChars f₂ seg off p cb t = .ok (cb v t) := by
  have hlen : LEN off p ≤ p - off := by
    rw [LEN, if_pos hle]
  obtain ⟨v, hv⟩ : ∃ v, chars f₂ seg off (LEN off p) = .ok v := ⟨_, if_pos (by omega)⟩
  refine ⟨v, ?_, ?_⟩
  · rw [withChars, hoff, LEN_part hle, chars_part f₂ (by omega), hv]
  · rw [withChars, hv]

/-- **An action does the same in both parsers, when the offsets that it reads agree.** -/
theorem act_follows (f₁ f₂ : Nat → UInt8) {a : Act} (hseg : seg.length < 2 ^ 63)
    (hp : p < seg.length) (hkill : a = .startField → n .name = false)
    (hspace : a = .requestMethod → seg[p]? = some 32)
    (hR : Follows before.length (fun r => reads a r || (!writes a r && n r)) p s t) :
    ∃ s' t', act f₁ (before ++ seg ++ after) (before.length + p) a s = .ok s' ∧
      act f₂ seg p a t = .ok t' ∧ Follows before.length n p s' t' := by
  have hn : Follows before.length (fun r => !writes a r && n r) p s t :=
    hR.mono (fun r hr => by rw [hr, Bool.or_true]) (Nat.le_refl p)
  cases a with
  | mark =>
    exact ⟨_, _, rfl, rfl, hR.request, hR.error, fun _ => ⟨rfl, Nat.le_refl p⟩, hn.fieldStart,
      hn.name, hn.queryStart⟩
  | startField =>
    refine ⟨_, _, rfl, rfl, hR.request, hR.error, hn.mark, fun _ => ⟨rfl, Nat.le_refl p⟩, ?_,
      hn.queryStart⟩
    intro hname
    rw [hkill rfl] at hname
    cases hname
  | writeField =>
    obtain ⟨heq, hle⟩ := hR.fieldStart rfl
    have hlen : LEN s.fieldStart (before.length + p) = LEN t.fieldStart p := by
      rw [heq, LEN_part hle]
    refine ⟨_, _, rfl, rfl, hR.request, hR.error, hn.mark, hn.fieldStart,
      fun _ => ⟨heq, hlen, ?_⟩, hn.queryStart⟩
    show t.fieldStart + LEN t.fieldStart p ≤ p
    rw [LEN, if_pos hle]
    omega
  | startValue =>
    exact ⟨_, _, rfl, rfl, hR.request, hR.error, fun _ => ⟨rfl, Nat.le_refl p⟩, hn.fieldStart,
      hn.name, hn.queryStart⟩
  | writeValue =>
    obtain ⟨hmark, hmle⟩ := hR.mark rfl
    obtain ⟨hstart, hlen, hfle⟩ := hR.name rfl
    have hend : LEN t.mark p ≤ p - t.mark := by
      rw [LEN, if_pos hmle]
    obtain ⟨key, hkey⟩ : ∃ v, chars f₂ seg t.fieldStart t.fieldLen = .ok v :=
      ⟨_, if_pos (by omega)⟩
    obtain ⟨val, hval⟩ : ∃ v, chars f₂ seg t.mark (LEN t.mark p) = .ok v := ⟨_, if_pos (by omega)⟩
    have hkey₁ : chars f₁ (before ++ seg ++ after) s.fieldStart s.fieldLen = .ok key := by
      rw [hstart, hlen, chars_part f₂ (by omega), hkey]
    have hval₁ : chars f₁ (before ++ seg ++ after) s.mark (LEN s.mark (before.length + p))
        = .ok val := by
      rw [hmark, LEN_part hmle, chars_part f₂ (by omega), hval]
    simp only [act, onRequestHttpField, hkey, hval, hkey₁, hval₁]
    by_cases h0 : t.fieldLen = 0
    · rw [if_pos h0, if_pos (hlen.trans h0)]
      exact ⟨s, t, rfl, rfl, hR.request, hR.error, hn.mark, hn.fieldStart, hn.name,
        hn.queryStart⟩
    · rw [if_neg h0, if_neg (hlen ▸ h0)]
      refine ⟨_, _, rfl, rfl, ?_, hR.error, hn.mark, hn.fieldStart, hn.name, hn.queryStart⟩
      show t.request.setHeader key val = s.request.setHeader key val
      rw [hR.request]
  | requestMethod =>
    obtain ⟨hmark, hmle⟩ := hR.mark rfl
    have hmem : (32 : UInt8) ∈ seg.drop t.mark := by
      apply List.mem_of_getElem? (i := p - t.mark)
      rw [List.getElem?_drop, Nat.add_sub_cancel' hmle]
      exact hspace rfl
    have hmethod : CharsToHttpMethod ((before ++ seg ++ after).drop s.mark)
        = CharsToHttpMethod (seg.drop t.mark) := by
      rw [hmark, drop_part (by omega), CharsToHttpMethod_append hmem]
    simp only [act, onRequestMethod, hmethod]
    refine ⟨_, _, rfl, rfl, ?_⟩
    split
    · exact ⟨hR.request, rfl, hn.mark, hn.fieldStart, hn.name, hn.queryStart⟩
    · refine ⟨?_, hR.error, hn.mark, hn.fieldStart, hn.name, hn.queryStart⟩
      simp only [hR.request]
  | requestUri =>
    exact ⟨s, t, rfl, rfl, hR.request, hR.error, hn.mark, hn.fieldStart, hn.name, hn.queryStart⟩
  | fragment =>
    obtain ⟨hmark, hmle⟩ := hR.mark rfl
    obtain ⟨v, hs, ht⟩ := withChars_part f₁ f₂ s t onRequestFragment hseg hp hmark hmle
    refine ⟨_, _, hs, ht, ?_, hR.error, hn.mark, hn.fieldStart, hn.name, hn.queryStart⟩
    simp only [onRequestFragment, hR.request]
  | startQuery =>
    exact ⟨_, _, rfl, rfl, hR.request, hR.error, hn.mark, hn.fieldStart, hn.name,
      fun _ => ⟨rfl, Nat.le_refl p⟩⟩
  | queryString =>
    obtain ⟨hquery, hqle⟩ := hR.queryStart rfl
    obtain ⟨v, hs, ht⟩ := withChars_part f₁ f₂ s t onRequestQueryString hseg hp hquery hqle
    refine ⟨_, _, hs, ht, ?_, hR.error, hn.mark, hn.fieldStart, hn.name, hn.queryStart⟩
    simp only [onRequestQueryString, hR.request]
  | httpVersion =>
    obtain ⟨hmark, hmle⟩ := hR.mark rfl
    have hcmp : ∀ x, strncmpEq (LEN s.mark (before.length + p))
        ((before ++ seg ++ after).drop s.mark) x
          = strncmpEq (LEN t.mark p) (seg.drop t.mark) x := by
      intro x
      rw [hmark, LEN_part hmle, drop_part (by omega)]
      apply strncmpEq_append
      rw [LEN, if_pos hmle, List.length_drop]
      omega
    simp only [act, onRequestHttpVersion, hcmp]
    refine ⟨_, _, rfl, rfl, ?_⟩
    by_cases h11 : strncmpEq (LEN t.mark p) (seg.drop t.mark) (asc "HTTP/1.1") = true
    · rw [if_pos h11, if_pos h11]
      refine ⟨?_, hR.error, hn.mark, hn.fieldStart, hn.name, hn.queryStart⟩
      simp only [hR.request]
    · rw [if_neg h11, if_neg h11]
      by_cases h10 : strncmpEq (LEN t.mark p) (seg.drop t.mark) (asc "HTTP/1.0") = true
      · rw [if_pos h10, if_pos h10]
        refine ⟨?_, hR.error, hn.mark, hn.fieldStart, hn.name, hn.queryStart⟩
        simp only [hR.request]
      · rw [if_neg h10, if_neg h10]
        exact ⟨hR.request, rfl, hn.mark, hn.fieldStart, hn.name, hn.queryStart⟩
  | requestPath =>
    obtain ⟨hmark, hmle⟩ := hR.mark rfl
    obtain ⟨v, hs, ht⟩ := withChars_part f₁ f₂ s t onRequestPath hseg hp hmark hmle
    refine ⟨_, _, hs, ht, ?_, hR.error, hn.mark, hn.fieldStart, hn.name, hn.queryStart⟩
    simp only [onRequestPath, hR.request]
  | done =>
    have hdone : ∀ (f : Nat → UInt8) (buffer : Str) (q : Nat) (r : HttpRequestParser),
        ∃ b l, act f buffer q .done r = .ok { r with bodyStart := b, contentLen := l } := by
      intro f buffer q r
      simp only [act]
      split
      · exact ⟨_, _, rfl⟩
      · exact ⟨_, r.contentLen, rfl⟩
    obtain ⟨b, l, hs⟩ := hdone f₁ (before ++ seg ++ after) (before.length + p) s
    obtain ⟨b', l', ht⟩ := hdone f₂ seg p t
    exact ⟨_, _, hs, ht, hR.request, hR.error, hn.mark, hn.fieldStart, hn.name, hn.queryStart⟩
  | xml =>
    exact ⟨_, _, rfl, rfl, hR.request, hR.error, hn.mark, hn.fieldStart, hn.name, hn.queryStart⟩
  | json =>
    exact ⟨_, _, rfl, rfl, hR.request, hR.error, hn.mark, hn.fieldStart, hn.name, hn.queryStart⟩

end

theorem needed_name {k : Bool} (as : List Act) (h : .writeValue ∉ as) (hk : k = false) :
    needed reads writes .name as k = false := by
  induction as with
  | nil => exact hk
  | cons a as ih =>
    have hreads : reads a .name = false := by
      cases a with
      | writeValue => exact absurd List.mem_cons_self h
      | _ => rfl
    rw [needed_cons, hreads, ih (fun hmem => h (List.mem_cons_of_mem a hmem)), Bool.and_false]
    rfl

/-- **The scan does the same in both parsers, when the offsets that are live agree.** -/
theorem scan_request (f₁ f₂ : Nat → UInt8) {rel : Bool} {before seg after : Str} {cs : Nat}
    {s t : HttpRequestParser} (hseg : seg.length < 2 ^ 63)
    (hR : Follows before.length (fun r => live (trans rel) reads writes r cs (seg ++ after)) 0 s t) :
    (∃ cs' s' t', scan (trans rel) (act f₁ (before ++ seg ++ after)) cs before.length seg s
        = .more cs' s' ∧ scan (trans rel) (act f₂ seg) cs 0 seg t = .more cs' t' ∧
      Follows before.length (fun r => live (trans rel) reads writes r cs' after) seg.length s' t') ∨
    (∃ cs' q s' t', scan (trans rel) (act f₁ (before ++ seg ++ after)) cs before.length seg s
        = .stop cs' (before.length + q) s' ∧ scan (trans rel) (act f₂ seg) cs 0 seg t
          = .stop cs' q t' ∧ Follows before.length (fun _ => false) q s' t') ∨
    (∃ q s' t', scan (trans rel) (act f₁ (before ++ seg ++ after)) cs before.length seg s
        = .bad (before.length + q) s' ∧ scan (trans rel) (act f₂ seg) cs 0 seg t = .bad q t') := by
  have htrans : ∀ cs c tr p, trans rel cs c = some tr → seg[p]? = some c → ∀ rest : List UInt8,
      let k := fun r => if tr.brk then false else live (trans rel) reads writes r tr.target rest
      ∀ s₁ s₂, Follows before.length (fun r => needed reads writes r tr.acts (k r)) p s₁ s₂ →
        ∃ s₁' s₂',
          runActs (act f₁ (before ++ seg ++ after) (before.length + p)) tr.acts s₁ = .ok s₁' ∧
          runActs (act f₂ seg p) tr.acts s₂ = .ok s₂' ∧
            Follows before.length k (p + 1) s₁' s₂' := by
    intro cs c tr p hT hat rest k s₁ s₂ hR₁
    obtain ⟨hfacts, hspace⟩ := table_facts hT
    have hp : p < seg.length := by
      by_contra hge
      rw [List.getElem?_eq_none (by omega)] at hat
      cases hat
    have hact : ∀ a as', a :: as' <:+ tr.acts → ∀ s t,
        Follows before.length (fun r => needed reads writes r (a :: as') (k r)) p s t →
          ∃ s' t', act f₁ (before ++ seg ++ after) (before.length + p) a s = .ok s' ∧
            act f₂ seg p a t = .ok t' ∧
            Follows before.length (fun r => needed reads writes r as' (k r)) p s' t' := by
      intro a as' hsuf s t hR₃
      have hmem : a ∈ tr.acts := hsuf.subset List.mem_cons_self
      apply act_follows f₁ f₂ hseg hp
      · intro ha
        obtain ⟨hno, htarget⟩ := hfacts.startField (ha ▸ hmem)
        refine needed_name as' (fun h => hno (hsuf.subset (List.mem_cons_of_mem a h))) ?_
        by_cases hb : tr.brk = true
        · exact if_pos hb
        · refine (if_neg hb).trans ?_
          by_contra hlive
          rw [live_name (by simpa using hlive)] at htarget
          cases htarget
      · intro ha
        rw [hat, hspace (ha ▸ hmem)]
      · simp only [needed_cons] at hR₃
        exact hR₃
    obtain ⟨s₁', s₂', hrun₁, hrun₂, hR₂⟩ := runActs_follows
      (R := fun k => Follows before.length k p) (k := k) tr.acts hact s₁ s₂ hR₁
    exact ⟨s₁', s₂', hrun₁, hrun₂, hR₂.mono (fun r hr => hr) (Nat.le_succ p)⟩
  have hat : ∀ i c, seg[i]? = some c → seg[0 + i]? = some c := by
    intro i c hc
    rw [Nat.zero_add]
    exact hc
  have hboth := scan_follows htrans seg after cs 0 s t hat hR
  rw [Nat.add_zero, Nat.zero_add] at hboth
  exact hboth

end Request
end Http
end KitServer
