import KitServer.Log.Spells

/-!
# When `init` follows the grammar

`LogFormatter.scanned` differs from `LogFormatter.grammar` where a `%%` stands or a `}` directly
behind a name, and a text that is kept back is written behind an error text that came after it.
`follows_iff` says that these are the only patterns whose items or error are not the grammar's.

* `not_spells_run`, `not_spells_closing`  a `%%`, and a `}` behind a name, are not read;
* `ahead`               nor is what is kept back where an error text was read as characters;
* `unpended_of_spells`  so where the items are those of the pattern, it has none of them.
-/

set_option linter.unusedVariables false

namespace KitServer
namespace Log
open Http

/-! ## behind an error text that was read as characters -/

/-- what is kept back is the text `r` that is left of the pattern, or it begins with an error text
that was read as characters, and is longer -/
def Pending (r str : Str) : Prop :=
  str = r ∨ (Piece.formatError [] <+: str ∧ r.length < str.length)

def Ahead (s : Str) : Prop :=
  ∀ r str : Str, 37 ∉ r → Piece.formatError [] <+: str → r.length < str.length →
    ¬Spells (chars r (pieces isalpha true s)) (made str (pieces isNameChar false s))

theorem made_run (j : Nat) (t str : Str) :
    made (str ++ [37]) (pieces isNameChar false (37 :: (List.replicate j 37 ++ t)))
      = made (str ++ 37 :: List.replicate j 37) (pieces isNameChar false (37 :: t)) := by
  induction j generalizing str with
  | zero => rfl
  | succ j ih =>
    rw [List.replicate_succ, List.cons_append, pieces_escape, if_neg Bool.false_ne_true, made, ih,
      List.append_assoc]
    rfl

theorem litText_run (j : Nat) {t : Str} (ht : t.head? ≠ some 37) :
    ∃ (a : Nat) (z : Str), a ≤ j ∧ z.head? ≠ some 37 ∧
      litText (pieces isalpha true (List.replicate (j + 1) 37 ++ t))
        = List.replicate a 37 ++ z ∧ (List.replicate a 37 ++ z).head? ≠ some 62 := by
  induction j using Nat.twoStepInduction with
  | zero =>
    refine ⟨0, [], Nat.le_refl 0, by simp, ?_, by simp⟩
    show litText (pieces isalpha true (37 :: t)) = []
    cases hd : directive isalpha t with
    | none => rw [pieces_broken _ _ ht hd, litText_mark rfl]
    | some d => rw [pieces_item _ _ ht hd, litText_mark rfl]
  | one =>
    refine ⟨1, litText (pieces isalpha true t), Nat.le_refl 1, fun h => ht (litText_pieces h), ?_,
      by simp⟩
    show litText (pieces isalpha true (37 :: 37 :: t)) = _
    rw [pieces_escape, if_pos rfl, litText_literal rfl]
    rfl
  | more j ih _ =>
    obtain ⟨a, z, ha, hz, htext, hhead⟩ := ih
    refine ⟨a + 1, z, by omega, hz, ?_, by simp [List.replicate_succ]⟩
    rw [List.replicate_succ, List.replicate_succ, List.cons_append, List.cons_append,
      pieces_escape, if_pos rfl, litText_literal rfl, htext]
    rfl

theorem replicate_prefix {a j : Nat} {z : Str} (haj : a ≤ j) (hz : z.head? ≠ some 37) :
    ¬List.replicate (j + 1) 37 <+: List.replicate a 37 ++ z := by
  intro h
  obtain ⟨k, rfl⟩ := Nat.exists_eq_add_of_le haj
  rw [show a + k + 1 = a + (k + 1) by omega, List.replicate_add, List.prefix_append_right_inj,
    List.replicate_succ] at h
  obtain ⟨t, ht⟩ := h
  exact hz (ht ▸ rfl)

section
variable {r str u : Str} {j : Nat} {d : Directive}

theorem run_closed (hu : u.head? ≠ some 37)
    (h : (litText (pieces isalpha true (List.replicate j 37 ++ u))).head? = some 62) :
    j = 0 ∧ u.head? = some 62 := by
  cases j with
  | zero => exact ⟨rfl, litText_pieces h⟩
  | succ j =>
    obtain ⟨a, z, _, _, htext, hhead⟩ := litText_run j hu
    rw [htext] at h
    exact absurd h hhead

theorem run_mark (hr : 37 ∉ r) (hpending : Pending r str) : ∃ p v, 37 ∉ p ∧
    str ++ 37 :: List.replicate j 37 = p ++ 37 :: v ∧
      (p = r ∧ v = List.replicate j 37 ∨ v.head? = some 62) := by
  rcases hpending with rfl | ⟨⟨e, rfl⟩, _⟩
  · exact ⟨_, _, hr, rfl, .inl ⟨rfl, rfl⟩⟩
  · refine ⟨asc "<<error_format ", 62 :: 62 :: (e ++ 37 :: List.replicate j 37),
      by decide, ?_, .inr rfl⟩
    rw [formatError_mark]
    simp

variable (hr : 37 ∉ r) (hpending : Pending r str) (hu : u.head? ≠ some 37)
include hr hpending hu

theorem run_broken (hd : directive isNameChar u = none) :
    ¬Spells (chars r (.escape :: pieces isalpha true (List.replicate j 37 ++ u)))
      (made (str ++ 37 :: List.replicate j 37) (pieces isNameChar false (37 :: u))) := by
  rw [pieces_broken _ _ hu hd, made]
  intro h
  obtain ⟨p, v, hp, hmark, hfirst⟩ := run_mark (j := j) hr hpending
  obtain ⟨hpre, h⟩ := h.escape_inv
  obtain ⟨r', rfl⟩ := prefix_unmarked patternError_mark hpre
  rw [chars, List.map_append, List.append_assoc, List.drop_left' (List.length_map ..)] at h
  rw [List.mem_append, not_or] at hr
  obtain ⟨errs, w, l, hmade, herrs⟩ := made_first (pieces isNameChar false u)
    (List.append_ne_nil_of_right_ne_nil str (List.cons_ne_nil 37 (List.replicate j 37)))
  rw [hmade, hmark, List.append_assoc, List.cons_append] at h
  refine not_spells_escape hr.2 (fun hhead => ?_) herrs hp ?_ h
  · exact directive_none_head hd (run_closed hu hhead).2
  · rcases hfirst with ⟨rfl, _⟩ | hv
    · left
      have hlength : 0 < Piece.patternError.length := Nat.succ_pos _
      rw [List.length_append]
      omega
    · right
      obtain ⟨v', rfl⟩ := List.head?_eq_some_iff.mp hv
      rfl

/-- without a name, the error text is read only at its own characters with a single `%%` in them -/
theorem run_nameless (hd : directive isNameChar u = some d) (hname : d.name = [])
    (hahead : ∀ s, s.length ≤ u.length → Ahead s) :
    ¬Spells (chars r (.escape :: pieces isalpha true (List.replicate j 37 ++ u)))
      (made (str ++ 37 :: List.replicate j 37) (pieces isNameChar false (37 :: u))) := by
  rw [pieces_item _ _ hu hd, made, hname, if_pos List.isEmpty_nil, itemOf_nil]
  intro h
  obtain ⟨hpre, h⟩ := h.escape_inv
  rw [formatError_mark] at hpre
  obtain ⟨rfl, hclosed⟩ := prefix_mark (by decide) hr hpre
  have hhead : (litText (pieces isalpha true (List.replicate j 37 ++ u))).head? = some 62 := by
    obtain ⟨z, hz⟩ := hclosed
    rw [← hz]
    rfl
  obtain ⟨rfl, hfirst⟩ := run_closed hu hhead
  obtain ⟨u, rfl⟩ := List.head?_eq_some_iff.mp hfirst
  rw [List.replicate_zero, List.nil_append, pieces_char _ _ (by decide),
    litText_literal rfl] at hclosed
  have hsecond : u.head? = some 62 := by
    obtain ⟨z, hz⟩ := (List.cons_prefix_cons.mp hclosed).2
    exact litText_pieces (congrArg List.head? hz).symm
  obtain ⟨u, rfl⟩ := List.head?_eq_some_iff.mp hsecond
  have hbare : directive isNameChar ([] ++ 62 :: 62 :: u) = some ⟨[], none, 62 :: 62 :: u⟩ :=
    directive_bare (fun c hc => absurd hc List.not_mem_nil) fun c hc => by cases hc; decide
  obtain rfl := Option.some.inj (hd.symm.trans hbare)
  have hlength : (Piece.formatError []).length = (asc "<<error_format ").length + 3 := by
    rw [formatError_mark, List.length_append]
    rfl
  rw [hlength, ← List.drop_drop, chars, List.drop_left' (List.length_map ..),
    List.replicate_zero, List.nil_append, pieces_char _ _ (by decide),
    pieces_char _ _ (by decide), pieces_char _ _ (by decide), pieces_char _ _ (by decide),
    made, made, List.append_assoc, List.append_assoc] at h
  refine hahead u (by simp only [List.length_cons]; omega) [] _ List.not_mem_nil ?_ ?_ h
  · rcases hpending with rfl | ⟨hpre, _⟩
    · rw [formatError_mark]
      exact List.prefix_refl _
    · exact hpre.trans (List.prefix_append _ _)
  · simp

/-- with a name, what is kept back ends where the grammar has a character -/
theorem run_named (hd : directive isNameChar u = some d) (hname : d.name ≠ []) :
    ¬Spells (chars r (.escape :: pieces isalpha true (List.replicate j 37 ++ u)))
      (made (str ++ 37 :: List.replicate j 37) (pieces isNameChar false (37 :: u))) := by
  rw [pieces_item _ _ hu hd, made, if_neg (by simpa using hname)]
  intro h
  obtain ⟨p, v, hp, hmark, hfirst⟩ := run_mark (j := j) hr hpending
  obtain ⟨hpre, h⟩ := h.escape_inv
  rw [hmark] at hpre h
  obtain ⟨rfl, hbehind⟩ := prefix_mark hp hr hpre
  obtain ⟨c, u, rfl, hc⟩ : ∃ c u', u = c :: u' ∧ isNameChar c = true := by
    have htake := directive_name _ hd
    cases u with
    | nil => exact absurd htake hname
    | cons c u =>
      refine ⟨c, u, rfl, by_contra fun hc => hname ?_⟩
      rw [htake, List.takeWhile_cons_of_neg hc]
  have hne : c ≠ 62 ∧ c ≠ 60 ∧ c ≠ 37 := by
    refine ⟨?_, ?_, ?_⟩ <;> rintro rfl <;> exact absurd hc (by decide)
  rcases hfirst with ⟨_, rfl⟩ | hv
  swap
  · obtain ⟨v', rfl⟩ := List.head?_eq_some_iff.mp hv
    obtain ⟨z, hz⟩ := hbehind
    have hhead := (run_closed hu (congrArg List.head? hz).symm).2
    exact hne.1 (Option.some.inj hhead)
  cases j with
  | zero =>
    rw [chars, List.replicate_zero, List.length_append, List.length_singleton,
      ← List.drop_drop, List.drop_left' (List.length_map ..), List.nil_append,
      pieces_char _ _ hne.2.2] at h
    exact not_spells_itemOf hne.2.1 _ _ h
  | succ j =>
    obtain ⟨a, z, ha, hz, htext, _⟩ := litText_run j hu
    rw [htext] at hbehind
    exact replicate_prefix ha hz hbehind

end

theorem exists_run (t : Str) : ∃ j u, u.head? ≠ some 37 ∧ t = List.replicate j 37 ++ u := by
  induction t with
  | nil => exact ⟨0, [], by simp, rfl⟩
  | cons c t ih =>
    by_cases hc : c = 37
    · subst hc
      obtain ⟨j, u, hu, rfl⟩ := ih
      exact ⟨j + 1, u, hu, rfl⟩
    · exact ⟨0, c :: t, by simpa using hc, rfl⟩

/-- **A `%%` is not read**, whether what is kept back is the text in front of it or is longer. -/
theorem not_spells_run {r str t : Str} (hr : 37 ∉ r) (hpending : Pending r str)
    (hahead : ∀ s, s.length ≤ t.length → Ahead s) :
    ¬Spells (chars r (.escape :: pieces isalpha true t))
      (made (str ++ [37]) (pieces isNameChar false (37 :: t))) := by
  obtain ⟨j, u, hu, rfl⟩ := exists_run t
  rw [made_run]
  cases hd : directive isNameChar u with
  | none => exact run_broken hr hpending hu hd
  | some d =>
    by_cases hname : d.name = []
    · refine run_nameless hr hpending hu hd hname fun s hs => hahead s ?_
      rw [List.length_append]
      omega
    · exact run_named hr hpending hu hd hname

/-- what stands behind a `%` whose `{` is open, or behind a name with a `}` -/
theorem opened_inv {m : Piece} {r str : Str} {y c : UInt8} {ps qs : List Piece}
    (hm : m.literal = false) (hy : y ≠ 60) (hpending : Pending r str)
    (hne : ∀ v, Piece.patternError <+: str ∨ Piece.formatError [] <+: str →
      m.errText ≠ str ++ c :: v)
    (h : Spells (chars r (m :: .char y :: ps))
      (.string Piece.patternError :: made str (.char c :: qs))) :
    r = [] ∧ m.errText = Piece.patternError ∧ Spells (.char y :: ps) (made str (.char c :: qs)) := by
  rcases Spells.mark_inv hm h with ⟨r', rfl, hrest⟩ | ⟨hr, _, herr, hrest⟩
  swap
  · exact ⟨hr, herr, hrest⟩
  exfalso
  have hfront : Piece.patternError <+: str ∨ Piece.formatError [] <+: str := by
    rcases hpending with rfl | ⟨hpre, _⟩
    · exact .inl (List.prefix_append _ _)
    · exact .inr hpre
  have hlong : r'.length < str.length + 1 := by
    rcases hpending with rfl | ⟨_, hlong⟩
    · rw [List.length_append]
      omega
    · rw [List.length_append] at hlong
      omega
  have hhead : str.head? = some 60 := by
    rcases hfront with ⟨v, rfl⟩ | ⟨v, rfl⟩
    · exact (List.head?_append_of_ne_nil _ (ne_nil_of_head (errs_head (.inr rfl)))).trans
        (errs_head (.inr rfl))
    · exact (List.head?_append_of_ne_nil _ (ne_nil_of_head (errs_head (.inl rfl)))).trans
        (errs_head (.inl rfl))
  obtain ⟨errs, u, l, hmade, herrs⟩ := made_first qs (List.append_ne_nil_of_right_ne_nil str
    (List.cons_ne_nil c []))
  rw [made, hmade, List.append_assoc, List.singleton_append] at hrest
  refine not_spells_mark hm hy herrs ?_ ?_ (hne u hfront) hrest
  · rw [List.head?_append, hhead]
    rfl
  · rw [List.length_append, List.length_cons]
    omega

/-- a directive with a `}` behind its name is not read -/
theorem not_spells_closing {w u r str : Str} (hw : ∀ c ∈ w, isalpha c = true)
    (hs : (w ++ 125 :: u : Str).head? ≠ some 37)
    (hscan : ∀ d, directive isNameChar (w ++ 125 :: u) = some d → 125 ∈ d.name)
    (hpending : Pending r str) :
    ¬Spells (chars r (.item w none :: .char 125 :: pieces isalpha true u))
      (made str (pieces isNameChar false (37 :: (w ++ 125 :: u)))) := by
  have hnot : 125 ∉ w := fun h => absurd (hw 125 h) (by decide)
  cases hd : directive isNameChar (w ++ 125 :: u) with
  | none =>
    obtain ⟨c, s, hcons, hc⟩ : ∃ c s, w ++ 125 :: u = c :: s ∧ c ≠ 37 := by
      cases w with
      | nil => exact ⟨125, u, rfl, by decide⟩
      | cons c w => exact ⟨c, _, rfl, fun h => hs (h ▸ rfl)⟩
    rw [pieces_broken _ _ hs hd, hcons, pieces_char _ _ hc, made]
    have hne (v : Str) (hfront : Piece.patternError <+: str ∨ Piece.formatError [] <+: str) :
        Piece.formatError w ≠ str ++ c :: v := by
      rcases hfront with ⟨e, rfl⟩ | ⟨e, rfl⟩
      · rw [List.append_assoc]
        exact fun h => patternError_ne w [] _ ((List.append_nil _).trans h)
      · rw [List.append_assoc]
        exact fun h => List.append_ne_nil_of_right_ne_nil e (List.cons_ne_nil c v)
          (formatError_begins hw h).2
    intro h
    have herr := (opened_inv (m := .item w none) rfl (by decide) hpending hne h).2.1
    exact patternError_ne w [] [] (congrArg (· ++ []) herr)
  | some d =>
    have hmem := hscan d hd
    have hname : d.name ≠ [] := fun h => List.not_mem_nil (h ▸ hmem)
    have hclass : LogFormatter.itemClass d.name = none :=
      Option.not_isSome_iff_eq_none.mp fun h => itemClass_letters h hmem
    have hitem : LogFormatter.itemOf (d.name, d.fmt.getD [], true)
        = .string (Piece.formatError d.name) := by
      rcases itemOf_cases d.name (d.fmt.getD []) with ⟨c, hsome, _⟩ | ⟨_, hitem⟩
      · rw [hclass] at hsome
        cases hsome
      · exact hitem
    rw [pieces_item _ _ hs hd, made, if_neg (by simpa using hname)]
    intro h
    rcases Spells.mark_inv rfl h with ⟨r', hr, hrest⟩ | ⟨_, _, _, hrest⟩
    · have hr' : r' = [] := by
        rcases hpending with rfl | ⟨_, hlong⟩
        · exact List.self_eq_append_right.mp hr
        · rw [hr, List.length_append] at hlong
          omega
      subst hr'
      rw [hitem] at hrest
      rcases Spells.mark_inv (r := []) rfl hrest with ⟨r', hr', _⟩ | ⟨_, _, herr, _⟩
      · exact formatError_ne_nil _ (List.append_eq_nil_iff.mp hr'.symm).1
      · simp only [Piece.errText, Piece.formatError, List.append_cancel_left_eq,
          List.append_cancel_right_eq] at herr
        exact hnot (herr ▸ hmem)
    · exact not_spells_itemOf (by decide) _ _ hrest

theorem broken_ne {str : Str} {c : UInt8} (v : Str)
    (hfront : Piece.patternError <+: str ∨ Piece.formatError [] <+: str) :
    Piece.broken.errText ≠ str ++ c :: v := by
  intro h
  rcases hfront with ⟨e, rfl⟩ | ⟨e, rfl⟩ <;> rw [List.append_assoc] at h
  · exact List.append_ne_nil_of_right_ne_nil e (List.cons_ne_nil c v)
      (List.append_cancel_left ((List.append_nil _).trans h)).symm
  · exact patternError_ne [] _ [] (h.symm.trans (List.append_nil _).symm)

theorem ahead (s : Str) : Ahead s := by
  induction hn : s.length using Nat.strong_induction_on generalizing s with
  | _ n ih =>
    subst hn
    intro r str hr hstr hlong h
    have hhead : str.head? = some 60 := by
      obtain ⟨e, rfl⟩ := hstr
      exact (List.head?_append_of_ne_nil _ (formatError_ne_nil [])).trans (errs_head (.inl rfl))
    induction s using pieces_rec isalpha with
    | nil =>
      rw [pieces_nil, pieces_nil, made, if_neg (by simpa using ne_nil_of_head hhead)] at h
      rcases h.string_inv with ⟨hpre, _⟩ | ⟨p, qs, hps, hp, _⟩
      · rw [litText_chars, litText, List.takeWhile_nil, List.flatMap_nil, List.append_nil] at hpre
        exact absurd hpre.length_le (by omega)
      · cases r with
        | nil => cases hps
        | cons c r =>
          rw [← (List.cons.inj hps).1] at hp
          cases hp
    | char c s hc _ =>
      rw [pieces_char _ _ hc, pieces_char _ _ hc, chars_char, made] at h
      refine ih s.length (Nat.lt_succ_self _) s rfl _ _ ?_ (hstr.trans (List.prefix_append _ _)) ?_ h
      · simpa [or_imp] using ⟨hr, Ne.symm hc⟩
      · simpa using hlong
    | escape s _ =>
      rw [pieces_escape, pieces_escape, if_pos rfl, if_neg Bool.false_ne_true, made] at h
      refine not_spells_run hr (.inr ⟨hstr, hlong⟩) (fun t ht => ih t.length ?_ t rfl) h
      simp only [List.length_cons]
      omega
    | broken s hs hd _ =>
      rw [pieces_broken _ _ hs hd] at h
      cases directive_forms s with
      | same d hscan hsome => cases hd.symm.trans hsome
      | closing w u hu hw hsome => cases hd.symm.trans hsome
      | opened c u hu hc hscan =>
        subst hu
        have hc37 : c ≠ 37 := fun h => hs (h ▸ rfl)
        have hc60 : c ≠ 60 := by
          rintro rfl
          exact absurd hc (by decide)
        rw [pieces_broken _ _ hs hscan, pieces_char _ _ hc37, pieces_char _ _ hc37, made] at h
        have hrest := (opened_inv rfl hc60 (.inr ⟨hstr, hlong⟩) broken_ne h).2.2
        obtain ⟨errs, w, l, hmade, herrs⟩ := made_first (.char c :: pieces isNameChar false u)
          (ne_nil_of_head hhead)
        rw [hmade] at hrest
        cases errs with
        | nil => exact not_spells_head hc60 (by rw [List.head?_append, hhead]; rfl) hrest
        | cons e errs => exact not_spells_head hc60 (errs_head (herrs e List.mem_cons_self)) hrest
    | item s d hs hd _ =>
      rw [pieces_item _ _ hs hd] at h
      cases directive_forms s with
      | opened c u hu hc hscan hnone => cases hd.symm.trans hnone
      | closing w u hu hw hsome hscan =>
        obtain rfl := Option.some.inj (hd.symm.trans hsome)
        subst hu
        rw [pieces_char _ _ (by decide)] at h
        exact not_spells_closing hw hs hscan (.inr ⟨hstr, hlong⟩) h
      | same d' hscan hsome =>
        obtain rfl := Option.some.inj (hd.symm.trans hsome)
        rw [pieces_item _ _ hs hscan, made] at h
        by_cases hname : d.name = []
        · rw [hname, if_pos List.isEmpty_nil, itemOf_nil] at h
          rcases Spells.mark_inv rfl h with ⟨r', rfl, _⟩ | ⟨_, _, _, hrest⟩
          · rw [formatError_mark] at hr
            simp at hr
          · have hlt := Nat.lt_succ_of_le (directive_rest isalpha hd)
            exact ih d.rest.length hlt d.rest rfl [] str List.not_mem_nil hstr
              (List.length_pos_of_ne_nil (ne_nil_of_head hhead)) hrest
        · rw [if_neg (by simpa using hname)] at h
          rcases Spells.mark_inv rfl h with ⟨r', rfl, _⟩ | ⟨_, _, herr, _⟩
          · rw [List.length_append] at hlong
            omega
          · obtain ⟨e, rfl⟩ := hstr
            exact hname (formatError_begins (directive_letters isalpha hd) herr).1

/-! ## the grammar is not followed -/

theorem itemOf_inv {name : Str} {fmt : Option Str} {ps : List Piece} {l : List FormatItem}
    (h : Spells (.item name fmt :: ps)
      (LogFormatter.itemOf (name, fmt.getD [], true) :: l)) : Spells ps l := by
  rcases itemOf_cases name (fmt.getD []) with ⟨c, _, hitem⟩ | ⟨_, hitem⟩
  · rw [hitem] at h
    obtain ⟨_, _, _, hps, _, _, hrest⟩ := h.item_inv
    rwa [← (List.cons.inj hps).2] at hrest
  · rw [hitem] at h
    rcases Spells.mark_inv (r := []) rfl h with ⟨r', hr', _⟩ | ⟨_, _, _, hrest⟩
    · exact absurd (List.append_eq_nil_iff.mp hr'.symm).1 (formatError_ne_nil name)
    · exact hrest

/-- **Where the items of `init` are those of the pattern**, there is no `%%`, no `}` directly behind
a name, and no error directly behind a character. -/
theorem unpended_of_spells (s r : Str) (hr : 37 ∉ r)
    (h : Spells (chars r (pieces isalpha true s)) (made r (pieces isNameChar false s))) :
    Plain (pieces isalpha true s) ∧ Unpended (chars r (pieces isalpha true s)) := by
  induction s using pieces_rec isalpha generalizing r with
  | nil =>
    rw [pieces_nil]
    exact ⟨⟨List.not_mem_nil, List.isChain_nil⟩, unpended_text r⟩
  | char c s hc ih =>
    rw [pieces_char _ _ hc, pieces_char _ _ hc, chars_char, made] at h
    rw [pieces_char _ _ hc, chars_char, plain_cons]
    obtain ⟨hplain, hunpended⟩ := ih (r ++ [c]) (by simpa [or_imp] using ⟨hr, Ne.symm hc⟩) h
    exact ⟨⟨Piece.noConfusion, fun q _ hq => Bool.noConfusion hq.1, hplain⟩, hunpended⟩
  | escape s ih =>
    rw [pieces_escape, pieces_escape, if_pos rfl, if_neg Bool.false_ne_true, made] at h
    exact absurd h (not_spells_run hr (.inl rfl) fun t _ => ahead t)
  | broken s hs hd ih =>
    rw [pieces_broken _ _ hs hd] at h ⊢
    cases directive_forms s with
    | same d hscan hsome => cases hd.symm.trans hsome
    | closing w u hu hw hsome => cases hd.symm.trans hsome
    | opened c u hu hc hscan =>
      subst hu
      have hc37 : c ≠ 37 := fun h => hs (h ▸ rfl)
      have hc60 : c ≠ 60 := by
        rintro rfl
        exact absurd hc (by decide)
      rw [pieces_broken _ _ hs hscan, pieces_char _ _ hc37, pieces_char _ _ hc37, made] at h
      obtain ⟨rfl, _, hrest⟩ := opened_inv rfl hc60 (.inl rfl) broken_ne h
      rw [← pieces_char isalpha true hc37, ← pieces_char isNameChar false hc37] at hrest
      obtain ⟨hplain, hunpended⟩ := ih [] List.not_mem_nil hrest
      exact ⟨(plain_cons _ _).mpr ⟨Piece.noConfusion, fun q _ hq => Bool.noConfusion hq.1, hplain⟩,
        (unpended_cons _ _).mpr ⟨fun q _ hq => Bool.noConfusion hq.1, hunpended⟩⟩
  | item s d hs hd ih =>
    rw [pieces_item _ _ hs hd] at h ⊢
    cases directive_forms s with
    | opened c u hu hc hscan hnone => cases hd.symm.trans hnone
    | closing w u hu hw hsome hscan =>
      obtain rfl := Option.some.inj (hd.symm.trans hsome)
      subst hu
      rw [pieces_char _ _ (by decide)] at h
      exact absurd h (not_spells_closing hw hs hscan (.inl rfl))
    | same d' hscan hsome hnext =>
      obtain rfl := Option.some.inj (hd.symm.trans hsome)
      rw [pieces_item _ _ hs hscan, made] at h
      have hnotBrace : ∀ q ∈ (pieces isalpha true d.rest).head?,
          ¬((Piece.item d.name d.fmt).bare = true ∧ q = .char 125) := by
        rintro q hq ⟨hbare, rfl⟩
        have hfmt : d.fmt = none := by
          cases hf : d.fmt with
          | none => rfl
          | some t => rw [hf] at hbare; cases hbare
        exact hnext hfmt (pieces_head hq)
      have hdone (hrest : Spells (pieces isalpha true d.rest)
          (made [] (pieces isNameChar false d.rest))) :
          Plain (.item d.name d.fmt :: pieces isalpha true d.rest) ∧
            Unpended (.item d.name d.fmt :: pieces isalpha true d.rest) := by
        obtain ⟨hplain, hunpended⟩ := ih [] List.not_mem_nil hrest
        exact ⟨(plain_cons _ _).mpr ⟨Piece.noConfusion, hnotBrace, hplain⟩,
          (unpended_cons _ _).mpr ⟨fun q _ hq => Bool.noConfusion hq.1, hunpended⟩⟩
      by_cases hname : d.name = []
      · rw [hname, if_pos List.isEmpty_nil, itemOf_nil] at h
        rcases Spells.mark_inv rfl h with ⟨r', rfl, _⟩ | ⟨rfl, _, _, hrest⟩
        · rw [formatError_mark] at hr
          simp at hr
        · exact hdone hrest
      · rw [if_neg (by simpa using hname)] at h
        have hitem : Spells (.item d.name d.fmt :: pieces isalpha true d.rest)
            (LogFormatter.itemOf (d.name, d.fmt.getD [], true)
              :: made [] (pieces isNameChar false d.rest)) := by
          rcases Spells.mark_inv rfl h with ⟨r', hr', hitem⟩ | ⟨rfl, _, herr, _⟩
          · obtain rfl : r' = [] := List.self_eq_append_right.mp hr'
            exact hitem
          · exact absurd herr (formatError_ne_nil d.name)
        have hboth := hdone (itemOf_inv hitem)
        refine ⟨hboth.1, unpended_chars ?_ hboth.2⟩
        cases hcons : d.name with
        | nil => exact absurd hcons hname
        | cons c name => rfl

/-- **The items and the error of a formatter are those of the grammar exactly if** in the pattern
stand no `%%`, no `}` directly behind a name, and directly behind a character neither a `%` without
a name nor one whose `{` is not closed. -/
theorem LogFormatter.follows_iff (f : LogFormatter) :
    f.Follows ↔ Plain f.grammar ∧ Unpended f.grammar := by
  obtain ⟨herror, hitems⟩ := f.init_scanned
  constructor
  · rintro ⟨_, hspells⟩
    rw [hitems] at hspells
    exact unpended_of_spells f.pattern [] List.not_mem_nil hspells
  · rintro ⟨hplain, hunpended⟩
    have hsame : f.scanned = f.grammar := pieces_plain f.pattern hplain
    rw [hsame] at herror hitems
    refine ⟨by rw [herror, Bool.not_eq_true'], ?_⟩
    rw [hitems]
    exact spells_of_unpended [] hplain.1 hunpended

/-- a single `%%` is an error -/
theorem LogFormatter.escape_refused : ¬(LogFormatter.mk (asc "%%")).Follows := by
  rintro ⟨h, _⟩
  have hgrammar : (LogFormatter.mk (asc "%%")).grammar = [.escape] := by
    show pieces isalpha true (37 :: 37 :: []) = _
    rw [pieces_escape, if_pos rfl, pieces_nil]
  have herror : (LogFormatter.mk (asc "%%")).isError = true := rfl
  have hwrong := h.mp herror
  rw [hgrammar] at hwrong
  cases hwrong

end Log
end KitServer
