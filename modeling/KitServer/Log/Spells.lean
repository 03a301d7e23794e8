import KitServer.Log.Readings

/-!
# The items of pieces

* `Spells.string_inv`, `Spells.item_inv`  what an item of a list was read from;
* `spells_of_unpended`  the items that `init` makes are those of the pieces, if no error text is put
                        in front of a text that was kept back;
* `made_first`          the first text that was kept back, behind the error texts;
* `not_spells_mark`, `not_spells_escape`  such a text is not read where it has a character too many,
                        or where its first `%` is another one.
-/

set_option linter.unusedVariables false

namespace KitServer
namespace Log
open Http

/-! ## items of pieces -/

/-- the text of the literal pieces in front -/
def litText (ps : List Piece) : Str := (ps.takeWhile Piece.literal).flatMap Piece.text

section
variable {p : Piece} {ps : List Piece}

theorem litText_literal (h : p.literal = true) : litText (p :: ps) = p.text ++ litText ps := by
  rw [litText, List.takeWhile_cons_of_pos h, List.flatMap_cons]
  rfl

theorem litText_mark (h : p.literal = false) : litText (p :: ps) = [] := by
  rw [litText, List.takeWhile_cons_of_neg (Bool.eq_false_iff.mp h)]
  rfl

theorem litText_chars (r : Str) (ps : List Piece) : litText (chars r ps) = r ++ litText ps := by
  induction r with
  | nil => rfl
  | cons c r ih => exact (litText_literal rfl).trans (congrArg (List.cons c) ih)

theorem litText_append {w : List Piece} (hw : w.all Piece.literal = true) (ps : List Piece) :
    litText (w ++ ps) = w.flatMap Piece.text ++ litText ps := by
  induction w with
  | nil => rfl
  | cons p w ih =>
    rw [List.all_cons, Bool.and_eq_true] at hw
    rw [List.cons_append, litText_literal hw.1, ih hw.2, List.flatMap_cons, List.append_assoc]

theorem text_length {w : List Piece} (hw : w.all Piece.literal = true) :
    (w.flatMap Piece.text).length = w.length := by
  induction w with
  | nil => rfl
  | cons p w ih =>
    rw [List.all_cons, Bool.and_eq_true] at hw
    have hone : p.text.length = 1 := by
      cases p with
      | char c => rfl
      | escape => rfl
      | item name fmt => cases hw.1
      | broken => cases hw.1
    rw [List.flatMap_cons, List.length_append, ih hw.2, hone, List.length_cons, Nat.add_comm]

theorem litText_pieces {isName : UInt8 → Bool} {both : Bool} {s : Str} {c : UInt8}
    (h : (litText (pieces isName both s)).head? = some c) : s.head? = some c := by
  cases s with
  | nil =>
    rw [pieces_nil] at h
    cases h
  | cons d s =>
    by_cases hd : d = 37
    swap
    · rw [pieces_char _ _ hd, litText_literal rfl] at h
      exact h
    subst hd
    by_cases hs : s.head? = some 37
    · obtain ⟨t, rfl⟩ : ∃ t, s = 37 :: t := List.head?_eq_some_iff.mp hs
      rw [pieces_escape, litText_literal rfl] at h
      exact h
    · cases hdir : directive isName s with
      | none =>
        rw [pieces_broken _ _ hs hdir, litText_mark rfl] at h
        cases h
      | some x =>
        rw [pieces_item _ _ hs hdir, litText_mark rfl] at h
        cases h

end

namespace Spells
variable {ps : List Piece} {l : List FormatItem}

theorem item_inv {c : ItemClass} {t : Str} (h : Spells ps (.item c t :: l)) :
    ∃ name fmt qs, ps = .item name fmt :: qs ∧ LogFormatter.itemClass name = some c ∧
      fmt.getD [] = t ∧ Spells qs l := by
  cases h with
  | item hc h => exact ⟨_, _, _, rfl, hc, rfl, h⟩

theorem string_inv {u : Str} (h : Spells ps (.string u :: l)) :
    (u <+: litText ps ∧ Spells (ps.drop u.length) l) ∨
      ∃ p qs, ps = p :: qs ∧ p.valid = false ∧ p.errText = u ∧ Spells qs l := by
  cases h with
  | text hw h =>
    refine .inl ⟨litText_append hw _ ▸ List.prefix_append _ _, ?_⟩
    rwa [text_length hw, List.drop_left]
  | wrong hp h => exact .inr ⟨_, _, rfl, hp, rfl, h⟩

theorem mark_inv {m : Piece} (hm : m.literal = false) {r u : Str}
    (h : Spells (chars r (m :: ps)) (.string u :: l)) :
    (∃ r', r = u ++ r' ∧ Spells (chars r' (m :: ps)) l) ∨
      (r = [] ∧ m.valid = false ∧ m.errText = u ∧ Spells ps l) := by
  rcases h.string_inv with ⟨hu, h⟩ | ⟨p, qs, hps, hp, herr, h⟩
  · left
    rw [litText_chars, litText_mark hm, List.append_nil] at hu
    obtain ⟨r', rfl⟩ := hu
    refine ⟨r', rfl, ?_⟩
    rwa [chars, List.map_append, List.append_assoc, List.drop_left' (List.length_map ..)] at h
  · right
    cases r with
    | nil =>
      obtain ⟨rfl, rfl⟩ := List.cons.inj hps
      exact ⟨rfl, hp, herr, h⟩
    | cons c r =>
      rw [← (List.cons.inj hps).1] at hp
      cases hp

theorem escape_inv {r u : Str} (h : Spells (chars r (.escape :: ps)) (.string u :: l)) :
    u <+: r ++ 37 :: litText ps ∧ Spells ((chars r (.escape :: ps)).drop u.length) l := by
  rcases h.string_inv with hpre | ⟨p, qs, hps, hp, _⟩
  · rwa [litText_chars, litText_literal rfl] at hpre
  · cases r with
    | nil =>
      rw [← (List.cons.inj hps).1] at hp
      cases hp
    | cons c r =>
      rw [← (List.cons.inj hps).1] at hp
      cases hp

end Spells

/-! ## the grammar is followed -/

theorem itemOf_cases (name fmt : Str) :
    (∃ c, LogFormatter.itemClass name = some c ∧
      LogFormatter.itemOf (name, fmt, true) = .item c fmt) ∨
    (LogFormatter.itemClass name = none ∧
      LogFormatter.itemOf (name, fmt, true) = .string (Piece.formatError name)) := by
  rw [LogFormatter.itemOf, if_pos rfl]
  cases LogFormatter.itemClass name with
  | none => exact .inr ⟨rfl, rfl⟩
  | some c => exact .inl ⟨c, rfl, rfl⟩

theorem itemOf_nil (fmt : Str) :
    LogFormatter.itemOf ([], fmt, true) = .string (Piece.formatError []) := rfl

/-- **Without `%%`, and without an error directly behind a character**, the items of the pieces are
those that `init` makes. -/
theorem spells_of_unpended {ps : List Piece} (r : Str) (hescape : .escape ∉ ps)
    (h : Unpended (chars r ps)) : Spells (chars r ps) (made r ps) := by
  have hall (r : Str) : (r.map Piece.char).all Piece.literal = true := by
    refine List.all_eq_true.mpr fun p hp => ?_
    obtain ⟨c, hc, rfl⟩ := List.mem_map.mp hp
    rfl
  have htext (r : Str) : (r.map Piece.char).flatMap Piece.text = r := by
    rw [List.flatMap_map]
    exact List.flatMap_singleton' r
  induction ps generalizing r with
  | nil =>
    cases r with
    | nil => exact .nil
    | cons c r =>
      have hend := Spells.text (hall (c :: r)) .nil
      rwa [htext] at hend
  | cons p ps ih =>
    have hrest : .escape ∉ ps := fun hp => hescape (List.mem_cons_of_mem p hp)
    have hwrong (hp : p.valid = false) (hname : p.nameless = true) :
        Spells (chars r (p :: ps)) (.string p.errText :: made r ps) := by
      obtain rfl := unpended_nameless hname h
      exact .wrong hp (ih [] hrest ((unpended_cons p ps).mp h).2)
    cases p with
    | char c =>
      rw [chars_char] at h ⊢
      exact ih (r ++ [c]) hrest h
    | escape => exact absurd List.mem_cons_self hescape
    | broken => exact hwrong rfl rfl
    | item name fmt =>
      by_cases hname : name = []
      · subst hname
        rw [made, if_pos List.isEmpty_nil, itemOf_nil]
        exact hwrong rfl rfl
      have hnext := ih [] hrest ((unpended_cons _ ps).mp (unpended_of_chars h)).2
      have hfirst : Spells (.item name fmt :: ps)
          (LogFormatter.itemOf (name, fmt.getD [], true) :: made [] ps) := by
        rcases itemOf_cases name (fmt.getD []) with ⟨c, hclass, hitem⟩ | ⟨hclass, hitem⟩
        · rw [hitem]
          exact .item hclass hnext
        · have hinvalid : (Piece.item name fmt).valid = false := by
            rw [Piece.valid, hclass]
            rfl
          rw [hitem]
          exact .wrong hinvalid hnext
      have hmade : made r (.item name fmt :: ps)
          = .string r :: LogFormatter.itemOf (name, fmt.getD [], true) :: made [] ps := by
        rw [made, if_neg (by simpa using hname)]
      have hput := Spells.text (hall r) hfirst
      rw [htext] at hput
      rw [hmade]
      exact hput

/-! ## what is kept back -/

/-- `init` puts error texts into the list, and then the text it has kept back with what came to it -/
theorem made_first (ps : List Piece) {str : Str} (hstr : str ≠ []) :
    ∃ (errs : List Str) (u : Str) (l : List FormatItem),
      made str ps = errs.map .string ++ .string (str ++ u) :: l ∧
        ∀ e ∈ errs, e = Piece.formatError [] ∨ e = Piece.patternError := by
  induction ps generalizing str with
  | nil =>
    refine ⟨[], [], [], ?_, fun e he => absurd he List.not_mem_nil⟩
    rw [made, if_neg (by simpa using hstr), List.append_nil]
    rfl
  | cons p ps ih =>
    have hgrow (c : UInt8) : ∃ (errs : List Str) (u : Str) (l : List FormatItem),
        made (str ++ [c]) ps = errs.map .string ++ .string (str ++ u) :: l ∧
          ∀ e ∈ errs, e = Piece.formatError [] ∨ e = Piece.patternError := by
      obtain ⟨errs, u, l, hmade, herrs⟩ := ih (List.append_ne_nil_of_right_ne_nil str
        (List.cons_ne_nil c []))
      exact ⟨errs, c :: u, l, by rw [hmade, List.append_assoc]; rfl, herrs⟩
    obtain ⟨errs, u, l, hmade, herrs⟩ := ih hstr
    cases p with
    | char c => exact hgrow c
    | escape => exact hgrow 37
    | broken =>
      refine ⟨Piece.patternError :: errs, u, l, by rw [made, hmade]; rfl, ?_⟩
      exact List.forall_mem_cons.mpr ⟨.inr rfl, herrs⟩
    | item name fmt =>
      by_cases hname : name = []
      · subst hname
        refine ⟨Piece.formatError [] :: errs, u, l, ?_, List.forall_mem_cons.mpr ⟨.inl rfl, herrs⟩⟩
        rw [made, if_pos List.isEmpty_nil, itemOf_nil, hmade]
        rfl
      · refine ⟨[], [], LogFormatter.itemOf (name, fmt.getD [], true) :: made [] ps, ?_,
          fun e he => absurd he List.not_mem_nil⟩
        rw [made, if_neg (by simpa using hname), List.append_nil]
        rfl

theorem formatError_mark : Piece.formatError [] = asc "<<error_format " ++ 37 :: [62, 62] :=
  rfl

theorem patternError_mark : 37 ∉ Piece.patternError := by
  decide

theorem errs_head {e : Str} (h : e = Piece.formatError [] ∨ e = Piece.patternError) :
    e.head? = some 60 := by
  rcases h with rfl | rfl <;> rfl

theorem ne_nil_of_head {e : Str} {c : UInt8} (h : e.head? = some c) : e ≠ [] := by
  rintro rfl
  cases h

theorem formatError_ne_nil (name : Str) : Piece.formatError name ≠ [] :=
  List.append_ne_nil_of_left_ne_nil (List.append_ne_nil_of_left_ne_nil (List.cons_ne_nil _ _) _) _

theorem patternError_ne (name u v : Str) :
    Piece.formatError name ++ u ≠ Piece.patternError ++ v := by
  have hformat : asc "<<error_format %" = 60 :: 60 :: 101 :: (asc "<<error_format %").drop 3 := rfl
  have hpattern : Piece.patternError = 60 :: 60 :: 112 :: Piece.patternError.drop 3 := rfl
  rw [hpattern, Piece.formatError, hformat]
  intro h
  cases h

theorem formatError_begins {name u : Str} (hname : ∀ c ∈ name, isalpha c = true)
    (h : Piece.formatError name = Piece.formatError [] ++ u) : name = [] ∧ u = [] := by
  simp only [Piece.formatError, List.append_assoc, List.append_cancel_left_eq] at h
  cases name with
  | nil => exact ⟨rfl, (List.append_cancel_left ((List.append_nil _).trans h)).symm⟩
  | cons c name =>
    have hc : c = 62 := (List.cons.inj h).1
    exact absurd (hname c List.mem_cons_self) (hc ▸ by decide)

theorem prefix_mark {u v r z : Str} (hu : 37 ∉ u) (hr : 37 ∉ r)
    (h : u ++ 37 :: v <+: r ++ 37 :: z) : u = r ∧ v <+: z := by
  induction u generalizing r with
  | nil =>
    cases r with
    | nil => exact ⟨rfl, (List.cons_prefix_cons.mp h).2⟩
    | cons c r => exact absurd ((List.cons_prefix_cons.mp h).1 ▸ List.mem_cons_self) hr
  | cons c u ih =>
    cases r with
    | nil => exact absurd ((List.cons_prefix_cons.mp h).1 ▸ List.mem_cons_self) hu
    | cons d r =>
      rw [List.mem_cons, not_or] at hu hr
      obtain ⟨rfl, hrest⟩ := List.cons_prefix_cons.mp h
      obtain ⟨rfl, hz⟩ := ih hu.2 hr.2 hrest
      exact ⟨rfl, hz⟩

theorem prefix_unmarked {u r z : Str} (hu : 37 ∉ u) (h : u <+: r ++ 37 :: z) :
    ∃ r', r = u ++ r' := by
  induction u generalizing r with
  | nil => exact ⟨r, rfl⟩
  | cons c u ih =>
    rw [List.mem_cons, not_or] at hu
    cases r with
    | nil => exact absurd (List.cons_prefix_cons.mp h).1.symm hu.1
    | cons d r =>
      obtain ⟨rfl, hrest⟩ := List.cons_prefix_cons.mp h
      obtain ⟨r', rfl⟩ := ih hu.2 hrest
      exact ⟨r', rfl⟩

/-! ## what cannot be read -/

section
variable {r v : Str} {ps : List Piece} {l : List FormatItem}

theorem not_spells_head {c : UInt8} (hc : c ≠ 60) (hv : v.head? = some 60) :
    ¬Spells (.char c :: ps) (.string v :: l) := by
  intro h
  rcases h.string_inv with ⟨hpre, _⟩ | ⟨p, qs, hps, hp, _⟩
  · obtain ⟨v', rfl⟩ := List.head?_eq_some_iff.mp hv
    rw [litText_literal rfl] at hpre
    exact hc (List.cons_prefix_cons.mp hpre).1.symm
  · rw [← (List.cons.inj hps).1] at hp
    cases hp

theorem not_spells_itemOf {c : UInt8} (hc : c ≠ 60) (name fmt : Str) :
    ¬Spells (.char c :: ps) (LogFormatter.itemOf (name, fmt, true) :: l) := by
  rcases itemOf_cases name fmt with ⟨cls, hcls, hitem⟩ | ⟨hcls, hitem⟩
  · rw [hitem]
    intro h
    obtain ⟨_, _, _, hps, _⟩ := h.item_inv
    cases hps
  · rw [hitem]
    exact not_spells_head hc rfl

theorem not_spells_mark {m : Piece} {y : UInt8} (hm : m.literal = false) (hy : y ≠ 60)
    {errs : List Str} (herrs : ∀ e ∈ errs, e = Piece.formatError [] ∨ e = Piece.patternError)
    (hv : v.head? = some 60) (hlong : r.length < v.length) (hne : m.errText ≠ v) :
    ¬Spells (chars r (m :: .char y :: ps)) (errs.map .string ++ .string v :: l) := by
  induction errs generalizing r with
  | nil =>
    intro h
    rcases Spells.mark_inv hm h with ⟨r', rfl, _⟩ | ⟨_, _, herr, _⟩
    · rw [List.length_append] at hlong
      omega
    · exact hne herr
  | cons e errs ih =>
    obtain ⟨he, herrs'⟩ := List.forall_mem_cons.mp herrs
    intro h
    rcases Spells.mark_inv hm h with ⟨r', rfl, hnext⟩ | ⟨rfl, _, _, hnext⟩
    · have hshort : r'.length < v.length := by
        rw [List.length_append] at hlong
        omega
      exact ih herrs' hshort hnext
    · cases errs with
      | nil => exact not_spells_head hy hv hnext
      | cons e' errs => exact not_spells_head hy (errs_head (herrs' e' List.mem_cons_self)) hnext

/-- behind error texts, a text whose first `%` is not that of the `%%` -/
theorem not_spells_escape (hr : 37 ∉ r) (hps : (litText ps).head? ≠ some 62)
    {errs : List Str} (herrs : ∀ e ∈ errs, e = Piece.formatError [] ∨ e = Piece.patternError)
    {u : Str} (hu : 37 ∉ u) (hmark : r.length < u.length ∨ v.head? = some 62) :
    ¬Spells (chars r (.escape :: ps)) (errs.map .string ++ .string (u ++ 37 :: v) :: l) := by
  have hclose {z : Str} (hz : z.head? = some 62) : ¬z <+: litText ps := by
    intro hpre
    obtain ⟨z', rfl⟩ := List.head?_eq_some_iff.mp hz
    obtain ⟨t, ht⟩ := hpre
    rw [← ht] at hps
    exact hps rfl
  induction errs generalizing r with
  | nil =>
    intro h
    obtain ⟨rfl, hpre⟩ := prefix_mark hu hr h.escape_inv.1
    rcases hmark with hlong | hhead
    · exact Nat.lt_irrefl _ hlong
    · exact hclose hhead hpre
  | cons e errs ih =>
    obtain ⟨he, herrs'⟩ := List.forall_mem_cons.mp herrs
    intro h
    obtain ⟨hpre, h⟩ := h.escape_inv
    rcases he with rfl | rfl
    · rw [formatError_mark] at hpre
      exact hclose rfl (prefix_mark (by decide) hr hpre).2
    · obtain ⟨r', rfl⟩ := prefix_unmarked patternError_mark hpre
      rw [chars, List.map_append, List.append_assoc, List.drop_left' (List.length_map ..)] at h
      rw [List.mem_append, not_or] at hr
      refine ih hr.2 herrs' (hmark.imp_left fun hlong => ?_) h
      rw [List.length_append] at hlong
      omega

end

end Log
end KitServer
