import KitServer.Log.Grammar

/-!
# The two readings of a pattern

* `Forms`, `directive_forms`  what the grammar and `init` read behind a `%`: the same, unless a `}` is
                              directly behind a name;
* `pieces_plain`              where there is no such `}` and no `%%`, the pieces are the same.
-/

set_option linter.unusedVariables false

namespace KitServer
namespace Log
open Http

/-! ## chains of pieces -/

theorem plain_cons (p : Piece) (ps : List Piece) :
    Plain (p :: ps)
      ↔ p ≠ .escape ∧ (∀ q ∈ ps.head?, ¬(p.bare = true ∧ q = .char 125)) ∧ Plain ps := by
  rw [Plain, Plain, List.mem_cons, not_or, List.isChain_cons]
  constructor
  · rintro ⟨⟨hp, hps⟩, hhead, hchain⟩
    exact ⟨Ne.symm hp, hhead, hps, hchain⟩
  · rintro ⟨hp, hhead, hps, hchain⟩
    exact ⟨⟨Ne.symm hp, hps⟩, hhead, hchain⟩

theorem unpended_cons (p : Piece) (ps : List Piece) :
    Unpended (p :: ps)
      ↔ (∀ q ∈ ps.head?, ¬(p.literal = true ∧ q.nameless = true)) ∧ Unpended ps :=
  List.isChain_cons

/-- characters in front of pieces -/
def chars (r : Str) (ps : List Piece) : List Piece := r.map Piece.char ++ ps

section
variable {r : Str} {q : Piece} {ps : List Piece}

theorem chars_char (r : Str) (c : UInt8) (ps : List Piece) :
    chars r (.char c :: ps) = chars (r ++ [c]) ps := by
  simp [chars]

theorem unpended_chars (hq : q.nameless = false) (h : Unpended (q :: ps)) :
    Unpended (chars r (q :: ps)) := by
  induction r with
  | nil => exact h
  | cons c r ih =>
    refine (unpended_cons _ _).mpr ⟨fun x hx hmark => ?_, ih⟩
    cases r with
    | nil =>
      rw [← Option.some.inj hx, hq] at hmark
      cases hmark.2
    | cons d r =>
      rw [← Option.some.inj hx] at hmark
      cases hmark.2

theorem unpended_text (r : Str) : Unpended (chars r []) := by
  induction r with
  | nil => exact List.isChain_nil
  | cons c r ih =>
    refine (unpended_cons _ _).mpr ⟨fun x hx hmark => ?_, ih⟩
    cases r with
    | nil => cases hx
    | cons d r =>
      rw [← Option.some.inj hx] at hmark
      cases hmark.2

theorem unpended_nameless (hq : q.nameless = true) (h : Unpended (chars r (q :: ps))) : r = [] := by
  induction r with
  | nil => rfl
  | cons c r ih =>
    obtain ⟨hhead, hrest⟩ := (unpended_cons _ _).mp h
    have hr := ih hrest
    subst hr
    exact absurd ⟨rfl, hq⟩ (hhead q rfl)

theorem unpended_of_chars (h : Unpended (chars r ps)) : Unpended ps := by
  induction r with
  | nil => exact h
  | cons c r ih => exact ih ((unpended_cons _ _).mp h).2

end

/-! ## the two readings -/

theorem itemClass_letters {name : Str} (h : (LogFormatter.itemClass name).isSome = true) :
    125 ∉ name := by
  have htable : ∀ e ∈ s_format_items, 125 ∉ e.1 := by decide +kernel
  rw [LogFormatter.itemClass, Option.isSome_map, List.find?_isSome] at h
  obtain ⟨e, he, hname⟩ := h
  rw [← of_decide_eq_true hname]
  exact htable e he

/-- the readings of what stands behind a `%` -/
inductive Forms (s : Str) : Prop where
  /-- a directive that is the same in both -/
  | same (d : Directive) (hscan : directive isNameChar s = some d)
      (hd : directive isalpha s = some d) (hnext : d.fmt = none → d.rest.head? ≠ some 125)
  /-- a `{` that is open in both -/
  | opened (c : UInt8) (u : Str) (hs : s = c :: u) (hc : isNameChar c = true ∨ c = 123)
      (hscan : directive isNameChar s = none) (hd : directive isalpha s = none)
  /-- a `}` behind a name, which does not end it in `init` -/
  | closing (w u : Str) (hs : s = w ++ 125 :: u) (hw : ∀ c ∈ w, isalpha c = true)
      (hd : directive isalpha s = some ⟨w, none, 125 :: u⟩)
      (hscan : ∀ d, directive isNameChar s = some d → 125 ∈ d.name)

theorem directive_forms (s : Str) : Forms s := by
  obtain ⟨w, u, hw, hu, rfl⟩ : ∃ w u, (∀ c ∈ w, isalpha c = true) ∧
      (∀ c ∈ u.head?, isalpha c = false) ∧ s = w ++ u := by
    refine ⟨s.takeWhile isalpha, s.dropWhile isalpha, fun c hc => List.mem_takeWhile_imp hc,
      fun c hc => ?_, List.takeWhile_append_dropWhile.symm⟩
    have hnot := List.head?_dropWhile_not isalpha s
    rw [hc] at hnot
    exact hnot
  have hword : ∀ c ∈ w, isNameChar c = true := fun c hc => by simp [isNameChar, hw c hc]
  have hopen : isalpha 123 = false := by decide
  by_cases hbrace : u.head? = some 125
  · obtain ⟨t, rfl⟩ : ∃ t, u = 125 :: t := List.head?_eq_some_iff.mp hbrace
    refine .closing w t rfl hw (directive_bare hw fun c hc => by cases hc; decide) fun d hd => ?_
    have hin : isNameChar 125 = true := by decide
    rw [directive_name _ hd, List.takeWhile_append_of_pos hword, List.takeWhile_cons_of_pos hin]
    exact List.mem_append_right _ List.mem_cons_self
  by_cases hcurly : u.head? = some 123
  · obtain ⟨t, rfl⟩ : ∃ t, u = 123 :: t := List.head?_eq_some_iff.mp hcurly
    by_cases hclose : 125 ∈ t
    · refine .same _ (directive_closed hword isNameChar_open hclose)
        (directive_closed hw hopen hclose) fun hfmt => by cases hfmt
    · have hscan := directive_unclosed hword isNameChar_open hclose
      have hd := directive_unclosed hw hopen hclose
      cases w with
      | nil => exact .opened 123 t rfl (.inr rfl) hscan hd
      | cons c w => exact .opened c _ rfl (.inl (hword c List.mem_cons_self)) hscan hd
  · have hother : ∀ c ∈ u.head?, c ≠ 123 ∧ c ≠ 125 := by
      intro c hc
      exact ⟨fun h => hcurly (h ▸ hc), fun h => hbrace (h ▸ hc)⟩
    have hstop : ∀ c ∈ u.head?, isNameChar c = false ∧ c ≠ 123 := by
      intro c hc
      simp [isNameChar, hu c hc, hother c hc]
    exact .same _ (directive_bare hword hstop)
      (directive_bare hw fun c hc => ⟨hu c hc, (hother c hc).1⟩) fun _ => hbrace

theorem directive_none_head {s : Str} (h : directive isNameChar s = none) :
    s.head? ≠ some 62 := by
  intro hhead
  cases directive_forms s with
  | same d hscan => cases h.symm.trans hscan
  | opened c u hs hc =>
    rw [hs] at hhead
    obtain rfl := Option.some.inj hhead
    exact absurd hc (by decide)
  | closing w u hs hw =>
    cases w with
    | nil =>
      rw [hs] at hhead
      cases hhead
    | cons c w =>
      rw [hs] at hhead
      obtain rfl := Option.some.inj hhead
      exact absurd (hw 62 List.mem_cons_self) (by decide)

section
variable {isName : UInt8 → Bool} {both : Bool} {s : Str}

theorem pieces_head (h : .char 125 ∈ (pieces isName both s).head?) : s.head? = some 125 := by
  cases s with
  | nil =>
    rw [pieces_nil] at h
    cases h
  | cons c s =>
    by_cases hc : c = 37
    · subst hc
      by_cases hs : s.head? = some 37
      · obtain ⟨t, rfl⟩ : ∃ t, s = 37 :: t := List.head?_eq_some_iff.mp hs
        rw [pieces_escape] at h
        cases h
      · cases hd : directive isName s with
        | none =>
          rw [pieces_broken _ _ hs hd] at h
          cases h
        | some d =>
          rw [pieces_item _ _ hs hd] at h
          cases h
    · rw [pieces_char _ _ hc] at h
      cases h
      rfl

end

/-- **Without a `%%` and a `}` behind a name** the loops see the pieces of the grammar. -/
theorem pieces_plain (s : Str) (h : Plain (pieces isalpha true s)) :
    pieces isNameChar false s = pieces isalpha true s := by
  induction s using pieces_rec isalpha with
  | nil => rw [pieces_nil, pieces_nil]
  | char c s hc ih =>
    rw [pieces_char _ _ hc, plain_cons] at h
    rw [pieces_char _ _ hc, pieces_char _ _ hc, ih h.2.2]
  | escape s ih =>
    rw [pieces_escape, plain_cons] at h
    exact absurd rfl h.1
  | broken s hs hd ih =>
    rw [pieces_broken _ _ hs hd, plain_cons] at h
    cases directive_forms s with
    | same d hscan hsome => cases hd.symm.trans hsome
    | opened c u hu hc hscan hnone =>
      rw [pieces_broken _ _ hs hd, pieces_broken _ _ hs hscan, ih h.2.2]
    | closing w u hu hw hsome => cases hd.symm.trans hsome
  | item s d hs hd ih =>
    rw [pieces_item _ _ hs hd, plain_cons] at h
    cases directive_forms s with
    | same d' hscan hsome =>
      obtain rfl : d = d' := Option.some.inj (hd.symm.trans hsome)
      rw [pieces_item _ _ hs hd, pieces_item _ _ hs hscan, ih h.2.2]
    | opened c u hu hc hscan hnone => cases hd.symm.trans hnone
    | closing w u hu hw hsome =>
      obtain rfl := Option.some.inj (hd.symm.trans hsome)
      rw [pieces_char _ _ (by decide)] at h
      exact absurd ⟨rfl, rfl⟩ (h.2.1 _ rfl)

end Log
end KitServer
