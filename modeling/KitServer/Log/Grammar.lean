import KitServer.Log.Formatter

/-!
# The items of a formatter and the grammar of patterns

A pattern is characters and directives.  A directive is a `%`, a name, and braces if the name is
directly before a `{`.

* `directive`, `pieces`       the reading of a pattern, for what a name is made of and for how much
                              of a `%%` is passed;
* `LogFormatter.grammar`      a name is letters, and both of a `%%` are passed;
* `LogFormatter.scanned`      what the loops of `init` take the pattern for: a `}` does not end a
                              name, and the second `%` of two is looked at again;
* `Spells`                    the items of pieces, those without a meaning too;
* `LogFormatter.Follows`      the items and the error are those of the grammar.

`scan_found` says that the loop behind a `%` finds the directive, `init_scanned` that the loops make
the items of `scanned`, each text kept back until a name comes.
-/

set_option linter.unusedVariables false

namespace KitServer
namespace Log
open Http

/-! ## readings -/

/-- a piece of a pattern; a directive without braces has no `fmt` -/
inductive Piece where
  | char (c : UInt8)
  | escape
  | item (name : Str) (fmt : Option Str)
  /-- the `%` of a directive whose `{` is not closed -/
  | broken
deriving DecidableEq

structure Directive where
  name : Str
  fmt : Option Str
  rest : Str

section
variable (isName : UInt8 → Bool)

/-- the directive behind a `%`, if its `{` is closed -/
def directive (s : Str) : Option Directive :=
  let t := s.dropWhile isName
  if t.head? = some 123 then
    if 125 ∈ t.tail then
      some ⟨s.takeWhile isName, some (t.tail.takeWhile (· ≠ 125)),
        (t.tail.dropWhile (· ≠ 125)).tail⟩
    else none
  else some ⟨s.takeWhile isName, none, t⟩

theorem directive_rest {s : Str} {d : Directive} (h : directive isName s = some d) :
    d.rest.length ≤ s.length := by
  have hname := List.length_dropWhile_le isName s
  unfold directive at h
  dsimp only at h
  split_ifs at h with hopen hclose
  · have htext := List.length_dropWhile_le (· ≠ 125) (s.dropWhile isName).tail
    rw [← Option.some.inj h]
    simp only [List.length_tail] at htext ⊢
    omega
  · rw [← Option.some.inj h]
    exact hname

section
variable {isName} {w u : Str} (hw : ∀ c ∈ w, isName c = true)
include hw

theorem directive_bare (hu : ∀ c ∈ u.head?, isName c = false ∧ c ≠ 123) :
    directive isName (w ++ u) = some ⟨w, none, u⟩ := by
  have hname : u.takeWhile isName = [] ∧ u.dropWhile isName = u := by
    cases u with
    | nil => exact ⟨rfl, rfl⟩
    | cons c u => simp [(hu c rfl).1]
  have hopen : u.head? ≠ some 123 := fun h => (hu 123 h).2 rfl
  rw [directive, List.takeWhile_append_of_pos hw, List.dropWhile_append_of_pos hw, hname.1,
    hname.2, List.append_nil]
  exact if_neg hopen

variable (hopen : isName 123 = false)
include hopen

theorem directive_closed (hclose : 125 ∈ u) :
    directive isName (w ++ 123 :: u)
      = some ⟨w, some (u.takeWhile (· ≠ 125)), (u.dropWhile (· ≠ 125)).tail⟩ := by
  simp [directive, List.takeWhile_append_of_pos hw, List.dropWhile_append_of_pos hw, hopen, hclose]

theorem directive_unclosed (hclose : 125 ∉ u) : directive isName (w ++ 123 :: u) = none := by
  simp [directive, List.dropWhile_append_of_pos hw, hopen, hclose]

end

theorem directive_name {s : Str} {d : Directive} (h : directive isName s = some d) :
    d.name = s.takeWhile isName := by
  unfold directive at h
  dsimp only at h
  split_ifs at h <;> rw [← Option.some.inj h]

theorem directive_letters {s : Str} {d : Directive} (h : directive isName s = some d) :
    ∀ c ∈ d.name, isName c = true := by
  rw [directive_name isName h]
  exact fun c hc => List.mem_takeWhile_imp hc

/-- the pieces of a pattern; `both` says whether a `%%` is passed as a whole -/
def pieces (both : Bool) : Str → List Piece
  | [] => []
  | c :: s =>
    if c ≠ 37 then .char c :: pieces both s
    else if s.head? = some 37 then .escape :: pieces both (if both then s.tail else s)
    else
      match h : directive isName s with
      | none => .broken :: pieces both s
      | some d => .item d.name d.fmt :: pieces both d.rest
termination_by s => s.length
decreasing_by
  · exact Nat.lt_succ_self _
  · split
    · simp only [List.length_tail, List.length_cons]
      omega
    · exact Nat.lt_succ_self _
  · exact Nat.lt_succ_self _
  · exact Nat.lt_succ_of_le (directive_rest isName h)

variable (both : Bool)

theorem pieces_nil : pieces isName both [] = [] := by
  rw [pieces]

theorem pieces_char {c : UInt8} (hc : c ≠ 37) (s : Str) :
    pieces isName both (c :: s) = .char c :: pieces isName both s := by
  rw [pieces, if_pos hc]

theorem pieces_escape (s : Str) :
    pieces isName both (37 :: 37 :: s)
      = .escape :: pieces isName both (if both then s else 37 :: s) := by
  have htwo : (37 :: s : Str).head? = some 37 := rfl
  rw [pieces, if_neg (not_not.mpr rfl), if_pos htwo]
  rfl

theorem pieces_broken {s : Str} (hs : s.head? ≠ some 37) (hd : directive isName s = none) :
    pieces isName both (37 :: s) = .broken :: pieces isName both s := by
  rw [pieces, if_neg (not_not.mpr rfl), if_neg hs]
  split
  · rfl
  · rename_i d hsome
    rw [hd] at hsome
    cases hsome

theorem pieces_item {s : Str} {d : Directive} (hs : s.head? ≠ some 37)
    (hd : directive isName s = some d) :
    pieces isName both (37 :: s) = .item d.name d.fmt :: pieces isName both d.rest := by
  rw [pieces, if_neg (not_not.mpr rfl), if_neg hs]
  split
  · rename_i hnone
    rw [hd] at hnone
    cases hnone
  · rename_i d' hsome
    rw [hd] at hsome
    rw [Option.some.inj hsome]

theorem pieces_rec {motive : Str → Prop} (nil : motive [])
    (char : ∀ c s, c ≠ 37 → motive s → motive (c :: s))
    (escape : ∀ s, motive s → motive (37 :: 37 :: s))
    (broken : ∀ s, s.head? ≠ some 37 → directive isName s = none → motive s → motive (37 :: s))
    (item : ∀ s d, s.head? ≠ some 37 → directive isName s = some d → motive d.rest →
      motive (37 :: s)) (s : Str) : motive s := by
  induction hn : s.length using Nat.strong_induction_on generalizing s with
  | _ n ih =>
    subst hn
    cases s with
    | nil => exact nil
    | cons c s =>
      by_cases hc : c = 37
      swap
      · exact char c s hc (ih _ (Nat.lt_succ_self _) s rfl)
      subst hc
      by_cases hs : s.head? = some 37
      · obtain ⟨t, rfl⟩ : ∃ t, s = 37 :: t := List.head?_eq_some_iff.mp hs
        exact escape t (ih _ (by simp only [List.length_cons]; omega) t rfl)
      · cases hd : directive isName s with
        | none => exact broken s hs hd (ih _ (Nat.lt_succ_self _) s rfl)
        | some d =>
          have hrest := Nat.lt_succ_of_le (directive_rest isName hd)
          exact item s d hs hd (ih _ hrest d.rest rfl)

end

/-! ## what the pieces stand for -/

namespace Piece

def literal : Piece → Bool
  | .char _ => true
  | .escape => true
  | _ => false

def text : Piece → Str
  | .char c => [c]
  | .escape => [37]
  | _ => []

/-- whether a piece has a meaning: its name is known and its `{` is closed -/
def valid : Piece → Bool
  | .char _ => true
  | .escape => true
  | .item name _ => (LogFormatter.itemClass name).isSome
  | .broken => false

def formatError (name : Str) : Str := asc "<<error_format %" ++ name ++ asc ">>"

def patternError : Str := asc "<<pattern error>>"

/-- the text that stands for a piece without a meaning -/
def errText : Piece → Str
  | .item name _ => formatError name
  | _ => patternError

def bare : Piece → Bool
  | .item _ none => true
  | _ => false

/-- a directive without a name, or whose `{` is not closed -/
def nameless : Piece → Bool
  | .item [] _ => true
  | .broken => true
  | _ => false

end Piece

/-- **The items of a pattern**, in its order: literal pieces are written as texts, a directive is the
item of its name with its format, and a piece without a meaning is its error text. -/
inductive Spells : List Piece → List FormatItem → Prop where
  | nil : Spells [] []
  | text {w ps : List Piece} {l : List FormatItem} (hw : w.all Piece.literal = true)
      (h : Spells ps l) : Spells (w ++ ps) (.string (w.flatMap Piece.text) :: l)
  | item {name : Str} {fmt : Option Str} {c : ItemClass} {ps : List Piece} {l : List FormatItem}
      (hc : LogFormatter.itemClass name = some c) (h : Spells ps l) :
      Spells (.item name fmt :: ps) (.item c (fmt.getD []) :: l)
  | wrong {p : Piece} {ps : List Piece} {l : List FormatItem} (hp : p.valid = false)
      (h : Spells ps l) : Spells (p :: ps) (.string p.errText :: l)

/-- there is no `%%`, and no `}` directly behind a name -/
def Plain (ps : List Piece) : Prop :=
  .escape ∉ ps ∧ ps.IsChain fun p q => ¬(p.bare = true ∧ q = .char 125)

/-- directly behind a literal piece stands no directive without a name or with an open `{` -/
def Unpended (ps : List Piece) : Prop :=
  ps.IsChain fun p q => ¬(p.literal = true ∧ q.nameless = true)

/-- the characters that do not end a name in `init` -/
def isNameChar (c : UInt8) : Bool := isalpha c || c = 125

namespace LogFormatter
variable (f : LogFormatter)

def grammar : List Piece := pieces isalpha true f.pattern

/-- what the loops of `init` take the pattern for -/
def scanned : List Piece := pieces isNameChar false f.pattern

/-- the items are those of the grammar, and there is an error exactly if a name is not known or a
`{` is not closed -/
def Follows : Prop :=
  (f.isError = true ↔ f.grammar.all Piece.valid = false) ∧ Spells f.grammar f.items

end LogFormatter

/-! ## the loop behind a `%` -/

/-- what the loop behind a `%` leaves is the directive that stands there -/
def Scan.Found (pattern : Str) (s : Scan) (d : Option Directive) : Prop :=
  (d = none → s.opened = true) ∧
    ∀ x, d = some x →
      s.opened = false ∧ s.pcahr = x.name ∧ s.fmt = x.fmt.getD [] ∧ pattern.drop s.index = x.rest

theorem getElem?_of_drop {l u : Str} {j : Nat} {c : UInt8} (h : l.drop j = c :: u) :
    l[j]? = some c := by
  rw [← List.head?_drop, h]
  rfl

theorem getElem?_of_drop_nil {l : Str} {j : Nat} (h : l.drop j = []) : l[j]? = none := by
  rw [← List.head?_drop, h]
  rfl

theorem drop_succ_of_drop {l u : Str} {j : Nat} {c : UInt8} (h : l.drop j = c :: u) :
    l.drop (j + 1) = u := by
  rw [← List.tail_drop, h]
  rfl

section
variable {pattern u : Str} {i j fuel : Nat}

theorem scan_round {s : Scan} {c : UInt8} (hc : pattern[s.index]? = some c) :
    scan pattern i (fuel + 1) s
      = if (scanRound pattern i s c).2 then (scanRound pattern i s c).1
        else scan pattern i fuel (scanRound pattern i s c).1 := by
  rw [scan, hc]

theorem scan_unclosed (s : Scan) (hu : pattern.drop s.index = u) (hopen : s.opened = true)
    (hclose : 125 ∉ u) : (scan pattern i fuel s).opened = true := by
  induction u generalizing s fuel with
  | nil =>
    cases fuel with
    | zero => exact hopen
    | succ fuel =>
      have hend := getElem?_of_drop_nil hu
      simpa only [scan, hend] using hopen
  | cons c u ih =>
    cases fuel with
    | zero => exact hopen
    | succ fuel =>
      rw [List.mem_cons, not_or] at hclose
      have hgo : (scanRound pattern i s c).2 = false ∧
          (scanRound pattern i s c).1.opened = true := by
        simp [scanRound, hopen, Ne.symm hclose.1]
      have hindex := (scanRound_index pattern i s c).2 hgo.1
      rw [scan_round (getElem?_of_drop hu), hgo.1, if_neg Bool.false_ne_true]
      exact ih _ (by rw [hindex]; exact drop_succ_of_drop hu) hgo.2 hclose.2

theorem scan_closed (name : Str) (b : Nat) (hu : pattern.drop j = u) (hclose : 125 ∈ u)
    (hfuel : u.length ≤ fuel) :
    scan pattern i fuel ⟨name, [], j, true, b⟩
      = ⟨name, substr pattern (b + 1) (j + (u.takeWhile (· ≠ 125)).length - b - 1),
          j + (u.takeWhile (· ≠ 125)).length + 1, false, b⟩ := by
  induction u generalizing j fuel with
  | nil => exact absurd hclose List.not_mem_nil
  | cons c u ih =>
    cases fuel with
    | zero => exact absurd hfuel (Nat.not_succ_le_zero _)
    | succ fuel =>
      have hrest := drop_succ_of_drop hu
      rw [scan_round (getElem?_of_drop hu)]
      by_cases hc : c = 125
      · subst hc
        simp [scanRound]
      · have hleft : 125 ∈ u := (List.mem_cons.mp hclose).resolve_left (Ne.symm hc)
        -- the name is not set again: a character is left behind this one
        have hlast : j + 1 ≠ pattern.length := by
          intro hlast
          rw [← hrest, hlast, List.drop_length] at hleft
          exact List.not_mem_nil hleft
        have hround : scanRound pattern i ⟨name, [], j, true, b⟩ c
            = (⟨name, [], j + 1, true, b⟩, false) := by
          simp [scanRound, hc, hlast]
        rw [hround, if_neg Bool.false_ne_true,
          ih hrest hleft (Nat.le_of_succ_le_succ hfuel), List.takeWhile_cons_of_pos (by simpa using hc),
          List.length_cons]
        congr 2 <;> omega

theorem Scan.found_some {s : Scan} {x : Directive} (hopen : s.opened = false)
    (hname : s.pcahr = x.name) (hfmt : s.fmt = x.fmt.getD [])
    (hrest : pattern.drop s.index = x.rest) : s.Found pattern (some x) := by
  refine ⟨fun h => absurd h (Option.some_ne_none x), fun y hy => ?_⟩
  rw [← Option.some.inj hy]
  exact ⟨hopen, hname, hfmt, hrest⟩

theorem Scan.found_none {s : Scan} (hopen : s.opened = true) : s.Found pattern none :=
  ⟨fun _ => hopen, fun x hx => absurd hx (Option.some_ne_none x).symm⟩

theorem isNameChar_open : isNameChar 123 = false := by
  decide

theorem scan_text {w : Str} (hw : ∀ c ∈ w, isNameChar c = true)
    (hu : pattern.drop (j + 1) = u) (hfuel : u.length ≤ fuel) :
    (scan pattern i fuel ⟨w, [], j + 1, true, j⟩).Found pattern
      (directive isNameChar (w ++ 123 :: u)) := by
  by_cases hclose : 125 ∈ u
  · have hsplit : u.takeWhile (· ≠ 125) ++ u.dropWhile (· ≠ 125) = u :=
      List.takeWhile_append_dropWhile
    rw [scan_closed w j hu hclose hfuel, directive_closed hw isNameChar_open hclose]
    refine Scan.found_some rfl rfl ?_ ?_
    · show substr pattern (j + 1) _ = u.takeWhile (· ≠ 125)
      rw [substr, hu, show j + 1 + (u.takeWhile (· ≠ 125)).length - j - 1
        = (u.takeWhile (· ≠ 125)).length by omega]
      exact (List.prefix_iff_eq_take.mp (List.takeWhile_prefix _)).symm
    · show pattern.drop (j + 1 + (u.takeWhile (· ≠ 125)).length + 1)
        = (u.dropWhile (· ≠ 125)).tail
      rw [← List.tail_drop, ← List.drop_drop, hu]
      exact congrArg List.tail ((congrArg _ hsplit.symm).trans List.drop_left)
  · rw [directive_unclosed hw isNameChar_open hclose]
    exact Scan.found_none (scan_unclosed _ hu rfl hclose)

theorem scanRound_letter {c : UInt8} (hc : isNameChar c = true) :
    scanRound pattern i ⟨[], [], j, false, 0⟩ c
      = (⟨if j + 1 = pattern.length then pattern.drop (i + 1) else [], [], j + 1, false, 0⟩,
          false) := by
  have hopen : c ≠ 123 := by
    rintro rfl
    exact absurd hc (by decide)
  have hletter : isalpha c = true ∨ c = 125 := by simpa [isNameChar] using hc
  rcases hletter with h | h <;> simp [scanRound, hopen, h]

theorem scanRound_brace : scanRound pattern i ⟨[], [], j, false, 0⟩ 123
    = (⟨substr pattern (i + 1) (j - i - 1), [], j + 1, true, j⟩, false) := by
  simp [scanRound]

theorem scanRound_other {c : UInt8} (hc : isNameChar c = false) (hopen : c ≠ 123) :
    scanRound pattern i ⟨[], [], j, false, 0⟩ c
      = (⟨substr pattern (i + 1) (j - i - 1), [], j, false, 0⟩, true) := by
  have hnot : isalpha c = false ∧ c ≠ 125 := by simpa [isNameChar] using hc
  simp [scanRound, hopen, hnot]

/-- the loop over the name, where `w` is what it has passed and `u` what is left -/
theorem scan_name {w : Str} (hw : ∀ c ∈ w, isNameChar c = true)
    (hbegin : pattern.drop (i + 1) = w ++ u) (hj : j = i + 1 + w.length)
    (hfuel : u.length ≤ fuel) :
    (scan pattern i fuel ⟨if u = [] then w else [], [], j, false, 0⟩).Found pattern
      (directive isNameChar (w ++ u)) := by
  have hu : pattern.drop j = u := by
    rw [hj, ← List.drop_drop, hbegin, List.drop_left]
  have hname : substr pattern (i + 1) (j - i - 1) = w := by
    rw [substr, hbegin, show j - i - 1 = w.length by omega, List.take_left]
  induction u generalizing w j fuel with
  | nil =>
    have hscan : scan pattern i fuel ⟨w, [], j, false, 0⟩ = ⟨w, [], j, false, 0⟩ := by
      cases fuel with
      | zero => rfl
      | succ fuel =>
        have hend := getElem?_of_drop_nil hu
        simp only [scan, hend]
    rw [if_pos rfl, hscan, directive_bare hw (fun c hc => by cases hc)]
    exact Scan.found_some rfl rfl rfl hu
  | cons c u ih =>
    cases fuel with
    | zero => exact absurd hfuel (Nat.not_succ_le_zero _)
    | succ fuel =>
      have hrest := drop_succ_of_drop hu
      have hfuel' := Nat.le_of_succ_le_succ hfuel
      rw [if_neg (List.cons_ne_nil c u), scan_round (getElem?_of_drop hu)]
      cases hc : isNameChar c with
      | true =>
        have hlast : j + 1 = pattern.length ↔ u = [] := by
          have hlt := (List.getElem?_eq_some_iff.mp (getElem?_of_drop hu)).1
          rw [← hrest, List.drop_eq_nil_iff]
          omega
        have hbegin' : pattern.drop (i + 1) = (w ++ [c]) ++ u := by
          rw [hbegin, List.append_assoc, List.singleton_append]
        have hall : (if j + 1 = pattern.length then pattern.drop (i + 1) else [])
            = if u = [] then w ++ [c] else [] := by
          by_cases hend : u = []
          · rw [if_pos (hlast.mpr hend), if_pos hend, hbegin', hend, List.append_nil]
          · rw [if_neg (mt hlast.mp hend), if_neg hend]
        have hlength : (w ++ [c]).length = w.length + 1 := by
          rw [List.length_append, List.length_singleton]
        have hword : ∀ x ∈ w ++ [c], isNameChar x = true := by
          simpa [or_imp, forall_and] using ⟨hw, hc⟩
        have hstep := ih hword hbegin' (by omega) hfuel' hrest
          (by rw [substr, hbegin', List.take_left' (by omega)])
        rw [scanRound_letter hc, hall, if_neg Bool.false_ne_true]
        rwa [List.append_assoc, List.singleton_append] at hstep
      | false =>
        by_cases hopen : c = 123
        · subst hopen
          rw [scanRound_brace, hname, if_neg Bool.false_ne_true]
          exact scan_text hw hrest hfuel'
        · have hend : ∀ x ∈ (c :: u).head?, isNameChar x = false ∧ x ≠ 123 := by
            rintro x ⟨⟩
            exact ⟨hc, hopen⟩
          rw [scanRound_other hc hopen, hname, if_pos rfl, directive_bare hw hend]
          exact Scan.found_some rfl rfl rfl hu

/-- **The loop behind a `%` finds the directive** that stands there. -/
theorem scan_found (hu : pattern.drop (i + 1) = u) :
    (scan pattern i pattern.length ⟨[], [], i + 1, false, 0⟩).Found pattern
      (directive isNameChar u) := by
  have hlength : u.length ≤ pattern.length := by
    rw [← hu, List.length_drop]
    exact Nat.sub_le _ _
  have hname := scan_name (w := []) (fun c hc => absurd hc List.not_mem_nil) hu rfl hlength
  rwa [ite_self] at hname

end

/-! ## the loop over the pattern -/

/-- what `init` makes of the pieces that its loops see, where `str` is not yet in the list: a text is
kept back until a name or the end comes -/
def made (str : Str) : List Piece → List FormatItem
  | [] => if str.isEmpty then [] else [.string str]
  | .char c :: ps => made (str ++ [c]) ps
  | .escape :: ps => made (str ++ [37]) ps
  | .item name fmt :: ps =>
    if name.isEmpty then LogFormatter.itemOf (name, fmt.getD [], true) :: made str ps
    else .string str :: LogFormatter.itemOf (name, fmt.getD [], true) :: made [] ps
  | .broken :: ps => .string Piece.patternError :: made str ps

namespace Parsing
variable (p : Parsing)

def items : List FormatItem := p.mv.map LogFormatter.itemOf

/-- whether there is an error so far -/
def flawed : Bool :=
  p.error || p.mv.any fun x => x.2.2 && (LogFormatter.itemClass x.1).isNone

end Parsing

theorem itemClass_nil : LogFormatter.itemClass [] = none := rfl

section
variable {pattern u : Str} {i : Nat}

/-- **A round of the loop** passes one piece, and makes its items. -/
theorem parseRound_piece (p : Parsing) {c : UInt8} (hu : pattern.drop i = c :: u) :
    ∃ piece, pieces isNameChar false (c :: u)
        = piece :: pieces isNameChar false (pattern.drop (parseRound pattern i p c).1) ∧
      (parseRound pattern i p c).2.flawed = (p.flawed || !piece.valid) ∧
      ∀ ps, (parseRound pattern i p c).2.items ++ made (parseRound pattern i p c).2.str ps
        = p.items ++ made p.str (piece :: ps) := by
  have hrest := drop_succ_of_drop hu
  have htwo : pattern[i + 1]? = u.head? := by rw [← List.head?_drop, hrest]
  by_cases hc : c = 37
  swap
  · refine ⟨.char c, ?_⟩
    rw [pieces_char _ _ hc, parseRound, if_pos hc, hrest]
    simp [Parsing.flawed, Parsing.items, Piece.valid, made]
  subst hc
  by_cases hescape : u.head? = some 37
  · obtain ⟨v, rfl⟩ : ∃ v, u = 37 :: v := List.head?_eq_some_iff.mp hescape
    refine ⟨.escape, ?_⟩
    rw [pieces_escape, parseRound, if_neg (not_not.mpr rfl), if_pos (htwo.trans hescape), hrest]
    simp [Parsing.flawed, Parsing.items, Piece.valid, made]
  have hfound := scan_found (i := i) hrest
  rw [parseRound, if_neg (not_not.mpr rfl), if_neg (htwo ▸ hescape)]
  generalize scan pattern i pattern.length ⟨[], [], i + 1, false, 0⟩ = s at hfound ⊢
  dsimp only
  cases hd : directive isNameChar u with
  | none =>
    refine ⟨.broken, ?_⟩
    rw [pieces_broken _ _ hescape hd, if_pos (hfound.1 hd), hrest]
    simp [Parsing.flawed, Parsing.items, Piece.valid, made, LogFormatter.itemOf,
      Piece.patternError]
  | some d =>
    obtain ⟨hopen, hname, hfmt, hleft⟩ := hfound.2 d hd
    refine ⟨.item d.name d.fmt, ?_⟩
    rw [pieces_item _ _ hescape hd, hopen, if_neg Bool.false_ne_true, hname, hfmt]
    dsimp only
    rw [hleft]
    by_cases hempty : d.name = [] <;> cases hclass : LogFormatter.itemClass d.name <;>
      simp_all [Parsing.flawed, Parsing.items, Piece.valid, made, LogFormatter.itemOf]

/-- **The loop over the pattern** makes the items of the pieces that are left. -/
theorem parse_pieces (fuel : Nat) (p : Parsing) (hfuel : pattern.length ≤ i + fuel) :
    (parse pattern fuel i p).flawed
        = (p.flawed || !(pieces isNameChar false (pattern.drop i)).all Piece.valid) ∧
      (parse pattern fuel i p).items ++ made (parse pattern fuel i p).str []
        = p.items ++ made p.str (pieces isNameChar false (pattern.drop i)) := by
  induction fuel generalizing i p with
  | zero =>
    have hend : pattern.drop i = [] := List.drop_eq_nil_of_le hfuel
    rw [hend, pieces_nil]
    simp [parse]
  | succ fuel ih =>
    cases hu : pattern.drop i with
    | nil =>
      have hend := getElem?_of_drop_nil hu
      rw [pieces_nil]
      simp [parse, hend]
    | cons c u =>
      obtain ⟨piece, hpieces, hflawed, hmade⟩ := parseRound_piece p hu
      have hindex := parseRound_index pattern i p c
      obtain ⟨ihflawed, ihmade⟩ := ih (parseRound pattern i p c).2
        (show pattern.length ≤ (parseRound pattern i p c).1 + fuel by omega)
      have hparse : parse pattern (fuel + 1) i p
          = parse pattern fuel (parseRound pattern i p c).1 (parseRound pattern i p c).2 := by
        rw [parse, getElem?_of_drop hu]
      rw [hparse, hpieces, List.all_cons]
      constructor
      · rw [ihflawed, hflawed, Bool.not_and, Bool.or_assoc]
      · rw [ihmade, hmade]

end

namespace LogFormatter
variable (f : LogFormatter)

/-- **What `init` makes** is the error and the items of the pieces its loops see. -/
theorem init_scanned :
    f.isError = (!f.scanned.all Piece.valid) ∧ f.items = made [] f.scanned := by
  have hfuel : f.pattern.length ≤ 0 + f.pattern.length := by omega
  obtain ⟨hflawed, hmade⟩ := parse_pieces f.pattern.length ⟨[], [], false⟩ hfuel
  have hstart : (⟨[], [], false⟩ : Parsing).flawed = false ∧
      (⟨[], [], false⟩ : Parsing).items = [] := ⟨rfl, rfl⟩
  rw [hstart.1, Bool.false_or, List.drop_zero] at hflawed
  rw [hstart.2, List.nil_append, List.drop_zero] at hmade
  rw [scanned, ← hflawed, ← hmade, isError, items, parsed]
  generalize parse f.pattern f.pattern.length 0 ⟨[], [], false⟩ = p
  by_cases hstr : p.str = [] <;> simp [hstr, Parsing.flawed, Parsing.items, made, itemOf]

end LogFormatter

end Log
end KitServer
