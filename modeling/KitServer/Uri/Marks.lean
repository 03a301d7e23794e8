import KitServer.Uri.Components

/-!
# The mark of the parser

Nine actions share one pointer.  In front of a byte the mark is set in the states `held`, with one
exception: `save_port` forgets the mark that the path has just set, when there is no digit behind
the colon of the port.  From there on the path has no mark, and `save_path` makes a string from
`NULL`.

* `flow_runs`     actions that find a mark when they need one;
* `step_scanned`  what one byte preserves;
* `scanned`       what the scan preserves;
* `marks_iff`     the inputs that are scanned without a fault.
-/

set_option linter.unusedVariables false

namespace KitServer
open Http (Str asc)

namespace Uri
open Regex

/-! ## the actions that are performed -/

/-- the mark points into the input, at or before `fpc` -/
def Inside (p : Nat) (s : Parse) : Prop := ∃ m, s.mark = some m ∧ m ≤ p

/-- what an action needs; two of them test the mark first -/
def Sound (p : Nat) : Act → Parse → Prop
  | .marku, _ => True
  | .markh, _ => True
  | .saveUserinfo, s => s.mark ≠ none → Inside p s
  | .saveHost, s => s.mark ≠ none → Inside p s
  | _, s => Inside p s

section
variable (u : Str)

/-- `Create` performs the action `a` at `fpc` on `s`: at a byte, or behind the last one -/
inductive Performed : Nat → Act → Parse → Prop where
  | byte {w rest : Str} {c : UInt8} {cs : Nat} {t : Trans Act} {as bs : List Act} {a : Act}
      {s₀ s : Parse} (hu : u = w ++ c :: rest)
      (hscan : scan trans (act u) start 0 w ⟨none, new⟩ = .more cs s₀)
      (ht : trans cs c = some t) (hacts : t.acts = as ++ a :: bs)
      (hs : runActs (act u w.length) as s₀ = .ok s) : Performed w.length a s
  | eof {cs : Nat} {as bs : List Act} {a : Act} {s₀ s : Parse}
      (hscan : scan trans (act u) start 0 u ⟨none, new⟩ = .more cs s₀)
      (hacts : eofActs cs = as ++ a :: bs)
      (hs : runActs (act u u.length) as s₀ = .ok s) : Performed u.length a s

/-- the actions do not fail, each finds what it needs, and `K` holds behind them -/
structure Runs (p : Nat) (acts : List Act) (s : Parse) (K : Parse → Prop) : Prop where
  ends : ∃ s', runActs (act u p) acts s = .ok s' ∧ K s'
  sound : ∀ as a bs s₁, acts = as ++ a :: bs → runActs (act u p) as s = .ok s₁ → Sound p a s₁

end

/-! ## the mark behind actions -/

/-- whether the mark is set behind an action, when `b` says so in front of it; `none` when the
action needs a mark that may be missing -/
def flowAct : Act → Bool → Option Bool
  | .marku, _ => some true
  | .markh, _ => some true
  | .saveUserinfo, _ => some false
  | .saveHost, b => some b
  | _, b => if b then some false else none

def flow : List Act → Bool → Option Bool
  | [], b => some b
  | a :: as, b => (flowAct a b).bind (flow as)

/-- the mark is not behind `fpc`, and it is set when `b` says so -/
structure Kept (b : Bool) (p : Nat) (s : Parse) : Prop where
  le : ∀ m ∈ s.mark, m ≤ p
  set : b = true → s.mark ≠ none

section
variable {u : Str} {p : Nat} {b b' : Bool} {s : Parse}

theorem Kept.inside (h : Kept b p s) (hset : s.mark ≠ none) : Inside p s := by
  obtain ⟨m, hm⟩ := Option.ne_none_iff_exists'.mp hset
  exact ⟨m, hm, h.le m hm⟩

theorem save_inside (h : Inside p s) (set : Str → Uri → Uri) (next : Option Nat) :
    ∃ x, save u p set next s = .ok ⟨next, x⟩ := by
  obtain ⟨m, hm, hle⟩ := h
  unfold save span
  rw [hm]
  dsimp only
  rw [if_pos hle]
  exact ⟨_, rfl⟩

theorem kept_none (b : Bool) (hb : b = false) (p : Nat) (x : Uri) : Kept b p ⟨none, x⟩ where
  le := fun m hm => by cases hm
  set := fun h => by
    rw [hb] at h
    cases h

theorem kept_here (b : Bool) (p : Nat) (x : Uri) : Kept b p ⟨some p, x⟩ where
  le := fun m hm => Nat.le_of_eq (Option.some.inj hm).symm
  set := fun _ hnone => by cases hnone

theorem save_kept (h : Kept b p s) (ha : (if b = true then some false else none) = some b')
    (set : Str → Uri → Uri) :
    Inside p s ∧ ∃ s', save u p set none s = .ok s' ∧ Kept b' p s' := by
  cases b with
  | false => cases ha
  | true =>
    cases ha
    have hin := h.inside (h.set rfl)
    obtain ⟨x, hx⟩ := save_inside (u := u) hin set none
    exact ⟨hin, _, hx, kept_none false rfl p x⟩

/-- **An action that finds a mark when it needs one.** -/
theorem act_kept {a : Act} (h : Kept b p s) (ha : flowAct a b = some b') :
    Sound p a s ∧ ∃ s', act u p a s = .ok s' ∧ Kept b' p s' := by
  cases a with
  | marku => exact ⟨trivial, _, rfl, kept_here b' p s.uri⟩
  | markh => exact ⟨trivial, _, rfl, kept_here b' p s.uri⟩
  | saveScheme => exact save_kept h ha setScheme
  | savePort =>
    cases b with
    | false => cases ha
    | true =>
      cases ha
      obtain ⟨m, hm, hle⟩ := h.inside (h.set rfl)
      refine ⟨⟨m, hm, hle⟩, ?_⟩
      simp only [act, hm]
      exact ⟨_, rfl, kept_none false rfl p _⟩
  | saveUserinfo =>
    cases ha
    refine ⟨fun hset => h.inside hset, ?_⟩
    by_cases hset : s.mark = none
    · simp only [act, hset, Option.isSome_none, Bool.false_eq_true, if_false]
      exact ⟨_, rfl, kept_none false rfl p s.uri⟩
    · obtain ⟨x, hx⟩ := save_inside (u := u) (h.inside hset) setUserinfo none
      simp only [act, if_pos (Option.isSome_iff_ne_none.mpr hset)]
      exact ⟨_, hx, kept_none false rfl p x⟩
  | saveHost =>
    cases ha
    refine ⟨fun hset => h.inside hset, ?_⟩
    by_cases hset : s.mark = none
    · simp only [act, hset, Option.isSome_none, Bool.false_eq_true, if_false]
      exact ⟨s, rfl, h⟩
    · obtain ⟨x, hx⟩ := save_inside (u := u) (h.inside hset) setHost s.mark
      simp only [act, if_pos (Option.isSome_iff_ne_none.mpr hset)]
      exact ⟨_, hx, h.le, h.set⟩
  | savePath => exact save_kept h ha setPath
  | saveQuery => exact save_kept h ha setQuery
  | saveFragment => exact save_kept h ha setFragment

theorem Kept.next {b' : Bool} (h : Kept b p s) (hb : b' = true → b = true) : Kept b' (p + 1) s where
  le := fun m hm => Nat.le_succ_of_le (h.le m hm)
  set := fun hb' => h.set (hb hb')

theorem runs_nil {K : Parse → Prop} (h : K s) : Runs u p [] s K where
  ends := ⟨s, rfl, h⟩
  sound := fun as a bs s₁ hacts _ => absurd hacts.symm (by simp)

/-- **Actions that find a mark when they need one.** -/
theorem flow_runs (acts : List Act) : ∀ (b : Bool) (s : Parse), Kept b p s →
    flow acts b = some b' → Runs u p acts s (Kept b' p) := by
  induction acts with
  | nil =>
    intro b s h hflow
    cases hflow
    exact runs_nil h
  | cons a acts ih =>
    intro b s h hflow
    rw [flow, Option.bind_eq_some_iff] at hflow
    obtain ⟨b₁, ha, hflow⟩ := hflow
    obtain ⟨hsound, s', hact, hs'⟩ := act_kept (u := u) h ha
    have hrest := ih b₁ s' hs' hflow
    refine ⟨?_, ?_⟩
    · obtain ⟨s₂, hs₂, hK⟩ := hrest.ends
      refine ⟨s₂, ?_, hK⟩
      rw [runActs, hact]
      exact hs₂
    · intro as x bs s₁ hsplit hrun
      cases as with
      | nil =>
        obtain ⟨rfl, _⟩ := List.cons.inj hsplit
        cases hrun
        exact hsound
      | cons y as =>
        obtain ⟨rfl, htail⟩ := List.cons.inj hsplit
        rw [runActs, hact] at hrun
        exact hrest.sound as x bs s₁ htail hrun

end

/-! ## the states -/

/-- no mark is needed from here on, until the next one is set -/
def free : List Nat := [0, 3, 4, 5, 6, 451, 452, 453, 455, 456, 458, 459, 469, 509, 510, 511, 522]

def held (cs : Nat) : Bool := decide (cs ∉ free)

/-- behind the colon of a port, in front of its digits -/
def colonStates : List Nat := [514, 521]

/-- inside the path behind an authority -/
def pathStates : List Nat := [513, 243, 244]

/-- the range is one byte that ends a path -/
def endsPathAt (r : Range) : Bool := decide (r.lo = r.hi ∧ (r.lo = 35 ∨ r.lo = 63))

/-- a transition keeps the mark, or it forgets the mark of a path, or it ends a path without mark -/
def keeps (cs : Nat) (r : Range) : Bool :=
  match flow (r.jump.trans tr).acts (held cs) with
  | some b => !held (r.jump.trans tr).target || b
    || decide (cs ∈ colonStates ∧ r.lo = 47 ∧ r.hi = 47 ∧ (r.jump.trans tr).target = 513)
  | none => decide (cs ∈ colonStates) && endsPathAt r

/-- the set of the numbers in a list, a bit for each -/
def bitSet (l : List Nat) : Nat := l.foldr (fun n m => 1 <<< n ||| m) 0

theorem testBit_bitSet (l : List Nat) (n : Nat) : (bitSet l).testBit n = decide (n ∈ l) := by
  induction l with
  | nil => simp [bitSet]
  | cons k l ih =>
    rw [bitSet, List.foldr_cons, Nat.testBit_or, ← bitSet, ih, Nat.one_shiftLeft,
      Nat.testBit_two_pow]
    simp [eq_comm]

theorem held_eq (cs : Nat) : held cs = !(bitSet free).testBit cs := by
  rw [testBit_bitSet, held, decide_not]

theorem eof_path : ∀ cs ∈ pathStates, eofActs cs = [] ∨ cs = 513 := by decide

/-! ## a port without digits -/

/-- scheme, userinfo and host, and the colon of a port -/
def frontColon : Regex :=
  Rl.scheme * (chr ':' * (chr '/' * (chr '/' * (opt (Rl.userinfo * chr '@')
    * (Rl.host * chr ':')))))

def emptyPort : Regex := frontColon * Rl.pathAbempty

/-- the input has an authority that ends with a colon -/
def Blocked (u : Str) : Prop :=
  ∃ pre rest, u = pre ++ rest ∧ PathEnd rest ∧ pre ∈ emptyPort.lang

/-- from here the parser never comes to the colon of a port -/
def noColon (cs : Nat) : Bool :=
  cs < 229 || (242 < cs && cs < 245) || (451 < cs && cs < 508) || cs = 513 || cs = 515 || 560 < cs

def behindPath : List Nat := [1, 2, 7, 8, 453, 454, 456, 457]

/-- what a range of the row of `cs` does: it keeps the mark, it does not stop the scan or leave the
table, and it does not come to a colon again -/
def rowFact (cs : Nat) (r : Range) : Bool :=
  keeps cs r && (!(r.jump.trans tr).brk && decide ((r.jump.trans tr).target < 580))
    && (!noColon cs || noColon (r.jump.trans tr).target)

structure TableFacts : Prop where
  rows : ((List.range 580).all fun cs => (row cs).all fun r => rowFact cs r) = true
  eof : ∀ n < 127, (flow (eofActs (453 + n)) (held (453 + n))).isSome = true
    ∨ 453 + n ∈ colonStates
  /-- no action in a path in front of its end -/
  still : ∀ cs ∈ pathStates, ∀ r ∈ row cs,
    ((r.jump.trans tr).acts = [] ∧ (r.jump.trans tr).target ∈ pathStates)
      ∨ (cs = 513 ∧ endsPathAt r = true)
  behind : ∀ cs ∈ behindPath, ∀ r ∈ row cs, (r.jump.trans tr).target ∈ behindPath
  front : (saturate sameSpot (nextSpots row tr (fun _ => true) noColon
    (fun cs => decide (cs ∈ colonStates)) fun cs => decide (cs ∈ colonStates)) 20000
      [(451, [[frontColon]])] []).isSome = true
  path : (saturate sameSpot (nextSpots row tr quiet
    (fun cs => decide (cs ∈ behindPath)) (fun cs => decide (cs = 513)) fun cs => decide (cs = 513))
      2000 [(513, [[Rl.segment, star (chr '/' * Rl.segment)]])] []).isSome = true

theorem tableFacts : TableFacts where
  rows := by
    simp only [rowFact, keeps, held_eq]
    decide +kernel
  eof := by
    simp only [held_eq]
    decide +kernel
  still := by decide +kernel
  behind := by decide +kernel
  front := by decide +kernel
  path := by decide +kernel

theorem rowFact_all {cs : Nat} {r : Range} (hr : r ∈ row cs) :
    keeps cs r = true ∧ ((r.jump.trans tr).brk = false ∧ (r.jump.trans tr).target < 580) ∧
      (noColon cs = true → noColon (r.jump.trans tr).target = true) := by
  have h := row_all tableFacts.rows hr
  rw [rowFact, Bool.and_eq_true, Bool.and_eq_true, Bool.and_eq_true] at h
  obtain ⟨⟨hkeeps, hbrk, htarget⟩, hcolon⟩ := h
  refine ⟨hkeeps, ⟨by simpa using hbrk, of_decide_eq_true htarget⟩, fun hcs => ?_⟩
  simpa [hcs] using hcolon

theorem trans_inside {cs : Nat} {c : UInt8} {t : Trans Act} (ht : trans cs c = some t) :
    t.brk = false ∧ t.target < 580 := by
  obtain ⟨r, hr, _, _, rfl⟩ := rowTrans_range ht
  exact (rowFact_all hr).2.1

theorem eofActs_lt {cs : Nat} (h : cs < 453) : eofActs cs = [] := by
  unfold eofActs
  split <;> first | rfl | omega

theorem eof_keeps (cs : Nat) (hcs : cs < 580) :
    (flow (eofActs cs) (held cs)).isSome = true ∨ cs ∈ colonStates := by
  by_cases hlt : cs < 453
  · rw [eofActs_lt hlt]
    exact .inl rfl
  · have hn := tableFacts.eof (cs - 453) (by omega)
    rwa [Nat.add_sub_cancel' (by omega)] at hn

theorem noColon_closed (cs : Nat) (c : UInt8) (t : Trans Act) (hcs : noColon cs = true)
    (ht : trans cs c = some t) : noColon t.target = true := by
  obtain ⟨r, hr, _, _, rfl⟩ := rowTrans_range ht
  exact (rowFact_all hr).2.2 hcs

theorem noColon_colon (cs : Nat) (hcs : noColon cs = true) : decide (cs ∈ colonStates) = false := by
  have hall : ∀ cs ∈ colonStates, noColon cs = false := by decide
  rw [decide_eq_false_iff_not]
  intro hmem
  rw [hall cs hmem] at hcs
  cases hcs

/-- **What is in front of the states behind a colon.** -/
theorem colon_lang {w : Str} {cs : Nat} (hrun : run trans start w = some cs)
    (hcs : cs ∈ colonStates) : w ∈ frontColon.lang := by
  obtain ⟨P, hmem, hP⟩ := saturate_closed eq_of_sameSpot tableFacts.front
  exact (mem_left_singleton frontColon w).mp (within_run hP noColon_closed noColon_colon w _
    (hmem _ List.mem_cons_self) cs hrun (decide_eq_true hcs))

theorem behindPath_closed (cs : Nat) (c : UInt8) (t : Trans Act)
    (hcs : decide (cs ∈ behindPath) = true) (ht : trans cs c = some t) :
    decide (t.target ∈ behindPath) = true := by
  obtain ⟨r, hr, _, _, rfl⟩ := rowTrans_range ht
  exact decide_eq_true (tableFacts.behind cs (of_decide_eq_true hcs) r hr)

/-- **What is behind the slash of a path.** -/
theorem path_lang {w : Str} (hrun : run trans 513 w = some 513) :
    slash :: w ∈ Rl.pathAbempty.lang := by
  obtain ⟨P, hmem, hP⟩ := saturate_closed eq_of_sameSpot tableFacts.path
  have hdead : ∀ cs, decide (cs ∈ behindPath) = true → decide (cs = 513) = false := by
    intro cs hcs
    have hall : ∀ cs ∈ behindPath, decide (cs = 513) = false := by decide
    exact hall cs (of_decide_eq_true hcs)
  obtain ⟨k, hk, hw⟩ := within_run hP behindPath_closed hdead w _ (hmem _ List.mem_cons_self)
    513 hrun (decide_eq_true rfl)
  rw [List.mem_singleton] at hk
  subst hk
  obtain ⟨a, ha, b, hb, rfl⟩ := hw
  rw [stackLang, stackLang, mul_one] at hb
  exact ⟨slash :: a, .inl ⟨[slash], chr_mem rfl, a, ha, rfl⟩, b, hb, rfl⟩

/-! ## the scan -/

/-- the scan of `w` has left the colon of a port without digits, and is in the path -/
structure Lost (w : Str) (cs : Nat) : Prop where
  path : cs ∈ pathStates
  split : ∃ w₁ w₂, ∃ cs₁ ∈ colonStates, w = w₁ ++ slash :: w₂ ∧ run trans start w₁ = some cs₁
    ∧ run trans 513 w₂ = some cs

/-- the mark behind `w` -/
inductive Scanned (w : Str) (cs : Nat) (s : Parse) : Prop where
  | kept (h : Kept (held cs) w.length s)
  | lost (h : Lost w cs)

section
variable {u w rest : Str} {cs : Nat} {s : Parse}

theorem blocked_colon (hu : u = w ++ rest) (hrun : run trans start w = some cs)
    (hcs : cs ∈ colonStates) (hrest : PathEnd rest) : Blocked u :=
  ⟨w, rest, hu, hrest, w, colon_lang hrun hcs, [], (nil_mem_lang _).mpr (by decide),
    List.append_nil w⟩

theorem blocked_path (hu : u = w ++ rest) (h : Lost w 513) (hrest : PathEnd rest) : Blocked u := by
  obtain ⟨w₁, w₂, cs₁, hcs₁, rfl, hrun₁, hrun₂⟩ := h.split
  exact ⟨_, rest, hu, hrest, w₁, colon_lang hrun₁ hcs₁, slash :: w₂, path_lang hrun₂, rfl⟩

theorem pathEnd_at {r : Range} {c : UInt8} (h : endsPathAt r = true) (hlo : r.lo ≤ c.toNat)
    (hhi : c.toNat ≤ r.hi) (rest : Str) : PathEnd (c :: rest) := by
  obtain ⟨hone, hbyte⟩ := of_decide_eq_true h
  rcases hbyte with hbyte | hbyte
  · have hc : c = hash := UInt8.toNat_inj.mp (show c.toNat = 35 by omega)
    exact .inr ⟨rest, .inr (by rw [hc])⟩
  · have hc : c = question := UInt8.toNat_inj.mp (show c.toNat = 63 by omega)
    exact .inr ⟨rest, .inl (by rw [hc])⟩

theorem run_snoc {c : UInt8} {t : Trans Act} {cs₀ : Nat} (hrun : run trans cs₀ w = some cs)
    (ht : trans cs c = some t) : run trans cs₀ (w ++ [c]) = some t.target := by
  rw [run_append, hrun]
  show run trans cs [c] = _
  simp only [run, ht, (trans_inside ht).1, Bool.false_eq_true, if_false]

/-- **What a byte preserves.** -/
theorem step_scanned {c : UInt8} {t : Trans Act} (hu : u = w ++ c :: rest) (hfree : ¬ Blocked u)
    (hrun : run trans start w = some cs) (h : Scanned w cs s) (ht : trans cs c = some t) :
    Runs u w.length t.acts s (Scanned (w ++ [c]) t.target) := by
  obtain ⟨r, hr, hlo, hhi, rfl⟩ := rowTrans_range (id ht)
  cases h with
  | kept h =>
    have hkeeps := (rowFact_all hr).1
    unfold keeps at hkeeps
    cases hflow : flow (r.jump.trans tr).acts (held cs) with
    | none =>
      rw [hflow] at hkeeps
      rw [Bool.and_eq_true, decide_eq_true_eq] at hkeeps
      exact absurd (blocked_colon hu hrun hkeeps.1 (pathEnd_at hkeeps.2 hlo hhi rest)) hfree
    | some b =>
      rw [hflow] at hkeeps
      have hacts := flow_runs (u := u) _ _ s h hflow
      refine ⟨?_, hacts.sound⟩
      obtain ⟨s', hs', hkept⟩ := hacts.ends
      refine ⟨s', hs', ?_⟩
      have hlen : (w ++ [c]).length = w.length + 1 := List.length_append
      rw [Bool.or_eq_true, Bool.or_eq_true, decide_eq_true_eq] at hkeeps
      rcases hkeeps with (hfalse | htrue) | ⟨hcs, hfrom, hto, htarget⟩
      · refine .kept (hlen ▸ hkept.next fun hheld => ?_)
        rw [hheld] at hfalse
        cases hfalse
      · exact .kept (hlen ▸ hkept.next fun _ => htrue)
      · -- the port's action forgets the mark of the path
        have hc : c = slash := UInt8.toNat_inj.mp (show c.toNat = 47 by omega)
        rw [htarget, hc]
        exact .lost ⟨by decide, w, [], cs, hcs, rfl, hrun, rfl⟩
  | lost h =>
    rcases tableFacts.still cs h.path r hr with ⟨hacts, htarget⟩ | ⟨rfl, hend⟩
    · rw [hacts]
      refine runs_nil (.lost ⟨htarget, ?_⟩)
      obtain ⟨w₁, w₂, cs₁, hcs₁, rfl, hrun₁, hrun₂⟩ := h.split
      exact ⟨w₁, w₂ ++ [c], cs₁, hcs₁, by simp, hrun₁, run_snoc hrun₂ ht⟩
    · exact absurd (blocked_path hu h (pathEnd_at hend hlo hhi rest)) hfree

/-- **What the end of the input preserves.** -/
theorem eof_scanned (hfree : ¬ Blocked u) (hrun : run trans start u = some cs)
    (h : Scanned u cs s) : Runs u u.length (eofActs cs) s fun _ => True := by
  have hu : u = u ++ [] := (List.append_nil u).symm
  cases h with
  | kept h =>
    have hlt : cs < 580 := run_inv (I := fun cs => cs < 580)
      (fun _ _ _ ht _ => (trans_inside ht).2) u start cs (by decide) hrun
    rcases eof_keeps cs hlt with hflow | hcs
    · obtain ⟨b, hb⟩ := Option.isSome_iff_exists.mp hflow
      have hacts := flow_runs (u := u) _ _ s h hb
      obtain ⟨s', hs', _⟩ := hacts.ends
      exact ⟨⟨s', hs', trivial⟩, hacts.sound⟩
    · exact absurd (blocked_colon hu hrun hcs (.inl rfl)) hfree
  | lost h =>
    rcases eof_path cs h.path with hacts | rfl
    · rw [hacts]
      exact runs_nil trivial
    · exact absurd (blocked_path hu h (.inl rfl)) hfree

/-- no action fails, and `K` holds where the input ends -/
def Unfailing (K : Nat → Parse → Prop) : Scan Parse Fault → Prop
  | .more cs s => K cs s
  | .stop _ _ _ => True
  | .bad _ _ => True
  | .fail _ => False

/-- **What the scan preserves.** -/
theorem scanned (hfree : ¬ Blocked u) (w : Str) : ∀ rest, u = w ++ rest →
    Unfailing (Scanned w) (scan trans (act u) start 0 w ⟨none, new⟩) := by
  induction w using List.reverseRecOn with
  | nil =>
    intro rest hu
    exact .kept (kept_none _ (by decide) 0 new)
  | append_singleton w c ih =>
    intro rest hu
    rw [List.append_assoc] at hu
    have hprefix := ih (c :: rest) hu
    rw [scan_append]
    cases hscan : scan trans (act u) start 0 w ⟨none, new⟩ with
    | fail e =>
      rw [hscan] at hprefix
      exact hprefix.elim
    | stop cs q s => trivial
    | bad q s => trivial
    | more cs s =>
      rw [hscan] at hprefix
      dsimp only
      rw [Nat.zero_add]
      cases ht : trans cs c with
      | none =>
        rw [scan_bad ht]
        trivial
      | some t =>
        obtain ⟨s', hs', hnext⟩ := (step_scanned hu hfree
          (run_of_more trans (act u) w start 0 _ hscan) hprefix ht).ends
        rw [scan_ok ht hs', (trans_inside ht).1, if_neg Bool.false_ne_true]
        exact hnext

theorem scanned_more (hfree : ¬ Blocked u) (hu : u = w ++ rest)
    (hscan : scan trans (act u) start 0 w ⟨none, new⟩ = .more cs s) : Scanned w cs s := by
  have h := scanned hfree w rest hu
  rw [hscan] at h
  exact h

end

/-! ## the inputs -/

/-- what is asked of `Create`: it returns, and every action finds what it needs -/
def MarksInside (u : Str) : Prop :=
  (∃ r, Create u = .ok r) ∧ ∀ p a s, Performed u p a s → Sound p a s

theorem frontColon_cases {w : Str} (hw : w ∈ frontColon.lang) :
    ∃ scheme userinfo host, w = frontText scheme userinfo ++ (host ++ [colon])
      ∧ scheme ∈ Rl.scheme.lang ∧ (∀ v ∈ userinfo, v ∈ Rl.userinfo.lang)
      ∧ host ∈ Rl.host.lang := by
  obtain ⟨scheme, hscheme, _, ⟨c₁, hc₁, _, ⟨c₂, hc₂, _, ⟨c₃, hc₃, _, ⟨user, huser, _,
    ⟨host, hhost, c₄, hc₄, rfl⟩, rfl⟩, rfl⟩, rfl⟩, rfl⟩, rfl⟩ := hw
  rw [mem_chr (b := colon) rfl hc₁, mem_chr (b := slash) rfl hc₂, mem_chr (b := slash) rfl hc₃,
    mem_chr (b := colon) rfl hc₄]
  rcases huser with ⟨v, hv, c₅, hc₅, rfl⟩ | hnil
  · rw [mem_chr (b := atSign) rfl hc₅]
    refine ⟨scheme, some v, host, ?_, hscheme, fun v' hv' => Option.some.inj hv' ▸ hv, hhost⟩
    simp only [frontText, userinfoPart, List.append_assoc]
    rfl
  · rw [show user = [] from hnil]
    refine ⟨scheme, none, host, ?_, hscheme, fun v hv => (by cases hv), hhost⟩
    simp only [frontText, userinfoPart, List.append_assoc]
    rfl

theorem create_blocked {u : Str} (h : Blocked u) : Create u = .error .nullMark := by
  obtain ⟨_, rest, rfl, hrest, w, hw, path, hpath, rfl⟩ := h
  obtain ⟨scheme, userinfo, host, rfl, hscheme, huserinfo, hhost⟩ := frontColon_cases hw
  have htext : frontText scheme userinfo ++ (host ++ [colon]) ++ path ++ rest
      = frontText scheme userinfo ++ (host ++ colon :: (path ++ rest)) := by
    simp
  obtain ⟨cs, hcs, name, hcreate⟩ := create_front htext hscheme huserinfo
  obtain ⟨cs', hcs', m, hgo⟩ := resume_colon hcs htext hhost _
  rw [hcreate, hgo, resume_emptyPort hcs' (by simp) hpath hrest]

/-- **The mark is inside the input exactly when no authority ends with a colon.** -/
theorem marks_iff (u : Str) : MarksInside u ↔ ¬ Blocked u := by
  constructor
  · rintro ⟨⟨r, hr⟩, _⟩ hblocked
    rw [create_blocked hblocked] at hr
    cases hr
  · intro hfree
    have hu : u = u ++ [] := (List.append_nil u).symm
    constructor
    · unfold Create
      cases hscan : scan trans (act u) start 0 u ⟨none, new⟩ with
      | fail e =>
        have h := scanned hfree u [] hu
        rw [hscan] at h
        exact h.elim
      | stop cs q s => exact ⟨none, rfl⟩
      | bad q s => exact ⟨none, rfl⟩
      | more cs s =>
        obtain ⟨s', hs', _⟩ := (eof_scanned hfree (run_of_more trans (act u) u start 0 _ hscan)
          (scanned_more hfree hu hscan)).ends
        show ∃ r, finish u cs s = .ok r
        unfold finish
        rw [hs']
        exact ⟨_, rfl⟩
    · intro p a s hperformed
      cases hperformed with
      | byte hu hscan ht hacts hs =>
        exact (step_scanned hu hfree (run_of_more trans (act u) _ start 0 _ hscan)
          (scanned_more hfree hu hscan) ht).sound _ _ _ _ hacts hs
      | eof hscan hacts hs =>
        exact (eof_scanned hfree (run_of_more trans (act u) u start 0 _ hscan)
          (scanned_more hfree hu hscan)).sound _ _ _ _ hacts hs

/-- **A colon without a port.** -/
theorem colon_faults : ¬ ∀ u : Str, MarksInside u := by
  intro h
  obtain ⟨r, hr⟩ := (h (asc "http://h:/x")).1
  have hblocked : Blocked (asc "http://h:/x") :=
    ⟨asc "http://h:/x", [], rfl, .inl rfl, by decide +kernel⟩
  rw [create_blocked hblocked] at hr
  cases hr

end Uri
end KitServer
