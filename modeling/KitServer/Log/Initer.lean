import KitServer.Log.Logger

/-!
# `LogIniter`: the listener of the variable `logs`

The loggers behind a sequence of values that the variable is set to.

* `foldlM_update`         a loop that changes one entry of a table in each round;
* `listener`              the listener: what it adds, changes and removes;
* `setValue`, `run`       the variable with this listener;
* `lastFormatter`         the pattern that was given to a logger last;
* `History`               what a sequence of values leaves in the loggers;
* `history_independent_iff` when two sequences that end with the same value leave the same.
-/

set_option linter.unusedVariables false

namespace KitServer
namespace Log
open Http

/-! ## tables -/

section
variable {K V X : Type} [DecidableEq K]

/-- **A loop that changes an entry of its own in each round** changes each of them once, and no
other entry. -/
theorem foldlM_update (key : X → K) (f : X → V → Option V) {xs : List X} {m m' : K → V}
    (hnodup : (xs.map key).Nodup)
    (h : xs.foldlM (fun m x => (f x (m (key x))).map (Function.update m (key x))) m = some m') :
    (∀ x ∈ xs, f x (m (key x)) = some (m' (key x))) ∧ ∀ k, k ∉ xs.map key → m' k = m k := by
  induction xs generalizing m with
  | nil =>
    cases h
    exact ⟨fun x hx => absurd hx List.not_mem_nil, fun k _ => rfl⟩
  | cons x xs ih =>
    rw [List.map_cons, List.nodup_cons] at hnodup
    obtain ⟨hx, hxs⟩ := hnodup
    rw [List.foldlM_cons] at h
    obtain ⟨m₁, h₁, hrest⟩ := Option.bind_eq_some_iff.mp h
    obtain ⟨v, hv, rfl⟩ := Option.map_eq_some_iff.mp h₁
    obtain ⟨hin, hout⟩ := ih hxs hrest
    constructor
    · intro y hy
      rcases List.mem_cons.mp hy with rfl | hy
      · rw [hout _ hx, Function.update_self, hv]
      · have hne : key y ≠ key x := fun he => hx (he ▸ List.mem_map_of_mem hy)
        rw [← hin y hy, Function.update_of_ne hne]
    · intro k hk
      rw [List.map_cons, List.mem_cons, not_or] at hk
      rw [hout k hk.2, Function.update_of_ne hk.1]

theorem foldl_update (key : X → K) (g : X → V → V) {xs : List X} (m : K → V)
    (hnodup : (xs.map key).Nodup) :
    (∀ x ∈ xs, xs.foldl (fun m x => Function.update m (key x) (g x (m (key x)))) m (key x)
        = g x (m (key x))) ∧
      ∀ k, k ∉ xs.map key →
        xs.foldl (fun m x => Function.update m (key x) (g x (m (key x)))) m k = m k := by
  have hrun : ∀ m : K → V,
      xs.foldlM (fun m x => (some (g x (m (key x)))).map (Function.update m (key x))) m
        = some (xs.foldl (fun m x => Function.update m (key x) (g x (m (key x)))) m) := by
    induction xs with
    | nil => exact fun m => rfl
    | cons x xs ih =>
      intro m
      rw [List.foldlM_cons, List.foldl_cons]
      exact ih (List.nodup_cons.mp hnodup).2 _
  obtain ⟨hin, hout⟩ := foldlM_update key (fun x v => some (g x v)) hnodup (hrun m)
  exact ⟨fun x hx => (Option.some.inj (hin x hx)).symm, hout⟩

end

/-! ## the listener -/

/-- a `std::set<LogDefine>`, in the order of the names -/
structure LogSet where
  defines : List LogDefine
  sorted : defines.Pairwise fun a b => lexLess a.name b.name = true

instance : BEq LogSet := ⟨fun a b => a.defines == b.defines⟩

def LogSet.empty : LogSet := ⟨[], List.Pairwise.nil⟩

/-- `find`: the element that is not before and not behind -/
def LogSet.find (v : LogSet) (name : Str) : Option LogDefine :=
  v.defines.find? fun x => x.name = name

/-- the appender with its level and its own formatter; none is a null pointer -/
def makeAppender (k : LogAppenderDefine) : Option LogAppender :=
  let p : Option LogAppender :=
    if k.type = 0 then some { cls := .stdout, level := k.level }
    else if k.type = 1 then some { cls := .file k.file, level := k.level }
    else none
  p.map fun p =>
    if k.formatter.isEmpty then p
    else
      let f : LogFormatter := ⟨k.formatter⟩
      if f.isError then p else p.setFormatter (some f)

/-- what the listener does to a logger that is new or has changed; none is a null pointer that is
used -/
def configure (l : Logger) (x : LogDefine) : Option Logger :=
  let l := l.setLevel x.level
  let l := if x.formatter.isEmpty then l else l.setFormatter x.formatter
  let l := l.clearAppender
  x.appenders.foldlM (fun l k => (makeAppender k).map l.addAppender) l

/-- a round of the loop over the new value, at the logger with the name of `x` -/
def applyDefine (old_value : LogSet) (x : LogDefine) (l : Option Logger) : Option (Option Logger) :=
  if (old_value.find x.name).any fun y => x == y then some l
  else (configure (l.getD (Logger.new x.name)) x).map some

/-- a logger that is not named any more -/
def remove (l : Logger) : Logger := (l.setLevel 100).clearAppender

def listener (old_value new_value : LogSet) (m : LogManager) : Option LogManager :=
  (new_value.defines.foldlM
      (fun m x => (applyDefine old_value x (m x.name)).map (Function.update m x.name)) m).map
    fun m =>
      (old_value.defines.filter fun x => (new_value.find x.name).isNone).foldl
        (fun m x => Function.update m x.name (some (remove (m.getLogger x.name)))) m

/-! ## the variable -/

structure Config where
  val : LogSet
  loggers : LogManager

def setValue (s : Config) (val : LogSet) : Option Config :=
  if val == s.val then some s
  else (listener s.val val s.loggers).map fun loggers => ⟨val, loggers⟩

/-- the variable set to one value after the other -/
def run (values : List LogSet) (s : Config) : Option Config := values.foldlM setValue s

/-- the loggers at the start, with the default of the variable -/
def Config.start (m : LogManager) : Config := ⟨LogSet.empty, m⟩

/-! ## what is read of a set -/

theorem LogSet.nodup (v : LogSet) : (v.defines.map LogDefine.name).Nodup := by
  rw [List.Nodup, List.pairwise_map]
  refine v.sorted.imp fun {a b} h heq => ?_
  rw [heq, lexLess_irrefl] at h
  cases h

theorem LogSet.find_eq_some {v : LogSet} {name : Str} {x : LogDefine} :
    v.find name = some x ↔ x ∈ v.defines ∧ x.name = name := by
  rw [LogSet.find]
  constructor
  · intro h
    have hname := List.find?_some h
    exact ⟨List.mem_of_find?_eq_some h, of_decide_eq_true hname⟩
  · rintro ⟨hx, rfl⟩
    cases hfind : v.defines.find? fun y => y.name = x.name with
    | none =>
      have hno := List.find?_eq_none.mp hfind x hx
      exact absurd (decide_eq_true rfl) hno
    | some y =>
      have hfound := List.find?_some hfind
      have hname : y.name = x.name := of_decide_eq_true hfound
      rw [List.inj_on_of_nodup_map v.nodup (List.mem_of_find?_eq_some hfind) hx hname]

theorem LogSet.find_eq_none {v : LogSet} {name : Str} :
    v.find name = none ↔ ∀ x ∈ v.defines, x.name ≠ name := by
  rw [LogSet.find, List.find?_eq_none]
  simp only [decide_eq_true_eq, ne_eq]

theorem not_mem_names {v : LogSet} {name : Str} (h : v.find name = none) :
    name ∉ v.defines.map LogDefine.name := by
  intro hmem
  obtain ⟨x, hx, hname⟩ := List.mem_map.mp hmem
  exact LogSet.find_eq_none.mp h x hx hname

/-- **What the listener does to the logger of a name.** -/
theorem listener_spec {old_value new_value : LogSet} {m m' : LogManager}
    (h : listener old_value new_value m = some m') (name : Str) :
    (∀ x, new_value.find name = some x → applyDefine old_value x (m name) = some (m' name)) ∧
      (new_value.find name = none → old_value.find name = none → m' name = m name) ∧
      (new_value.find name = none → (old_value.find name).isSome = true →
        m' name = some (remove (m.getLogger name))) := by
  obtain ⟨m₁, h₁, rfl⟩ := Option.map_eq_some_iff.mp h
  obtain ⟨hin, hout⟩ := foldlM_update LogDefine.name (applyDefine old_value) new_value.nodup h₁
  set gone := old_value.defines.filter fun x => (new_value.find x.name).isNone with hgone
  have hsub : (gone.map LogDefine.name).Nodup :=
    old_value.nodup.sublist (List.filter_sublist.map _)
  obtain ⟨hrin, hrout⟩ := foldl_update LogDefine.name
    (fun x l => some (remove (l.getD (Logger.new x.name)))) m₁ hsub
  have hname : ∀ x, new_value.find name = some x → x ∈ new_value.defines ∧ x.name = name :=
    fun x => LogSet.find_eq_some.mp
  have hgone_iff : name ∈ gone.map LogDefine.name ↔
      new_value.find name = none ∧ (old_value.find name).isSome = true := by
    rw [hgone, List.mem_map]
    constructor
    · rintro ⟨x, hx, rfl⟩
      obtain ⟨hx, hnone⟩ := List.mem_filter.mp hx
      refine ⟨Option.isNone_iff_eq_none.mp hnone, ?_⟩
      rw [LogSet.find_eq_some.mpr ⟨hx, rfl⟩]
      rfl
    · rintro ⟨hnone, hsome⟩
      obtain ⟨x, hx⟩ := Option.isSome_iff_exists.mp hsome
      obtain ⟨hmem, rfl⟩ := LogSet.find_eq_some.mp hx
      exact ⟨x, List.mem_filter.mpr ⟨hmem, Option.isNone_iff_eq_none.mpr hnone⟩, rfl⟩
  refine ⟨?_, ?_, ?_⟩
  · intro x hx
    obtain ⟨hmem, rfl⟩ := hname x hx
    have hkeep : x.name ∉ gone.map LogDefine.name := by
      rw [hgone_iff, hx]
      rintro ⟨h, _⟩
      cases h
    exact (hin x hmem).trans (congrArg some (hrout _ hkeep).symm)
  · intro hnew hold
    have hkeep : name ∉ gone.map LogDefine.name := by
      rw [hgone_iff, hold]
      rintro ⟨_, h⟩
      cases h
    exact (hrout _ hkeep).trans (hout name (not_mem_names hnew))
  · intro hnew hold
    obtain ⟨x, hx, rfl⟩ := List.mem_map.mp (hgone_iff.mpr ⟨hnew, hold⟩)
    refine (hrin x hx).trans ?_
    rw [hout _ (not_mem_names hnew), LogManager.getLogger]

/-! ## what a definition leaves -/

/-- the pattern behind a definition, in front of which it was `pattern` -/
def chosen (pattern : Str) (x : LogDefine) : Str :=
  if x.formatter.isEmpty || (LogFormatter.mk x.formatter).isError then pattern else x.formatter

/-- the appender in a logger with the formatter `f` -/
def attached (f : LogFormatter) (a : LogAppender) : LogAppender :=
  if a.formatter.isNone then a.setFormatter (some f) else a

/-- the logger has the level and the appenders of the definition -/
structure Configured (x : LogDefine) (l : Logger) : Prop where
  level : l.level = x.level
  appenders :
    x.appenders.mapM (fun k => (makeAppender k).map (attached l.formatter)) = some l.appenders

theorem addAppenders_spec {ks : List LogAppenderDefine} {l l' : Logger}
    (h : ks.foldlM (fun l k => (makeAppender k).map l.addAppender) l = some l') :
    l'.level = l.level ∧ l'.formatter = l.formatter ∧
      ∃ as, ks.mapM (fun k => (makeAppender k).map (attached l.formatter)) = some as ∧
        l'.appenders = l.appenders ++ as := by
  induction ks generalizing l with
  | nil =>
    cases h
    exact ⟨rfl, rfl, [], rfl, (List.append_nil _).symm⟩
  | cons k ks ih =>
    rw [List.foldlM_cons] at h
    obtain ⟨l₁, h₁, hrest⟩ := Option.bind_eq_some_iff.mp h
    obtain ⟨a, ha, rfl⟩ := Option.map_eq_some_iff.mp h₁
    obtain ⟨hlevel, hformatter, as, has, happenders⟩ := ih hrest
    refine ⟨hlevel, hformatter, attached l.formatter a :: as, ?_, ?_⟩
    · rw [List.mapM_cons, ha]
      show (List.mapM (fun k => (makeAppender k).map (attached l.formatter)) ks).bind _ = _
      have has' : ks.mapM (fun k => (makeAppender k).map (attached l.formatter)) = some as := has
      rw [has']
      rfl
    · rw [happenders, Logger.addAppender, List.append_assoc]
      rfl

theorem configure_spec {x : LogDefine} {l l' : Logger} (h : configure l x = some l') :
    Configured x l' ∧ l'.formatter.pattern = chosen l.formatter.pattern x := by
  obtain ⟨hlevel, hformatter, as, has, happenders⟩ := addAppenders_spec h
  have hpattern : l'.formatter.pattern = chosen l.formatter.pattern x := by
    rw [hformatter, chosen]
    cases x.formatter.isEmpty with
    | true => rfl
    | false =>
      show ((l.setLevel x.level).setFormatter x.formatter).formatter.pattern = _
      rw [Logger.setFormatter_formatter]
      cases (LogFormatter.mk x.formatter).isError <;> rfl
  refine ⟨⟨?_, ?_⟩, hpattern⟩
  · rw [hlevel]
    cases x.formatter.isEmpty with
    | true => rfl
    | false =>
      show ((l.setLevel x.level).setFormatter x.formatter).level = x.level
      rw [Logger.setFormatter]
      split <;> rfl
  · rw [hformatter, happenders]
    exact has

/-! ## definitions that `operator==` does not tell apart -/

theorem logDefine_beq {x y : LogDefine} :
    (x == y) = true ↔ x.name = y.name ∧ x.level = y.level ∧ x.formatter = y.formatter ∧
      (x.appenders == y.appenders) = true := by
  show (decide (x.name = y.name) && decide (x.level = y.level)
    && decide (x.formatter = y.formatter) && (x.appenders == y.appenders)) = true ↔ _
  simp only [Bool.and_eq_true, decide_eq_true_eq, and_assoc]

theorem makeAppender_congr {a b : LogAppenderDefine} (h : (a == b) = true) :
    makeAppender a = makeAppender b := by
  change (decide (a.type = b.type) && decide (a.level = b.level)
    && decide (a.formatter = b.formatter) && decide (a.file = b.file)) = true at h
  simp only [Bool.and_eq_true, decide_eq_true_eq] at h
  obtain ⟨⟨⟨htype, hlevel⟩, hformatter⟩, hfile⟩ := h
  rw [makeAppender, makeAppender, htype, hlevel, hformatter, hfile]

theorem mapM_makeAppender_congr {α : Type} (f : LogAppender → α) {as bs : List LogAppenderDefine}
    (h : (as == bs) = true) :
    as.mapM (fun k => (makeAppender k).map f) = bs.mapM fun k => (makeAppender k).map f := by
  induction as generalizing bs with
  | nil =>
    cases bs with
    | nil => rfl
    | cons b bs => cases h
  | cons a as ih =>
    cases bs with
    | nil => cases h
    | cons b bs =>
      change ((a == b) && (as == bs)) = true at h
      obtain ⟨hab, hrest⟩ := (Bool.and_eq_true _ _).mp h
      rw [List.mapM_cons, List.mapM_cons, makeAppender_congr hab, ih hrest]

theorem Configured.congr {x y : LogDefine} {l : Logger} (h : (x == y) = true)
    (hy : Configured y l) : Configured x l := by
  obtain ⟨_, hlevel, _, happenders⟩ := logDefine_beq.mp h
  refine ⟨hy.level.trans hlevel.symm, ?_⟩
  rw [mapM_makeAppender_congr _ happenders]
  exact hy.appenders

theorem chosen_congr {x y : LogDefine} (h : (x == y) = true) (pattern : Str) :
    chosen pattern x = chosen pattern y := by
  obtain ⟨_, _, hformatter, _⟩ := logDefine_beq.mp h
  rw [chosen, chosen, hformatter]

/-- sets that `operator==` does not tell apart have the same names, with definitions that it does
not tell apart -/
theorem find_congr {v w : List LogDefine} (h : (v == w) = true) (name : Str) :
    (v.find? fun x => x.name = name) = none ∧ (w.find? fun x => x.name = name) = none ∨
      ∃ x y, (v.find? fun x => x.name = name) = some x ∧
        (w.find? fun x => x.name = name) = some y ∧ (x == y) = true := by
  induction v generalizing w with
  | nil =>
    cases w with
    | nil => exact Or.inl ⟨rfl, rfl⟩
    | cons y w => cases h
  | cons x v ih =>
    cases w with
    | nil => cases h
    | cons y w =>
      change ((x == y) && (v == w)) = true at h
      obtain ⟨hxy, hrest⟩ := (Bool.and_eq_true _ _).mp h
      have hname := (logDefine_beq.mp hxy).1
      by_cases hx : x.name = name
      · refine Or.inr ⟨x, y, ?_, ?_, hxy⟩
        · rw [List.find?_cons_of_pos]
          exact decide_eq_true hx
        · rw [List.find?_cons_of_pos]
          exact decide_eq_true (hname.symm.trans hx)
      · rw [List.find?_cons_of_neg, List.find?_cons_of_neg]
        · exact ih hrest
        · rw [← hname, decide_eq_true_eq]
          exact hx
        · rw [decide_eq_true_eq]
          exact hx

/-! ## sequences of values -/

/-- the pattern that the logger of the name was given last; it has `pattern` at the start -/
def lastFormatter (pattern : Str) (values : List LogSet) (name : Str) : Str :=
  values.foldl (fun p v => (v.find name).elim p (chosen p)) pattern

theorem lastFormatter_append (pattern : Str) (values : List LogSet) (v : LogSet) (name : Str) :
    lastFormatter pattern (values ++ [v]) name
      = (v.find name).elim (lastFormatter pattern values name)
          (chosen (lastFormatter pattern values name)) := by
  rw [lastFormatter, List.foldl_append]
  rfl

/-- the pattern of a logger at the start: that of a new logger if there is none of the name -/
def LogManager.patternOf (m : LogManager) (name : Str) : Str := (m.getLogger name).formatter.pattern

/-- a value of the sequence names the logger -/
def Named (values : List LogSet) (name : Str) : Prop := ∃ v ∈ values, (v.find name).isSome = true

/-- what a sequence of values has left -/
structure History (m : LogManager) (values : List LogSet) (s : Config) : Prop where
  formatter : ∀ name, s.loggers.patternOf name = lastFormatter (m.patternOf name) values name
  named : ∀ name x, s.val.find name = some x → ∃ l, s.loggers name = some l ∧ Configured x l
  current : ∀ name x, s.val.find name = some x →
    chosen (s.loggers.patternOf name) x = s.loggers.patternOf name
  removed : ∀ name, s.val.find name = none → Named values name →
    ∃ l, s.loggers name = some l ∧ l.level = 100 ∧ l.appenders = []

theorem History.start (m : LogManager) : History m [] (Config.start m) where
  formatter name := rfl
  named name x h := by cases h
  current name x h := by cases h
  removed name _ h := by
    obtain ⟨v, hv, _⟩ := h
    cases hv

theorem chosen_idem (pattern : Str) (x : LogDefine) :
    chosen (chosen pattern x) x = chosen pattern x := by
  unfold chosen
  split <;> rfl

theorem patternOf_some {m : LogManager} {name : Str} {l : Logger} (h : m name = some l) :
    m.patternOf name = l.formatter.pattern := by
  rw [LogManager.patternOf, LogManager.getLogger, h]
  rfl

section
variable {m : LogManager} {values : List LogSet} {s s' : Config} {val : LogSet}

theorem History.applied (h : History m values s) {loggers : LogManager}
    (hl : listener s.val val s.loggers = some loggers) {name : Str} {x : LogDefine}
    (hx : val.find name = some x) :
    ∃ l, loggers name = some l ∧ Configured x l ∧
      l.formatter.pattern = chosen (s.loggers.patternOf name) x := by
  have happly := (listener_spec hl name).1 x hx
  obtain ⟨_, rfl⟩ := LogSet.find_eq_some.mp hx
  rw [applyDefine] at happly
  split at happly
  · rename_i hsame
    obtain ⟨y, hy, hxy⟩ := (Option.any_eq_true _ _).mp hsame
    obtain ⟨l, hlogger, hconf⟩ := h.named _ y hy
    have hpattern := patternOf_some hlogger
    refine ⟨l, ?_, hconf.congr hxy, ?_⟩
    · rw [← Option.some.inj happly, hlogger]
    · rw [chosen_congr hxy, h.current _ y hy, hpattern]
  · obtain ⟨l, hconf, hlogger⟩ := Option.map_eq_some_iff.mp happly
    obtain ⟨hx, hpattern⟩ := configure_spec hconf
    exact ⟨l, hlogger.symm, hx, hpattern⟩

theorem named_append {name : Str} :
    Named (values ++ [val]) name ↔ Named values name ∨ (val.find name).isSome = true := by
  constructor
  · rintro ⟨v, hv, hname⟩
    rcases List.mem_append.mp hv with hv | hv
    · exact Or.inl ⟨v, hv, hname⟩
    · obtain rfl := List.mem_singleton.mp hv
      exact Or.inr hname
  · rintro (⟨v, hv, hname⟩ | hname)
    · exact ⟨v, List.mem_append_left _ hv, hname⟩
    · exact ⟨val, List.mem_append_right _ (List.mem_singleton_self val), hname⟩

theorem History.same (h : History m values s) (hsame : (val == s.val) = true) :
    History m (values ++ [val]) s where
  formatter name := by
    rw [lastFormatter_append, ← h.formatter]
    rcases find_congr hsame name with ⟨hval, _⟩ | ⟨x, y, hx, hy, hxy⟩
    · rw [show val.find name = none from hval]
      rfl
    · rw [show val.find name = some x from hx]
      show _ = chosen _ x
      rw [chosen_congr hxy, h.current name y hy]
  named := h.named
  current := h.current
  removed name hnone hnamed := by
    rcases named_append.mp hnamed with hnamed | hsome
    · exact h.removed name hnone hnamed
    · rcases find_congr hsame name with ⟨hval, _⟩ | ⟨x, y, _, hy, _⟩
      · rw [show val.find name = none from hval] at hsome
        cases hsome
      · rw [show s.val.find name = some y from hy] at hnone
        cases hnone

/-- a value that is set -/
theorem History.listener (h : History m values s) {loggers : LogManager}
    (hl : listener s.val val s.loggers = some loggers) :
    History m (values ++ [val]) ⟨val, loggers⟩ where
  formatter name := by
    obtain ⟨_, hkeep, hremove⟩ := listener_spec hl name
    rw [lastFormatter_append, ← h.formatter]
    cases hval : val.find name with
    | some x =>
      obtain ⟨l, hlogger, _, hpattern⟩ := h.applied hl hval
      exact (patternOf_some hlogger).trans hpattern
    | none =>
      cases hold : s.val.find name with
      | none =>
        show loggers.patternOf name = s.loggers.patternOf name
        rw [LogManager.patternOf, LogManager.patternOf, LogManager.getLogger, LogManager.getLogger,
          hkeep hval hold]
      | some y =>
        have hlogger := hremove hval (by rw [hold]; rfl)
        exact (patternOf_some (m := loggers) hlogger).trans rfl
  named name x hx := by
    obtain ⟨l, hlogger, hconf, _⟩ := h.applied hl hx
    exact ⟨l, hlogger, hconf⟩
  current name x hx := by
    obtain ⟨l, hlogger, _, hpattern⟩ := h.applied hl hx
    rw [patternOf_some hlogger, hpattern, chosen_idem]
  removed name hnone hnamed := by
    obtain ⟨_, hkeep, hremove⟩ := listener_spec hl name
    have hbefore : Named values name := by
      rcases named_append.mp hnamed with hnamed | hsome
      · exact hnamed
      · rw [show val.find name = none from hnone] at hsome
        cases hsome
    cases hold : s.val.find name with
    | none =>
      obtain ⟨l, hlogger, hl⟩ := h.removed name hold hbefore
      exact ⟨l, (hkeep hnone hold).trans hlogger, hl⟩
    | some y => exact ⟨_, hremove hnone (by rw [hold]; rfl), rfl, rfl⟩

theorem History.setValue (h : History m values s) (hs : setValue s val = some s') :
    History m (values ++ [val]) s' := by
  rw [Log.setValue] at hs
  split at hs
  · rename_i hsame
    cases hs
    exact h.same hsame
  · obtain ⟨loggers, hl, rfl⟩ := Option.map_eq_some_iff.mp hs
    exact h.listener hl

theorem run_append :
    run (values ++ [val]) s = some s' ↔ ∃ s₁, run values s = some s₁ ∧ setValue s₁ val = some s' := by
  rw [run, List.foldlM_append]
  refine Option.bind_eq_some_iff.trans (exists_congr fun s₁ => and_congr_right fun _ => ?_)
  rw [List.foldlM_cons]
  refine Option.bind_eq_some_iff.trans ⟨?_, fun h => ⟨s', h, rfl⟩⟩
  rintro ⟨s₂, h, hnil⟩
  cases hnil
  exact h

/-- **What every sequence of values leaves.** -/
theorem history_run (h : run values (Config.start m) = some s) : History m values s := by
  induction values using List.reverseRecOn generalizing s with
  | nil =>
    cases h
    exact History.start m
  | append_singleton values val ih =>
    obtain ⟨s₁, h₁, hlast⟩ := run_append.mp h
    exact (ih h₁).setValue hlast

instance : ReflBEq LogAppenderDefine where
  rfl {a} := by
    show (decide (a.type = a.type) && decide (a.level = a.level)
      && decide (a.formatter = a.formatter) && decide (a.file = a.file)) = true
    simp

theorem run_val (h : run (values ++ [val]) (Config.start m) = some s) {name : Str} {x : LogDefine}
    (hx : val.find name = some x) : ∃ y, s.val.find name = some y ∧ (x == y) = true := by
  obtain ⟨s₁, _, hlast⟩ := run_append.mp h
  rw [setValue] at hlast
  split at hlast
  · rename_i hsame
    cases hlast
    rcases find_congr hsame name with ⟨hval, _⟩ | ⟨x', y, hx', hy, hxy⟩
    · rw [show val.find name = none from hval] at hx
      cases hx
    · rw [show val.find name = some x' from hx'] at hx
      cases hx
      exact ⟨y, hy, hxy⟩
  · obtain ⟨loggers, _, rfl⟩ := Option.map_eq_some_iff.mp hlast
    exact ⟨x, hx, logDefine_beq.mpr ⟨rfl, rfl, rfl, beq_self_eq_true _⟩⟩

theorem run_val_none (h : run (values ++ [val]) (Config.start m) = some s) {name : Str}
    (hnone : val.find name = none) : s.val.find name = none := by
  obtain ⟨s₁, _, hlast⟩ := run_append.mp h
  rw [setValue] at hlast
  split at hlast
  · rename_i hsame
    cases hlast
    rcases find_congr hsame name with ⟨_, hold⟩ | ⟨x, y, hx, _, _⟩
    · exact hold
    · rw [show val.find name = some x from hx] at hnone
      cases hnone
  · obtain ⟨loggers, _, rfl⟩ := Option.map_eq_some_iff.mp hlast
    exact hnone

end

/-! ## two sequences -/

/-- an appender as it is used: its class with the file, its level and its pattern -/
def LogAppender.used (a : LogAppender) : AppenderClass × Level × Option Str :=
  (a.cls, a.level, a.formatter.map LogFormatter.pattern)

/-- both loggers are there, with the same level, the same pattern and the same appenders -/
def Agree (a b : Option Logger) : Prop :=
  ∃ l l', a = some l ∧ b = some l' ∧ l.level = l'.level ∧
    l.formatter.pattern = l'.formatter.pattern ∧
    l.appenders.map LogAppender.used = l'.appenders.map LogAppender.used

/-- a logger that was named before the last value, and not by it, writes no event -/
def Silent (values : List LogSet) (val : LogSet) (m : LogManager) : Prop :=
  ∀ name, Named values name → val.find name = none →
    ∀ level ∈ LogLevel.all, m.written (m.getLogger name) level = []

theorem History.silent {m : LogManager} {values : List LogSet} {s : Config} {val : LogSet}
    (h : run (values ++ [val]) (Config.start m) = some s) : Silent values val s.loggers := by
  intro name hnamed hnone level hlevel
  obtain ⟨l, hlogger, hl, _⟩ :=
    (history_run h).removed name (run_val_none h hnone) (named_append.mpr (Or.inl hnamed))
  refine LogManager.written_below _ ?_
  rw [LogManager.getLogger, hlogger, Option.getD_some, hl]
  revert level
  decide

theorem History.last {m : LogManager} {values : List LogSet} {s : Config} {val : LogSet}
    (h : run (values ++ [val]) (Config.start m) = some s) {name : Str} {x : LogDefine}
    (hx : val.find name = some x) :
    ∃ l, s.loggers name = some l ∧ Configured x l ∧
      l.formatter.pattern = lastFormatter (m.patternOf name) (values ++ [val]) name := by
  have hhist := history_run h
  obtain ⟨y, hy, hxy⟩ := run_val h hx
  obtain ⟨l, hlogger, hconf⟩ := hhist.named name y hy
  refine ⟨l, hlogger, hconf.congr hxy, ?_⟩
  rw [← hhist.formatter, patternOf_some hlogger]

/-- **Two sequences that end with the same value leave the same loggers if and only if, in both, each
logger of that value was given the same pattern last.** -/
theorem history_independent_iff {m : LogManager} {values values' : List LogSet} {val : LogSet}
    {s s' : Config} (h : run (values ++ [val]) (Config.start m) = some s)
    (h' : run (values' ++ [val]) (Config.start m) = some s') :
    ((∀ x ∈ val.defines, Agree (s.loggers x.name) (s'.loggers x.name)) ∧
      Silent values val s.loggers ∧ Silent values' val s'.loggers) ↔
      ∀ x ∈ val.defines,
        lastFormatter (m.patternOf x.name) (values ++ [val]) x.name
          = lastFormatter (m.patternOf x.name) (values' ++ [val]) x.name := by
  rw [and_iff_left ⟨History.silent h, History.silent h'⟩]
  refine forall₂_congr fun x hx => ?_
  have hfind := LogSet.find_eq_some.mpr ⟨hx, rfl⟩
  obtain ⟨l, hlogger, hconf, hpattern⟩ := History.last h hfind
  obtain ⟨l', hlogger', hconf', hpattern'⟩ := History.last h' hfind
  rw [← hpattern, ← hpattern', hlogger, hlogger']
  constructor
  · rintro ⟨l₁, l₂, h₁, h₂, _, hsame, _⟩
    cases h₁
    cases h₂
    exact hsame
  · intro hsame
    have hformatter : l.formatter = l'.formatter := by
      cases hl : l.formatter
      cases hl' : l'.formatter
      rw [hl, hl'] at hsame
      exact congrArg LogFormatter.mk hsame
    have happenders : l.appenders = l'.appenders := by
      have hall := hconf.appenders
      rw [hformatter, hconf'.appenders] at hall
      exact (Option.some.inj hall).symm
    exact ⟨l, l', rfl, rfl, hconf.level.trans hconf'.level.symm, hsame, by rw [happenders]⟩

def consoleSet (formatter : Str) : LogSet :=
  ⟨[{ name := asc "system", level := LogLevel.INFO, formatter, appenders := [{ type := 0 }] }],
    List.pairwise_singleton _ _⟩

theorem history_independent_system :
    ∃ s s', run ([consoleSet []] ++ [consoleSet (asc "%m%n")]) (Config.start fun _ => none) = some s ∧
      run ([] ++ [consoleSet (asc "%m%n")]) (Config.start fun _ => none) = some s' ∧
      ∀ x ∈ (consoleSet (asc "%m%n")).defines, Agree (s.loggers x.name) (s'.loggers x.name) := by
  obtain ⟨s, h⟩ := Option.isSome_iff_exists.mp (show (run
    ([consoleSet []] ++ [consoleSet (asc "%m%n")]) (Config.start fun _ => none)).isSome = true by
      decide +kernel)
  obtain ⟨s', h'⟩ := Option.isSome_iff_exists.mp (show (run
    ([] ++ [consoleSet (asc "%m%n")]) (Config.start fun _ => none)).isSome = true by
      decide +kernel)
  exact ⟨s, s', h, h', ((history_independent_iff h h').mpr (by decide +kernel)).1⟩

/-- the pattern `%m%n` stays with a logger whose definition no longer has it -/
theorem history_dependent : ¬ ∀ (m : LogManager) (values values' : List LogSet) (val : LogSet)
    (s s' : Config), run (values ++ [val]) (Config.start m) = some s →
    run (values' ++ [val]) (Config.start m) = some s' →
    (∀ x ∈ val.defines, Agree (s.loggers x.name) (s'.loggers x.name)) ∧
      Silent values val s.loggers ∧ Silent values' val s'.loggers := by
  intro hall
  have hpatterns : ∀ values s, run values (Config.start fun _ => none) = some s →
      s.loggers.patternOf (asc "system")
        = lastFormatter defaultPattern values (asc "system") :=
    fun values s h => (history_run h).formatter (asc "system")
  obtain ⟨s, h⟩ := Option.isSome_iff_exists.mp (show (run
    ([consoleSet (asc "%m%n")] ++ [consoleSet []]) (Config.start fun _ => none)).isSome = true by
      decide +kernel)
  obtain ⟨s', h'⟩ := Option.isSome_iff_exists.mp (show (run
    ([] ++ [consoleSet []]) (Config.start fun _ => none)).isSome = true by decide +kernel)
  obtain ⟨l, l', hl, hl', _, hsame, _⟩ :=
    (hall (fun _ => none) _ _ _ s s' h h').1 _ (List.mem_singleton_self _)
  have hleft := hpatterns _ s h
  have hright := hpatterns _ s' h'
  rw [patternOf_some hl] at hleft
  rw [patternOf_some hl'] at hright
  have hne : lastFormatter defaultPattern ([consoleSet (asc "%m%n")] ++ [consoleSet []]) (asc "system")
      ≠ lastFormatter defaultPattern ([] ++ [consoleSet []]) (asc "system") := by
    decide +kernel
  exact hne (hleft.symm.trans (hsame.trans hright))

end Log
end KitServer
