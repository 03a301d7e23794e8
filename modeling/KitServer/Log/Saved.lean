import KitServer.Lib.Container
import KitServer.Log.Initer

/-!
# The YAML text of a logger

`toYamlString` of a logger and of its appenders, and the logger that a new process makes of that
text.  `lib` is the library that reads and writes YAML; a scalar has no items.

* `Logger.toYamlString`      the text;
* `toLogDefine_text`         what is read from it;
* `attached_makeAppender`    an appender of the new logger;
* `restored_iff`             the loggers that come back as they are;
* `run_restored`             the loggers that a sequence of values of `logs` leaves.
-/

set_option linter.unusedVariables false

namespace KitServer
namespace Log
open Http Yaml LexicalCast

/-! ## the text -/

/-- the pattern that is written: the one of a formatter that was set -/
def LogAppender.ownPattern (a : LogAppender) : Option Str :=
  if a.is_set_formatter then a.formatter.map LogFormatter.pattern else none

/-- `toYamlString` of the two classes, in front of the writer -/
def LogAppender.node (a : LogAppender) : Yaml.Node Str :=
  let level := (asc "level", Yaml.Node.scalar (LogLevel.ToString a.level))
  let formatter := a.ownPattern.toList.map fun pattern =>
    (asc "formatter", Yaml.Node.scalar pattern)
  match a.cls with
  | .stdout =>
    Yaml.Node.fields ((asc "type", .scalar (asc "StdoutLogAppender")) :: level :: formatter)
  | .file filename =>
    Yaml.Node.fields ((asc "type", .scalar (asc "FileLogAppender")) ::
      (asc "file", .scalar filename) :: level :: formatter)

def Logger.node (l : Logger) (appenders : List (Yaml.Node Str)) : Yaml.Node Str :=
  Yaml.Node.fields
    [(asc "name", .scalar l.name), (asc "level", .scalar (LogLevel.ToString l.level)),
      (asc "formatter", .scalar l.formatter.pattern),
      (asc "appender", if appenders.isEmpty then .scalar (asc "NULL") else .sequence appenders)]

section
variable (lib : Library Str)

def LogAppender.toYamlString (a : LogAppender) : Str := lib.emit a.node

def Logger.toYamlString (l : Logger) : Except Thrown Str := do
  let appenders ← l.appenders.mapM fun a => LexicalCast.load lib (a.toYamlString lib)
  pure (lib.emit (l.node appenders))

/-- the text is read, and the listener makes a logger of it in a process that has none of the name;
none is a null pointer -/
def restored (l : Logger) : Except Thrown (Option Logger) := do
  let text ← l.toYamlString lib
  let x ← toLogDefine lib text
  pure (configure { Logger.new x.name with default_root := l.default_root } x)

end

/-! ## the text, read again -/

/-- what is read from the text of an appender -/
def LogAppender.define (a : LogAppender) : LogAppenderDefine where
  type := match a.cls with
    | .stdout => 0
    | .file _ => 1
  name := match a.cls with
    | .stdout => asc "StdoutLogAppender"
    | .file _ => asc "FileLogAppender"
  level := LogLevel.FromString (LogLevel.ToString a.level)
  formatter := a.ownPattern.getD []
  file := match a.cls with
    | .stdout => []
    | .file filename => filename

def Logger.define (l : Logger) : LogDefine where
  name := l.name
  level := LogLevel.FromString (LogLevel.ToString l.level)
  formatter := l.formatter.pattern
  appenders := l.appenders.map LogAppender.define

section
variable {lib : Library Str} (hlib : lib.Lawful)
include hlib

theorem appenderType_text (a : LogAppender) :
    appenderType lib a.node
      = .ok { type := a.define.type, name := a.define.name, file := a.define.file } := by
  obtain ⟨cls, level, formatter, is_set⟩ := a
  cases cls with
  | stdout =>
    have htype : subscript (LogAppender.node ⟨.stdout, level, formatter, is_set⟩) (asc "type")
        = .ok (some (.scalar (asc "StdoutLogAppender"))) := subscript_fields _ _
    have hother : asc "StdoutLogAppender" ≠ asc "FileLogAppender" := by decide
    rw [appenderType, htype, ok_bind]
    dsimp only
    rw [asString_scalar hlib, ok_bind, if_neg hother, if_pos rfl]
    rfl
  | file filename =>
    have htype : subscript (LogAppender.node ⟨.file filename, level, formatter, is_set⟩)
        (asc "type") = .ok (some (.scalar (asc "FileLogAppender"))) := subscript_fields _ _
    have hfile : subscript (LogAppender.node ⟨.file filename, level, formatter, is_set⟩)
        (asc "file") = .ok (some (.scalar filename)) := subscript_fields _ _
    rw [appenderType, htype, ok_bind]
    dsimp only
    rw [asString_scalar hlib, ok_bind, if_pos rfl, hfile, ok_bind]
    dsimp only
    rw [asString_scalar hlib, ok_bind]
    rfl

theorem stringOr_text (a : LogAppender) :
    stringOr lib a.node (asc "level") = .ok (LogLevel.ToString a.level) ∧
      stringOr lib a.node (asc "formatter") = .ok (a.ownPattern.getD []) := by
  constructor
  · apply stringOr_scalar hlib
    rw [LogAppender.node]
    cases a.cls <;> exact subscript_fields _ _
  · cases hown : a.ownPattern with
    | none =>
      have hno : subscript a.node (asc "formatter") = .ok none := by
        rw [LogAppender.node, hown]
        cases a.cls <;> exact subscript_fields _ _
      rw [stringOr, hno]
      rfl
    | some pattern =>
      apply stringOr_scalar hlib
      rw [LogAppender.node, hown]
      cases a.cls <;> exact subscript_fields _ _

theorem toLogAppenderDefine_text (a : LogAppender) :
    toLogAppenderDefine lib (a.toYamlString lib) = .ok a.define := by
  obtain ⟨hlevel, hformatter⟩ := stringOr_text hlib a
  rw [toLogAppenderDefine, LogAppender.toYamlString, load_emit hlib, ok_bind,
    appenderType_text hlib, ok_bind, hlevel, ok_bind, hformatter, ok_bind]
  rfl

theorem mapM_text (as : List LogAppender) :
    as.mapM (fun a => LexicalCast.load lib (a.toYamlString lib))
        = .ok (as.map LogAppender.node) ∧
      ((as.map LogAppender.node).map lib.emit).mapM (toLogAppenderDefine lib)
        = .ok (as.map LogAppender.define) := by
  induction as with
  | nil => exact ⟨rfl, rfl⟩
  | cons a as ih =>
    have hread := toLogAppenderDefine_text hlib a
    rw [LogAppender.toYamlString] at hread
    constructor
    · rw [List.mapM_cons, ih.1, LogAppender.toYamlString, load_emit hlib]
      rfl
    · rw [List.map_cons, List.map_cons, List.mapM_cons, hread, ih.2]
      rfl

theorem appenderList_text (hscalar : ∀ s, lib.items (.scalar s) = []) (l : Logger) :
    appenderList lib (l.node (l.appenders.map LogAppender.node))
      = .ok (l.appenders.map LogAppender.define) := by
  have hfield : ∀ nodes, subscript (l.node nodes) (asc "appender")
      = .ok (some (if nodes.isEmpty then .scalar (asc "NULL") else .sequence nodes)) :=
    fun nodes => subscript_fields _ _
  rw [appenderList, hfield, ok_bind]
  cases happenders : l.appenders with
  | nil =>
    show (lib.items (.scalar (asc "NULL"))).mapM (toLogAppenderDefine lib) = _
    rw [hscalar]
    rfl
  | cons a as =>
    show (lib.items (.sequence ((a :: as).map LogAppender.node))).mapM (toLogAppenderDefine lib) = _
    rw [hlib.items_sequence]
    exact (mapM_text hlib (a :: as)).2

/-- **What is read from the text of a logger.** -/
theorem toLogDefine_text (hscalar : ∀ s, lib.items (.scalar s) = []) (l : Logger) :
    restored lib l
      = .ok (configure { Logger.new l.name with default_root := l.default_root } l.define) := by
  have hname : ∀ nodes, subscript (l.node nodes) (asc "name") = .ok (some (.scalar l.name)) :=
    fun nodes => subscript_fields _ _
  have hlevel : ∀ nodes, subscript (l.node nodes) (asc "level")
      = .ok (some (.scalar (LogLevel.ToString l.level))) := fun nodes => subscript_fields _ _
  have hformatter : ∀ nodes, subscript (l.node nodes) (asc "formatter")
      = .ok (some (.scalar l.formatter.pattern)) := fun nodes => subscript_fields _ _
  have hread : toLogDefine lib (lib.emit (l.node (l.appenders.map LogAppender.node)))
      = .ok l.define := by
    rw [toLogDefine, load_emit hlib, ok_bind, hname, ok_bind]
    dsimp only
    rw [asString_scalar hlib, ok_bind, stringOr_scalar hlib (hlevel _), ok_bind,
      stringOr_scalar hlib (hformatter _), ok_bind, appenderList_text hlib hscalar, ok_bind]
    rfl
  rw [restored, Logger.toYamlString, (mapM_text hlib l.appenders).1, ok_bind]
  show (toLogDefine lib _ >>= _) = _
  rw [hread]
  rfl

end

/-! ## patterns -/

/-- a pattern that a logger and an appender take over -/
def Usable (pattern : Str) : Prop := pattern ≠ [] ∧ (LogFormatter.mk pattern).isError = false

/-- `formatter` where it is usable, and `pattern` otherwise -/
def picked (pattern formatter : Str) : Str :=
  if formatter.isEmpty || (LogFormatter.mk formatter).isError then pattern else formatter

theorem usable_iff {formatter : Str} : Usable formatter ↔
    (formatter.isEmpty || (LogFormatter.mk formatter).isError) = false := by
  rw [Bool.or_eq_false_iff, Usable, List.isEmpty_eq_false_iff]

theorem picked_usable {pattern formatter : Str} (h : Usable pattern) :
    Usable (picked pattern formatter) := by
  rw [picked]
  split
  · exact h
  · next hno => exact usable_iff.mpr (Bool.eq_false_iff.mpr hno)

theorem picked_eq_iff {pattern formatter : Str} (h : Usable pattern) :
    picked pattern formatter = formatter ↔ Usable formatter := by
  constructor
  · intro heq
    rw [← heq]
    exact picked_usable h
  · intro hformatter
    rw [picked, if_neg (Bool.eq_false_iff.mp (usable_iff.mp hformatter))]

theorem defaultPattern_usable : Usable defaultPattern :=
  ⟨by decide, defaultPattern_valid⟩

/-! ## the new logger -/

/-- the class of an appender; none is a null pointer -/
def LogAppenderDefine.class? (k : LogAppenderDefine) : Option AppenderClass :=
  if k.type = 0 then some .stdout else if k.type = 1 then some (.file k.file) else none

/-- **An appender in its logger** has the formatter of its definition where that is usable, and
otherwise the one of the logger; it counts as set in both cases. -/
theorem attached_makeAppender (k : LogAppenderDefine) (f : LogFormatter) :
    (makeAppender k).map (attached f) = k.class?.map fun cls =>
      { cls, level := k.level, formatter := some ⟨picked f.pattern k.formatter⟩
        is_set_formatter := true } := by
  have hset : ∀ cls : AppenderClass,
      attached f (if k.formatter.isEmpty then { cls, level := k.level }
          else if (LogFormatter.mk k.formatter).isError then { cls, level := k.level }
          else LogAppender.setFormatter { cls, level := k.level } (some ⟨k.formatter⟩))
        = { cls, level := k.level, formatter := some ⟨picked f.pattern k.formatter⟩
            is_set_formatter := true } := by
    intro cls
    rw [picked]
    cases k.formatter.isEmpty with
    | true => rfl
    | false => cases (LogFormatter.mk k.formatter).isError <;> rfl
  rw [makeAppender, LogAppenderDefine.class?]
  by_cases h0 : k.type = 0
  · rw [if_pos h0, if_pos h0]
    exact congrArg some (hset .stdout)
  · rw [if_neg h0, if_neg h0]
    by_cases h1 : k.type = 1
    · rw [if_pos h1, if_pos h1]
      exact congrArg some (hset (.file k.file))
    · rw [if_neg h1, if_neg h1]
      rfl

/-- an appender that is told by its text -/
structure LogAppender.Kept (a : LogAppender) : Prop where
  level : LogLevel.FromString (LogLevel.ToString a.level) = a.level
  is_set_formatter : a.is_set_formatter = true
  formatter : ∃ f, a.formatter = some f ∧ Usable f.pattern

theorem LogAppender.class_define (a : LogAppender) : a.define.class? = some a.cls := by
  obtain ⟨cls, level, formatter, is_set⟩ := a
  cases cls <;> rfl

theorem attached_define_iff {f : LogFormatter} (hf : Usable f.pattern) (a : LogAppender) :
    (makeAppender a.define).map (attached f) = some a ↔ a.Kept := by
  rw [attached_makeAppender, a.class_define, Option.map_some, Option.some_inj]
  constructor
  · intro h
    have hset : a.is_set_formatter = true := (congrArg LogAppender.is_set_formatter h).symm
    refine ⟨congrArg LogAppender.level h, hset, _, (congrArg LogAppender.formatter h).symm, ?_⟩
    exact picked_usable hf
  · rintro ⟨hlevel, hset, g, hg, husable⟩
    have hown : a.define.formatter = g.pattern := by
      show a.ownPattern.getD [] = g.pattern
      rw [LogAppender.ownPattern, if_pos hset, hg]
      rfl
    rw [hown, (picked_eq_iff hf).mpr husable]
    obtain ⟨cls, level, formatter, is_set⟩ := a
    cases hset
    cases hg
    show LogAppender.mk cls (LogLevel.FromString (LogLevel.ToString level)) (some g) true = _
    rw [hlevel]

theorem kept_of_make {k : LogAppenderDefine} {f : LogFormatter} {a : LogAppender}
    (hf : Usable f.pattern) (hk : LogLevel.FromString (LogLevel.ToString k.level) = k.level)
    (h : (makeAppender k).map (attached f) = some a) : a.Kept := by
  rw [attached_makeAppender] at h
  obtain ⟨cls, -, rfl⟩ := Option.map_eq_some_iff.mp h
  exact ⟨hk, rfl, _, rfl, picked_usable hf⟩

theorem configure_kept {x : LogDefine} {l l' : Logger} (h : configure l x = some l') :
    l'.name = l.name ∧ l'.default_root = l.default_root := by
  have hadd : ∀ (ks : List LogAppenderDefine) (l l' : Logger),
      ks.foldlM (fun l k => (makeAppender k).map l.addAppender) l = some l' →
      l'.name = l.name ∧ l'.default_root = l.default_root := by
    intro ks
    induction ks with
    | nil =>
      intro l l' h
      cases h
      exact ⟨rfl, rfl⟩
    | cons k ks ih =>
      intro l l' h
      rw [List.foldlM_cons] at h
      obtain ⟨l₁, h₁, hrest⟩ := Option.bind_eq_some_iff.mp h
      obtain ⟨a, -, rfl⟩ := Option.map_eq_some_iff.mp h₁
      have hlast := ih _ _ hrest
      exact hlast
  have hlast := hadd _ _ _ h
  rw [hlast.1, hlast.2]
  cases x.formatter.isEmpty with
  | true => exact ⟨rfl, rfl⟩
  | false =>
    show ((l.setLevel x.level).setFormatter x.formatter).name = l.name ∧
      ((l.setLevel x.level).setFormatter x.formatter).default_root = l.default_root
    rw [Logger.setFormatter]
    split <;> exact ⟨rfl, rfl⟩

theorem configure_some {x : LogDefine} (h : ∀ k ∈ x.appenders, k.class?.isSome) (l : Logger) :
    ∃ l', configure l x = some l' := by
  have hadd : ∀ (ks : List LogAppenderDefine), (∀ k ∈ ks, k.class?.isSome) → ∀ l : Logger,
      ∃ l', ks.foldlM (fun l k => (makeAppender k).map l.addAppender) l = some l' := by
    intro ks
    induction ks with
    | nil => exact fun _ l => ⟨l, rfl⟩
    | cons k ks ih =>
      intro hks l
      obtain ⟨hk, hks⟩ := List.forall_mem_cons.mp hks
      have hmake : ∃ a, makeAppender k = some a := by
        obtain ⟨cls, hcls⟩ := Option.isSome_iff_exists.mp hk
        have hattached := attached_makeAppender k ⟨[]⟩
        rw [hcls] at hattached
        obtain ⟨a, ha, -⟩ := Option.map_eq_some_iff.mp hattached
        exact ⟨a, ha⟩
      obtain ⟨a, ha⟩ := hmake
      rw [List.foldlM_cons, ha]
      exact ih hks (l.addAppender a)
  exact hadd x.appenders h _

theorem mapM_map_self {α β : Type} (f : β → Option α) (g : α → β) (as : List α) :
    (as.map g).mapM f = some as ↔ ∀ a ∈ as, f (g a) = some a := by
  rw [mapM_map, mapM_eq_some, List.forall₂_same]

/-! ## the loggers that come back -/

/-- a logger that is told by its text -/
structure Logger.Kept (l : Logger) : Prop where
  level : LogLevel.FromString (LogLevel.ToString l.level) = l.level
  formatter : Usable l.formatter.pattern
  appenders : ∀ a ∈ l.appenders, a.Kept

section
variable {lib : Library Str} (hlib : lib.Lawful) (hscalar : ∀ s, lib.items (.scalar s) = [])
include hlib hscalar

/-- **A logger comes back as it is** if its level and those of its appenders have a name, its
pattern is usable, and each appender has a formatter that was set and is usable; and only then. -/
theorem restored_iff (l : Logger) : restored lib l = .ok (some l) ↔ l.Kept := by
  rw [toLogDefine_text hlib hscalar, Except.ok.injEq]
  constructor
  · intro h
    obtain ⟨hconf, hpattern⟩ := configure_spec h
    have husable : Usable l.formatter.pattern := by
      rw [hpattern]
      exact picked_usable defaultPattern_usable
    refine ⟨hconf.level.symm, husable, fun a ha => ?_⟩
    exact (attached_define_iff husable a).mp ((mapM_map_self _ _ _).mp hconf.appenders a ha)
  · intro h
    have hclass : ∀ k ∈ l.define.appenders, k.class?.isSome := by
      intro k hk
      obtain ⟨a, -, rfl⟩ := List.mem_map.mp hk
      rw [a.class_define]
      rfl
    obtain ⟨l', hl'⟩ := configure_some hclass
      { Logger.new l.name with default_root := l.default_root }
    obtain ⟨hname, hroot⟩ := configure_kept hl'
    obtain ⟨hconf, hpattern⟩ := configure_spec hl'
    have hformatter : l'.formatter.pattern = l.formatter.pattern :=
      hpattern.trans ((picked_eq_iff defaultPattern_usable).mpr h.formatter)
    have happenders : l'.appenders = l.appenders := by
      have husable : Usable l'.formatter.pattern := by
        rw [hformatter]
        exact h.formatter
      have hall := (mapM_map_self (fun k => (makeAppender k).map (attached l'.formatter))
        LogAppender.define l.appenders).mpr fun a ha =>
          (attached_define_iff husable a).mpr (h.appenders a ha)
      exact Option.some.inj (hconf.appenders.symm.trans hall)
    rw [hl']
    obtain ⟨name, level, appenders, ⟨pattern⟩, default_root⟩ := l
    obtain ⟨name', level', appenders', ⟨pattern'⟩, default_root'⟩ := l'
    have hlevel : level' = level := hconf.level.trans h.level
    cases hname
    cases hroot
    cases hlevel
    cases hformatter
    cases happenders
    rfl

end

/-! ## sequences of values -/

theorem lastFormatter_usable {pattern : Str} (h : Usable pattern) (values : List LogSet)
    (name : Str) : Usable (lastFormatter pattern values name) := by
  induction values using List.reverseRecOn with
  | nil => exact h
  | append_singleton values v ih =>
    rw [lastFormatter_append]
    cases v.find name with
    | none => exact ih
    | some x => exact picked_usable ih

theorem run_mem {m : LogManager} {values : List LogSet} {s : Config}
    (h : run values (Config.start m) = some s) : s.val = LogSet.empty ∨ s.val ∈ values := by
  induction values using List.reverseRecOn generalizing s with
  | nil =>
    cases h
    exact .inl rfl
  | append_singleton values v ih =>
    obtain ⟨s₁, h₁, hlast⟩ := run_append.mp h
    rw [setValue] at hlast
    split at hlast
    · cases hlast
      exact (ih h₁).imp_right fun hmem => List.mem_append_left _ hmem
    · obtain ⟨loggers, -, rfl⟩ := Option.map_eq_some_iff.mp hlast
      exact .inr (List.mem_append_right _ (List.mem_singleton_self v))

theorem configure_isSome {x : LogDefine} (h : ∀ k ∈ x.appenders, Parsed k) (l : Logger) :
    (configure l x).isSome = true := by
  refine foldlM_isSome (fun k hk l => ?_) _
  have hmake : (makeAppender k).isSome = true := by
    rcases (h k hk).type with htype | htype <;> simp [makeAppender, htype]
  rw [Option.isSome_map]
  exact hmake

theorem run_isSome {values : List LogSet}
    (h : ∀ v ∈ values, ∀ x ∈ v.defines, ∀ k ∈ x.appenders, Parsed k) (s : Config) :
    (run values s).isSome = true := by
  refine foldlM_isSome (fun v hv s => ?_) s
  unfold setValue
  split
  · rfl
  rw [Option.isSome_map, listener, Option.isSome_map]
  refine foldlM_isSome (fun x hx m => ?_) _
  rw [Option.isSome_map]
  unfold applyDefine
  split
  · rfl
  · rw [Option.isSome_map]
    exact configure_isSome (h v hv x hx) _

/-- **Whatever values the variable was set to, the text of each logger that it names makes that
logger again in a new process**, with the patterns that earlier values left in it. -/
theorem run_restored {lib : Library Str} (hlib : lib.Lawful)
    (hscalar : ∀ s, lib.items (.scalar s) = []) {m : LogManager} {values : List LogSet}
    (hm : ∀ name, Usable (m.patternOf name))
    (hvalues : ∀ v ∈ values, ∀ x ∈ v.defines, ∃ val, toLogDefine lib val = .ok x) :
    ∃ s, run values (Config.start m) = some s ∧ ∀ name x, s.val.find name = some x →
      ∃ l, s.loggers name = some l ∧ restored lib l = .ok (some l) := by
  have hparsed (v : LogSet) (hv : v ∈ values) (x : LogDefine) (hx : x ∈ v.defines) :
      LogLevel.FromString (LogLevel.ToString x.level) = x.level ∧ ∀ k ∈ x.appenders, Parsed k := by
    obtain ⟨val, hval⟩ := hvalues v hv x hx
    exact toLogDefine_parsed hval
  obtain ⟨s, h⟩ := Option.isSome_iff_exists.mp
    (run_isSome (fun v hv x hx => (hparsed v hv x hx).2) (Config.start m))
  refine ⟨s, h, fun name x hx => ?_⟩
  have hhist := history_run h
  obtain ⟨l, hl, hconf⟩ := hhist.named name x hx
  have husable : Usable l.formatter.pattern := by
    rw [← patternOf_some hl, hhist.formatter]
    exact lastFormatter_usable (hm name) values name
  have hmem : x ∈ s.val.defines := (LogSet.find_eq_some.mp hx).1
  obtain ⟨hlevel, happenders⟩ : LogLevel.FromString (LogLevel.ToString x.level) = x.level ∧
      ∀ k ∈ x.appenders, Parsed k := by
    rcases run_mem h with hempty | hin
    · rw [hempty] at hmem
      cases hmem
    · exact hparsed _ hin x hmem
  refine ⟨l, hl, (restored_iff hlib hscalar l).mpr ⟨?_, husable, fun a ha => ?_⟩⟩
  · rw [hconf.level]
    exact hlevel
  · obtain ⟨k, hk, hmake⟩ := exists_of_mapM hconf.appenders ha
    exact kept_of_make husable (happenders k hk).level hmake

/-- the value of the variable is `rootDefine` -/
theorem run_restored_root :
    ∃ s, run [⟨[rootDefine], List.pairwise_singleton _ _⟩] (Config.start fun _ => none) = some s ∧
      ∀ name x, s.val.find name = some x →
        ∃ l, s.loggers name = some l ∧ restored blockStyle l = .ok (some l) := by
  refine run_restored (m := fun _ => none) blockStyle_lawful (fun _ => rfl)
    (fun _ => defaultPattern_usable) fun v hv x hx => ?_
  rw [List.mem_singleton.mp hv, List.mem_singleton] at hx
  exact ⟨rootText, hx ▸ toLogDefine_rootText⟩

end Log
end KitServer
