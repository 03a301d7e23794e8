import KitServer.Http.Servlet
import KitServer.Lib.YamlText

/-!
# `LogDefine` and `LogAppenderDefine`

What the variable `logs` holds, and its text.

* `LogLevel`                        the levels and their names;
* `LexicalCast.toLogAppenderDefine`, `LexicalCast.ofLogAppenderDefine`  an appender from its text, and
  its text;
* `LexicalCast.toLogDefine`, `LexicalCast.ofLogDefine`                  a logger from its text, and its
  text;
* `roundTrip_parsed`                what is read back from the text of a logger;
* `roundTrip_iff`                   the loggers that are read back unchanged.

`lib` is the library that reads and writes YAML.
-/

set_option linter.unusedVariables false

namespace KitServer
namespace Log
open Http Yaml

/-- a `LogLevel::Level`, or a number that is cast to it -/
abbrev Level := Nat

namespace LogLevel

def UNKNOW : Level := 0
def DEBUG : Level := 1
def INFO : Level := 2
def WARN : Level := 3
def ERROR : Level := 4
def FATAL : Level := 5

def ToString (level : Level) : Str :=
  if level = DEBUG then asc "DEBUG"
  else if level = INFO then asc "INFO"
  else if level = WARN then asc "WARN"
  else if level = FATAL then asc "FATAL"
  else if level = ERROR then asc "ERROR"
  else asc "UNKNOW"

def FromString (val : Str) : Level :=
  if strcasecmpEq val (asc "DEBUG") then DEBUG
  else if strcasecmpEq val (asc "INFO") then INFO
  else if strcasecmpEq val (asc "WARN") then WARN
  else if strcasecmpEq val (asc "FATAL") then FATAL
  else if strcasecmpEq val (asc "ERROR") then ERROR
  else UNKNOW

theorem fromString_toString (val : Str) : FromString (ToString (FromString val)) = FromString val := by
  have hlevel : FromString val ∈ [DEBUG, INFO, WARN, FATAL, ERROR, UNKNOW] := by
    unfold FromString
    split_ifs <;> simp
  have hall : ∀ level ∈ [DEBUG, INFO, WARN, FATAL, ERROR, UNKNOW],
      FromString (ToString level) = level := by decide
  exact hall _ hlevel

end LogLevel

/-- `type` is 0 for `StdoutLogAppender`, 1 for `FileLogAppender` -/
structure LogAppenderDefine where
  type : Int := -1
  name : Str := []
  level : Level := LogLevel.UNKNOW
  formatter : Str := []
  file : Str := []
deriving DecidableEq

/-- `operator==`, which does not look at the name -/
instance : BEq LogAppenderDefine where
  beq a d := a.type = d.type && a.level = d.level && a.formatter = d.formatter && a.file = d.file

structure LogDefine where
  name : Str := []
  level : Level := LogLevel.UNKNOW
  formatter : Str := []
  appenders : List LogAppenderDefine := []
deriving DecidableEq

/-- `operator==` -/
instance : BEq LogDefine where
  beq a d :=
    a.name = d.name && a.level = d.level && a.formatter = d.formatter && a.appenders == d.appenders

/-- what is thrown: an exception of the library, or a `std::logic_error` -/
inductive Thrown where
  | yaml
  | logic (what : Str)
deriving DecidableEq

namespace LexicalCast
variable (lib : Library Str)

/-! ## from the text -/

def load (val : Str) : Except Thrown (Yaml.Node Str) := (lib.load val).elim (.error .yaml) .ok

/-- `node[key]`, if it is defined -/
def subscript (node : Yaml.Node Str) (key : Str) : Except Thrown (Option (Yaml.Node Str)) :=
  (node.get key).elim (.error .yaml) .ok

def asString (node : Yaml.Node Str) : Except Thrown Str := (lib.asString node).elim (.error .yaml) .ok

/-- `node[key].IsDefined() ? node[key].as<std::string>() : ""` -/
def stringOr (node : Yaml.Node Str) (key : Str) : Except Thrown Str := do
  match ← subscript node key with
  | some n => asString lib n
  | none => pure []

/-- the name, the type and the file -/
def appenderType (node : Yaml.Node Str) : Except Thrown LogAppenderDefine := do
  match ← subscript node (asc "type") with
  | none => throw (.logic (asc "LogAppender name is NULL"))
  | some n =>
    let name ← asString lib n
    if name = asc "FileLogAppender" then
      match ← subscript node (asc "file") with
      | none => throw (.logic (asc "LogAppender file is NULL"))
      | some n =>
        let file ← asString lib n
        pure { type := 1, name, file }
    else if name = asc "StdoutLogAppender" then pure { type := 0, name }
    else throw (.logic (asc "LogAppender type is invaild"))

/-- `LexicalCast<std::string, LogAppenderDefine>` -/
def toLogAppenderDefine (val : Str) : Except Thrown LogAppenderDefine := do
  let node ← load lib val
  let p ← appenderType lib node
  let level ← stringOr lib node (asc "level")
  let formatter ← stringOr lib node (asc "formatter")
  pure { p with level := LogLevel.FromString level, formatter }

/-- the loop over `node["appender"]` -/
def appenderList (node : Yaml.Node Str) : Except Thrown (List LogAppenderDefine) := do
  match ← subscript node (asc "appender") with
  | none => pure []
  | some n => (lib.items n).mapM (toLogAppenderDefine lib)

/-- `LexicalCast<std::string, LogDefine>` -/
def toLogDefine (val : Str) : Except Thrown LogDefine := do
  let node ← load lib val
  match ← subscript node (asc "name") with
  | none => throw (.logic (asc "Logger name is NULL"))
  | some n =>
    let name ← asString lib n
    let level ← stringOr lib node (asc "level")
    let formatter ← stringOr lib node (asc "formatter")
    let appenders ← appenderList lib node
    pure { name, level := LogLevel.FromString level, formatter, appenders }

/-! ## to the text -/

/-- the `switch` over the type -/
def typeString (type : Int) : Str :=
  if type = 0 then asc "FileLogAppender"
  else if type = 1 then asc "StdoutLogAppender"
  else []

def appenderNode (p : LogAppenderDefine) : Yaml.Node Str :=
  Yaml.Node.fields
    [(asc "type", .scalar (typeString p.type)), (asc "level", .scalar (LogLevel.ToString p.level)),
      (asc "formatter", .scalar p.formatter), (asc "file", .scalar p.file)]

/-- `LexicalCast<LogAppenderDefine, std::string>` -/
def ofLogAppenderDefine (p : LogAppenderDefine) : Str := lib.emit (appenderNode p)

/-- the node of a logger with the nodes of its appenders -/
def loggerNode (p : LogDefine) (appenders : List (Yaml.Node Str)) : Yaml.Node Str :=
  Yaml.Node.fields
    ([(asc "name", .scalar p.name), (asc "level", .scalar (LogLevel.ToString p.level)),
      (asc "formatter", .scalar p.formatter)]
      ++ if appenders.isEmpty then [] else [(asc "appender", .sequence appenders)])

/-- `LexicalCast<LogDefine, std::string>` -/
def ofLogDefine (p : LogDefine) : Except Thrown Str := do
  let appenders ← p.appenders.mapM fun a => load lib (ofLogAppenderDefine lib a)
  pure (lib.emit (loggerNode p appenders))

/-- the text of a logger, read again -/
def roundTrip (d : LogDefine) : Except Thrown LogDefine := do
  let text ← ofLogDefine lib d
  toLogDefine lib text

/-! ## what was read -/

/-- what is read back from the text of an appender: the types are exchanged, and a file is lost -/
def swapped (a : LogAppenderDefine) : LogAppenderDefine :=
  if a.type = 0 then { a with type := 1, name := asc "FileLogAppender" }
  else { a with type := 0, name := asc "StdoutLogAppender", file := [] }

/-- an appender that was read from a text -/
structure Parsed (a : LogAppenderDefine) : Prop where
  type : a.type = 0 ∨ a.type = 1
  level : LogLevel.FromString (LogLevel.ToString a.level) = a.level

variable {lib}

theorem bind_ok {α β : Type} {x : Except Thrown α} {f : α → Except Thrown β} {b : β}
    (h : (x >>= f) = .ok b) : ∃ a, x = .ok a ∧ f a = .ok b := by
  cases x with
  | error e => cases h
  | ok a => exact ⟨a, rfl, h⟩

theorem ok_bind {α β : Type} (a : α) (f : α → Except Thrown β) : (Except.ok a >>= f) = f a := rfl

theorem appenderType_parsed {node : Yaml.Node Str} {p : LogAppenderDefine}
    (h : appenderType lib node = .ok p) : p.type = 0 ∨ p.type = 1 := by
  obtain ⟨type, _, h⟩ := bind_ok h
  cases type with
  | none => cases h
  | some n =>
    obtain ⟨name, _, h⟩ := bind_ok h
    split at h
    · obtain ⟨file, _, h⟩ := bind_ok h
      cases file with
      | none => cases h
      | some n =>
        obtain ⟨file, _, h⟩ := bind_ok h
        cases h
        exact Or.inr rfl
    split at h
    · cases h
      exact Or.inl rfl
    · cases h

theorem toLogAppenderDefine_parsed {val : Str} {a : LogAppenderDefine}
    (h : toLogAppenderDefine lib val = .ok a) : Parsed a := by
  obtain ⟨node, _, h⟩ := bind_ok h
  obtain ⟨p, hp, h⟩ := bind_ok h
  obtain ⟨level, _, h⟩ := bind_ok h
  obtain ⟨formatter, _, h⟩ := bind_ok h
  cases h
  exact ⟨appenderType_parsed (p := p) hp, LogLevel.fromString_toString level⟩

theorem mapM_parsed {vals : List Str} {as : List LogAppenderDefine}
    (h : vals.mapM (toLogAppenderDefine lib) = .ok as) : ∀ a ∈ as, Parsed a := by
  induction vals generalizing as with
  | nil =>
    cases h
    intro a ha
    cases ha
  | cons val vals ih =>
    rw [List.mapM_cons] at h
    obtain ⟨a, ha, h⟩ := bind_ok h
    obtain ⟨rest, hrest, h⟩ := bind_ok h
    cases h
    exact List.forall_mem_cons.mpr ⟨toLogAppenderDefine_parsed ha, ih hrest⟩

theorem toLogDefine_parsed {val : Str} {d : LogDefine} (h : toLogDefine lib val = .ok d) :
    LogLevel.FromString (LogLevel.ToString d.level) = d.level ∧ ∀ a ∈ d.appenders, Parsed a := by
  obtain ⟨node, _, h⟩ := bind_ok h
  obtain ⟨name, _, h⟩ := bind_ok h
  cases name with
  | none => cases h
  | some n =>
    obtain ⟨name, _, h⟩ := bind_ok h
    obtain ⟨level, _, h⟩ := bind_ok h
    obtain ⟨formatter, _, h⟩ := bind_ok h
    obtain ⟨appenders, happenders, h⟩ := bind_ok h
    cases h
    refine ⟨LogLevel.fromString_toString level, ?_⟩
    obtain ⟨node, _, hlist⟩ := bind_ok happenders
    cases node with
    | none =>
      cases hlist
      intro a ha
      cases ha
    | some n => exact mapM_parsed hlist

/-! ## the text, read again -/

theorem load_emit (hlib : lib.Lawful) (n : Yaml.Node Str) : load lib (lib.emit n) = .ok n := by
  rw [load, hlib.load_emit]
  rfl

theorem asString_scalar (hlib : lib.Lawful) (s : Str) : asString lib (.scalar s) = .ok s := by
  rw [asString, hlib.asString_scalar]
  rfl

theorem subscript_fields (kvs : List (Str × Yaml.Node Str)) (key : Str) :
    subscript (Yaml.Node.fields kvs) key = .ok ((kvs.find? fun kv => kv.1 = key).map Prod.snd) := by
  rw [subscript, Yaml.Node.get_fields]
  rfl

theorem stringOr_scalar (hlib : lib.Lawful) {node : Yaml.Node Str} {key s : Str}
    (h : subscript node key = .ok (some (.scalar s))) : stringOr lib node key = .ok s := by
  rw [stringOr, h]
  exact asString_scalar hlib s

theorem subscript_appenderNode (a : LogAppenderDefine) :
    subscript (appenderNode a) (asc "type") = .ok (some (.scalar (typeString a.type))) ∧
      subscript (appenderNode a) (asc "level")
        = .ok (some (.scalar (LogLevel.ToString a.level))) ∧
      subscript (appenderNode a) (asc "formatter") = .ok (some (.scalar a.formatter)) ∧
      subscript (appenderNode a) (asc "file") = .ok (some (.scalar a.file)) := by
  refine ⟨?_, ?_, ?_, ?_⟩ <;> rw [appenderNode, subscript_fields] <;> rfl

theorem appenderType_node (hlib : lib.Lawful) {a : LogAppenderDefine} (ha : Parsed a) :
    appenderType lib (appenderNode a)
      = .ok { type := (swapped a).type, name := (swapped a).name, file := (swapped a).file } := by
  obtain ⟨htype, _, _, hfile⟩ := subscript_appenderNode a
  rw [appenderType, htype, ok_bind]
  dsimp only
  rw [asString_scalar hlib, ok_bind]
  rcases ha.type with h0 | h1
  · have hname : typeString a.type = asc "FileLogAppender" := by
      rw [h0]
      rfl
    rw [hname, if_pos rfl, hfile, ok_bind]
    dsimp only
    rw [asString_scalar hlib, ok_bind, swapped, if_pos h0]
    rfl
  · have hname : typeString a.type = asc "StdoutLogAppender" := by
      rw [h1]
      rfl
    have hother : asc "StdoutLogAppender" ≠ asc "FileLogAppender" := by decide
    have hne : ¬ a.type = 0 := by omega
    rw [hname, if_neg hother, if_pos rfl, swapped, if_neg hne]
    rfl

/-- **An appender comes back with the other type**, and without its file if it had one. -/
theorem toLogAppenderDefine_of (hlib : lib.Lawful) {a : LogAppenderDefine} (ha : Parsed a) :
    toLogAppenderDefine lib (ofLogAppenderDefine lib a) = .ok (swapped a) := by
  obtain ⟨_, hlevel, hformatter, _⟩ := subscript_appenderNode a
  rw [toLogAppenderDefine, ofLogAppenderDefine, load_emit hlib, ok_bind,
    appenderType_node hlib ha, ok_bind, stringOr_scalar hlib hlevel, ok_bind,
    stringOr_scalar hlib hformatter, ok_bind, ha.level]
  rcases ha.type with h0 | h1
  · rw [swapped, if_pos h0]
    rfl
  · have hne : ¬ a.type = 0 := by omega
    rw [swapped, if_neg hne]
    rfl

theorem subscript_loggerNode (d : LogDefine) (appenders : List (Yaml.Node Str)) :
    subscript (loggerNode d appenders) (asc "name") = .ok (some (.scalar d.name)) ∧
      subscript (loggerNode d appenders) (asc "level")
        = .ok (some (.scalar (LogLevel.ToString d.level))) ∧
      subscript (loggerNode d appenders) (asc "formatter") = .ok (some (.scalar d.formatter)) ∧
      subscript (loggerNode d appenders) (asc "appender")
        = .ok (if appenders.isEmpty then none else some (.sequence appenders)) := by
  cases appenders with
  | nil => refine ⟨?_, ?_, ?_, ?_⟩ <;> rw [loggerNode, subscript_fields] <;> rfl
  | cons n ns => refine ⟨?_, ?_, ?_, ?_⟩ <;> rw [loggerNode, subscript_fields] <;> rfl

theorem mapM_load (hlib : lib.Lawful) (as : List LogAppenderDefine) :
    as.mapM (fun a => load lib (ofLogAppenderDefine lib a)) = .ok (as.map appenderNode) := by
  induction as with
  | nil => rfl
  | cons a as ih =>
    rw [List.mapM_cons, ih, ofLogAppenderDefine, load_emit hlib]
    rfl

theorem mapM_of (hlib : lib.Lawful) {as : List LogAppenderDefine} (h : ∀ a ∈ as, Parsed a) :
    ((as.map appenderNode).map lib.emit).mapM (toLogAppenderDefine lib)
      = .ok (as.map swapped) := by
  induction as with
  | nil => rfl
  | cons a as ih =>
    obtain ⟨ha, has⟩ := List.forall_mem_cons.mp h
    have hread := toLogAppenderDefine_of hlib ha
    rw [ofLogAppenderDefine] at hread
    rw [List.map_cons, List.map_cons, List.mapM_cons, hread, ih has]
    rfl

theorem appenderList_node (hlib : lib.Lawful) {d : LogDefine} (h : ∀ a ∈ d.appenders, Parsed a) :
    appenderList lib (loggerNode d (d.appenders.map appenderNode))
      = .ok (d.appenders.map swapped) := by
  obtain ⟨_, _, _, happender⟩ := subscript_loggerNode d (d.appenders.map appenderNode)
  rw [appenderList, happender]
  cases hd : d.appenders with
  | nil => rfl
  | cons a as =>
    rw [hd] at h
    show (lib.items (.sequence ((a :: as).map appenderNode))).mapM (toLogAppenderDefine lib) = _
    rw [hlib.items_sequence]
    exact mapM_of hlib h

/-- **What a logger is read back as**: itself, with each appender exchanged. -/
theorem roundTrip_parsed (hlib : lib.Lawful) {val : Str} {d : LogDefine}
    (hd : toLogDefine lib val = .ok d) :
    roundTrip lib d = .ok { d with appenders := d.appenders.map swapped } := by
  obtain ⟨hback, hparsed⟩ := toLogDefine_parsed hd
  obtain ⟨hname, hlevel, hformatter, _⟩ := subscript_loggerNode d (d.appenders.map appenderNode)
  have htext : ofLogDefine lib d
      = .ok (lib.emit (loggerNode d (d.appenders.map appenderNode))) := by
    rw [ofLogDefine, mapM_load hlib]
    rfl
  rw [roundTrip, htext, ok_bind, toLogDefine, load_emit hlib, ok_bind, hname, ok_bind]
  dsimp only
  rw [asString_scalar hlib, ok_bind, stringOr_scalar hlib hlevel, ok_bind,
    stringOr_scalar hlib hformatter, ok_bind, appenderList_node hlib hparsed, ok_bind, hback]
  rfl

theorem swapped_ne {a : LogAppenderDefine} (ha : Parsed a) : (swapped a == a) = false := by
  have htype : (swapped a).type ≠ a.type := by
    rcases ha.type with h0 | h1
    · rw [swapped, if_pos h0, h0]
      exact one_ne_zero
    · have hne : ¬ a.type = 0 := by omega
      rw [swapped, if_neg hne, h1]
      exact zero_ne_one
  show (decide ((swapped a).type = a.type) && _ && _ && _) = false
  rw [decide_eq_false htype]
  rfl

/-- **The loggers that are read back unchanged are those without an appender.** -/
theorem roundTrip_iff (hlib : lib.Lawful) {val : Str} {d : LogDefine}
    (hd : toLogDefine lib val = .ok d) :
    (∃ d', roundTrip lib d = .ok d' ∧ (d' == d) = true) ↔ d.appenders = [] := by
  rw [roundTrip_parsed hlib hd]
  obtain ⟨_, hparsed⟩ := toLogDefine_parsed hd
  constructor
  · rintro ⟨d', h, heq⟩
    cases h
    change (_ && (d.appenders.map swapped == d.appenders)) = true at heq
    cases hlist : d.appenders with
    | nil => rfl
    | cons a as =>
      rw [hlist] at heq hparsed
      have hne := swapped_ne (List.forall_mem_cons.mp hparsed).1
      change (_ && ((swapped a == a) && _)) = true at heq
      rw [hne, Bool.false_and, Bool.and_false] at heq
      cases heq
  · intro hnil
    refine ⟨_, rfl, ?_⟩
    show (decide (d.name = d.name) && decide (d.level = d.level)
      && decide (d.formatter = d.formatter) && (d.appenders.map swapped == d.appenders)) = true
    rw [hnil]
    simp

/-- a logger that prints to the console -/
def rootText : Str := asc "name: root\nappender:\n  - type: StdoutLogAppender"

def rootDefine : LogDefine :=
  { name := asc "root"
    appenders := [{ type := 0, name := asc "StdoutLogAppender" }] }

theorem toLogDefine_rootText : toLogDefine blockStyle rootText = .ok rootDefine := by decide +kernel

theorem roundTrip_iff_root :
    (∃ d', roundTrip blockStyle rootDefine = .ok d' ∧ (d' == rootDefine) = true) ↔
      rootDefine.appenders = [] :=
  roundTrip_iff blockStyle_lawful toLogDefine_rootText

/-- the console of `root` is read back as the file with the empty name -/
theorem roundTrip_root : ¬ ∀ lib : Library Str, lib.Lawful → ∀ val d,
    toLogDefine lib val = .ok d → ∃ d', roundTrip lib d = .ok d' ∧ (d' == d) = true := by
  intro h
  obtain ⟨d', hback, heq⟩ := h blockStyle blockStyle_lawful rootText rootDefine toLogDefine_rootText
  have hswapped : roundTrip blockStyle rootDefine = .ok
      { rootDefine with
        appenders := [{ type := 1, name := asc "FileLogAppender" }] } := by
    decide +kernel
  rw [hswapped] at hback
  cases hback
  revert heq
  decide

end LexicalCast
end Log
end KitServer
