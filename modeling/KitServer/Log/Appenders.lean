import KitServer.Lib.Machine
import KitServer.Log.Logger

/-!
# The appenders of a logger as objects

`Log.Logger` has the appenders of a logger by their values.  A logger has pointers to them: an
appender that was deleted is still there, with its formatter, and can be added again.

* `Objects`        a logger, and the appenders that pointers lead to;
* `Objects.toLogger` the logger by value;
* `calls`          the machine of the calls on the logger;
* `Kept`           every appender of the logger has its own formatter, or that of the logger;
* `Call.Fits`      the calls that keep it.

The flag of an appender is raised by every formatter that it gets, so behind every run the flags of
all the appenders of a logger are raised (`Inv`), and `setFormatter` of the logger changes none of
them (`Inv.setFormatter_heap`).
-/

set_option linter.unusedVariables false

namespace KitServer
namespace Log
open Http

/-- a logger, and the appenders by their addresses -/
structure Objects where
  heap : Nat → LogAppender
  appenders : List Nat
  formatter : LogFormatter

namespace Objects
variable (s : Objects)

/-- an appender without a formatter gets that of the logger -/
def addAppender (appender : Nat) : Objects :=
  { s with
    heap :=
      if (s.heap appender).formatter.isNone then
        Function.update s.heap appender ((s.heap appender).setFormatter (some s.formatter))
      else s.heap
    appenders := s.appenders ++ [appender] }

/-- the list has no entry to erase if the appender is not in it, and what happens is undefined -/
def delAppender (appender : Nat) : Option Objects :=
  if appender ∈ s.appenders then some { s with appenders := s.appenders.erase appender } else none

def clearAppender : Objects := { s with appenders := [] }

/-- a round of the loop of `setFormatter` -/
def setRound (new_value : LogFormatter) (heap : Nat → LogAppender) (x : Nat) :
    Nat → LogAppender :=
  if (heap x).is_set_formatter then heap
  else Function.update heap x ((heap x).setFormatter (some new_value))

/-- nothing is set if the pattern has an error -/
def setFormatter (val : Str) : Objects :=
  let new_value : LogFormatter := ⟨val⟩
  if new_value.isError then s
  else
    { s with
      formatter := new_value
      heap := s.appenders.foldl (setRound new_value) s.heap }

/-- the logger `l` with these appenders -/
def toLogger (l : Logger) : Logger :=
  { l with appenders := s.appenders.map s.heap, formatter := s.formatter }

end Objects

inductive Call where
  | addAppender (appender : Nat)
  | delAppender (appender : Nat)
  | clearAppender
  | setFormatter (val : Str)

def Call.run (s : Objects) : Call → Option Objects
  | .addAppender a => some (s.addAppender a)
  | .delAppender a => s.delAppender a
  | .clearAppender => some s.clearAppender
  | .setFormatter val => some (s.setFormatter val)

/-- the calls on a logger; there is no state behind one that is undefined -/
def calls : Machine (Option Objects) Call where
  guard := fun _ _ => True
  effect := fun o c => o.bind c.run

/-- a logger without appenders, and the appenders that will be added to it: those of their own
formatter have it from `given` -/
def start (made : Nat → AppenderClass × Level) (given : Nat → Option LogFormatter)
    (formatter : LogFormatter) : Objects where
  heap := fun p =>
    let new : LogAppender := { cls := (made p).1, level := (made p).2 }
    (given p).elim new fun f => new.setFormatter (some f)
  appenders := []
  formatter := formatter

section
variable (given : Nat → Option LogFormatter)

/-- every appender of the logger has its own formatter, or that of the logger -/
def Kept : Option Objects → Prop
  | none => False
  | some s => ∀ p ∈ s.appenders, (s.heap p).formatter = some ((given p).getD s.formatter)

/-- an appender without its own formatter is added with none or the logger's, and when the formatter
of the logger changes, no such appender is there -/
def Call.Fits (s : Objects) : Call → Prop
  | .addAppender a =>
    given a = none → (s.heap a).formatter = none ∨ (s.heap a).formatter = some s.formatter
  | .delAppender a => a ∈ s.appenders
  | .clearAppender => True
  | .setFormatter val =>
    (LogFormatter.mk val).isError = true ∨ s.formatter = ⟨val⟩ ∨
      ∀ p ∈ s.appenders, given p ≠ none

structure Inv (s : Objects) : Prop where
  own : ∀ p f, given p = some f → (s.heap p).formatter = some f
  flag : ∀ p, (s.heap p).is_set_formatter = (s.heap p).formatter.isSome
  attached : ∀ p ∈ s.appenders, (s.heap p).formatter ≠ none

end

/-! ## the logger by value -/

namespace Objects
variable (s : Objects)

theorem setRound_apply (v : LogFormatter) (heap : Nat → LogAppender) (x p : Nat) :
    setRound v heap x p
      = if p = x ∧ (heap p).is_set_formatter = false then (heap p).setFormatter (some v)
        else heap p := by
  rw [setRound]
  by_cases hp : p = x
  · subst hp
    cases hset : (heap p).is_set_formatter <;> simp
  · split <;> simp [hp]

theorem foldl_setRound (v : LogFormatter) (l : List Nat) (heap : Nat → LogAppender) (p : Nat) :
    l.foldl (setRound v) heap p
      = if p ∈ l ∧ (heap p).is_set_formatter = false then (heap p).setFormatter (some v)
        else heap p := by
  induction l generalizing heap with
  | nil => simp
  | cons x l ih =>
    have hup : ((heap p).setFormatter (some v)).is_set_formatter = true := rfl
    rw [List.foldl_cons, ih, setRound_apply]
    by_cases hp : p = x
    · subst hp
      cases hset : (heap p).is_set_formatter <;> simp [hset, hup]
    · simp [hp]

theorem setFormatter_of_error {val : Str} (h : (LogFormatter.mk val).isError = true) :
    s.setFormatter val = s := by
  rw [setFormatter, if_pos h]

theorem setFormatter_apply {val : Str} (h : (LogFormatter.mk val).isError = false) (p : Nat) :
    (s.setFormatter val).heap p
      = if p ∈ s.appenders ∧ (s.heap p).is_set_formatter = false then
          (s.heap p).setFormatter (some ⟨val⟩)
        else s.heap p := by
  rw [setFormatter, if_neg (Bool.eq_false_iff.mp h)]
  exact foldl_setRound _ _ _ _

variable (l : Logger)

theorem toLogger_addAppender {a : Nat} (h : a ∉ s.appenders) :
    (s.addAppender a).toLogger l = (s.toLogger l).addAppender (s.heap a) := by
  have hold : s.appenders.map (s.addAppender a).heap = s.appenders.map s.heap := by
    refine List.map_congr_left fun p hp => ?_
    have hne : p ≠ a := fun hpa => h (hpa ▸ hp)
    rw [addAppender]
    split
    · exact Function.update_of_ne hne _ _
    · rfl
  have hnew : (s.addAppender a).heap a
      = if (s.heap a).formatter.isNone then (s.heap a).setFormatter (some s.formatter)
        else s.heap a := by
    rw [addAppender]
    split <;> simp [*]
  have happenders : (s.addAppender a).appenders = s.appenders ++ [a] := rfl
  rw [toLogger, happenders, List.map_append, hold, List.map_singleton, hnew]
  rfl

theorem toLogger_clearAppender : s.clearAppender.toLogger l = (s.toLogger l).clearAppender := rfl

theorem toLogger_setFormatter (val : Str) :
    (s.setFormatter val).toLogger l = (s.toLogger l).setFormatter val := by
  cases herror : (LogFormatter.mk val).isError with
  | true => rw [setFormatter_of_error s herror, Logger.setFormatter, if_pos herror]
  | false =>
    have happenders : s.appenders.map (s.setFormatter val).heap
        = (s.appenders.map s.heap).map fun x =>
            if x.is_set_formatter then x else x.setFormatter (some ⟨val⟩) := by
      rw [List.map_map]
      refine List.map_congr_left fun p hp => ?_
      rw [setFormatter_apply s herror, Function.comp_apply]
      cases hset : (s.heap p).is_set_formatter <;> simp [hp]
    rw [Logger.setFormatter, if_neg (Bool.eq_false_iff.mp herror)]
    rw [setFormatter, if_neg (Bool.eq_false_iff.mp herror)] at happenders ⊢
    exact congrArg (fun appenders => { l with appenders, formatter := ⟨val⟩ }) happenders

end Objects

/-! ## runs -/

section
variable {given : Nat → Option LogFormatter} {s : Objects}

theorem Objects.addAppender_formatter (a p : Nat) :
    ((s.addAppender a).heap p).formatter
      = if p = a then some ((s.heap a).formatter.getD s.formatter) else (s.heap p).formatter := by
  rw [addAppender]
  cases hf : (s.heap a).formatter with
  | none =>
    by_cases hp : p = a <;> simp [hp, LogAppender.setFormatter]
  | some f => by_cases hp : p = a <;> simp [hp, hf]

theorem start_inv (made : Nat → AppenderClass × Level) (formatter : LogFormatter) :
    Inv given (start made given formatter) := by
  refine ⟨fun p f hf => ?_, fun p => ?_, fun p hp => absurd hp List.not_mem_nil⟩
  · simp [start, hf, LogAppender.setFormatter]
  · cases hf : given p <;> simp [start, hf, LogAppender.setFormatter]

/-- **The formatter of the logger is given to no appender**: the flags of all of them are raised. -/
theorem Inv.setFormatter_heap (h : Inv given s) (val : Str) :
    (s.setFormatter val).heap = s.heap := by
  cases herror : (LogFormatter.mk val).isError with
  | true => rw [Objects.setFormatter_of_error s herror]
  | false =>
    funext p
    have hflag : p ∈ s.appenders → (s.heap p).is_set_formatter = true := by
      intro hp
      rw [h.flag, Option.isSome_iff_ne_none]
      exact h.attached p hp
    rw [Objects.setFormatter_apply s herror, if_neg]
    rintro ⟨hp, hset⟩
    rw [hflag hp] at hset
    cases hset

theorem Inv.addAppender (h : Inv given s) (a : Nat) : Inv given (s.addAppender a) := by
  refine ⟨fun p f hf => ?_, fun p => ?_, fun p hp => ?_⟩
  · rw [Objects.addAppender_formatter]
    split
    · rename_i hpa
      rw [← hpa, h.own p f hf]
      rfl
    · exact h.own p f hf
  · have hflag := h.flag p
    rw [Objects.addAppender]
    dsimp only
    split
    · by_cases hpa : p = a
      · rw [hpa, Function.update_self]
        rfl
      · rw [Function.update_of_ne hpa]
        exact hflag
    · exact hflag
  · rw [Objects.addAppender_formatter]
    split
    · exact Option.some_ne_none _
    · rename_i hpa
      have hin : p ∈ s.appenders :=
        (List.mem_append.mp hp).resolve_right fun hone => hpa (List.mem_singleton.mp hone)
      exact h.attached p hin

theorem Inv.setFormatter (h : Inv given s) (val : Str) : Inv given (s.setFormatter val) := by
  have happenders : (s.setFormatter val).appenders = s.appenders := by
    rw [Objects.setFormatter]
    split <;> rfl
  refine ⟨?_, ?_, ?_⟩
  · rw [h.setFormatter_heap]
    exact h.own
  · rw [h.setFormatter_heap]
    exact h.flag
  · rw [h.setFormatter_heap, happenders]
    exact h.attached

/-- **Every call keeps the invariant.** -/
theorem Inv.run (h : Inv given s) {c : Call} {s' : Objects} (hrun : c.run s = some s') :
    Inv given s' := by
  cases c with
  | addAppender a =>
    rw [← Option.some.inj hrun]
    exact h.addAppender a
  | delAppender a =>
    rw [Call.run, Objects.delAppender] at hrun
    split at hrun
    · rw [← Option.some.inj hrun]
      exact ⟨h.own, h.flag, fun p hp => h.attached p (List.mem_of_mem_erase hp)⟩
    · cases hrun
  | clearAppender =>
    rw [← Option.some.inj hrun]
    exact ⟨h.own, h.flag, fun p hp => absurd hp List.not_mem_nil⟩
  | setFormatter val =>
    rw [← Option.some.inj hrun]
    exact h.setFormatter val

theorem kept_addAppender (h : Inv given s) (hkept : Kept given (some s)) (a : Nat) :
    Kept given (some (s.addAppender a)) ↔ Call.Fits given s (.addAppender a) := by
  have hnew : ((s.addAppender a).heap a).formatter
      = some ((s.heap a).formatter.getD s.formatter) := by
    rw [Objects.addAppender_formatter, if_pos rfl]
  have hin : a ∈ (s.addAppender a).appenders := List.mem_append_right _ List.mem_cons_self
  constructor
  · intro hall hgiven
    have ha := hall a hin
    rw [hnew, hgiven, Option.getD_none] at ha
    cases hf : (s.heap a).formatter with
    | none => exact .inl rfl
    | some f =>
      rw [hf] at ha
      exact .inr ha
  · intro hfits p hp
    by_cases hpa : p = a
    · rw [hpa, hnew]
      cases hgiven : given a with
      | none => rcases hfits hgiven with hf | hf <;> rw [hf] <;> rfl
      | some f => rw [h.own a f hgiven]; rfl
    · have hold : p ∈ s.appenders :=
        (List.mem_append.mp hp).resolve_right fun hone => hpa (List.mem_singleton.mp hone)
      rw [Objects.addAppender_formatter, if_neg hpa]
      exact hkept p hold

theorem kept_setFormatter (h : Inv given s) (hkept : Kept given (some s)) (val : Str) :
    Kept given (some (s.setFormatter val)) ↔ Call.Fits given s (.setFormatter val) := by
  cases herror : (LogFormatter.mk val).isError with
  | true =>
    rw [Objects.setFormatter_of_error s herror]
    exact ⟨fun _ => .inl herror, fun _ => hkept⟩
  | false =>
    have hnext : s.setFormatter val = { s with formatter := ⟨val⟩ } := by
      have hheap := h.setFormatter_heap val
      rw [Objects.setFormatter, if_neg (Bool.eq_false_iff.mp herror)] at hheap ⊢
      exact congrArg (fun heap => { s with formatter := ⟨val⟩, heap }) hheap
    rw [hnext]
    constructor
    · intro hall
      by_cases hsame : s.formatter = ⟨val⟩
      · exact .inr (.inl hsame)
      refine .inr (.inr fun p hp hgiven => hsame ?_)
      have hboth := (hkept p hp).symm.trans (hall p hp)
      rw [hgiven] at hboth
      exact Option.some.inj hboth
    · rintro (hwrong | hsame | hown) p hp
      · rw [herror] at hwrong
        cases hwrong
      · rw [← hsame]
        exact hkept p hp
      · have hp' := hkept p hp
        cases hgiven : given p with
        | none => exact absurd hgiven (hown p hp)
        | some f =>
          rw [hgiven] at hp'
          exact hp'

/-- **A call keeps the formatters exactly if it fits.** -/
theorem kept_run (h : Inv given s) (hkept : Kept given (some s)) (c : Call) :
    Kept given (c.run s) ↔ c.Fits given s := by
  cases c with
  | addAppender a => exact kept_addAppender h hkept a
  | delAppender a =>
    rw [Call.run, Objects.delAppender]
    split
    · rename_i hin
      exact ⟨fun _ => hin, fun _ p hp => hkept p (List.mem_of_mem_erase hp)⟩
    · rename_i hin
      exact ⟨fun hfalse => absurd hfalse id, fun hfits => absurd hfits hin⟩
  | clearAppender => exact ⟨fun _ => trivial, fun _ p hp => absurd hp List.not_mem_nil⟩
  | setFormatter val => exact kept_setFormatter h hkept val

end

/-- **Along a run every appender of the logger has its own formatter or that of the logger exactly if
every call fits** where it is made. -/
theorem Objects.kept_iff (made : Nat → AppenderClass × Level) (given : Nat → Option LogFormatter)
    (formatter : LogFormatter) (run : List Call) :
    (∀ ms, ms <+: run → Kept given (calls.after (some (start made given formatter)) ms))
      ↔ (calls.meeting fun o c => ∀ s, o = some s → c.Fits given s).Allowed
          (some (start made given formatter)) run := by
  have hallowed (o : Option Objects) (ls : List Call) : calls.Allowed o ls := by
    induction ls generalizing o with
    | nil => trivial
    | cons c ls ih => exact ⟨trivial, ih _⟩
  refine Machine.Allowed.always_iff (I := fun o => ∀ s, o = some s → Inv given s) ?_ ?_
    (hallowed _ run) ?_ ?_
  · intro o c hinv _ s' hs'
    obtain ⟨s, hs, hrun⟩ := Option.bind_eq_some_iff.mp hs'
    exact (hinv s hs).run hrun
  · intro o c hinv _ hkept
    cases o with
    | none => exact absurd hkept id
    | some s =>
      refine (kept_run (hinv s rfl) hkept c).trans ⟨fun hfits s' hs' => ?_, fun hfits => hfits s rfl⟩
      rw [← Option.some.inj hs']
      exact hfits
  · intro s hs
    rw [← Option.some.inj hs]
    exact start_inv made formatter
  · exact fun p hp => absurd hp List.not_mem_nil

/-- an appender without its own formatter keeps the one that it was added with -/
theorem Objects.formatter_stays :
    ¬∀ ms, ms <+: [.addAppender 0, .setFormatter (asc "%m")] →
      Kept (fun _ => none) (calls.after
        (some (start (fun _ => (.stdout, LogLevel.DEBUG)) (fun _ => none) ⟨defaultPattern⟩)) ms) := by
  intro h
  have hlast := h _ List.prefix_rfl
  have hown := hlast 0 (by decide +kernel)
  exact absurd hown (by decide +kernel)

end Log
end KitServer
