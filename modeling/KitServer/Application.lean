import KitServer.Env
import KitServer.FSUtil
import KitServer.Lib.Machine
import KitServer.Http.ResponseParts

/-!
# `Application`: the start of the server, and its pid file

`Application::main` writes the pid into a stream that is destroyed when `main` returns; until then
the pid stays in the buffer of the stream.  Nobody else writes the file.

* `init`, `init_starts`    the command lines with which the server starts;
* `Act`, `application`     the processes: the check of the pid file, `real_daemon`, and `main`;
* `one_child`              a daemon has one child, which has no other daemon;
* `running_unnoticed`      what a check finds while a server runs.
-/

set_option linter.unusedVariables false

namespace KitServer
namespace Application
open Http FSUtil

/-! ## `init` -/

def addHelps (e : Env) : Env :=
  let e := e.addHelp (asc "s") (asc "start with the terminal")
  let e := e.addHelp (asc "d") (asc "run as daemon")
  let e := e.addHelp (asc "c") (asc "config file peth, default: \"./conf\"")
  e.addHelp (asc "h") (asc "see help")

/-- the environment of a new process -/
def newEnv : Env := ⟨fun _ => none, [], [], [], []⟩

/-- what `init` leaves: what it returns, the arguments, the directory from which the configuration
is loaded, whether the help was printed, and the directories -/
structure Started where
  ok : Bool
  env : Env
  conf_path : Str
  helped : Bool
  fs : FS

def run_type (e : Env) : Nat := if e.has (asc "s") then 1 else if e.has (asc "d") then 2 else 0

/-- `work_path` and `pid_file` are the values behind the load of the configuration; none: `Mkdir` is
called with an empty path -/
def init (readlink : Option Str) (program : Str) (args : List Str)
    (work_path pid_file : Str) (running : Str → Bool) (fs : FS) : Option Started :=
  let called := (addHelps newEnv).init readlink program args
  let is_print_help := !called.1 || called.2.has (asc "h")
  let stop := fun helped => some ⟨false, called.2, called.2.getConfigPath, helped, fs⟩
  if is_print_help then stop true
  else
    if run_type called.2 = 0 then stop true
    else if running (work_path ++ asc "/" ++ pid_file) then stop false
    else
      (Mkdir fs work_path).map fun r => ⟨r.1, called.2, called.2.getConfigPath, false, r.2⟩

/-- whether `run` starts a daemon -/
def is_daemon (e : Env) : Bool := e.has (asc "d")

section
variable {path program : Str}

theorem has_items (items : List Env.Item) (key : Str) :
    (items.foldl Env.bind ((addHelps newEnv).locate path program)).has key = true ↔
      ∃ i ∈ items, i.key = key := by
  have hnone : ((addHelps newEnv).locate path program).m_args key = none := rfl
  rw [Env.has, Env.args_foldl, hnone]
  cases hfind : items.reverse.find? (·.key = key) with
  | some i =>
    have hmem := List.mem_of_find?_eq_some hfind
    have hkey := List.find?_some hfind
    exact iff_of_true rfl ⟨i, List.mem_reverse.mp hmem, of_decide_eq_true hkey⟩
  | none =>
    refine iff_of_false Bool.false_ne_true ?_
    rintro ⟨i, hi, hkey⟩
    have hno := List.find?_eq_none.mp hfind i (List.mem_reverse.mpr hi)
    exact hno (decide_eq_true hkey)

end

theorem run_type_iff {e : Env} :
    run_type e ≠ 0 ↔ e.has (asc "s") = true ∨ e.has (asc "d") = true := by
  unfold run_type
  split
  · next hs => simp [hs]
  · next hs =>
    split
    · next hd => simp [hd]
    · next hd => simp [hs, hd]

/-- **The server starts exactly when the arguments are items, one of which is `s` or `d` and none
`h`, no process is known from the pid file, and `Mkdir` returns true; it becomes a daemon exactly
when one of the items is `d`.** -/
theorem init_starts (readlink : Option Str) (program : Str) (args : List Str)
    (work_path pid_file : Str) (running : Str → Bool) (fs : FS) (daemon : Bool) :
    (∃ s, init readlink program args work_path pid_file running fs = some s ∧ s.ok = true ∧
        is_daemon s.env = daemon) ↔
      ∃ items fs', readlink.isSome = true ∧ args = Env.print items ∧
        (∀ i ∈ items, i.key ≠ asc "h") ∧ (∃ i ∈ items, i.key = asc "s" ∨ i.key = asc "d") ∧
        (daemon = true ↔ ∃ i ∈ items, i.key = asc "d") ∧
        running (work_path ++ asc "/" ++ pid_file) = false ∧
        Mkdir fs work_path = some (true, fs') := by
  constructor
  · rintro ⟨s, hs, hok, hdaemon⟩
    rw [init] at hs
    cases readlink with
    | none =>
      cases hs
      cases hok
    | some path =>
      generalize hcalled : (addHelps newEnv).init (some path) program args = called at hs
      obtain ⟨accepted, e⟩ := called
      dsimp only at hs
      split at hs
      · cases hs
        cases hok
      · next hhelp =>
        rw [Bool.or_eq_true, not_or, Bool.not_eq_true', Bool.not_eq_false] at hhelp
        obtain ⟨rfl, hno⟩ := hhelp
        obtain ⟨items, hargs, rfl⟩ := Env.parse_ok.mp hcalled
        split at hs
        · cases hs
          cases hok
        · next htype =>
          split at hs
          · cases hs
            cases hok
          · next hrunning =>
            obtain ⟨⟨_, fs'⟩, hmade, rfl⟩ := Option.map_eq_some_iff.mp hs
            obtain rfl : _ = true := hok
            refine ⟨items, fs', rfl, hargs, fun i hi hkey => ?_, ?_, ?_, ?_, hmade⟩
            · exact hno ((has_items items (asc "h")).mpr ⟨i, hi, hkey⟩)
            · rcases run_type_iff.mp htype with hkey | hkey
              · obtain ⟨i, hi, hkey⟩ := (has_items items (asc "s")).mp hkey
                exact ⟨i, hi, .inl hkey⟩
              · obtain ⟨i, hi, hkey⟩ := (has_items items (asc "d")).mp hkey
                exact ⟨i, hi, .inr hkey⟩
            · rw [← hdaemon]
              exact has_items items (asc "d")
            · exact Bool.eq_false_iff.mpr hrunning
  · rintro ⟨items, fs', hlink, rfl, hno, hsome, hdaemon, hrunning, hmade⟩
    obtain ⟨path, rfl⟩ := Option.isSome_iff_exists.mp hlink
    have hcalled : (addHelps newEnv).init (some path) program (Env.print items)
        = (true, items.foldl Env.bind ((addHelps newEnv).locate path program)) :=
      Env.parse_ok.mpr ⟨items, rfl, rfl⟩
    have hhelp : (items.foldl Env.bind ((addHelps newEnv).locate path program)).has (asc "h")
        = false := by
      apply Bool.eq_false_iff.mpr
      intro hkey
      obtain ⟨i, hi, hkey⟩ := (has_items items (asc "h")).mp hkey
      exact hno i hi hkey
    have htype : run_type (items.foldl Env.bind ((addHelps newEnv).locate path program)) ≠ 0 := by
      apply run_type_iff.mpr
      obtain ⟨i, hi, hkey⟩ := hsome
      exact hkey.imp (fun hkey => (has_items items (asc "s")).mpr ⟨i, hi, hkey⟩)
        fun hkey => (has_items items (asc "d")).mpr ⟨i, hi, hkey⟩
    rw [init, hcalled]
    simp only [Bool.not_true, Bool.false_or, hhelp, Bool.false_eq_true, if_false, if_neg htype,
      hrunning, hmade]
    refine ⟨_, rfl, rfl, ?_⟩
    rw [Bool.eq_iff_iff, hdaemon]
    exact has_items items (asc "d")

/-! ## the processes -/

inductive Stage where
  | absent
  -- `init`, in front of `IsRunningPidFile`
  | checking
  | refused
  -- in front of `run`
  | ready
  -- `main`, in front of the construction of `ofs`, behind it, and behind `ofs << getpid()`
  | entering
  | opened
  | written
  -- `run` has returned
  | returned
  -- `real_daemon`: in front of `fork`, and in `waitpid`
  | forking
  | waiting (child : Nat)
  | zombie
deriving DecidableEq

/-- in `main`, with the file open -/
def Stage.serves : Stage → Bool
  | .opened => true
  | .written => true
  | _ => false

def Stage.waits : Stage → Bool
  | .waiting _ => true
  | _ => false

structure System where
  stage : Nat → Stage
  -- the daemon that waits for the process
  parent : Nat → Option Nat
  restart_count : Nat → UInt32
  file : Option Str
  -- the processes that have left `main` since the file was last opened
  writers : List Nat

inductive Act where
  | start (p : Nat)
  | check (p : Nat)
  | run (p : Nat)
  | daemon (p q : Nat)
  | daemonFails (p : Nat)
  | fork (p child : Nat)
  | forkFails (p : Nat)
  | wait (p : Nat) (status : Int)
  | openFile (p : Nat)
  | openFails (p : Nat)
  | put (p : Nat)
  | stop (p : Nat)
  -- the process ends, wherever it is
  | exit (p : Nat)
  | reap (p : Nat)
deriving DecidableEq

/-- a write at the beginning of a file -/
def overwrite (text file : Str) : Str := text ++ file.drop text.length

namespace System

def start (file : Option Str) : System := ⟨fun _ => .absent, fun _ => none, fun _ => 0, file, []⟩

def goto (s : System) (p : Nat) (stage : Stage) : System :=
  { s with stage := Function.update s.stage p stage }

/-- `kill(pid, 0) == 0` -/
def kill (s : System) (pid : Int) : Bool := decide (0 ≤ pid ∧ s.stage pid.toNat ≠ .absent)

/-- `IsRunningPidFile` of the pid file -/
def running (s : System) : Bool := IsRunningPidFile s.kill s.file

end System

def System.Free (s : System) (p : Nat) : Prop := s.stage p = .absent ∧ 0 < p ∧ p < 2 ^ 31

instance (s : System) (p : Nat) : Decidable (s.Free p) :=
  inferInstanceAs (Decidable (_ ∧ _ ∧ _))

def Act.guard (s : System) : Act → Prop
  | .start p => s.Free p
  | .check p => s.stage p = .checking
  | .run p => s.stage p = .ready
  | .daemon p q => s.stage p = .ready ∧ s.Free q
  | .daemonFails p => s.stage p = .ready
  | .fork p child => s.stage p = .forking ∧ s.Free child
  | .forkFails p => s.stage p = .forking
  | .wait p _ => ∃ child, s.stage p = .waiting child ∧ s.stage child = .zombie
  | .openFile p => s.stage p = .entering
  | .openFails p => s.stage p = .entering
  | .put p => s.stage p = .opened
  | .stop p => s.stage p = .written
  | .exit p => s.stage p ≠ .absent ∧ s.stage p ≠ .zombie
  | .reap p => s.stage p = .zombie ∧ s.parent p = none

def Act.effect (s : System) : Act → System
  | .start p => s.goto p .checking
  | .check p => if s.running then s.goto p .refused else s.goto p .ready
  | .run p => s.goto p .entering
  | .daemon p q => (s.goto p .zombie).goto q .forking
  | .daemonFails p => s.goto p .returned
  | .fork p child =>
    { (s.goto p (.waiting child)).goto child .entering with
      parent := Function.update s.parent child (some p)
      restart_count := Function.update s.restart_count child (s.restart_count p) }
  | .forkFails p => s.goto p .returned
  | .wait p status =>
    match s.stage p with
    | .waiting child =>
      let s := { s with parent := Function.update s.parent child none }
      if status = 0 then (s.goto p .returned).goto child .absent
      else
        { (s.goto p .forking).goto child .absent with
          restart_count := Function.update s.restart_count p (s.restart_count p + 1) }
    | _ => s
  | .openFile p => { s.goto p .opened with file := some [], writers := [] }
  | .openFails p => s.goto p .returned
  | .put p => s.goto p .written
  | .stop p =>
    { s.goto p .returned with
      file := s.file.map (overwrite (decimal p))
      writers := s.writers ++ [p] }
  | .exit p =>
    match s.stage p with
    | .waiting child =>
      { s.goto p .zombie with parent := Function.update s.parent child none }
    | _ => s.goto p .zombie
  | .reap p => s.goto p .absent

def application : Machine System Act where
  guard := Act.guard
  effect := Act.effect

@[simp] theorem stage_goto {s : System} {p q : Nat} {stage : Stage} :
    (s.goto p stage).stage q = if q = p then stage else s.stage q := by
  show Function.update s.stage p stage q = _
  by_cases hq : q = p
  · rw [hq, Function.update_self, if_pos rfl]
  · rw [Function.update_of_ne hq, if_neg hq]

/-! ## daemons -/

/-- `parent` is whom a process has as its daemon -/
structure Family (s : System) : Prop where
  parent : ∀ p child, s.stage p = .waiting child ↔ s.parent child = some p
  child : ∀ p child, s.parent child = some p → s.stage child ≠ .absent

section
variable {s : System} {p child : Nat} {stage : Stage}

theorem Stage.ne_waiting {stage : Stage} (h : stage.waits = false) (child : Nat) :
    stage ≠ .waiting child := by
  rintro rfl
  cases h

theorem Family.goto (h : Family s) {old : Stage} (hp : s.stage p = old) (hold : old.waits = false)
    (stage : Stage) (hstage : stage.waits = false) (hchild : stage ≠ .absent ∨ s.parent p = none) :
    Family (s.goto p stage) where
  parent q c := by
    rw [stage_goto]
    split
    · next hq =>
      refine iff_of_false (Stage.ne_waiting hstage c) fun hparent => ?_
      apply Stage.ne_waiting hold c
      rw [← hp, ← hq]
      exact (h.parent q c).mpr hparent
    · exact h.parent q c
  child q c hparent := by
    rw [stage_goto]
    split
    · next hc =>
      apply hchild.resolve_right
      intro hnone
      have hparent : s.parent c = some q := hparent
      rw [hc, hnone] at hparent
      cases hparent
    · exact h.child q c hparent

theorem Family.fork (h : Family s) (hp : s.stage p = .forking) (hfree : s.stage child = .absent) :
    Family ((Act.fork p child).effect s) := by
  have hne : p ≠ child := by
    rintro rfl
    rw [hp] at hfree
    cases hfree
  have hstage : ∀ q, ((Act.fork p child).effect s).stage q
      = if q = child then .entering else if q = p then .waiting child else s.stage q := by
    intro q
    show ((s.goto p (.waiting child)).goto child .entering).stage q = _
    rw [stage_goto, stage_goto]
  have hparent : ∀ c, ((Act.fork p child).effect s).parent c
      = if c = child then some p else s.parent c := fun c => Function.update_apply s.parent _ _ c
  constructor
  · intro q c
    rw [hstage, hparent]
    have hpc : s.parent c ≠ some p := by
      intro hc
      rw [← h.parent, hp] at hc
      cases hc
    have hchildc : s.parent c ≠ some child := by
      intro hc
      rw [← h.parent, hfree] at hc
      cases hc
    have hqchild : s.stage q ≠ .waiting child := by
      intro hq
      exact h.child q child ((h.parent q child).mp hq) hfree
    have hq := h.parent q c
    by_cases hcc : c = child
    · subst hcc
      by_cases hqc : q = c
      · simp [hqc, hne]
      · by_cases hqp : q = p
        · simp [hqp, hne]
        · simp [hqc, hqp, hqchild, Ne.symm hqp]
    · by_cases hqc : q = child
      · simp [hqc, hcc, hchildc]
      · by_cases hqp : q = p
        · simp [hqp, hne, hcc, hpc, Ne.symm hcc]
        · simp [hqc, hqp, hcc, hq]
  · intro q c hc
    rw [hparent] at hc
    rw [hstage]
    split_ifs with hcc hcp
    · nofun
    · nofun
    · rw [if_neg hcc] at hc
      exact h.child q c hc

/-- the daemon `p` does not wait any more -/
theorem Family.leave (h : Family s) (hp : s.stage p = .waiting child) (stage : Stage)
    (hstage : stage.waits = false) (hne : stage ≠ .absent) :
    Family { s.goto p stage with parent := Function.update s.parent child none } := by
  have hchild : s.parent child = some p := (h.parent p child).mp hp
  constructor
  · intro q c
    show (s.goto p stage).stage q = .waiting c ↔ Function.update s.parent child none c = some q
    rw [stage_goto, Function.update_apply]
    have hq := h.parent q c
    by_cases hqp : q = p
    · rw [if_pos hqp]
      refine iff_of_false (Stage.ne_waiting hstage c) fun hc => ?_
      split_ifs at hc with hcc
      rw [hqp, ← h.parent, hp] at hc
      exact hcc (Stage.waiting.inj hc).symm
    · rw [if_neg hqp]
      by_cases hcc : c = child
      · rw [if_pos hcc]
        refine iff_of_false (fun hwait => hqp ?_) nofun
        rw [hcc, h.parent, hchild] at hwait
        exact (Option.some.inj hwait).symm
      · rw [if_neg hcc]
        exact hq
  · intro q c hc
    change Function.update s.parent child none c = some q at hc
    rw [Function.update_apply] at hc
    split_ifs at hc with hcc
    show (s.goto p stage).stage c ≠ .absent
    rw [stage_goto]
    split
    · exact hne
    · exact h.child q c hc

theorem Family.step (h : Family s) (l : Act) (hl : l.guard s) : Family (l.effect s) := by
  cases l with
  | start p => exact h.goto hl.1 rfl .checking rfl (.inl nofun)
  | check p =>
    simp only [Act.effect]
    split
    · exact h.goto hl rfl .refused rfl (.inl nofun)
    · exact h.goto hl rfl .ready rfl (.inl nofun)
  | run p => exact h.goto hl rfl .entering rfl (.inl nofun)
  | daemon p q =>
    have hfree : (s.goto p .zombie).stage q = .absent := by
      rw [stage_goto, if_neg, hl.2.1]
      rintro rfl
      have hready := hl.1
      rw [hl.2.1] at hready
      cases hready
    exact (h.goto hl.1 rfl .zombie rfl (.inl nofun)).goto hfree rfl .forking rfl (.inl nofun)
  | daemonFails p => exact h.goto hl rfl .returned rfl (.inl nofun)
  | fork p child => exact h.fork hl.1 hl.2.1
  | forkFails p => exact h.goto hl rfl .returned rfl (.inl nofun)
  | wait p status =>
    obtain ⟨child, hwaiting, hchild⟩ := hl
    have hne : child ≠ p := by
      rintro rfl
      rw [hwaiting] at hchild
      cases hchild
    have hleft : ∀ stage : Stage, stage.waits = false → stage ≠ .absent →
        Family (({ s with parent := Function.update s.parent child none }.goto p stage).goto child
          .absent) := by
      intro stage hstage habsent
      have hzombie : (s.goto p stage).stage child = .zombie := by
        rw [stage_goto, if_neg hne, hchild]
      exact (h.leave hwaiting stage hstage habsent).goto hzombie rfl .absent rfl
        (.inr (Function.update_self child none s.parent))
    simp only [Act.effect, hwaiting]
    split
    · exact hleft .returned rfl nofun
    · have hlast := hleft .forking rfl nofun
      exact ⟨hlast.parent, hlast.child⟩
  | openFile p =>
    have hnext := h.goto hl rfl .opened rfl (.inl nofun)
    exact ⟨hnext.parent, hnext.child⟩
  | openFails p => exact h.goto hl rfl .returned rfl (.inl nofun)
  | put p => exact h.goto hl rfl .written rfl (.inl nofun)
  | stop p =>
    have hnext := h.goto hl rfl .returned rfl (.inl nofun)
    exact ⟨hnext.parent, hnext.child⟩
  | exit p =>
    simp only [Act.effect]
    split
    · next child hwaiting => exact h.leave hwaiting .zombie rfl nofun
    · next hno =>
      apply h.goto rfl _ .zombie rfl (.inl nofun)
      cases hstage : s.stage p with
      | waiting child => exact absurd hstage (hno child)
      | _ => rfl
  | reap p => exact h.goto hl.1 rfl .absent rfl (.inr hl.2)

theorem Family.start (file : Option Str) : Family (.start file) where
  parent p child := ⟨nofun, nofun⟩
  child p child := nofun

end

/-- **A daemon waits for one child, which is there and has no other daemon.** -/
theorem one_child (file : Option Str) (ls : List Act)
    (h : application.Allowed (.start file) ls) :
    let s := application.after (.start file) ls
    ∀ p child, s.stage p = .waiting child →
      s.stage child ≠ .absent ∧ ∀ q, s.stage q = .waiting child → q = p := by
  intro s p child hp
  have hfam : Family s := h.inv (fun s l hs hl => hs.step l hl) (.start file)
  have hparent := (hfam.parent p child).mp hp
  refine ⟨hfam.child p child hparent, fun q hq => ?_⟩
  exact Option.some.inj (((hfam.parent q child).mp hq).symm.trans hparent)

/-! ## the pid file -/

/-- what the processes leave in the file, one after the other -/
def contents (writers : List Nat) : Str :=
  writers.foldl (fun file p => overwrite (decimal p) file) []

/-- the file is what it was, or what the processes have written that have left `main` -/
structure Inv (file : Option Str) (s : System) : Prop where
  file : s.file = some (contents s.writers) ∨
    s.file = file ∧ s.writers = [] ∧ ∀ p, (s.stage p).serves = false
  left : ∀ p ∈ s.writers, (s.stage p).serves = false ∧ p < 2 ^ 31
  pids : ∀ p, s.stage p ≠ .absent → p < 2 ^ 31

section
variable {file : Option Str} {s : System} {p q : Nat} {stage : Stage}

theorem Inv.serving (h : Inv file s) (hp : (s.stage p).serves = true) :
    s.file = some (contents s.writers) ∧ p ∉ s.writers := by
  constructor
  · rcases h.file with hfile | ⟨_, _, hnone⟩
    · exact hfile
    · rw [hnone p] at hp
      cases hp
  · intro hmem
    rw [(h.left p hmem).1] at hp
    cases hp

theorem Inv.pids_goto (h : Inv file s) (hp : p < 2 ^ 31) (stage : Stage) (q : Nat)
    (hq : (s.goto p stage).stage q ≠ .absent) : q < 2 ^ 31 := by
  rw [stage_goto] at hq
  split at hq
  · next hqp => exact hqp ▸ hp
  · exact h.pids q hq

theorem Inv.goto (h : Inv file s) (stage : Stage) (hp : p < 2 ^ 31)
    (hstage : stage.serves = false) : Inv file (s.goto p stage) where
  file := h.file.imp_right fun ⟨hfile, hnil, hnone⟩ => ⟨hfile, hnil, fun q => by
    rw [stage_goto]
    split
    · exact hstage
    · exact hnone q⟩
  left q hq := by
    refine ⟨?_, (h.left q hq).2⟩
    rw [stage_goto]
    split
    · exact hstage
    · exact (h.left q hq).1
  pids := h.pids_goto hp stage

theorem Inv.openFile (h : Inv file s) (hp : p < 2 ^ 31) :
    Inv file { s.goto p .opened with file := some [], writers := [] } where
  file := .inl rfl
  left q hq := absurd hq List.not_mem_nil
  pids := h.pids_goto hp .opened

theorem Inv.put (h : Inv file s) (hp : s.stage p = .opened) :
    Inv file (s.goto p .written) := by
  obtain ⟨hfile, hno⟩ := h.serving (p := p) (by rw [hp]; rfl)
  refine ⟨.inl hfile, fun q hq => ?_, h.pids_goto (h.pids p (by rw [hp]; nofun)) .written⟩
  have hne : q ≠ p := fun hqp => hno (hqp ▸ hq)
  rw [stage_goto, if_neg hne]
  exact h.left q hq

/-- **What a process leaves in the file comes with its return from `main`.** -/
theorem Inv.stop (h : Inv file s) (hp : s.stage p = .written) :
    Inv file ((Act.stop p).effect s) := by
  obtain ⟨hfile, hno⟩ := h.serving (p := p) (by rw [hp]; rfl)
  have hpid : p < 2 ^ 31 := h.pids p (by rw [hp]; nofun)
  refine ⟨.inl ?_, fun q hq => ?_, h.pids_goto hpid .returned⟩
  · show s.file.map (overwrite (decimal p)) = some (contents (s.writers ++ [p]))
    rw [hfile, contents, contents, List.foldl_concat]
    rfl
  · show ((s.goto p .returned).stage q).serves = false ∧ q < 2 ^ 31
    rw [stage_goto]
    rcases List.mem_append.mp hq with hq | hq
    · have hne : q ≠ p := fun hqp => hno (hqp ▸ hq)
      rw [if_neg hne]
      exact h.left q hq
    · rw [List.mem_singleton.mp hq, if_pos rfl]
      exact ⟨rfl, hpid⟩

theorem Inv.step (h : Inv file s) (l : Act) (hl : l.guard s) : Inv file (l.effect s) := by
  have hpid : ∀ {p : Nat} {stage : Stage}, s.stage p = stage → stage ≠ .absent → p < 2 ^ 31 :=
    fun hp hne => h.pids _ fun habsent => hne (hp.symm.trans habsent)
  cases l with
  | start p => exact h.goto .checking hl.2.2 rfl
  | check p =>
    have hp := hpid hl nofun
    simp only [Act.effect]
    split
    · exact h.goto .refused hp rfl
    · exact h.goto .ready hp rfl
  | run p => exact h.goto .entering (hpid hl nofun) rfl
  | daemon p q => exact (h.goto .zombie (hpid hl.1 nofun) rfl).goto .forking hl.2.2.2 rfl
  | daemonFails p => exact h.goto .returned (hpid hl nofun) rfl
  | fork p child =>
    have hnext := (h.goto (.waiting child) (hpid hl.1 nofun) rfl).goto .entering hl.2.2.2 rfl
    exact ⟨hnext.file, hnext.left, hnext.pids⟩
  | forkFails p => exact h.goto .returned (hpid hl nofun) rfl
  | wait p status =>
    obtain ⟨child, hwaiting, hchild⟩ := hl
    simp only [Act.effect, hwaiting]
    split
    · have hnext := h.goto .returned (hpid hwaiting nofun) rfl
      have hlast := hnext.goto .absent (hpid hchild nofun) rfl
      exact ⟨hlast.file, hlast.left, hlast.pids⟩
    · have hnext := h.goto .forking (hpid hwaiting nofun) rfl
      have hlast := hnext.goto .absent (hpid hchild nofun) rfl
      exact ⟨hlast.file, hlast.left, hlast.pids⟩
  | openFile p => exact h.openFile (hpid hl nofun)
  | openFails p => exact h.goto .returned (hpid hl nofun) rfl
  | put p => exact h.put hl
  | stop p => exact h.stop hl
  | exit p =>
    have hnext := h.goto .zombie (h.pids p hl.1) rfl
    simp only [Act.effect]
    split
    · exact ⟨hnext.file, hnext.left, hnext.pids⟩
    · exact hnext
  | reap p => exact h.goto .absent (hpid hl.1 nofun) rfl

theorem Inv.start (file : Option Str) : Inv file (.start file) where
  file := .inr ⟨rfl, rfl, fun _ => rfl⟩
  left p hp := absurd hp List.not_mem_nil
  pids p hp := absurd rfl hp

end

end Application
end KitServer
