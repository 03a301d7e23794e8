import KitServer.Lib.Machine
import KitServer.Config.LookUp

/-!
# `Config::LoadFromConfigDir`: which files are loaded again

Between the calls the files change, the program does what it likes with the variables, and a call can
fail to read a file; a step is one call with what it finds, or something done with the variables.

* `applies`            whether a document reaches every variable that it names;
* `loadFiles`          the loop over the files, and the recorded modification times;
* `Dir.step`           a call, with what is known of the files before and after it;
* `Kept`               the recorded times are those of contents that were applied, and no file that
                       should be read was passed over;
* `Dir.Sound`          what a call should find;
* `loadFiles_spec`     the loop, when no load fails;
* `loads_kept`         the runs in which that stays true.
-/

set_option linter.unusedSectionVars false
set_option linter.unusedVariables false

namespace KitServer
namespace Config
open Http Listeners Registry

/-! ## the code -/

structure Dir where
  -- from `FSUtil::ListAllFile`
  files : List Str
  -- `st_mtim.tv_sec`, none when `lstat` fails
  lstat : Str → Option UInt64
  contents : Str → Str
  -- `YAML::LoadFile`, none when it throws
  loadFile : Str → Option (Yaml.Node Str)

/-- a file with a modification time and contents -/
structure Version where
  file : Str
  mtime : UInt64
  contents : Str
deriving DecidableEq

structure Loader {Ty : Type} (V : Ty → Type) where
  -- `s_file2modify_time`
  record : Str → Option UInt64
  vars : Datas V
  -- what was read and applied completely, by any call
  applied : List Version
  -- the files that the last call has read, and those of them that were not applied completely
  tried : List Str
  failed : List Str
  -- what the files were when there was a call
  seen : List Version
  -- the files that the last call should have read, and did not
  untried : List Str

/-- `s_file2modify_time[x]` puts a 0 where there is nothing -/
def touch (record : Str → Option UInt64) (x : Str) : Str → Option UInt64 :=
  Function.update record x (some ((record x).getD 0))

section
variable {Ty : Type} [DecidableEq Ty] {V : Ty → Type} [∀ t, BEq (V t)]
  (listener : (t : Ty) → Nat → V t → V t → Option Thrown)
  (convert : (t : Ty) → Str → Except Thrown (V t)) (emit : Yaml.Node Str → Str)

/-- the text is converted, and no listener keeps the value from being set -/
def sets (e : Σ t, ConfigVar (V t)) (text : Str) : Bool :=
  match convert e.1 text with
  | .ok val => (setValue (listener e.1) e.2 val).thrown.isNone
  | .error _ => false

/-- every call that `setAll` makes sets its variable -/
def setsAll : List (Str × Str) → Datas V → Bool
  | [], _ => true
  | (name, text) :: rest, c =>
    match c.datas name with
    | none => setsAll rest c
    | some a =>
      match c.heap a with
      | none => setsAll rest c
      | some e =>
        let r := fromString (listener e.1) (convert e.1) e.2 text
        sets listener convert e text
          && setsAll rest { c with heap := Function.update c.heap a (some ⟨e.1, r.var⟩) }

/-- the document is applied completely; a conversion that fails is not seen by `load`, because
`fromString` catches what it throws -/
def applies (root : Yaml.Node Str) (c : Datas V) : Bool :=
  let loading := LoadFromYaml (fun name => (c.datas name).isSome) emit root
  loading.thrown.isNone && setsAll listener convert loading.calls c

def loadFiles (d : Dir) : List Str → Loader V → Loader V
  | [], s => s
  | x :: files, s =>
    match d.lstat x with
    -- the `return` ends the whole call
    | none => s
    | some mtime =>
      if (s.record x).getD 0 = mtime then loadFiles d files { s with record := touch s.record x }
      else
        -- the time is recorded in front of the load
        let s := { s with
          record := Function.update s.record x (some mtime)
          tried := s.tried ++ [x] }
        match d.loadFile x with
        | none => loadFiles d files { s with failed := s.failed ++ [x] }
        | some root =>
          let loaded := { s with vars := (load listener convert emit root s.vars).2 }
          if applies listener convert emit root s.vars then
            loadFiles d files { loaded with applied := s.applied ++ [⟨x, mtime, d.contents x⟩] }
          else loadFiles d files { loaded with failed := s.failed ++ [x] }

/-! ## runs of calls -/

def Dir.versions (d : Dir) : List Version :=
  d.files.filterMap fun x => (d.lstat x).map fun mtime => ⟨x, mtime, d.contents x⟩

/-- a file that can be read is to be read when its load has failed or its time is not recorded -/
def Dir.due (d : Dir) (s : Loader V) (x : Str) : Bool :=
  match d.lstat x with
  | none => false
  | some mtime => decide (x ∈ s.failed) || decide (s.record x ≠ some mtime)

def Dir.step (s : Loader V) (d : Dir) : Loader V :=
  let r := loadFiles listener convert emit d d.files { s with tried := [], failed := [] }
  { r with
    seen := s.seen ++ d.versions
    untried := d.files.filter fun x => d.due s x && !decide (x ∈ r.tried) }

/-- a call of `LoadFromConfigDir`, or something done with the variables -/
inductive Event (V : Ty → Type) where
  | load (d : Dir)
  | other (call : Call V)

/-- any event can come, whatever those before it have left -/
def configDir : Machine (Loader V) (Event V) where
  guard _ _ := True
  effect s
    | .load d => d.step listener convert emit s
    | .other call => { s with vars := call.effect s.vars }

def Loader.start : Loader V := ⟨fun _ => none, Datas.empty, [], [], [], [], []⟩

/-- a recorded time is that of contents that were applied; no file was passed over -/
structure Kept (s : Loader V) : Prop where
  recorded : ∀ v ∈ s.seen, s.record v.file = some v.mtime → v ∈ s.applied
  tried : s.untried = []

/-- the files up to the first one that `lstat` fails for, and the others -/
def Dir.reached (d : Dir) : List Str := d.files.takeWhile fun x => (d.lstat x).isSome
def Dir.unreached (d : Dir) : List Str := d.files.dropWhile fun x => (d.lstat x).isSome

/-- the text is one of the variable's type, and its listeners return when they are told the value -/
def Settable (e : Σ t, ConfigVar (V t)) (text : Str) : Prop :=
  ∃ val, convert e.1 text = .ok val ∧ ∀ key ∈ e.2.cbs, ∀ old, listener e.1 key old val = none

/-- the file can be read, its keys have only the characters of a name, and each text in it that is
for a variable is one that can be set -/
def Dir.Loadable (d : Dir) (c : Datas V) (x : Str) : Prop :=
  ∃ root, d.loadFile x = some root ∧ PathsOk (root.paths []) ∧
    ∀ p ∈ root.paths [], ∀ a e, c.datas ((pathName [] p.1).map tolower) = some a →
      c.heap a = some e → Settable listener convert e (nodeText emit p.2)

/-- a file whose time is the recorded one, or 0 if none is, is as a call has found it before, and any
other file can be loaded; behind a file that `lstat` fails for, all are as they were found and have
the recorded times -/
structure Dir.Sound (s : Loader V) (d : Dir) : Prop where
  same : ∀ x ∈ d.reached, ∀ mtime, d.lstat x = some mtime → (s.record x).getD 0 = mtime →
    ⟨x, mtime, d.contents x⟩ ∈ s.seen
  other : ∀ x ∈ d.reached, ∀ mtime, d.lstat x = some mtime → (s.record x).getD 0 ≠ mtime →
    d.Loadable listener convert emit s.vars x
  behind : ∀ x ∈ d.unreached, ∀ mtime, d.lstat x = some mtime →
    s.record x = some mtime ∧ ⟨x, mtime, d.contents x⟩ ∈ s.seen

def Sound (s : Loader V) : Event V → Prop
  | .load d => d.Sound listener convert emit s
  | .other _ => True

end

/-! ## one document -/

section
variable {Ty : Type} [DecidableEq Ty] {V : Ty → Type} [∀ t, BEq (V t)]
  {listener : (t : Ty) → Nat → V t → V t → Option Thrown}
  {convert : (t : Ty) → Str → Except Thrown (V t)} {emit : Yaml.Node Str → Str}

/-- the variables of `c`, with other values -/
structure Shape (c c' : Datas V) : Prop where
  datas : c'.datas = c.datas
  heap : ∀ a e', c'.heap a = some e' →
    ∃ e v, c.heap a = some e ∧ e' = ⟨e.1, v⟩ ∧ v.cbs = e.2.cbs

theorem Shape.refl (c : Datas V) : Shape c c :=
  ⟨rfl, fun a e' he' => ⟨e', e'.2, he', rfl, rfl⟩⟩

theorem setValue_cbs {T : Type} [BEq T] (l : Nat → T → T → Option Thrown) (v : ConfigVar T)
    (val : T) : (setValue l v val).var.cbs = v.cbs := by
  by_cases hsame : (val == v.val) = true
  · rw [setValue_same l v val hsame]
  · rw [setValue_differs l v val hsame]
    dsimp only
    split <;> rfl

theorem fromString_cbs {S T : Type} [BEq T] (l : Nat → T → T → Option Thrown)
    (f : S → Except Thrown T) (v : ConfigVar T) (s : S) : (fromString l f v s).var.cbs = v.cbs := by
  unfold fromString
  cases f s with
  | error e => cases e <;> rfl
  | ok val =>
    have hcbs := setValue_cbs l v val
    dsimp only
    split <;> exact hcbs

theorem Shape.assign {c c' : Datas V} (h : Shape c c') {a : Nat} {e : Σ t, ConfigVar (V t)}
    (he : c'.heap a = some e) (v : ConfigVar (V e.1)) (hv : v.cbs = e.2.cbs) :
    Shape c { c' with heap := Function.update c'.heap a (some ⟨e.1, v⟩) } where
  datas := h.datas
  heap b e' he' := by
    by_cases hb : b = a
    · subst hb
      obtain ⟨e₀, v₀, he₀, rfl, hv₀⟩ := h.heap b e he
      have hself := (Function.update_self b _ c'.heap).symm.trans he'
      exact ⟨e₀, v, he₀, (Option.some.inj hself).symm, hv.trans hv₀⟩
    · exact h.heap b e' ((Function.update_of_ne hb _ _).symm.trans he')

/-- **A text that can be set** is set, whatever the value was, and `fromString` returns. -/
theorem sets_of_settable {e : Σ t, ConfigVar (V t)} {v : ConfigVar (V e.1)} {text : Str}
    (h : Settable listener convert e text) (hv : v.cbs = e.2.cbs) :
    sets listener convert ⟨e.1, v⟩ text = true ∧
      (fromString (listener e.1) (convert e.1) v text).returned = some false := by
  obtain ⟨val, hval, hlistener⟩ := h
  have hnone : firstThrown (listener e.1) v.val val v.cbs = none :=
    List.findSome?_eq_none_iff.mpr fun key hkey => hlistener key (hv ▸ hkey) v.val
  have hreturns := (setValue_returns (listener e.1) v val hnone).1
  unfold sets fromString
  dsimp only
  rw [hval]
  dsimp only
  rw [hreturns]
  exact ⟨rfl, rfl⟩

theorem setsAll_of_settable {c₀ : Datas V} (calls : List (Str × Str))
    (h : ∀ x ∈ calls, ∀ a e, c₀.datas x.1 = some a → c₀.heap a = some e →
      Settable listener convert e x.2) {c : Datas V} (hc : Shape c₀ c) :
    setsAll listener convert calls c = true ∧ Shape c₀ (setAll listener convert calls c).2 := by
  induction calls generalizing c with
  | nil => exact ⟨rfl, hc⟩
  | cons x calls ih =>
    obtain ⟨name, text⟩ := x
    have hrest {c : Datas V} (hc : Shape c₀ c) :=
      ih (fun x hx => h x (List.mem_cons_of_mem (name, text) hx)) hc
    unfold setsAll setAll
    cases hname : c.datas name with
    | none => exact hrest hc
    | some a =>
      cases he : c.heap a with
      | none =>
        simp only [he]
        exact hrest hc
      | some e' =>
        obtain ⟨e, v, he₀, rfl, hv⟩ := hc.heap a e' he
        have hdatas : c₀.datas name = some a := hc.datas ▸ hname
        obtain ⟨hsets, hreturned⟩ := sets_of_settable (h _ List.mem_cons_self a e hdatas he₀) hv
        have hcbs := fromString_cbs (listener e.1) (convert e.1) v text
        simp only [he, hreturned, hsets, Bool.true_and]
        exact hrest (hc.assign he _ hcbs)

theorem mem_foldl_loadMember {registered : Str → Bool} (nodes : List (Str × Yaml.Node Str))
    {calls : List (Str × Str)} {x : Str × Str}
    (h : x ∈ nodes.foldl (loadMember registered emit) calls) :
    x ∈ calls ∨ ∃ y ∈ nodes, y.1 ≠ [] ∧ x = (y.1.map tolower, nodeText emit y.2) := by
  induction nodes generalizing calls with
  | nil => exact .inl h
  | cons y nodes ih =>
    rcases ih h with hx | ⟨z, hz, hname, hx⟩
    swap
    · exact .inr ⟨z, List.mem_cons_of_mem y hz, hname, hx⟩
    unfold loadMember at hx
    dsimp only at hx
    split_ifs at hx with hname hreg
    · exact .inl hx
    · rcases List.mem_append.mp hx with hx | hx
      · exact .inl hx
      · exact .inr ⟨y, List.mem_cons_self, by simpa using hname, List.mem_singleton.mp hx⟩
    · exact .inl hx

/-- **A file that can be loaded** is applied completely. -/
theorem applies_of_loadable {d : Dir} {x : Str} {c₀ c : Datas V}
    (h : d.Loadable listener convert emit c₀ x) (hc : Shape c₀ c) :
    ∃ root, d.loadFile x = some root ∧ applies listener convert emit root c = true ∧
      Shape c₀ (load listener convert emit root c).2 := by
  obtain ⟨root, hroot, hpaths, htexts⟩ := h
  have hnodes := listAllMember_ok [] root [] rfl hpaths
  have hcalls : ∀ x ∈ (LoadFromYaml (fun name => (c.datas name).isSome) emit root).calls,
      ∀ a e, c₀.datas x.1 = some a → c₀.heap a = some e → Settable listener convert e x.2 := by
    intro x hx
    rw [LoadFromYaml, hnodes] at hx
    rcases mem_foldl_loadMember _ hx with hx | ⟨y, hy, hname, rfl⟩
    · exact absurd hx List.not_mem_nil
    rcases List.mem_cons.mp hy with rfl | hy
    · exact absurd rfl hname
    · obtain ⟨p, hp, rfl⟩ := List.mem_map.mp hy
      exact htexts p hp
  obtain ⟨hsets, hshape⟩ := setsAll_of_settable _ hcalls hc
  have hthrown : (LoadFromYaml (fun name => (c.datas name).isSome) emit root).thrown = none := by
    rw [LoadFromYaml, hnodes]
  refine ⟨root, hroot, ?_, ?_⟩
  · rw [applies, hthrown, hsets]
    rfl
  · rw [load, hthrown]
    exact hshape

/-! ## the loop, when no load fails -/

variable {d : Dir} {s : Loader V}

theorem loadFiles_takeWhile (files : List Str) (s : Loader V) :
    loadFiles listener convert emit d files s
      = loadFiles listener convert emit d (files.takeWhile fun x => (d.lstat x).isSome) s := by
  induction files generalizing s with
  | nil => rfl
  | cons x files ih =>
    cases hx : d.lstat x with
    | none => simp [loadFiles, hx]
    | some mtime =>
      rw [List.takeWhile_cons_of_pos (by rw [hx]; rfl)]
      simp only [loadFiles, hx, ih]

/-- what the loop over `files` leaves when no load fails -/
structure Loaded (d : Dir) (files : List Str) (s r : Loader V) : Prop where
  failed : r.failed = s.failed
  applied : s.applied ⊆ r.applied
  covers : ∀ x ∈ files, ∀ mtime, d.lstat x = some mtime → ⟨x, mtime, d.contents x⟩ ∈ r.applied
  kept : s.tried ⊆ r.tried
  tried : ∀ x ∈ files, ∀ mtime, d.lstat x = some mtime → (s.record x).getD 0 ≠ mtime → x ∈ r.tried
  known : (∀ v ∈ s.applied, s.record v.file ≠ none) → ∀ v ∈ r.applied, r.record v.file ≠ none

theorem touch_getD (record : Str → Option UInt64) (x y : Str) :
    (touch record x y).getD 0 = (record y).getD 0 := by
  by_cases h : y = x
  · rw [touch, h, Function.update_self, Option.getD_some]
  · rw [touch, Function.update_of_ne h]

theorem touch_ne_none {record : Str → Option UInt64} {y : Str} (x : Str) (h : record y ≠ none) :
    touch record x y ≠ none := by
  by_cases hy : y = x
  · rw [touch, hy, Function.update_self]
    exact Option.some_ne_none _
  · rw [touch, Function.update_of_ne hy]
    exact h

/-- one round in which nothing is read -/
def afterSkip (x : Str) (s : Loader V) : Loader V := { s with record := touch s.record x }

/-- one round in which the file is applied -/
def afterLoad (d : Dir) (x : Str) (mtime : UInt64) (vars : Datas V) (s : Loader V) : Loader V :=
  { s with
    record := Function.update s.record x (some mtime)
    vars
    tried := s.tried ++ [x]
    applied := s.applied ++ [⟨x, mtime, d.contents x⟩] }

theorem afterLoad_self (x : Str) (mtime : UInt64) (vars : Datas V) (s : Loader V) :
    (afterLoad d x mtime vars s).record x = some mtime := Function.update_self _ _ _

theorem afterLoad_other {x y : Str} (h : y ≠ x) (mtime : UInt64) (vars : Datas V) (s : Loader V) :
    (afterLoad d x mtime vars s).record y = s.record y := Function.update_of_ne h _ _

theorem Loaded.skip {x : Str} {mtime : UInt64} {files : List Str} {r : Loader V}
    (hx : d.lstat x = some mtime) (hrecord : (s.record x).getD 0 = mtime)
    (happlied : ⟨x, mtime, d.contents x⟩ ∈ s.applied) (h : Loaded d files (afterSkip x s) r) :
    Loaded d (x :: files) s r where
  failed := h.failed
  applied := h.applied
  kept := h.kept
  covers y hy t ht := by
    rcases List.mem_cons.mp hy with rfl | hy
    · obtain rfl : mtime = t := Option.some.inj (hx.symm.trans ht)
      exact h.applied happlied
    · exact h.covers y hy t ht
  tried y hy t ht hne := by
    rcases List.mem_cons.mp hy with rfl | hy
    · exact absurd (hrecord.trans (Option.some.inj (hx.symm.trans ht))) hne
    · refine h.tried y hy t ht ?_
      rw [afterSkip, touch_getD]
      exact hne
  known hknown := h.known fun v hv => touch_ne_none x (hknown v hv)

theorem Loaded.load {x : Str} {mtime : UInt64} {vars : Datas V} {files : List Str} {r : Loader V}
    (hx : d.lstat x = some mtime) (h : Loaded d files (afterLoad d x mtime vars s) r) :
    Loaded d (x :: files) s r where
  failed := h.failed
  applied v hv := h.applied (List.mem_append_left _ hv)
  kept y hy := h.kept (List.mem_append_left _ hy)
  covers y hy t ht := by
    rcases List.mem_cons.mp hy with rfl | hy
    · obtain rfl : mtime = t := Option.some.inj (hx.symm.trans ht)
      exact h.applied (List.mem_append_right _ List.mem_cons_self)
    · exact h.covers y hy t ht
  tried y hy t ht hne := by
    by_cases hyx : y = x
    · rw [hyx]
      exact h.kept (List.mem_append_right _ List.mem_cons_self)
    · rcases List.mem_cons.mp hy with hy | hy
      · exact absurd hy hyx
      · exact h.tried y hy t ht (by rw [afterLoad_other hyx]; exact hne)
  known hknown := h.known fun v hv => by
    by_cases hvx : v.file = x
    · rw [hvx, afterLoad_self]
      exact Option.some_ne_none _
    · rw [afterLoad_other hvx]
      rcases List.mem_append.mp hv with hv | hv
      · exact hknown v hv
      · rw [List.mem_singleton.mp hv] at hvx
        exact absurd rfl hvx

/-- **The loop over files of which no load fails**: all of them are applied as they are. -/
theorem loadFiles_spec {c₀ : Datas V} (files : List Str) (s : Loader V) (hshape : Shape c₀ s.vars)
    (hstat : ∀ x ∈ files, (d.lstat x).isSome)
    (hsame : ∀ x ∈ files, ∀ mtime, d.lstat x = some mtime → (s.record x).getD 0 = mtime →
      ⟨x, mtime, d.contents x⟩ ∈ s.applied)
    (hother : ∀ x ∈ files, ∀ mtime, d.lstat x = some mtime → (s.record x).getD 0 ≠ mtime →
      d.Loadable listener convert emit c₀ x) :
    Loaded d files s (loadFiles listener convert emit d files s) := by
  induction files generalizing s with
  | nil =>
    exact ⟨rfl, fun v hv => hv, fun x hx => absurd hx List.not_mem_nil, fun x hx => hx,
      fun x hx => absurd hx List.not_mem_nil, fun h => h⟩
  | cons x files ih =>
    obtain ⟨mtime, hx⟩ := Option.isSome_iff_exists.mp (hstat x List.mem_cons_self)
    have hstat' := fun y hy => hstat y (List.mem_cons_of_mem x hy)
    have hsame' := fun y hy => hsame y (List.mem_cons_of_mem x hy)
    have hother' := fun y hy => hother y (List.mem_cons_of_mem x hy)
    by_cases hrecord : (s.record x).getD 0 = mtime
    · -- nothing is read; the time is recorded if it is 0
      have hloop : loadFiles listener convert emit d (x :: files) s
          = loadFiles listener convert emit d files (afterSkip x s) := by
        rw [loadFiles, hx]
        exact if_pos hrecord
      rw [hloop]
      refine (ih (afterSkip x s) hshape hstat' (fun y hy t ht hy' => ?_)
        fun y hy t ht hy' => ?_).skip hx hrecord (hsame x List.mem_cons_self mtime hx hrecord)
      · exact hsame' y hy t ht ((touch_getD s.record x y).symm.trans hy')
      · exact hother' y hy t ht fun hsame => hy' ((touch_getD s.record x y).trans hsame)
    · have hloadable := hother x List.mem_cons_self mtime hx hrecord
      obtain ⟨root, hroot, happlies, hnext⟩ := applies_of_loadable hloadable hshape
      have hloop : loadFiles listener convert emit d (x :: files) s
          = loadFiles listener convert emit d files
              (afterLoad d x mtime (load listener convert emit root s.vars).2 s) := by
        rw [loadFiles, hx]
        dsimp only
        rw [if_neg hrecord, hroot]
        exact if_pos happlies
      rw [hloop]
      refine (ih (afterLoad d x mtime _ s) hnext hstat' (fun y hy t ht hy' => ?_)
        fun y hy t ht hy' => ?_).load hx
      · by_cases hyx : y = x
        · subst hyx
          obtain rfl : mtime = t := Option.some.inj (hx.symm.trans ht)
          exact List.mem_append_right _ List.mem_cons_self
        · rw [afterLoad_other hyx] at hy'
          exact List.mem_append_left _ (hsame' y hy t ht hy')
      · by_cases hyx : y = x
        · rw [hyx]
          exact hloadable
        · rw [afterLoad_other hyx] at hy'
          exact hother' y hy t ht hy'

/-! ## runs -/

/-- everything that a call has found was applied, and no load has failed -/
structure UpToDate (s : Loader V) : Prop where
  seen : ∀ v ∈ s.seen, v ∈ s.applied
  known : ∀ v ∈ s.applied, s.record v.file ≠ none
  failed : s.failed = []
  tried : s.untried = []

theorem UpToDate.start : UpToDate (Loader.start (V := V)) :=
  ⟨fun v hv => absurd hv List.not_mem_nil, fun v hv => absurd hv List.not_mem_nil, rfl, rfl⟩

theorem UpToDate.kept (h : UpToDate s) : Kept s := ⟨fun v hv _ => h.seen v hv, h.tried⟩

/-- **One call** that finds what it should. -/
theorem UpToDate.step (h : UpToDate s) (hd : d.Sound listener convert emit s) :
    UpToDate (d.step listener convert emit s) := by
  have hloop : loadFiles listener convert emit d d.files { s with tried := [], failed := [] }
      = loadFiles listener convert emit d d.reached { s with tried := [], failed := [] } :=
    loadFiles_takeWhile _ _
  have hsame (x : Str) (hx : x ∈ d.reached) (mtime : UInt64) (hmtime : d.lstat x = some mtime)
      (hrecord : (s.record x).getD 0 = mtime) : ⟨x, mtime, d.contents x⟩ ∈ s.applied :=
    h.seen _ (hd.same x hx mtime hmtime hrecord)
  have hloaded := loadFiles_spec d.reached { s with tried := [], failed := [] } (Shape.refl s.vars)
    (fun x hx => List.mem_takeWhile_imp (p := fun x => (d.lstat x).isSome) hx) hsame hd.other
  have hmem (x : Str) (hx : x ∈ d.files) : x ∈ d.reached ∨ x ∈ d.unreached := by
    rw [← List.takeWhile_append_dropWhile (p := fun x => (d.lstat x).isSome) (l := d.files)] at hx
    exact List.mem_append.mp hx
  rw [Dir.step, hloop]
  refine ⟨fun v hv => ?_, hloaded.known h.known, hloaded.failed, ?_⟩
  · rcases List.mem_append.mp hv with hv | hv
    · exact hloaded.applied (h.seen v hv)
    · obtain ⟨x, hx, hversion⟩ := List.mem_filterMap.mp hv
      obtain ⟨mtime, hmtime, rfl⟩ := Option.map_eq_some_iff.mp hversion
      rcases hmem x hx with hx | hx
      · exact hloaded.covers x hx mtime hmtime
      · exact hloaded.applied (h.seen _ (hd.behind x hx mtime hmtime).2)
  · rw [List.filter_eq_nil_iff]
    intro x hx hdue
    rw [Bool.and_eq_true, Bool.not_eq_true', decide_eq_false_iff_not] at hdue
    obtain ⟨hdue, hnot⟩ := hdue
    cases hmtime : d.lstat x with
    | none => simp [Dir.due, hmtime] at hdue
    | some mtime =>
      have hother : s.record x ≠ some mtime := by simpa [Dir.due, hmtime, h.failed] using hdue
      rcases hmem x hx with hx | hx
      · by_cases hrecord : (s.record x).getD 0 = mtime
        · -- it was applied before, so its time is recorded
          have hknown := h.known _ (hsame x hx mtime hmtime hrecord)
          obtain ⟨t, ht⟩ := Option.ne_none_iff_exists'.mp hknown
          change s.record x = some t at ht
          rw [ht, Option.getD_some] at hrecord
          exact hother (ht.trans (congrArg some hrecord))
        · exact hnot (hloaded.tried x hx mtime hmtime hrecord)
      · exact hother (hd.behind x hx mtime hmtime).1

end

/-- **Kept along every run** of which each call finds what it should, whatever is done with the
variables in between. -/
theorem loads_kept {Ty : Type} [DecidableEq Ty] {V : Ty → Type} [∀ t, BEq (V t)]
    (listener : (t : Ty) → Nat → V t → V t → Option Thrown)
    (convert : (t : Ty) → Str → Except Thrown (V t)) (emit : Yaml.Node Str → Str)
    (events : List (Event V))
    (h : ((configDir listener convert emit).meeting (Sound listener convert emit)).Allowed .start
      events) :
    Kept ((configDir listener convert emit).after .start events) := by
  have hstep (s : Loader V) (l : Event V) (hs : UpToDate s)
      (hl : ((configDir listener convert emit).meeting (Sound listener convert emit)).guard s l) :
      UpToDate (((configDir listener convert emit).meeting
        (Sound listener convert emit)).effect s l) := by
    cases l with
    | load d => exact hs.step hl.2
    | other call => exact ⟨hs.seen, hs.known, hs.failed, hs.tried⟩
  have hrun := h.inv hstep .start
  rw [Machine.meeting_after] at hrun
  exact hrun.kept

/-- one file, `a: b`, with the modification time 5 -/
def oneFile (loadFile : Option (Yaml.Node Str)) : Dir where
  files := [asc "a.yaml"]
  lstat _ := some 5
  contents _ := asc "a: b"
  loadFile _ := loadFile

/-- a run in which a variable is made, the file is loaded, and a second call finds it as it was -/
theorem loads_kept_oneFile :
    Kept ((configDir (V := fun _ : Unit => Str) (fun _ _ _ _ => none) (fun _ text => .ok text)
      (fun _ => [])).after .start
      [.other (.lookUp (asc "a") () (asc "x")),
        .load (oneFile (some (.map [(.scalar (asc "a"), .scalar (asc "b"))]))),
        .load (oneFile none)]) := by
  refine loads_kept (V := fun _ : Unit => Str) _ _ _ _ ⟨⟨trivial, trivial⟩,
    ⟨trivial, ⟨?_, ?_, ?_⟩⟩, ⟨trivial, ⟨?_, ?_, ?_⟩⟩, trivial⟩
  · intro x hx mtime hmtime hrecord
    rw [← Option.some.inj hmtime] at hrecord
    exact absurd hrecord (show ¬ (0 : UInt64) = 5 by decide)
  · intro x hx mtime hmtime hother
    refine ⟨_, rfl, by unfold PathsOk; decide +kernel, fun p hp a e ha he => ?_⟩
    exact ⟨_, rfl, fun key hkey old => rfl⟩
  · exact fun x hx => absurd hx List.not_mem_nil
  · intro x hx mtime hmtime hrecord
    rw [List.mem_singleton.mp hx, ← Option.some.inj hmtime]
    exact List.mem_cons_self
  · intro x hx mtime hmtime hother
    rw [List.mem_singleton.mp hx, ← Option.some.inj hmtime] at hother
    exact absurd rfl hother
  · exact fun x hx => absurd hx List.not_mem_nil

/-- **Recorded without being applied**: a load that fails. -/
theorem unread_recorded : ¬ ∀ (listener : Unit → Nat → Str → Str → Option Thrown)
    (convert : Unit → Str → Except Thrown Str) (emit : Yaml.Node Str → Str)
    (events : List (Event fun _ : Unit => Str)),
    Kept ((configDir listener convert emit).after .start events) := by
  intro h
  have hone := (h (fun _ _ _ _ => none) (fun _ text => .ok text) (fun _ => [])
    [.load (oneFile none)]).recorded ⟨asc "a.yaml", 5, asc "a: b"⟩ (by decide) (by decide)
  revert hone
  decide

end Config
end KitServer
