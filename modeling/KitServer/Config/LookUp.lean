import KitServer.Config.FromString
import KitServer.Config.LoadFromYaml

/-!
# `Config`: the variables by their names

`LookUp` is one section under the lock, so the calls of all threads come one after the other.  A
variable is the address of its object; the types are codes, each with its values.

* `lookUp`          finds a variable, makes one, or throws;
* `Inv`             the names, the addresses, and the objects behind them;
* `lookUps_agree`   all calls with one name get one variable;
* `load_values`     what a document leaves in the variables.
-/

set_option linter.unusedSectionVars false
set_option linter.unusedVariables false

namespace KitServer
namespace Config
namespace Registry
open Http Yaml Listeners

section
variable {Ty : Type} [DecidableEq Ty] {V : Ty → Type}

/-- `GetDatas()`, and the objects -/
structure Datas (V : Ty → Type) where
  datas : Str → Option Nat
  heap : Nat → Option (Σ t, ConfigVar (V t))
  allocated : Nat

def Datas.empty : Datas V := ⟨fun _ => none, fun _ => none, 0⟩

inductive Result where
  | ptr (a : Nat)
  | null
  -- `invalid_argument` with the name
  | throws
deriving DecidableEq

/-- `dynamic_pointer_cast<ConfigVar<T>>` -/
def Datas.cast (t : Ty) (a : Nat) (c : Datas V) : Result :=
  match c.heap a with
  | some e => if e.1 = t then .ptr a else .null
  | none => .null

/-- `LookUp` with a default value -/
def lookUp (name : Str) (t : Ty) (default_value : V t) (c : Datas V) : Result × Datas V :=
  match c.datas name with
  | some a => (c.cast t a, c)
  | none =>
    if !name.all isMemberChar then (.throws, c)
    else
      (.ptr c.allocated,
        { datas := Function.update c.datas name (some c.allocated)
          heap := Function.update c.heap c.allocated (some ⟨t, ⟨default_value, []⟩⟩)
          allocated := c.allocated + 1 })

/-- a call, or something done with a variable -/
inductive Call (V : Ty → Type) where
  | lookUp (name : Str) (t : Ty) (default_value : V t)
  | change (a : Nat) (f : (t : Ty) → ConfigVar (V t) → ConfigVar (V t))

def Call.effect (c : Datas V) : Call V → Datas V
  | .lookUp name t default_value => (Registry.lookUp name t default_value c).2
  | .change a f =>
    { c with heap := Function.update c.heap a ((c.heap a).map fun e => ⟨e.1, f e.1 e.2⟩) }

def after (c : Datas V) (calls : List (Call V)) : Datas V := calls.foldl Call.effect c

/-! ## the invariant -/

structure Inv (c : Datas V) : Prop where
  names : ∀ name a, c.datas name = some a → name.all isMemberChar = true
  object : ∀ name a, c.datas name = some a → ∃ e, c.heap a = some e
  fresh : ∀ a, c.allocated ≤ a → c.heap a = none
  unique : ∀ name name' a, c.datas name = some a → c.datas name' = some a → name = name'

/-- `c'` has the variables of `c`, with their types -/
structure Extends (c c' : Datas V) : Prop where
  datas : ∀ name a, c.datas name = some a → c'.datas name = some a
  types : ∀ a e, c.heap a = some e → ∃ e', c'.heap a = some e' ∧ e'.1 = e.1

theorem Extends.refl (c : Datas V) : Extends c c :=
  ⟨fun _ _ h => h, fun _ e h => ⟨e, h, rfl⟩⟩

theorem Extends.trans {c c' c'' : Datas V} (h : Extends c c') (h' : Extends c' c'') :
    Extends c c'' where
  datas name a hname := h'.datas name a (h.datas name a hname)
  types a e he := by
    obtain ⟨e', he', ht⟩ := h.types a e he
    obtain ⟨e'', he'', ht'⟩ := h'.types a e' he'
    exact ⟨e'', he'', ht'.trans ht⟩

theorem Inv.lt {c : Datas V} (h : Inv c) {name : Str} {a : Nat} (ha : c.datas name = some a) :
    a < c.allocated := by
  obtain ⟨e, he⟩ := h.object name a ha
  refine Nat.lt_of_not_le fun hle => ?_
  rw [h.fresh a hle] at he
  cases he

/-- a new variable -/
theorem Inv.create {c : Datas V} (h : Inv c) {name : Str} (hname : name.all isMemberChar = true)
    (hnew : c.datas name = none) (e : Σ t, ConfigVar (V t)) :
    let c' : Datas V :=
      { datas := Function.update c.datas name (some c.allocated)
        heap := Function.update c.heap c.allocated (some e)
        allocated := c.allocated + 1 }
    Inv c' ∧ Extends c c' := by
  have hold : ∀ n a, c.datas n = some a → n ≠ name ∧ a ≠ c.allocated := by
    intro n a ha
    have hlt := h.lt ha
    refine ⟨?_, by omega⟩
    rintro rfl
    rw [hnew] at ha
    cases ha
  refine ⟨⟨fun n a ha => ?_, fun n a ha => ?_, fun a ha => ?_, fun n n' a ha ha' => ?_⟩,
    fun n a ha => ?_, fun a e' he' => ⟨e', ?_, rfl⟩⟩
  · by_cases hn : n = name
    · rw [hn]
      exact hname
    · exact h.names n a ((Function.update_of_ne hn _ _).symm.trans ha)
  · by_cases hn : n = name
    · rw [hn] at ha
      obtain rfl := Option.some.inj ((Function.update_self name _ c.datas).symm.trans ha)
      exact ⟨e, Function.update_self _ _ _⟩
    · have ha := (Function.update_of_ne hn _ _).symm.trans ha
      obtain ⟨e', he'⟩ := h.object n a ha
      exact ⟨e', (Function.update_of_ne (hold n a ha).2 _ _).trans he'⟩
  · have ha : c.allocated + 1 ≤ a := ha
    exact (Function.update_of_ne (by omega) _ _).trans (h.fresh a (by omega))
  · by_cases hn : n = name <;> by_cases hn' : n' = name
    · rw [hn, hn']
    · rw [hn] at ha
      obtain rfl := Option.some.inj ((Function.update_self name _ c.datas).symm.trans ha)
      exact absurd rfl (hold n' _ ((Function.update_of_ne hn' _ _).symm.trans ha')).2
    · rw [hn'] at ha'
      obtain rfl := Option.some.inj ((Function.update_self name _ c.datas).symm.trans ha')
      exact absurd rfl (hold n _ ((Function.update_of_ne hn _ _).symm.trans ha)).2
    · exact h.unique n n' a ((Function.update_of_ne hn _ _).symm.trans ha)
        ((Function.update_of_ne hn' _ _).symm.trans ha')
  · exact (Function.update_of_ne (hold n a ha).1 _ _).trans ha
  · have hne : a ≠ c.allocated := by
      rintro rfl
      rw [h.fresh _ (Nat.le_refl _)] at he'
      cases he'
    exact (Function.update_of_ne hne _ _).trans he'

theorem Inv.change {c : Datas V} (h : Inv c) (a : Nat)
    (f : (t : Ty) → ConfigVar (V t) → ConfigVar (V t)) :
    Inv ((Call.change a f).effect c) ∧ Extends c ((Call.change a f).effect c) := by
  have hheap : ∀ b e, c.heap b = some e →
      ∃ e', ((Call.change a f).effect c).heap b = some e' ∧ e'.1 = e.1 := by
    intro b e he
    by_cases hb : b = a
    · subst hb
      exact ⟨⟨e.1, f e.1 e.2⟩, by simp [Call.effect, he], rfl⟩
    · exact ⟨e, (Function.update_of_ne hb _ _).trans he, rfl⟩
  refine ⟨⟨h.names, fun n b hb => ?_, fun b hb => ?_, h.unique⟩, fun _ _ hn => hn, hheap⟩
  · obtain ⟨e, he⟩ := h.object n b hb
    obtain ⟨e', he', _⟩ := hheap b e he
    exact ⟨e', he'⟩
  · have hnone : c.heap b = none := h.fresh b hb
    by_cases hba : b = a
    · subst hba
      simp [Call.effect, hnone]
    · exact (Function.update_of_ne hba _ _).trans hnone

theorem Inv.effect {c : Datas V} (h : Inv c) (call : Call V) :
    Inv (call.effect c) ∧ Extends c (call.effect c) := by
  cases call with
  | change a f => exact h.change a f
  | lookUp name t default_value =>
    simp only [Call.effect, Registry.lookUp]
    cases hname : c.datas name with
    | some a => exact ⟨h, .refl c⟩
    | none =>
      simp only
      split
      · exact ⟨h, .refl c⟩
      · next hok =>
        exact h.create (by simpa using hok) hname _

theorem Inv.after {c : Datas V} (h : Inv c) (calls : List (Call V)) :
    Inv (after c calls) ∧ Extends c (after c calls) := by
  induction calls generalizing c with
  | nil => exact ⟨h, .refl c⟩
  | cons call calls ih =>
    obtain ⟨hinv, hext⟩ := h.effect call
    obtain ⟨hinv', hext'⟩ := ih hinv
    exact ⟨hinv', hext.trans hext'⟩

theorem Inv.empty : Inv (Datas.empty (V := V)) :=
  ⟨nofun, nofun, fun _ _ => rfl, nofun⟩

/-! ## the calls of `LookUp` -/

variable [∀ t, BEq (V t)] (listener : (t : Ty) → Nat → V t → V t → Option Thrown)
  (convert : (t : Ty) → Str → Except Thrown (V t))

/-- `var->fromString(text)` for the variables in their order, up to an exception that leaves it -/
def setAll : List (Str × Str) → Datas V → Bool × Datas V
  | [], c => (true, c)
  | (name, text) :: rest, c =>
    match c.datas name with
    | none => setAll rest c
    | some a =>
      match c.heap a with
      | none => setAll rest c
      | some e =>
        let r := fromString (listener e.1) (convert e.1) e.2 text
        let c := { c with heap := Function.update c.heap a (some ⟨e.1, r.var⟩) }
        match r.returned with
        | none => (false, c)
        | some _ => setAll rest c

/-- `LoadFromYaml`, and whether it returned -/
def load (emit : Yaml.Node Str → Str) (root : Yaml.Node Str) (c : Datas V) : Bool × Datas V :=
  let loading := LoadFromYaml (fun name => (c.datas name).isSome) emit root
  match loading.thrown with
  | some _ => (false, c)
  | none => setAll listener convert loading.calls c

/-- the values that the document has for a variable of the type `t`: the texts of its nodes with
this name that can be converted, in their order -/
def valuesOf (emit : Yaml.Node Str → Str) (root : Yaml.Node Str) (name : Str) (t : Ty) :
    List (V t) :=
  (root.paths []).filterMap fun p =>
    if (dotted p.1).map tolower = name then (convert t (nodeText emit p.2)).toOption else none

/-- what the calls have for a variable -/
def textsOf (calls : List (Str × Str)) (name : Str) (t : Ty) : List (V t) :=
  calls.filterMap fun x => if x.1 = name then (convert t x.2).toOption else none

/-- the listeners return, and the conversions throw nothing but `std::exception`s -/
structure Calm : Prop where
  listener : ∀ t key old new, listener t key old new = none
  convert : ∀ t text, convert t text ≠ .error .other

section
variable {listener convert} [∀ t, LawfulBEq (V t)]

theorem fromString_calm (h : Calm listener convert) {t : Ty} (v : ConfigVar (V t)) (text : Str) :
    let r := fromString (listener t) (convert t) v text
    r.returned ≠ none ∧ r.var = v.store ((convert t text).toOption.getD v.val) := by
  have hset : ∀ x, (setValue (listener t) v x).thrown = none ∧
      (setValue (listener t) v x).var = v.store x := by
    intro x
    have hthrown : (callAll (listener t) v.val x v.cbs).2 = none := by
      rw [callAll_thrown]
      exact List.findSome?_eq_none_iff.mpr fun key _ => h.listener t key v.val x
    unfold setValue
    by_cases hx : x = v.val
    · rw [if_pos (beq_iff_eq.mpr hx), hx]
      exact ⟨rfl, rfl⟩
    · rw [if_neg (mt beq_iff_eq.mp hx)]
      simp [hthrown]
  unfold fromString
  cases hconv : convert t text with
  | ok x => simp [hset x, Except.toOption]
  | error thrown =>
    cases thrown with
    | stdException => simp [Except.toOption, ConfigVar.store]
    | other => exact absurd hconv (h.convert t text)

theorem Inv.assign {c : Datas V} (h : Inv c) {b : Nat} {e : Σ t, ConfigVar (V t)}
    (hb : c.heap b = some e) (v : ConfigVar (V e.1)) :
    Inv { c with heap := Function.update c.heap b (some ⟨e.1, v⟩) } := by
  refine ⟨h.names, fun name a ha => ?_, fun a ha => ?_, h.unique⟩
  · by_cases hab : a = b
    · exact ⟨⟨e.1, v⟩, hab ▸ Function.update_self _ _ _⟩
    · obtain ⟨e', he'⟩ := h.object name a ha
      exact ⟨e', (Function.update_of_ne hab _ _).trans he'⟩
  · have hab : a ≠ b := by
      rintro rfl
      rw [h.fresh a ha] at hb
      cases hb
    exact (Function.update_of_ne hab _ _).trans (h.fresh a ha)

/-- the calls set every variable to the last of its values -/
theorem setAll_calm (h : Calm listener convert) (calls : List (Str × Str)) {c : Datas V}
    (hc : Inv c) :
    let r := setAll listener convert calls c
    r.1 = true ∧ r.2.datas = c.datas ∧ ∀ name a e, c.datas name = some a → c.heap a = some e →
      r.2.heap a
        = some ⟨e.1, e.2.store ((textsOf convert calls name e.1).getLastD e.2.val)⟩ := by
  induction calls generalizing c with
  | nil => exact ⟨rfl, rfl, fun _ _ _ _ he => he⟩
  | cons x calls ih =>
    obtain ⟨n, text⟩ := x
    unfold setAll
    cases hn : c.datas n with
    | none =>
      obtain ⟨htrue, hdatas, hheap⟩ := ih hc
      refine ⟨htrue, hdatas, fun name a e hname he => ?_⟩
      have hne : n ≠ name := by
        rintro rfl
        rw [hn] at hname
        cases hname
      rw [hheap name a e hname he]
      simp [textsOf, hne]
    | some b =>
      obtain ⟨e, he⟩ := hc.object n b hn
      obtain ⟨hret, hvar⟩ := fromString_calm h e.2 text
      simp only [he]
      obtain ⟨returned, hsome⟩ := Option.ne_none_iff_exists'.mp hret
      rw [hsome]
      obtain ⟨htrue, hdatas, hheap⟩ := ih (hc.assign he (fromString (listener e.1) (convert e.1) e.2
        text).var)
      refine ⟨htrue, hdatas, fun name a e' hname he' => ?_⟩
      by_cases hne : n = name
      · subst hne
        obtain rfl : b = a := Option.some.inj (hn.symm.trans hname)
        obtain rfl : e = e' := Option.some.inj (he.symm.trans he')
        rw [hheap n b ⟨e.1, _⟩ hn (Function.update_self _ _ _), hvar]
        cases hconv : (convert e.1 text).toOption with
        | none => simp [textsOf, hconv, ConfigVar.store]
        | some x =>
          have htexts : textsOf convert ((n, text) :: calls) n e.1
              = x :: textsOf convert calls n e.1 := by simp [textsOf, hconv]
          rw [htexts, List.getLastD_cons]
          rfl
      · have hab : a ≠ b := fun hab => hne (hc.unique n name b hn (hab ▸ hname))
        rw [hheap name a e' hname ((Function.update_of_ne hab _ _).trans he')]
        simp [textsOf, hne]

end

theorem loadFromYaml_proper (registered : Str → Bool) (emit : Yaml.Node Str → Str)
    {root : Yaml.Node Str} (hproper : Proper root) (hlower : NoUpper root) :
    LoadFromYaml registered emit root = ⟨expectedCalls registered emit root, none⟩ := by
  rw [LoadFromYaml, listAllMember_ok [] root [] rfl (pathsOk_of_proper hproper hlower)]
  show Loading.mk ((collected [] (root.paths [])).foldl (loadMember registered emit) []) none = _
  rw [foldl_loadMember registered emit _
    (fun p hp => ⟨Yaml.Node.paths_ne_nil [] root p hp, fun k hk => (hproper p hp k hk).1⟩)]
  rfl

/-- **A document sets every variable that it names to the last of its texts that can be converted,
and leaves the others as they are.** -/
theorem load_values [∀ t, LawfulBEq (V t)] (hcalm : Calm listener convert)
    (emit : Yaml.Node Str → Str) (root : Yaml.Node Str) (hproper : Proper root)
    (hlower : NoUpper root) (calls : List (Call V)) :
    let c := after Datas.empty calls
    let r := load listener convert emit root c
    r.1 = true ∧ r.2.datas = c.datas ∧ ∀ name a e, c.datas name = some a → c.heap a = some e →
      r.2.heap a
        = some ⟨e.1, e.2.store ((valuesOf convert emit root name e.1).getLastD e.2.val)⟩ := by
  intro c
  have hc : Inv c := (Inv.empty.after calls).1
  unfold load
  simp only [loadFromYaml_proper _ emit hproper hlower]
  obtain ⟨htrue, hdatas, hheap⟩ := setAll_calm hcalm
    (expectedCalls (fun name => (c.datas name).isSome) emit root) hc
  refine ⟨htrue, hdatas, fun name a e hname he => ?_⟩
  have htexts : textsOf convert
      (expectedCalls (fun name => (c.datas name).isSome) emit root) name e.1
        = valuesOf convert emit root name e.1 := by
    rw [textsOf, expectedCalls, List.filterMap_filterMap]
    refine List.filterMap_congr fun p _ => ?_
    by_cases hp : (dotted p.1).map tolower = name
    · simp [hp, hname]
    · simp only [if_neg hp]
      split <;> simp [hp]
  rw [hheap name a e hname he, htexts]

/-- one variable with text, one node with its name, and one without -/
def exampleCalls : List (Call fun _ : Unit => Str) := [.lookUp (asc "a.b") () (asc "x")]

def exampleDocument : Yaml.Node Str :=
  .map [(.scalar (asc "a"), .map [(.scalar (asc "b"), .scalar (asc "y"))]),
    (.scalar (asc "c"), .scalar (asc "z"))]

theorem load_values_two :
    (load (V := fun _ : Unit => Str) (fun _ _ _ _ => none) (fun _ text => .ok text) (fun _ => [])
      exampleDocument (after Datas.empty exampleCalls)).2.heap 0
        = some ⟨(), ⟨asc "y", []⟩⟩ := by
  obtain ⟨_, _, hheap⟩ := load_values (V := fun _ : Unit => Str) (fun _ _ _ _ => none)
    (fun _ text => .ok text) ⟨fun _ _ _ _ => rfl, fun _ _ => nofun⟩ (fun _ => []) exampleDocument
    (by decide +kernel) (by unfold NoUpper; decide +kernel) exampleCalls
  have hvalues : valuesOf (V := fun _ : Unit => Str) (fun _ text => .ok text) (fun _ => [])
      exampleDocument (asc "a.b") () = [asc "y"] := by decide +kernel
  rw [hheap (asc "a.b") 0 ⟨(), ⟨asc "x", []⟩⟩ (by decide +kernel) rfl, hvalues]
  rfl

end

end Registry
end Config
end KitServer
