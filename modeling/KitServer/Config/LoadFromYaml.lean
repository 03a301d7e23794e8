import KitServer.Lib.Yaml
import KitServer.Http.Message

/-!
# `Config::LoadFromYaml`

The nodes of a document are collected, with their names checked on the way, and then the variables
with these names are set.

* `ListAllMember`   the recursion, and what it throws;
* `LoadFromYaml`    the calls of `fromString`, in their order;
* `listAllMember_eq` the recursion collects the paths of the document;
* `load_iff`        the documents that are loaded as they should be.

The variables are those that are registered when the load starts; `emit` is `operator<<`.
-/

set_option linter.unusedVariables false

namespace KitServer
namespace Config
open Http Yaml

/-- `abcdefghijklmnopqrstuvwxzy._0123456789` -/
def isMemberChar (c : UInt8) : Bool :=
  (97 ≤ c && c ≤ 122) || c = 46 || c = 95 || (48 ≤ c && c ≤ 57)

/-- the name of a member of the map whose name is `pre` -/
def memberName (pre key : Str) : Str := if pre.isEmpty then key else pre ++ [46] ++ key

mutual

/-- `ListAllMember`; what is thrown is `invalid_argument` with the name -/
def ListAllMember (pre : Str) (node : Yaml.Node Str) (output : List (Str × Yaml.Node Str)) :
    Except Str (List (Str × Yaml.Node Str)) :=
  if !pre.all isMemberChar then .error pre
  else
    let output := output ++ [(pre, node)]
    match node with
    | .map kvs => listMembers pre kvs output
    | _ => .ok output

/-- the loop over the members of a map -/
def listMembers (pre : Str) (kvs : List (Yaml.Node Str × Yaml.Node Str))
    (output : List (Str × Yaml.Node Str)) : Except Str (List (Str × Yaml.Node Str)) :=
  match kvs with
  | [] => .ok output
  | (k, v) :: kvs =>
    match ListAllMember (memberName pre (k.scalarOr [])) v output with
    | .error e => .error e
    | .ok output => listMembers pre kvs output

end

/-- the text that is given to `fromString` -/
def nodeText (emit : Yaml.Node Str → Str) : Yaml.Node Str → Str
  | .scalar s => s
  | node => emit node

/-- the calls of `fromString`, each with the name of its variable; and what was thrown. Every call
is taken to return here, an exception that leaves one ends the loop (see `Registry.setAll`). -/
structure Loading where
  calls : List (Str × Str)
  thrown : Option Str
deriving DecidableEq

/-- one round of the loop of `LoadFromYaml` -/
def loadMember (registered : Str → Bool) (emit : Yaml.Node Str → Str) (calls : List (Str × Str))
    (x : Str × Yaml.Node Str) : List (Str × Str) :=
  if x.1.isEmpty then calls
  else
    let key := x.1.map tolower
    if registered key then calls ++ [(key, nodeText emit x.2)] else calls

def LoadFromYaml (registered : Str → Bool) (emit : Yaml.Node Str → Str) (root : Yaml.Node Str) : Loading :=
  match ListAllMember [] root [] with
  | .error e => ⟨[], some e⟩
  | .ok nodes => ⟨nodes.foldl (loadMember registered emit) [], none⟩

/-! ## the recursion -/

/-- the name of the node that the keys lead to, from the node with the name `pre` -/
def pathName (pre : Str) (keys : List Str) : Str := keys.foldl memberName pre

theorem all_memberName (pre key : Str) :
    (memberName pre key).all isMemberChar = (pre.all isMemberChar && key.all isMemberChar) := by
  unfold memberName
  cases pre with
  | nil => simp
  | cons c pre =>
    have hdot : isMemberChar 46 = true := by decide
    simp [hdot, Bool.and_assoc]

/-- what the recursion collects below the node with the name `pre` -/
def collected (pre : Str) (paths : List (List Str × Yaml.Node Str)) : List (Str × Yaml.Node Str) :=
  paths.map fun p => (pathName pre p.1, p.2)

/-- every key on the paths has only the characters of a name -/
def PathsOk (paths : List (List Str × Yaml.Node Str)) : Prop :=
  ∀ p ∈ paths, ∀ k ∈ p.1, k.all isMemberChar = true

theorem collected_cons (pre : Str) (k v : Yaml.Node Str) (kvs : List (Yaml.Node Str × Yaml.Node Str)) :
    collected pre (Yaml.Node.pathsIn [] ((k, v) :: kvs))
      = (memberName pre (k.scalarOr []), v)
          :: collected (memberName pre (k.scalarOr [])) (v.paths [])
        ++ collected pre (Yaml.Node.pathsIn [] kvs) := by
  simp only [collected, Yaml.Node.pathsIn, List.cons_append, List.map_cons, List.map_append,
    List.map_map]
  rfl

theorem pathsOk_cons (k v : Yaml.Node Str) (kvs : List (Yaml.Node Str × Yaml.Node Str)) :
    PathsOk (Yaml.Node.pathsIn [] ((k, v) :: kvs))
      ↔ (k.scalarOr []).all isMemberChar = true ∧ PathsOk (v.paths [])
        ∧ PathsOk (Yaml.Node.pathsIn [] kvs) := by
  simp only [PathsOk, Yaml.Node.pathsIn, List.cons_append, List.forall_mem_cons, List.forall_mem_append,
    List.forall_mem_map]
  constructor
  · rintro ⟨⟨hk, _⟩, hv, hkvs⟩
    exact ⟨hk, fun p hp => (hv p hp).2, hkvs⟩
  · rintro ⟨hk, hv, hkvs⟩
    exact ⟨⟨hk, fun x hx => (by cases hx)⟩, fun p hp => ⟨hk, hv p hp⟩, hkvs⟩

mutual

/-- **Below a name, the recursion collects the paths if all of their keys can be in names.** -/
theorem listAllMember_ok (pre : Str) (node : Yaml.Node Str) (output : List (Str × Yaml.Node Str))
    (hpre : pre.all isMemberChar = true) (h : PathsOk (node.paths [])) :
    ListAllMember pre node output
      = .ok (output ++ (pre, node) :: collected pre (node.paths [])) := by
  rw [ListAllMember, hpre, if_neg (by decide)]
  match node with
  | .map kvs =>
    show listMembers pre kvs (output ++ [(pre, .map kvs)]) = _
    rw [listMembers_ok pre kvs _ hpre h, List.append_assoc]
    rfl
  | .null => rfl
  | .scalar s => rfl
  | .sequence xs => rfl

theorem listMembers_ok (pre : Str) (kvs : List (Yaml.Node Str × Yaml.Node Str))
    (output : List (Str × Yaml.Node Str)) (hpre : pre.all isMemberChar = true)
    (h : PathsOk (Yaml.Node.pathsIn [] kvs)) :
    listMembers pre kvs output = .ok (output ++ collected pre (Yaml.Node.pathsIn [] kvs)) := by
  match kvs with
  | [] =>
    rw [listMembers]
    simp [collected, Yaml.Node.pathsIn]
  | (k, v) :: kvs =>
    obtain ⟨hk, hv, hkvs⟩ := (pathsOk_cons k v kvs).mp h
    have hname : (memberName pre (k.scalarOr [])).all isMemberChar = true := by
      rw [all_memberName, hpre, hk]
      rfl
    rw [listMembers, listAllMember_ok _ v output hname hv]
    show listMembers pre kvs _ = _
    rw [listMembers_ok pre kvs _ hpre hkvs, collected_cons, List.append_assoc]

end

mutual

theorem listAllMember_error (pre : Str) (node : Yaml.Node Str) (output : List (Str × Yaml.Node Str))
    (h : ¬ (pre.all isMemberChar = true ∧ PathsOk (node.paths []))) :
    ∃ e, ListAllMember pre node output = .error e := by
  rw [ListAllMember]
  by_cases hpre : pre.all isMemberChar = true
  · rw [hpre, if_neg (by decide)]
    have hpaths : ¬ PathsOk (node.paths []) := fun hok => h ⟨hpre, hok⟩
    match node with
    | .map kvs => exact listMembers_error pre kvs _ hpre hpaths
    | .null => exact absurd (fun p hp => (by cases hp)) hpaths
    | .scalar s => exact absurd (fun p hp => (by cases hp)) hpaths
    | .sequence xs => exact absurd (fun p hp => (by cases hp)) hpaths
  · rw [Bool.eq_false_of_not_eq_true hpre, if_pos (by decide)]
    exact ⟨pre, rfl⟩

theorem listMembers_error (pre : Str) (kvs : List (Yaml.Node Str × Yaml.Node Str))
    (output : List (Str × Yaml.Node Str)) (hpre : pre.all isMemberChar = true)
    (h : ¬ PathsOk (Yaml.Node.pathsIn [] kvs)) : ∃ e, listMembers pre kvs output = .error e := by
  match kvs with
  | [] => exact absurd (fun p hp => (by cases hp)) h
  | (k, v) :: kvs =>
    rw [pathsOk_cons] at h
    rw [listMembers]
    by_cases hv : (memberName pre (k.scalarOr [])).all isMemberChar = true ∧ PathsOk (v.paths [])
    · rw [listAllMember_ok _ v output hv.1 hv.2]
      have hk := hv.1
      rw [all_memberName, hpre, Bool.true_and] at hk
      exact listMembers_error pre kvs _ hpre fun hkvs => h ⟨hk, hv.2, hkvs⟩
    · obtain ⟨e, he⟩ := listAllMember_error _ v output hv
      rw [he]
      exact ⟨e, rfl⟩

end

/-! ## the calls -/

/-- letters of either case, digits, `_` and `.` -/
def isKeyChar (c : UInt8) : Bool := isMemberChar c || (65 ≤ c && c ≤ 90)

/-- the keys, with dots between them -/
def dotted (keys : List Str) : Str := List.intercalate [46] keys

/-- the keys of the maps are not empty and have the characters of names, in either case -/
def Proper (root : Yaml.Node Str) : Prop :=
  ∀ p ∈ root.paths [], ∀ k ∈ p.1, k ≠ [] ∧ k.all isKeyChar = true

instance (root : Yaml.Node Str) : Decidable (Proper root) :=
  inferInstanceAs (Decidable (∀ p ∈ root.paths [], ∀ k ∈ p.1, k ≠ [] ∧ k.all isKeyChar = true))

def Improper (root : Yaml.Node Str) : Prop :=
  ∃ p ∈ root.paths [], ∃ k ∈ p.1, k.all isKeyChar = false

/-- no key has an upper-case letter -/
def NoUpper (root : Yaml.Node Str) : Prop :=
  ∀ p ∈ root.paths [], ∀ k ∈ p.1, ∀ c ∈ k, ¬ (65 ≤ c ∧ c ≤ 90)

/-- a call for each node whose dotted path, in lower case, is the name of a variable -/
def expectedCalls (registered : Str → Bool) (emit : Yaml.Node Str → Str) (root : Yaml.Node Str) :
    List (Str × Str) :=
  (root.paths []).filterMap fun p =>
    let name := (dotted p.1).map tolower
    if registered name then some (name, nodeText emit p.2) else none

/-- a document with proper keys makes the calls, and one with another character in a key is refused
before any variable is set -/
def LoadsProperly (registered : Str → Bool) (emit : Yaml.Node Str → Str) (root : Yaml.Node Str) : Prop :=
  (Proper root → LoadFromYaml registered emit root = ⟨expectedCalls registered emit root, none⟩)
    ∧ (Improper root → ∃ e, LoadFromYaml registered emit root = ⟨[], some e⟩)

theorem pathName_cons (c : UInt8) (pre : Str) (keys : List Str) :
    pathName (c :: pre) keys = c :: pre ++ keys.flatMap fun k => 46 :: k := by
  induction keys generalizing pre with
  | nil => simp [pathName]
  | cons k keys ih =>
    show pathName (c :: (pre ++ [46] ++ k)) keys = _
    rw [ih]
    simp

theorem dotted_cons (k : Str) (keys : List Str) :
    dotted (k :: keys) = k ++ keys.flatMap fun k => 46 :: k := by
  induction keys generalizing k with
  | nil => simp [dotted]
  | cons l keys ih =>
    rw [dotted, List.intercalate_cons_cons, ← dotted, ih]
    simp

theorem pathName_eq_dotted {keys : List Str} (hkeys : keys ≠ []) (h : ∀ k ∈ keys, k ≠ []) :
    pathName [] keys = dotted keys ∧ dotted keys ≠ [] := by
  obtain ⟨k, keys, rfl⟩ := List.exists_cons_of_ne_nil hkeys
  obtain ⟨c, k, rfl⟩ := List.exists_cons_of_ne_nil (h k List.mem_cons_self)
  rw [dotted_cons]
  exact ⟨pathName_cons c k keys, List.cons_ne_nil _ _⟩

/-- **The loop over what was collected makes the calls.** -/
theorem foldl_loadMember (registered : Str → Bool) (emit : Yaml.Node Str → Str)
    (paths : List (List Str × Yaml.Node Str))
    (h : ∀ p ∈ paths, p.1 ≠ [] ∧ ∀ k ∈ p.1, k ≠ []) (calls : List (Str × Str)) :
    (collected [] paths).foldl (loadMember registered emit) calls
      = calls ++ paths.filterMap fun p =>
          let name := (dotted p.1).map tolower
          if registered name then some (name, nodeText emit p.2) else none := by
  induction paths generalizing calls with
  | nil => simp [collected]
  | cons p paths ih =>
    obtain ⟨hp, hpaths⟩ := List.forall_mem_cons.mp h
    obtain ⟨hname, hne⟩ := pathName_eq_dotted hp.1 hp.2
    have hempty : (dotted p.1).isEmpty = false := by
      rw [List.isEmpty_eq_false_iff]
      exact hne
    show (collected [] paths).foldl _ (loadMember registered emit calls (pathName [] p.1, p.2)) = _
    rw [ih hpaths, hname, loadMember]
    simp only [hempty, Bool.false_eq_true, if_false, List.filterMap_cons]
    split <;> simp

theorem pathsOk_of_proper {root : Yaml.Node Str} (h : Proper root) (hlower : NoUpper root) :
    PathsOk (root.paths []) := by
  intro p hp k hk
  refine List.all_eq_true.mpr fun c hc => ?_
  have hchar := List.all_eq_true.mp (h p hp k hk).2 c hc
  rw [isKeyChar, Bool.or_eq_true, Bool.and_eq_true, decide_eq_true_iff, decide_eq_true_iff] at hchar
  rcases hchar with hmember | hupper
  · exact hmember
  · exact absurd hupper (hlower p hp k hk c hc)

theorem noUpper_of_pathsOk {root : Yaml.Node Str} (h : PathsOk (root.paths [])) : NoUpper root := by
  intro p hp k hk c hc hupper
  have hchar := List.all_eq_true.mp (h p hp k hk) c hc
  simp only [isMemberChar, Bool.or_eq_true, Bool.and_eq_true, decide_eq_true_iff,
    UInt8.le_iff_toNat_le, UInt8.toNat_ofNat, ← UInt8.toNat_inj] at hchar hupper
  omega

theorem not_pathsOk_of_improper {root : Yaml.Node Str} (h : Improper root) :
    ¬ PathsOk (root.paths []) := by
  intro hok
  obtain ⟨p, hp, k, hk, hbad⟩ := h
  have hall : k.all isKeyChar = true := by
    refine List.all_eq_true.mpr fun c hc => ?_
    rw [isKeyChar, List.all_eq_true.mp (hok p hp k hk) c hc, Bool.true_or]
  rw [hall] at hbad
  cases hbad

/-- **A document is loaded properly exactly when its keys, if they are proper, have no upper-case
letter.** -/
theorem load_iff (registered : Str → Bool) (emit : Yaml.Node Str → Str) (root : Yaml.Node Str) :
    LoadsProperly registered emit root ↔ (Proper root → NoUpper root) := by
  have herror : ¬ PathsOk (root.paths []) →
      ∃ e, LoadFromYaml registered emit root = ⟨[], some e⟩ := by
    intro hbad
    obtain ⟨e, he⟩ := listAllMember_error [] root [] fun h => hbad h.2
    rw [LoadFromYaml, he]
    exact ⟨e, rfl⟩
  constructor
  · rintro ⟨hcalls, _⟩ hproper
    by_contra hupper
    obtain ⟨e, he⟩ := herror fun hok => hupper (noUpper_of_pathsOk hok)
    have hthrown := hcalls hproper
    rw [he] at hthrown
    exact Option.some_ne_none e (congrArg Loading.thrown hthrown)
  · intro hlower
    refine ⟨fun hproper => ?_, fun himproper => herror (not_pathsOk_of_improper himproper)⟩
    have hok := pathsOk_of_proper hproper (hlower hproper)
    rw [LoadFromYaml, listAllMember_ok [] root [] rfl hok]
    show Loading.mk ((collected [] (root.paths [])).foldl (loadMember registered emit) []) none = _
    rw [foldl_loadMember registered emit _
      (fun p hp => ⟨Yaml.Node.paths_ne_nil [] root p hp, fun k hk => (hproper p hp k hk).1⟩)]
    rfl

/-- **A key with an upper-case letter is refused.** -/
theorem upper_refused : ¬ ∀ (registered : Str → Bool) (emit : Yaml.Node Str → Str) (root : Yaml.Node Str),
    LoadsProperly registered emit root := by
  intro h
  have hload := (h (fun name => name = asc "log") (fun _ => [])
    (.map [(.scalar (asc "Log"), .scalar (asc "on"))])).1 (by decide)
  exact absurd hload (by decide)

end Config
end KitServer
