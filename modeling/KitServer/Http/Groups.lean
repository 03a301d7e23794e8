import KitServer.Http.HostHeader

/-!
# Headers, parameters and cookies of a request

Three groups of one map type, each with the same accessors.

* `Groups`         the three maps, and the accessors under their names;
* `CaseMap`        a map up to the case of the letters, as a function;
* `find_run`       a group after a run of operations is that function, at every key that no
                   operation cuts;
* `groups_iff`     the getters that read the group they are named for.
-/

set_option linter.unusedVariables false

namespace KitServer
namespace Http

/-! ## the accessors, for one map -/

namespace MapType
variable {T : Type}

def erase (key : Str) (m : MapType) : MapType := m.filter fun x => !strcasecmpEq x.1 key

def get (m : MapType) (key dflt : Str) : Str :=
  match m.find key with
  | none => dflt
  | some val => val

/-- the second component is `*val` then, if there is one -/
def has (m : MapType) (key : Str) (val : Option Str) : Bool × Option Str :=
  match m.find key with
  | none => (false, val)
  | some found => (true, val.map fun _ => found)

/-- `checkGetAs`, where `lexical_cast` is `none` when it throws; the second component is `val` -/
def checkGetAs (lexical_cast : Str → Option T) (m : MapType) (key : Str) (dflt : T) : Bool × T :=
  match m.find key with
  | none => (false, dflt)
  | some str =>
    match lexical_cast str with
    | some val => (true, val)
    | none => (false, dflt)

end MapType

/-! ## the request -/

/-- the three maps of an `HttpRequest` -/
structure Groups where
  m_headers : MapType
  m_params : MapType
  m_cookies : MapType

namespace Groups
variable {T : Type}

def new : Groups := ⟨[], [], []⟩

def setHeaders (v : MapType) (r : Groups) : Groups := { r with m_headers := v }
def setParams (v : MapType) (r : Groups) : Groups := { r with m_params := v }
def setCookies (v : MapType) (r : Groups) : Groups := { r with m_cookies := v }

def setHeader (key val : Str) (r : Groups) : Groups :=
  { r with m_headers := r.m_headers.set key val }
def setParam (key val : Str) (r : Groups) : Groups :=
  { r with m_params := r.m_params.set key val }
def setCookie (key val : Str) (r : Groups) : Groups :=
  { r with m_cookies := r.m_cookies.set key val }

def delHeader (key : Str) (r : Groups) : Groups := { r with m_headers := r.m_headers.erase key }
def delParam (key : Str) (r : Groups) : Groups := { r with m_params := r.m_params.erase key }
def delCookie (key : Str) (r : Groups) : Groups := { r with m_cookies := r.m_cookies.erase key }

def getHeadr (r : Groups) : Str → Str → Str := r.m_headers.get
def getParam (r : Groups) : Str → Str → Str := r.m_params.get
def getCookie (r : Groups) : Str → Str → Str := r.m_cookies.get

def hasHeader (r : Groups) : Str → Option Str → Bool × Option Str := r.m_headers.has
def hasParam (r : Groups) : Str → Option Str → Bool × Option Str := r.m_params.has
def hasCookie (r : Groups) : Str → Option Str → Bool × Option Str := r.m_cookies.has

section
variable (lexical_cast : Str → Option T) (r : Groups)

def checkGetHeaderAs : Str → T → Bool × T := r.m_headers.checkGetAs lexical_cast
def checkGetParamAs : Str → T → Bool × T := r.m_params.checkGetAs lexical_cast
-- the map of the parameters
def checkGetCookieAs : Str → T → Bool × T := r.m_params.checkGetAs lexical_cast

def GetHeaderAs : Str → T → T := r.m_headers.getAs lexical_cast
def GetParamAs : Str → T → T := r.m_params.getAs lexical_cast
-- the map of the parameters
def GetCookieAs : Str → T → T := r.m_params.getAs lexical_cast

end
end Groups

/-! ## operations and getters -/

inductive Group where
  | headers
  | params
  | cookies
deriving DecidableEq

inductive GroupOp where
  | set (key val : Str)
  | del (key : Str)
  | setAll (v : MapType)

inductive Getter (T : Type) where
  | get (key dflt : Str)
  | has (key : Str) (val : Option Str)
  | checkGetAs (key : Str) (dflt : T)
  | getAs (key : Str) (dflt : T)

inductive Answer (T : Type) where
  | str (s : Str)
  | found (r : Bool × Option Str)
  | checked (r : Bool × T)
  | value (v : T)
deriving DecidableEq

namespace Getter
variable {T : Type}

def key : Getter T → Str
  | .get key _ => key
  | .has key _ => key
  | .checkGetAs key _ => key
  | .getAs key _ => key

def typed : Getter T → Bool
  | .get _ _ => false
  | .has _ _ => false
  | .checkGetAs _ _ => true
  | .getAs _ _ => true

end Getter

namespace Groups
variable {T : Type}

def apply (r : Groups) : Group → GroupOp → Groups
  | .headers, .set key val => r.setHeader key val
  | .headers, .del key => r.delHeader key
  | .headers, .setAll v => r.setHeaders v
  | .params, .set key val => r.setParam key val
  | .params, .del key => r.delParam key
  | .params, .setAll v => r.setParams v
  | .cookies, .set key val => r.setCookie key val
  | .cookies, .del key => r.delCookie key
  | .cookies, .setAll v => r.setCookies v

def run (r : Groups) (ops : List (Group × GroupOp)) : Groups :=
  ops.foldl (fun r op => r.apply op.1 op.2) r

def call (lexical_cast : Str → Option T) (r : Groups) : Group → Getter T → Answer T
  | .headers, .get key dflt => .str (r.getHeadr key dflt)
  | .headers, .has key val => .found (r.hasHeader key val)
  | .headers, .checkGetAs key dflt => .checked (r.checkGetHeaderAs lexical_cast key dflt)
  | .headers, .getAs key dflt => .value (r.GetHeaderAs lexical_cast key dflt)
  | .params, .get key dflt => .str (r.getParam key dflt)
  | .params, .has key val => .found (r.hasParam key val)
  | .params, .checkGetAs key dflt => .checked (r.checkGetParamAs lexical_cast key dflt)
  | .params, .getAs key dflt => .value (r.GetParamAs lexical_cast key dflt)
  | .cookies, .get key dflt => .str (r.getCookie key dflt)
  | .cookies, .has key val => .found (r.hasCookie key val)
  | .cookies, .checkGetAs key dflt => .checked (r.checkGetCookieAs lexical_cast key dflt)
  | .cookies, .getAs key dflt => .value (r.GetCookieAs lexical_cast key dflt)

end Groups

/-! ## maps up to the case of the letters -/

abbrev CaseMap := Str → Option Str

/-- the same letters up to their case, also behind a NUL -/
def sameLetters (a b : Str) : Bool := a.map tolower = b.map tolower

namespace CaseMap

def apply (A : CaseMap) : GroupOp → CaseMap
  | .set key val => fun k => if sameLetters key k then some val else A k
  | .del key => fun k => if sameLetters key k then none else A k
  | .setAll v => fun k => (v.find? fun x => sameLetters x.1 k).map Prod.snd

end CaseMap

/-- the operations on the group `g`, on a map that is empty at the start -/
def caseMap (g : Group) (ops : List (Group × GroupOp)) : CaseMap :=
  (ops.filter fun op => op.1 = g).foldl (fun A op => A.apply op.2) fun _ => none

/-- what a getter gives of the value under its key -/
def Getter.answer {T : Type} (lexical_cast : Str → Option T) (val : Option Str) :
    Getter T → Answer T
  | .get _ dflt => .str (val.getD dflt)
  | .has _ out => .found (val.isSome, if val.isSome then out.map fun x => val.getD x else out)
  | .checkGetAs _ dflt =>
    .checked ((val.bind lexical_cast).isSome, (val.bind lexical_cast).getD dflt)
  | .getAs _ dflt => .value ((val.bind lexical_cast).getD dflt)

def GroupOp.keys : GroupOp → List Str
  | .set key _ => [key]
  | .del key => [key]
  | .setAll v => v.map Prod.fst

/-- no key in the group `g` is the same as `key` up to the first NUL only -/
def Uncut (ops : List (Group × GroupOp)) (g : Group) (key : Str) : Prop :=
  ∀ op ∈ ops, op.1 = g → ∀ k ∈ op.2.keys, strcasecmpEq k key = true → sameLetters k key = true

/-! ## letters -/

theorem tolower_eq_zero (c : UInt8) : tolower c = 0 ↔ c = 0 := by
  rw [tolower]
  split_ifs with h
  · simp only [Bool.and_eq_true, decide_eq_true_eq, UInt8.le_iff_toNat_le] at h
    have hlo : 65 ≤ c.toNat := h.1
    have hhi : c.toNat ≤ 90 := h.2
    rw [← UInt8.toNat_inj, ← UInt8.toNat_inj, UInt8.toNat_add]
    show (c.toNat + 32) % 2 ^ 8 = 0 ↔ c.toNat = 0
    omega
  · rfl

theorem caseFold_eq (s : Str) : caseFold s = (s.map tolower).takeWhile (· ≠ 0) := by
  have hzero : ((fun c : UInt8 => decide (c ≠ 0)) ∘ tolower) = fun c => decide (c ≠ 0) := by
    funext c
    simp [tolower_eq_zero]
  rw [caseFold, List.takeWhile_map, hzero]

theorem strcasecmpEq_of_sameLetters {a b : Str} (h : sameLetters a b = true) :
    strcasecmpEq a b = true := by
  rw [strcasecmpEq_iff, caseFold_eq, caseFold_eq, of_decide_eq_true h]

/-! ## one map -/

theorem MapType.find_erase (key k : Str) (m : MapType) : (m.erase key).find k =
    if strcasecmpEq key k then none else m.find k := by
  induction m with
  | nil => simp [erase, find]
  | cons x m ih =>
    by_cases hx : strcasecmpEq x.1 key = true
    · have hskip : MapType.erase key (x :: m) = MapType.erase key m := by simp [erase, hx]
      rw [hskip, ih, find_cons, strcasecmpEq_congr hx]
      split_ifs <;> rfl
    · have hkeep : MapType.erase key (x :: m) = x :: MapType.erase key m := by simp [erase, hx]
      rw [hkeep, find_cons, find_cons, ih]
      by_cases hk : strcasecmpEq key k = true
      · have hne : strcasecmpEq x.1 k = false := by
          rw [strcasecmpEq_comm, ← strcasecmpEq_congr hk, strcasecmpEq_comm]
          exact Bool.eq_false_iff.mpr hx
        simp [hk, hne]
      · simp [hk]

/-- `apply` on the map of a group -/
def MapType.apply (m : MapType) : GroupOp → MapType
  | .set key val => m.set key val
  | .del key => m.erase key
  | .setAll v => v

/-- **One operation**, seen at a key that it does not cut. -/
theorem MapType.find_apply (m : MapType) (A : CaseMap) (op : GroupOp) (key : Str)
    (hsame : m.find key = A key)
    (huncut : ∀ k ∈ op.keys, strcasecmpEq k key = true → sameLetters k key = true) :
    (m.apply op).find key = A.apply op key := by
  have hiff : ∀ k ∈ op.keys, strcasecmpEq k key = sameLetters k key := fun k hk =>
    Bool.eq_iff_iff.mpr ⟨huncut k hk, strcasecmpEq_of_sameLetters⟩
  cases op with
  | set k val =>
    rw [apply, find_set, CaseMap.apply, hiff k List.mem_cons_self, hsame]
  | del k =>
    rw [apply, find_erase, CaseMap.apply, hiff k List.mem_cons_self, hsame]
  | setAll v =>
    rw [apply, find, CaseMap.apply]
    congr 1
    refine List.find?_congr fun x hx => ?_
    exact hiff x.1 (List.mem_map_of_mem hx)

/-! ## runs -/

namespace Groups
variable {T : Type}

def of (r : Groups) : Group → MapType
  | .headers => r.m_headers
  | .params => r.m_params
  | .cookies => r.m_cookies

theorem apply_of (r : Groups) (g g' : Group) (op : GroupOp) :
    (r.apply g op).of g' = if g = g' then (r.of g').apply op else r.of g' := by
  cases g <;> cases g' <;> cases op <;> rfl

/-- **A group after a run** of operations, seen at a key that none of them cuts. -/
theorem find_run (ops : List (Group × GroupOp)) (g : Group) (key : Str) (huncut : Uncut ops g key) :
    ((new.run ops).of g).find key = caseMap g ops key := by
  have hstart : ∀ (r : Groups) (A : CaseMap), (r.of g).find key = A key →
      ((r.run ops).of g).find key
        = (ops.filter fun op => op.1 = g).foldl (fun A op => A.apply op.2) A key := by
    induction ops with
    | nil => exact fun r A h => h
    | cons op ops ih =>
      intro r A h
      have hrest := ih fun o ho => huncut o (List.mem_cons_of_mem _ ho)
      rw [run, List.foldl_cons, List.filter_cons]
      have hof := apply_of r op.1 g op.2
      by_cases hg : op.1 = g
      · rw [if_pos hg] at hof
        rw [if_pos (decide_eq_true hg), List.foldl_cons]
        refine hrest _ _ ?_
        rw [hof]
        exact MapType.find_apply _ A op.2 key h (huncut op List.mem_cons_self hg)
      · rw [if_neg hg] at hof
        rw [if_neg (by simpa using hg)]
        exact hrest _ _ (hof ▸ h)
  refine hstart new (fun _ => none) ?_
  cases g <;> rfl

/-! ## getters -/

/-- the group whose map a getter reads -/
def read (g : Group) (getter : Getter T) : Group :=
  if g = .cookies ∧ getter.typed = true then .params else g

theorem call_eq (lexical_cast : Str → Option T) (r : Groups) (g : Group) (getter : Getter T) :
    r.call lexical_cast g getter
      = getter.answer lexical_cast ((r.of (read g getter)).find getter.key) := by
  have hget (m : MapType) (key dflt : Str) : m.get key dflt = (m.find key).getD dflt := by
    rw [MapType.get]
    cases m.find key <;> rfl
  have hhas (m : MapType) (key : Str) (val : Option Str) : m.has key val =
      ((m.find key).isSome,
        if (m.find key).isSome then val.map fun x => (m.find key).getD x else val) := by
    rw [MapType.has]
    cases m.find key <;> rfl
  have hcheck (m : MapType) (key : Str) (dflt : T) : m.checkGetAs lexical_cast key dflt =
      (((m.find key).bind lexical_cast).isSome, ((m.find key).bind lexical_cast).getD dflt) := by
    rw [MapType.checkGetAs]
    cases m.find key with
    | none => rfl
    | some str =>
      dsimp only [Option.bind_some]
      cases lexical_cast str <;> rfl
  have hgetAs (m : MapType) (key : Str) (dflt : T) : m.getAs lexical_cast key dflt =
      ((m.find key).bind lexical_cast).getD dflt := by
    rw [MapType.getAs]
    cases m.find key with
    | none => rfl
    | some str =>
      dsimp only [Option.bind_some]
      cases lexical_cast str <;> rfl
  cases g <;> cases getter <;>
    simp [call, Getter.answer, Getter.key, read, Getter.typed, of, getHeadr, getParam, getCookie,
      hasHeader, hasParam, hasCookie, checkGetHeaderAs, checkGetParamAs, checkGetCookieAs,
      GetHeaderAs, GetParamAs, GetCookieAs, hget, hhas, hcheck, hgetAs]

/-- **Every getter reads the group it is named for**, but for the two of the cookies that convert:
these are right where the parameters give the same answer. -/
theorem groups_iff (lexical_cast : Str → Option T) (ops : List (Group × GroupOp)) (g : Group)
    (getter : Getter T) (huncut : Uncut ops (read g getter) getter.key) :
    (new.run ops).call lexical_cast g getter
        = getter.answer lexical_cast (caseMap g ops getter.key) ↔
      (g = .cookies → getter.typed = true →
        getter.answer lexical_cast (caseMap .params ops getter.key)
          = getter.answer lexical_cast (caseMap .cookies ops getter.key)) := by
  rw [call_eq, find_run ops _ getter.key huncut, read]
  by_cases hboth : g = .cookies ∧ getter.typed = true
  · rw [if_pos hboth, hboth.1]
    simp [hboth.2]
  · rw [if_neg hboth]
    exact ⟨fun _ hg ht => absurd ⟨hg, ht⟩ hboth, fun _ => rfl⟩

/-- a header that is set, and read in other letters -/
theorem groups_iff_header :
    (new.run [(.headers, .set [72] [49])]).call digitsCast .headers (.getAs [104] 0)
        = .value 1 ∧
      ((new.run [(.headers, .set [72] [49])]).call digitsCast .headers (.getAs [104] 0)
          = Getter.answer digitsCast (caseMap .headers [(.headers, .set [72] [49])] [104])
              (.getAs [104] 0) ↔
        (Group.headers = .cookies → Getter.typed (.getAs [104] 0) = true →
          Getter.answer digitsCast (caseMap .params [(.headers, .set [72] [49])] [104])
              (.getAs [104] 0)
            = Getter.answer digitsCast (caseMap .cookies [(.headers, .set [72] [49])] [104])
              (.getAs [104] 0))) := by
  refine ⟨by decide, groups_iff digitsCast [(.headers, .set [72] [49])] .headers (.getAs [104] 0)
    ?_⟩
  intro op hop _ k hk _
  rw [List.mem_singleton.mp hop] at hk
  rw [List.mem_singleton.mp hk]
  decide

/-- **The cookies are not looked at**: one that was set is not found. -/
theorem cookie_unseen : ¬ ∀ (ops : List (Group × GroupOp)) (g : Group) (getter : Getter Nat),
    (new.run ops).call digitsCast g getter
      = getter.answer digitsCast (caseMap g ops getter.key) := by
  intro h
  have hcookie := h [(.cookies, .set [97] [49])] .cookies (.checkGetAs [97] 0)
  revert hcookie
  decide

end Groups
end Http
end KitServer
