import KitServer.Http.Dump
import KitServer.Uri.Create

/-!
# The fields of a request that is made of a caller's map

`HttpConnection::DoRequest` and `HttpConnectionPool::doRequest` take over the fields of the caller
and then write `host`.  A flag is to say whether the caller has a host of its own, but it starts as
false and is only changed when it is true.

Two names are the same when `strcasecmp` says so.

* `MapType.find_set`    a map after one entry is set;
* `takeFields_eq`       the loop: the flag stays false, and the fields are set one after the other;
* `mem_setAll`          the fields of a map without two names that are the same;
* `dump_written`        the fields as they are sent;
* `host_iff`            the maps whose host is the one that is sent.
-/

set_option linter.unusedVariables false

namespace KitServer
namespace Http

/-! ## the map of a request -/

theorem eq_of_not_lexLess (a b : Str) (hab : lexLess a b = false) (hba : lexLess b a = false) :
    a = b := by
  induction a generalizing b with
  | nil =>
    cases b with
    | nil => rfl
    | cons d b => cases hab
  | cons c a ih =>
    cases b with
    | nil => cases hba
    | cons d b =>
      simp only [lexLess, Bool.or_eq_false_iff, Bool.and_eq_false_imp, decide_eq_false_iff_not,
        decide_eq_true_eq] at hab hba
      have hcd : c = d := UInt8.le_antisymm (UInt8.not_lt.mp hba.1) (UInt8.not_lt.mp hab.1)
      rw [hcd, ih b (hab.2 hcd) (hba.2 hcd.symm)]

theorem strcasecmpEq_iff {a b : Str} : strcasecmpEq a b = true ↔ caseFold a = caseFold b :=
  decide_eq_true_iff

theorem strcasecmpEq_comm (a b : Str) : strcasecmpEq a b = strcasecmpEq b a := by
  rw [Bool.eq_iff_iff, strcasecmpEq_iff, strcasecmpEq_iff, eq_comm]

theorem strcasecmpEq_of_less {a b : Str} (h : CaseInsensitiveLess a b = true) :
    strcasecmpEq a b = false := by
  refine decide_eq_false fun heq => ?_
  rw [CaseInsensitiveLess, heq, lexLess_irrefl] at h
  cases h

theorem strcasecmpEq_congr {a b : Str} (h : strcasecmpEq a b = true) (c : Str) :
    strcasecmpEq a c = strcasecmpEq b c := by
  rw [strcasecmpEq, strcasecmpEq, strcasecmpEq_iff.mp h]

theorem MapType.find_cons (x : Str × Str) (m : MapType) (key : Str) :
    MapType.find (x :: m) key = if strcasecmpEq x.1 key then some x.2 else MapType.find m key := by
  rw [MapType.find, List.find?_cons]
  cases strcasecmpEq x.1 key with
  | true => rfl
  | false => rfl

/-- one turn of the search for the place of a key: the entry is in front of it, behind it, or it is
the entry of the key -/
theorem MapType.set_cons (key val : Str) (x : Str × Str) (m : MapType) :
    (CaseInsensitiveLess x.1 key = true ∧ MapType.set key val (x :: m) = x :: MapType.set key val m)
    ∨ MapType.set key val (x :: m) = (key, val) :: x :: m
    ∨ (strcasecmpEq x.1 key = true ∧ MapType.set key val (x :: m) = (x.1, val) :: m) := by
  rw [MapType.set]
  by_cases hlt : CaseInsensitiveLess x.1 key = true
  · exact .inl ⟨hlt, if_pos hlt⟩
  · rw [if_neg hlt]
    by_cases hgt : CaseInsensitiveLess key x.1 = true
    · exact .inr (.inl (if_pos hgt))
    · have hsame := eq_of_not_lexLess _ _ (Bool.eq_false_iff.mpr hlt) (Bool.eq_false_iff.mpr hgt)
      exact .inr (.inr ⟨strcasecmpEq_iff.mpr hsame, if_neg hgt⟩)

/-- **A map after one entry is set.** -/
theorem MapType.find_set (key val k : Str) (m : MapType) : MapType.find (MapType.set key val m) k =
    if strcasecmpEq key k then some val else MapType.find m k := by
  induction m with
  | nil => exact MapType.find_cons (key, val) [] k
  | cons x m ih =>
    rcases MapType.set_cons key val x m with ⟨hlt, heq⟩ | heq | ⟨hsame, heq⟩
    · rw [heq, MapType.find_cons, MapType.find_cons, ih]
      have hne := strcasecmpEq_of_less hlt
      by_cases hx : strcasecmpEq x.1 k = true
      · rw [strcasecmpEq_congr hx, strcasecmpEq_comm] at hne
        rw [if_pos hx, if_pos hx, if_neg (by rw [hne]; exact Bool.false_ne_true)]
      · rw [if_neg hx, if_neg hx]
    · rw [heq, MapType.find_cons]
    · rw [heq, MapType.find_cons, MapType.find_cons, strcasecmpEq_congr hsame]
      by_cases hk : strcasecmpEq key k = true
      · rw [if_pos hk, if_pos hk]
      · rw [if_neg hk, if_neg hk, if_neg hk]

theorem MapType.mem_set_of_mem {key val : Str} {m : MapType} {x : Str × Str} (hx : x ∈ m)
    (hne : strcasecmpEq x.1 key = false) : x ∈ MapType.set key val m := by
  induction m with
  | nil => cases hx
  | cons y m ih =>
    rcases MapType.set_cons key val y m with ⟨_, heq⟩ | heq | ⟨hsame, heq⟩
    · rw [heq]
      rcases List.mem_cons.mp hx with rfl | hx
      · exact List.mem_cons_self
      · exact List.mem_cons_of_mem _ (ih hx)
    · rw [heq]
      exact List.mem_cons_of_mem _ hx
    · rw [heq]
      rcases List.mem_cons.mp hx with rfl | hx
      · rw [hsame] at hne
        cases hne
      · exact List.mem_cons_of_mem _ hx

theorem MapType.mem_of_mem_set {key val : Str} {m : MapType} {x : Str × Str}
    (hx : x ∈ MapType.set key val m) : strcasecmpEq x.1 key = true ∨ x ∈ m := by
  induction m with
  | nil =>
    rw [List.mem_singleton.mp hx]
    exact .inl (strcasecmpEq_iff.mpr rfl)
  | cons y m ih =>
    rcases MapType.set_cons key val y m with ⟨_, heq⟩ | heq | ⟨hsame, heq⟩
    · rw [heq] at hx
      rcases List.mem_cons.mp hx with rfl | hx
      · exact .inr List.mem_cons_self
      · exact (ih hx).imp id (List.mem_cons_of_mem y)
    · rw [heq] at hx
      rcases List.mem_cons.mp hx with rfl | hx
      · exact .inl (strcasecmpEq_iff.mpr rfl)
      · exact .inr hx
    · rw [heq] at hx
      rcases List.mem_cons.mp hx with rfl | hx
      · exact .inl hsame
      · exact .inr (List.mem_cons_of_mem y hx)

theorem MapType.mem_set_self {key val : Str} {m : MapType}
    (hnew : ∀ y ∈ m, strcasecmpEq y.1 key = false) : (key, val) ∈ MapType.set key val m := by
  induction m with
  | nil => exact List.mem_cons_self
  | cons y m ih =>
    rcases MapType.set_cons key val y m with ⟨_, heq⟩ | heq | ⟨hsame, heq⟩
    · rw [heq]
      exact List.mem_cons_of_mem _ (ih fun z hz => hnew z (List.mem_cons_of_mem y hz))
    · rw [heq]
      exact List.mem_cons_self
    · have hno := hnew y List.mem_cons_self
      rw [hsame] at hno
      cases hno

/-! ## the two requests -/

/-- one turn of the loop over the caller's fields: the flag and the request -/
def takeField (s : Bool × HttpRequest) (x : Str × Str) : Bool × HttpRequest :=
  let req :=
    if strcasecmpEq x.1 (asc "connection") && strcasecmpEq x.2 (asc "keep-alive") then
      { s.2 with close := false }
    else s.2
  let has_host := if s.1 && strcasecmpEq x.1 (asc "host") then !x.2.isEmpty else s.1
  (has_host, req.setHeader x.1 x.2)

/-- the loop, with `has_host = false` in front of it -/
def takeFields (headers : List (Str × Str)) (req : HttpRequest) : Bool × HttpRequest :=
  headers.foldl takeField (false, req)

/-- the request that `HttpConnection::DoRequest` hands to `sendRequest` -/
def DoRequest (method : HttpMethod) (uri : Uri) (headers : List (Str × Str)) (body : Str) :
    HttpRequest :=
  let req := { HttpRequest.new with
    method := method, path := uri.path, query := uri.query, fragment := uri.fragment }
  let s := takeFields headers req
  let req := if !s.1 then s.2.setHeader (asc "host") uri.host else s.2
  { req with body := body }

/-- the request that `HttpConnectionPool::doRequest` hands to `sendRequest` -/
def doRequest (m_host m_vhost : Str) (method : HttpMethod) (url : Str)
    (headers : List (Str × Str)) (body : Str) : HttpRequest :=
  let req := { HttpRequest.new with method := method, path := url, close := false }
  let s := takeFields headers req
  let req :=
    if !s.1 then
      if m_vhost.length = 0 then s.2.setHeader (asc "host") m_host
      else s.2.setHeader (asc "host") m_vhost
    else s.2
  { req with body := body }

/-! ## the loop -/

/-- the fields, set one after the other -/
def setAll (headers : List (Str × Str)) (m : MapType) : MapType :=
  headers.foldl (fun m x => MapType.set x.1 x.2 m) m

/-- the caller asks for a connection that is kept -/
def keepsAlive (headers : List (Str × Str)) : Bool :=
  headers.any fun x =>
    strcasecmpEq x.1 (asc "connection") && strcasecmpEq x.2 (asc "keep-alive")

theorem keepsAlive_cons (x : Str × Str) (headers : List (Str × Str)) :
    keepsAlive (x :: headers) = ((strcasecmpEq x.1 (asc "connection")
      && strcasecmpEq x.2 (asc "keep-alive")) || keepsAlive headers) :=
  List.any_cons

theorem takeField_eq (req : HttpRequest) (x : Str × Str) :
    takeField (false, req) x = (false, { req with
      close := req.close && !(strcasecmpEq x.1 (asc "connection")
        && strcasecmpEq x.2 (asc "keep-alive"))
      headers := MapType.set x.1 x.2 req.headers }) := by
  unfold takeField HttpRequest.setHeader
  cases strcasecmpEq x.1 (asc "connection") && strcasecmpEq x.2 (asc "keep-alive") with
  | true => rw [Bool.not_true, Bool.and_false]; rfl
  | false => rw [Bool.not_false, Bool.and_true]; rfl

/-- **The flag stays false.** -/
theorem takeFields_eq (headers : List (Str × Str)) (req : HttpRequest) :
    takeFields headers req = (false, { req with
      close := req.close && !keepsAlive headers, headers := setAll headers req.headers }) := by
  unfold takeFields
  induction headers generalizing req with
  | nil =>
    have hnone : keepsAlive [] = false := rfl
    rw [List.foldl_nil, hnone, Bool.not_false, Bool.and_true]
    rfl
  | cons x headers ih =>
    rw [List.foldl_cons, takeField_eq, ih, keepsAlive_cons, Bool.not_or, ← Bool.and_assoc]
    rfl

/-- a map without two names that are the same -/
def Distinct (headers : List (Str × Str)) : Prop :=
  headers.Pairwise fun x y => strcasecmpEq x.1 y.1 = false

/-- **The fields of a map without two names that are the same are taken over as they are.** -/
theorem mem_setAll {headers : List (Str × Str)} (h : Distinct headers) (m : MapType)
    (hnew : ∀ y ∈ m, ∀ x ∈ headers, strcasecmpEq y.1 x.1 = false) :
    (∀ x ∈ headers, x ∈ setAll headers m) ∧ ∀ y ∈ m, y ∈ setAll headers m := by
  induction headers generalizing m with
  | nil => exact ⟨fun x hx => absurd hx List.not_mem_nil, fun y hy => hy⟩
  | cons x headers ih =>
    obtain ⟨hx, hrest⟩ := List.pairwise_cons.mp h
    have hself : x ∈ MapType.set x.1 x.2 m :=
      MapType.mem_set_self fun y hy => hnew y hy x List.mem_cons_self
    have hnew' : ∀ y ∈ MapType.set x.1 x.2 m, ∀ z ∈ headers, strcasecmpEq y.1 z.1 = false := by
      intro y hy z hz
      rcases MapType.mem_of_mem_set hy with hsame | hy
      · rw [strcasecmpEq_congr hsame]
        exact hx z hz
      · exact hnew y hy z (List.mem_cons_of_mem x hz)
    obtain ⟨hall, hkeep⟩ := ih hrest (MapType.set x.1 x.2 m) hnew'
    refine ⟨fun y hy => ?_, fun y hy => ?_⟩
    · rcases List.mem_cons.mp hy with rfl | hy
      · exact hkeep _ hself
      · exact hall y hy
    · exact hkeep y (MapType.mem_set_of_mem hy (hnew y hy x List.mem_cons_self))

/-! ## the host that is sent -/

/-- what the caller has under `host`, and otherwise the default -/
def callerHost (headers : List (Str × Str)) (dflt : Str) : Str :=
  match headers.find? fun x => strcasecmpEq x.1 (asc "host") && !x.2.isEmpty with
  | some x => x.2
  | none => dflt

/-- a host of the caller's own is the default -/
def OwnHost (headers : List (Str × Str)) (dflt : Str) : Prop :=
  ∀ x ∈ headers, strcasecmpEq x.1 (asc "host") = true → x.2 ≠ [] → x.2 = dflt

theorem Distinct.eq {headers : List (Str × Str)} (h : Distinct headers) {x y : Str × Str}
    (hx : x ∈ headers) (hy : y ∈ headers) (hsame : strcasecmpEq x.1 y.1 = true) : x = y := by
  have hsymm : Std.Symm fun x y : Str × Str => strcasecmpEq x.1 y.1 = false :=
    ⟨fun a b hab => by rw [strcasecmpEq_comm, hab]⟩
  by_contra hne
  have hno := List.Pairwise.forall h hx hy hne
  rw [hsame] at hno
  cases hno

theorem callerHost_iff {headers : List (Str × Str)} (h : Distinct headers) (dflt : Str) :
    callerHost headers dflt = dflt ↔ OwnHost headers dflt := by
  unfold callerHost
  cases hfind : headers.find? fun x => strcasecmpEq x.1 (asc "host") && !x.2.isEmpty with
  | none =>
    refine iff_of_true rfl fun x hx hname hval => ?_
    have hno := List.find?_eq_none.mp hfind x hx
    rw [hname, Bool.true_and, Bool.not_eq_true', Bool.not_eq_false, List.isEmpty_iff] at hno
    exact absurd hno hval
  | some y =>
    have hy := List.mem_of_find?_eq_some hfind
    have hcond := List.find?_some hfind
    rw [Bool.and_eq_true, Bool.not_eq_true', List.isEmpty_eq_false_iff] at hcond
    constructor
    · intro heq x hx hname hval
      have hsame : strcasecmpEq x.1 y.1 = true := by
        rw [strcasecmpEq_congr hname, strcasecmpEq_comm, hcond.1]
      rw [h.eq hx hy hsame]
      exact heq
    · intro hall
      exact hall y hy hcond.1 hcond.2

/-- the fields that `dump` writes: the state of the connection, and the map without it -/
def written (r : HttpRequest) : List (Str × Str) :=
  (asc "connection", connectionString r.close)
    :: r.headers.filter fun x => !strcasecmpEq x.1 (asc "connection")

theorem dump_written (r : HttpRequest) : r.dump = r.startLine ++ crlf
    ++ (written r).flatMap (fun x => fieldString x ++ crlf) ++ dumpBody r.body := by
  have hline : asc "connection:" ++ connectionString r.close
      = fieldString (asc "connection", connectionString r.close) := rfl
  rw [written, List.flatMap_cons, HttpRequest.dump, dumpHeaders, hline]
  simp only [List.append_assoc]

theorem mem_written {r : HttpRequest} {x : Str × Str} (hx : x ∈ r.headers)
    (hne : strcasecmpEq x.1 (asc "connection") = false) : x ∈ written r :=
  List.mem_cons_of_mem _ (List.mem_filter.mpr ⟨hx, by rw [hne]; rfl⟩)

theorem find_written (r : HttpRequest) {k : Str}
    (hk : strcasecmpEq (asc "connection") k = false) :
    MapType.find (written r) k = MapType.find r.headers k := by
  rw [written, MapType.find_cons, if_neg (by rw [hk]; exact Bool.false_ne_true)]
  induction r.headers with
  | nil => rfl
  | cons x m ih =>
    cases hx : strcasecmpEq x.1 (asc "connection") with
    | true =>
      have hne : strcasecmpEq x.1 k = false := by rw [strcasecmpEq_congr hx, hk]
      rw [List.filter_cons_of_neg (by rw [hx]; exact Bool.false_ne_true), ih, MapType.find_cons,
        if_neg (by rw [hne]; exact Bool.false_ne_true)]
    | false =>
      rw [List.filter_cons_of_pos (by rw [hx]; rfl), MapType.find_cons, MapType.find_cons, ih]

/-- the request carries the host of the caller, or the default, and every other field of the map;
but `connection`, which has a line of its own, each is written as it is -/
structure Carries (headers : List (Str × Str)) (dflt : Str) (r : HttpRequest) : Prop where
  host : MapType.find r.headers (asc "host") = some (callerHost headers dflt)
  hostLine : MapType.find (written r) (asc "host") = some (callerHost headers dflt)
  others : ∀ x ∈ headers, strcasecmpEq x.1 (asc "host") = false → x ∈ r.headers
  lines : ∀ x ∈ headers, strcasecmpEq x.1 (asc "host") = false →
    strcasecmpEq x.1 (asc "connection") = false → x ∈ written r

theorem carries_iff {headers : List (Str × Str)} (h : Distinct headers) {dflt : Str}
    {r : HttpRequest} (hr : r.headers = MapType.set (asc "host") dflt (setAll headers [])) :
    Carries headers dflt r ↔ OwnHost headers dflt := by
  have hhost : MapType.find r.headers (asc "host") = some dflt := by
    rw [hr, MapType.find_set, if_pos (strcasecmpEq_iff.mpr rfl)]
  have hline : MapType.find (written r) (asc "host") = some dflt := by
    rw [find_written r (by decide), hhost]
  have hothers : ∀ x ∈ headers, strcasecmpEq x.1 (asc "host") = false → x ∈ r.headers := by
    intro x hx hne
    rw [hr]
    have hempty : ∀ y ∈ ([] : MapType), ∀ z ∈ headers, strcasecmpEq y.1 z.1 = false :=
      fun y hy => absurd hy List.not_mem_nil
    exact MapType.mem_set_of_mem ((mem_setAll h [] hempty).1 x hx) hne
  rw [← callerHost_iff h dflt]
  constructor
  · intro hcarries
    have heq := hcarries.host
    rw [hhost] at heq
    exact (Option.some.inj heq).symm
  · intro hown
    exact ⟨by rw [hhost, hown], by rw [hline, hown], hothers,
      fun x hx hne hcon => mem_written (hothers x hx hne) hcon⟩

def poolHost (m_host m_vhost : Str) : Str := if m_vhost.length = 0 then m_host else m_vhost

theorem DoRequest_eq (method : HttpMethod) (uri : Uri) (headers : List (Str × Str)) (body : Str) :
    DoRequest method uri headers body = { HttpRequest.new with
      method := method, path := uri.path, query := uri.query, fragment := uri.fragment
      close := !keepsAlive headers, body := body
      headers := MapType.set (asc "host") uri.host (setAll headers []) } := by
  unfold DoRequest
  dsimp only
  rw [takeFields_eq]
  rfl

theorem doRequest_eq (m_host m_vhost : Str) (method : HttpMethod) (url : Str)
    (headers : List (Str × Str)) (body : Str) :
    doRequest m_host m_vhost method url headers body = { HttpRequest.new with
      method := method, path := url, close := false, body := body
      headers := MapType.set (asc "host") (poolHost m_host m_vhost) (setAll headers []) } := by
  unfold doRequest poolHost
  dsimp only
  rw [takeFields_eq]
  by_cases hv : m_vhost.length = 0
  · rw [if_pos hv, if_pos hv]
    rfl
  · rw [if_neg hv, if_neg hv]
    rfl

/-- **A map is carried exactly when its own host is the default.** -/
theorem host_iff (method : HttpMethod) (uri : Uri) (m_host m_vhost url body : Str)
    (headers : List (Str × Str)) (h : Distinct headers) :
    (Carries headers uri.host (DoRequest method uri headers body) ↔ OwnHost headers uri.host)
    ∧ (Carries headers (poolHost m_host m_vhost)
        (doRequest m_host m_vhost method url headers body)
      ↔ OwnHost headers (poolHost m_host m_vhost)) := by
  refine ⟨carries_iff h ?_, carries_iff h ?_⟩
  · rw [DoRequest_eq]
  · rw [doRequest_eq]

def exampleUri : Uri where
  scheme := asc "http"
  userinfo := []
  host := asc "b.com"
  port := 80
  path := asc "/"
  query := []
  fragment := []

/-- a map with a host of its own -/
theorem host_iff_own : (Carries [(asc "Host", asc "a.com")] (asc "b.com")
      (DoRequest .GET exampleUri [(asc "Host", asc "a.com")] [])
        ↔ OwnHost [(asc "Host", asc "a.com")] (asc "b.com"))
    ∧ (Carries [(asc "Host", asc "a.com")] (poolHost (asc "b.com") [])
      (doRequest (asc "b.com") [] .GET (asc "/") [(asc "Host", asc "a.com")] [])
        ↔ OwnHost [(asc "Host", asc "a.com")] (poolHost (asc "b.com") [])) :=
  host_iff .GET exampleUri (asc "b.com") [] (asc "/") [] [(asc "Host", asc "a.com")]
    (List.pairwise_singleton _ _)

/-- **The host of the caller is lost.** -/
theorem host_lost : ¬ ∀ (method : HttpMethod) (uri : Uri) (body : Str)
    (headers : List (Str × Str)), Distinct headers →
    Carries headers uri.host (DoRequest method uri headers body) := by
  intro h
  have hhost := (h .GET exampleUri [] [(asc "Host", asc "a.com")]
    (List.pairwise_singleton _ _)).host
  revert hhost
  decide

end Http
end KitServer
