import Mathlib
import KitServer.Address.Sockaddr
import KitServer.Http.Message

/-!
# `Address::LookUp` and its two wrappers

The host string is cut into a node and a service for `getaddrinfo`, which is any function here.

* `nodeService`       the two scans and the fallback;
* `LookUp`, `LookUpAny`, `LookUpAnyIPAddress`;
* `calls_iff`         what `LookUp` calls the resolver with;
* `splits_iff`        the hosts whose cut is the one of their form;
* `wrappers_iff`      the arguments the wrappers pass on unchanged.
-/

set_option linter.unusedVariables false

namespace KitServer.Address
open Http

/-! ## addresses from the resolver -/

/-- a `sockaddr`: the family and the bytes behind it -/
structure Sockaddr where
  sa_family : BitVec 16
  sa_data : List (BitVec 8)
deriving DecidableEq, Repr

namespace Sockaddr
variable (e : Endian) (a : Sockaddr)

def byte (i : Nat) : BitVec 8 := a.sa_data[i]?.getD 0

/-- two and four bytes read as a number of the host -/
def half (i : Nat) : BitVec 16 :=
  match e with
  | .small => a.byte (i + 1) ++ a.byte i
  | .big => a.byte i ++ a.byte (i + 1)

def full (i : Nat) : BitVec 32 :=
  match e with
  | .small => a.half e (i + 2) ++ a.half e i
  | .big => a.half e i ++ a.half e (i + 2)

/-- the same bytes as a `sockaddr_in` -/
def toIn : SockaddrIn where
  sin_family := a.sa_family
  sin_port := a.half e 0
  sin_addr := a.full e 2

/-- the same bytes as a `sockaddr_in6` -/
def toIn6 : SockaddrIn6 where
  sin6_family := a.sa_family
  sin6_port := a.half e 0
  sin6_flowinfo := a.full e 2
  sin6_addr := Vector.ofFn fun i : Fin 16 => a.byte (6 + i.val)
  sin6_scope_id := a.full e 22

end Sockaddr

def AF_UNIX : BitVec 16 := 1

/-- an object of one of the two classes below `IPAddress` -/
inductive IPAddress where
  | v4 (s : IPv4Address)
  | v6 (s : IPv6Address)
deriving DecidableEq, Repr

/-- an object of one of the classes below `Address` -/
inductive Object where
  | ip (s : IPAddress)
  | unix (s : Sockaddr)
  | unknown (s : Sockaddr)
deriving DecidableEq, Repr

/-- `Address::CreateFromText` -/
def CreateFromText (e : Endian) (a : Sockaddr) : Object :=
  if a.sa_family = AF_INET then .ip (.v4 (a.toIn e))
  else if a.sa_family = AF_INET6 then .ip (.v6 (a.toIn6 e))
  else if a.sa_family = AF_UNIX then .unix a
  else .unknown a

/-- `std::dynamic_pointer_cast<IPAddress>` -/
def Object.asIPAddress : Object → Option IPAddress
  | .ip s => some s
  | _ => none

/-! ## node and service -/

/-- the characters in front of the first 0 -/
def c_str (s : Str) : Str := s.takeWhile (· ≠ 0)

/-- `memchr` from place `start` up to the end -/
def memchr (s : Str) (start : Nat) (c : UInt8) : Option Nat :=
  ((s.drop start).findIdx? (· = c)).map (start + ·)

/-- `[xxx]:service`: the node, and the place of the service -/
def bracketed (host : Str) : Str × Option Nat :=
  if host[0]? = some 91 then
    match memchr host 1 93 with
    | some endipv6 =>
      ((host.drop 1).take (endipv6 - 1),
        if host[endipv6 + 1]? = some 58 then some (endipv6 + 2) else none)
    | none => ([], none)
  else ([], none)

/-- `xxx:service` -/
def coloned (host : Str) : Str × Option Nat :=
  match memchr host 0 58 with
  | some service =>
    match memchr host (service + 1) 58 with
    | none => (host.take service, some (service + 1))
    | some _ => ([], some service)
  | none => ([], none)

/-- the two C strings for `getaddrinfo` -/
def nodeService (host : Str) : Str × Option Str :=
  let cut := bracketed host
  let cut := if cut.1 = [] then coloned host else cut
  let node := if cut.1 = [] then host else cut.1
  (c_str node, cut.2.map fun place => c_str (host.drop place))

structure Hints where
  ai_family : Int
  ai_socktype : Int
  ai_protocol : Int
deriving DecidableEq, Repr

/-- `getaddrinfo`: an error code or the list of addresses -/
abbrev Resolver := Str → Option Str → Hints → Except Int (List Sockaddr)

section
variable (getaddrinfo : Resolver) (e : Endian)

/-- what is done with the resolver's answer -/
def deliver (result : List Object) (answer : Except Int (List Sockaddr)) : Bool × List Object :=
  match answer with
  | .error _ => (false, result)
  | .ok results =>
    let result := result ++ results.map (CreateFromText e)
    (result.length ≠ 0, result)

def LookUp (result : List Object) (host : Str) (family type protocol : Int) :
    Bool × List Object :=
  let cut := nodeService host
  deliver e result (getaddrinfo cut.1 cut.2 ⟨family, type, protocol⟩)

/-- `LookUp(result, host, type, protocol)`, whose last argument is the default 0 -/
def LookUpAny (host : Str) (family type protocol : Int) : Option Object :=
  let found := LookUp getaddrinfo e [] host type protocol 0
  if found.1 then found.2[0]? else none

def LookUpAnyIPAddress (host : Str) (family type protocol : Int) : Option IPAddress :=
  let found := LookUp getaddrinfo e [] host type protocol 0
  if found.1 then found.2.findSome? Object.asIPAddress else none

end

/-! ## what the resolver is called with -/

/-- whatever the resolver does, `LookUp` makes its result from the answer to this call -/
def Calls (host node : Str) (service : Option Str) : Prop :=
  ∀ (getaddrinfo : Resolver) (e : Endian) (result : List Object) (family type protocol : Int),
    LookUp getaddrinfo e result host family type protocol
      = deliver e result (getaddrinfo node service ⟨family, type, protocol⟩)

theorem calls_iff (host node : Str) (service : Option Str) :
    Calls host node service ↔ nodeService host = (node, service) := by
  constructor
  · intro h
    have hcall := h (fun n s _ => if n = node ∧ s = service then .ok [⟨0, []⟩] else .error 0) .big
      [] 0 0 0
    have hthere : node = node ∧ service = service := ⟨rfl, rfl⟩
    rw [LookUp, if_pos hthere] at hcall
    by_contra hne
    have hno : ¬ ((nodeService host).1 = node ∧ (nodeService host).2 = service) :=
      fun hboth => hne (Prod.ext hboth.1 hboth.2)
    rw [if_neg hno] at hcall
    cases hcall
  · intro h getaddrinfo e result family type protocol
    rw [LookUp, h]

section
variable {host a b : Str} {c : UInt8}

theorem memchr_eq_none {start : Nat} (h : c ∉ host.drop start) : memchr host start c = none := by
  rw [memchr, Option.map_eq_none_iff, List.findIdx?_eq_none_iff]
  intro x hx
  refine decide_eq_false ?_
  rintro rfl
  exact h hx

theorem memchr_eq_some {start : Nat} (hdrop : host.drop start = a ++ c :: b) (h : c ∉ a) :
    memchr host start c = some (start + a.length) := by
  have hnone : a.findIdx? (fun x => decide (x = c)) = none := by
    rw [List.findIdx?_eq_none_iff]
    intro x hx
    refine decide_eq_false ?_
    rintro rfl
    exact h hx
  rw [memchr, hdrop, List.findIdx?_append, hnone, List.findIdx?_cons,
    if_pos (decide_eq_true rfl)]
  simp

theorem exists_memchr {start : Nat} (h : c ∈ host.drop start) :
    ∃ a b, host.drop start = a ++ c :: b ∧ c ∉ a ∧
      memchr host start c = some (start + a.length) := by
  obtain ⟨a, b, hab, hnot⟩ := List.eq_append_cons_of_mem h
  exact ⟨a, b, hab, hnot, memchr_eq_some hab hnot⟩

theorem drop_behind (a b : Str) (c : UInt8) : (a ++ c :: b).drop (a.length + 1) = b := by
  rw [List.drop_append, List.drop_of_length_le (by omega), Nat.add_sub_cancel_left]
  rfl

end

/-! ## the cut of each form -/

/-- the calls for `[x]`, for `[x]:s`, for `h:s` with one colon and for the strings that are taken
whole -/
structure Splits (host : Str) : Prop where
  bracket : ∀ x, x ≠ [] → 93 ∉ x → host = asc "[" ++ x ++ asc "]" → Calls host (c_str x) none
  bracketService : ∀ x s, x ≠ [] → 93 ∉ x → host = asc "[" ++ x ++ asc "]:" ++ s →
    Calls host (c_str x) (some (c_str s))
  colon : ∀ h s, h ≠ [] → h[0]? ≠ some 91 → 58 ∉ h → 58 ∉ s → host = h ++ asc ":" ++ s →
    Calls host (c_str h) (some (c_str s))
  whole : host[0]? ≠ some 91 → host.count 58 = 0 ∨ 2 ≤ host.count 58 →
    Calls host (c_str host) none

section
variable {x s : Str}

theorem bracketed_of_bracket (hx : 93 ∉ x) (r : Str) :
    bracketed (91 :: (x ++ 93 :: r))
      = (x, if r[0]? = some 58 then some (x.length + 3) else none) := by
  have hfind : memchr (91 :: (x ++ 93 :: r)) 1 93 = some (1 + x.length) :=
    memchr_eq_some rfl hx
  have hnext : (91 :: (x ++ 93 :: r))[1 + x.length + 1]? = r[0]? := by
    rw [Nat.add_right_comm, Nat.add_comm, List.getElem?_cons_succ,
      List.getElem?_append_right (by omega)]
    simp
  have htake : ((91 :: (x ++ 93 :: r)).drop 1).take (1 + x.length - 1) = x := by
    rw [Nat.add_sub_cancel_left]
    exact List.take_left
  have hfirst : (91 :: (x ++ 93 :: r))[0]? = some 91 := rfl
  rw [bracketed, if_pos hfirst, hfind]
  show (_, if (91 :: (x ++ 93 :: r))[1 + x.length + 1]? = some 58 then _ else _) = _
  rw [htake, hnext, show 1 + x.length + 2 = x.length + 3 by omega]

theorem nodeService_bracket (hne : x ≠ []) (hx : 93 ∉ x) (r : Str) :
    nodeService (91 :: (x ++ 93 :: r))
      = (c_str x, if r[0]? = some 58 then some (c_str (r.drop 1)) else none) := by
  have hdrop : (91 :: (x ++ 93 :: r)).drop (x.length + 3) = r.drop 1 := by
    rw [show x.length + 3 = x.length + 2 + 1 by omega, List.drop_succ_cons, List.drop_append,
      List.drop_of_length_le (by omega), Nat.add_sub_cancel_left]
    rfl
  rw [nodeService, bracketed_of_bracket hx r]
  simp only [if_neg hne]
  split_ifs with h
  · rw [Option.map_some, hdrop]
  · rfl

theorem bracketed_of_ne {host : Str} (h : host[0]? ≠ some 91) : bracketed host = ([], none) :=
  if_neg h

theorem nodeService_of_ne {host : Str} (h : host[0]? ≠ some 91) :
    nodeService host
      = (c_str (if (coloned host).1 = [] then host else (coloned host).1),
        (coloned host).2.map fun place => c_str (host.drop place)) := by
  rw [nodeService, bracketed_of_ne h]
  rfl

theorem coloned_none {host : Str} (h : 58 ∉ host) : coloned host = ([], none) := by
  rw [coloned, memchr_eq_none h]

theorem coloned_one {h : Str} (hh : 58 ∉ h) (hs : 58 ∉ s) :
    coloned (h ++ 58 :: s) = (h, some (h.length + 1)) := by
  have hfirst : memchr (h ++ 58 :: s) 0 58 = some h.length := by
    rw [memchr_eq_some (List.drop_zero) hh, Nat.zero_add]
  have hsecond : memchr (h ++ 58 :: s) (h.length + 1) 58 = none := by
    refine memchr_eq_none ?_
    rw [drop_behind]
    exact hs
  rw [coloned, hfirst]
  simp only [hsecond, List.take_left]

theorem coloned_two {host : Str} (h : 2 ≤ host.count 58) :
    ∃ p, coloned host = ([], some p) := by
  have hmem : 58 ∈ host.drop 0 := List.count_pos_iff.mp (by rw [List.drop_zero]; omega)
  obtain ⟨a, b, hab, hnot, hfirst⟩ := exists_memchr hmem
  rw [List.drop_zero] at hab
  rw [Nat.zero_add] at hfirst
  have hb : 58 ∈ host.drop (a.length + 1) := by
    rw [hab, List.count_append, List.count_cons_self, List.count_eq_zero.mpr hnot] at h
    rw [hab, drop_behind]
    exact List.count_pos_iff.mp (by omega)
  obtain ⟨x, y, -, -, hsecond⟩ := exists_memchr hb
  refine ⟨a.length, ?_⟩
  rw [coloned, hfirst]
  simp only [hsecond]

end

/-- the form that goes wrong: a bare IPv6 address -/
def Bare (host : Str) : Prop := host[0]? ≠ some 91 ∧ 2 ≤ host.count 58

instance (host : Str) : Decidable (Bare host) := inferInstanceAs (Decidable (_ ∧ _))

theorem nodeService_bare {host : Str} (h : Bare host) :
    ∃ s, nodeService host = (c_str host, some s) := by
  obtain ⟨p, hp⟩ := coloned_two h.2
  refine ⟨c_str (host.drop p), ?_⟩
  rw [nodeService_of_ne h.1, hp]
  rfl

theorem Splits.notBare {host : Str} (h : Splits host) : ¬ Bare host := by
  intro hbare
  have hcall := h.whole hbare.1 (.inr hbare.2)
  obtain ⟨s, hs⟩ := nodeService_bare hbare
  rw [calls_iff, hs] at hcall
  cases (Prod.mk.inj hcall).2

/-- **The hosts that are cut as their form says: all but the bare IPv6 addresses.** -/
theorem splits_iff (host : Str) : Splits host ↔ ¬ Bare host := by
  constructor
  · exact Splits.notBare
  · intro hbare
    refine ⟨?_, ?_, ?_, ?_⟩
    · rintro x hne hx rfl
      rw [calls_iff]
      exact nodeService_bracket hne hx []
    · rintro x s hne hx rfl
      rw [calls_iff, List.append_assoc]
      exact nodeService_bracket hne hx (58 :: s)
    · rintro h s hne hfirst hh hs rfl
      have hhead : (h ++ asc ":" ++ s)[0]? ≠ some 91 := by
        rw [List.append_assoc, List.getElem?_append_left (List.length_pos_iff.mpr hne)]
        exact hfirst
      rw [calls_iff, nodeService_of_ne hhead, List.append_assoc]
      show (c_str (if (coloned (h ++ 58 :: s)).1 = [] then h ++ 58 :: s
        else (coloned (h ++ 58 :: s)).1),
        (coloned (h ++ 58 :: s)).2.map fun place => c_str ((h ++ 58 :: s).drop place)) = _
      rw [coloned_one hh hs, if_neg hne, Option.map_some, drop_behind]
    · intro hfirst hcount
      have hzero : host.count 58 = 0 :=
        hcount.resolve_right fun htwo => hbare ⟨hfirst, htwo⟩
      rw [calls_iff, nodeService_of_ne hfirst, coloned_none (List.count_eq_zero.mp hzero)]
      rfl

/-- `::1` is looked up with the service `::1` -/
theorem loopback_split : ¬ ∀ host : Str, Splits host := by
  intro h
  exact (h (asc "::1")).notBare (by decide +kernel)

/-! ## the wrappers -/

section
variable (getaddrinfo : Resolver) (e : Endian)

/-- the two wrappers give the first element, and the first `IPAddress`, of what `LookUp` finds for
the same arguments -/
def Wraps (host : Str) (family type protocol : Int) : Prop :=
  LookUpAny getaddrinfo e host family type protocol
    = (LookUp getaddrinfo e [] host family type protocol).2.head? ∧
  LookUpAnyIPAddress getaddrinfo e host family type protocol
    = (LookUp getaddrinfo e [] host family type protocol).2.findSome? Object.asIPAddress

theorem deliver_head (answer : Except Int (List Sockaddr)) :
    (if (deliver e [] answer).1 then (deliver e [] answer).2[0]? else none)
      = (deliver e [] answer).2.head? := by
  cases answer with
  | error ret => rfl
  | ok results => cases results <;> rfl

theorem deliver_findSome (answer : Except Int (List Sockaddr)) :
    (if (deliver e [] answer).1 then (deliver e [] answer).2.findSome? Object.asIPAddress
        else none)
      = (deliver e [] answer).2.findSome? Object.asIPAddress := by
  cases answer with
  | error ret => rfl
  | ok results => cases results <;> rfl

theorem wrappers_pass (host : Str) (family type protocol : Int) :
    LookUpAny getaddrinfo e host family type protocol
      = (LookUp getaddrinfo e [] host type protocol 0).2.head? ∧
    LookUpAnyIPAddress getaddrinfo e host family type protocol
      = (LookUp getaddrinfo e [] host type protocol 0).2.findSome? Object.asIPAddress :=
  ⟨deliver_head e _, deliver_findSome e _⟩

end

/-- a resolver that knows the addresses of these arguments only -/
def knows (hints : Hints) : Resolver :=
  fun _ _ h => if h = hints then .ok [⟨AF_INET, []⟩] else .error 0

theorem knows_self (hints : Hints) (node : Str) (service : Option Str) :
    knows hints node service hints = .ok [⟨AF_INET, []⟩] :=
  if_pos rfl

theorem knows_other {hints h : Hints} (hne : h ≠ hints) (node : Str) (service : Option Str) :
    knows hints node service h = .error 0 :=
  if_neg hne

theorem Wraps.passed {host : Str} {family type protocol : Int}
    (h : Wraps (knows ⟨family, type, protocol⟩) .big host family type protocol) :
    type = family ∧ protocol = type ∧ 0 = protocol := by
  have hfirst := h.1
  rw [(wrappers_pass (knows ⟨family, type, protocol⟩) .big host family type protocol).1, LookUp,
    LookUp, knows_self] at hfirst
  by_contra hne
  have hother : (⟨type, protocol, 0⟩ : Hints) ≠ ⟨family, type, protocol⟩ := by
    intro heq
    obtain ⟨h1, h2, h3⟩ := Hints.mk.inj heq
    exact hne ⟨h1, h2, h3⟩
  rw [knows_other hother] at hfirst
  cases hfirst

/-- **Whatever the resolver does, the wrappers are right for the arguments 0, 0, 0, and for no
others.** -/
theorem wrappers_iff (host : Str) (family type protocol : Int) :
    (∀ (getaddrinfo : Resolver) (e : Endian), Wraps getaddrinfo e host family type protocol)
      ↔ family = 0 ∧ type = 0 ∧ protocol = 0 := by
  constructor
  · intro h
    obtain ⟨h1, h2, h3⟩ := (h (knows ⟨family, type, protocol⟩) .big).passed
    omega
  · rintro ⟨rfl, rfl, rfl⟩ getaddrinfo e
    exact wrappers_pass getaddrinfo e host 0 0 0

/-- with the default arguments the resolver is not asked for the family AF_INET -/
theorem wrappers_default : ¬ ∀ (host : Str) (family type protocol : Int) (getaddrinfo : Resolver)
    (e : Endian), Wraps getaddrinfo e host family type protocol := by
  intro h
  have hpassed := (h (asc "localhost") 2 0 0 (knows ⟨2, 0, 0⟩) .big).passed
  omega

end KitServer.Address
