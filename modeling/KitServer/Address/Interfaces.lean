import KitServer.Address.LookUp

/-!
# `Address::GetInertfaceAddresses`

The addresses of one interface, with the lengths of their prefixes.  A null `ifa_addr`, and a null
`ifa_netmask` beside an address of the internet, is followed: there is no result then.

* `Ifaddrs.read`    one entry of the list of `getifaddrs`;
* `foldlM_insert`   the loop over the list;
* `named_eq`        the call for an interface that is named;
* `ip_of_interface`  every address of a result is an IP address.
-/

set_option linter.unusedVariables false

namespace KitServer.Address
open Http (Str asc)

def AF_UNSPEC : BitVec 16 := 0

/-- an entry of the list of `getifaddrs`; a null pointer is none -/
structure Ifaddrs where
  ifa_name : Str
  ifa_addr : Option Sockaddr
  ifa_netmask : Option Sockaddr

/-- the pair for the map, none for an entry that is passed over -/
def Ifaddrs.read (e : Endian) (family : BitVec 16) (x : Ifaddrs) : Option (Option (Object × Nat)) :=
  match x.ifa_addr with
  | none => none
  | some addr =>
    if family ≠ AF_UNSPEC ∧ family ≠ addr.sa_family then some none
    else if addr.sa_family = AF_INET then
      x.ifa_netmask.map fun netmask =>
        some (CreateFromText e addr, CountBytes (netmask.toIn e).sin_addr)
    else if addr.sa_family = AF_INET6 then
      x.ifa_netmask.map fun netmask =>
        some (CreateFromText e addr, ((netmask.toIn6 e).sin6_addr.toList.map CountBytes).sum)
    else some none

/-- a `std::multimap` as its ranges of equal keys, each in the order of the insertions -/
abbrev Multimap := Str → List (Object × Nat)

def Multimap.insert (m : Multimap) (key : Str) (x : Object × Nat) : Multimap :=
  Function.update m key (m key ++ [x])

section
variable (e : Endian) (family : BitVec 16)

def insertRound (result : Multimap) (next : Ifaddrs) : Option Multimap :=
  (next.read e family).map fun
    | none => result
    | some x => result.insert next.ifa_name x

/-- `getifaddrs` gives a list, or none for an error -/
def insertAll (getifaddrs : Option (List Ifaddrs)) (result : Multimap) : Option (Bool × Multimap) :=
  match getifaddrs with
  | none => some (false, result)
  | some results => (results.foldlM (insertRound e family) result).map fun result => (true, result)

def GetInertfaceAddresses (getifaddrs : Option (List Ifaddrs)) (result : List (Object × Nat))
    (iface : Str) : Option (Bool × List (Object × Nat)) :=
  if iface = [] ∨ iface = asc "*" then
    let result := if family = AF_INET ∨ family = AF_UNSPEC then
      result ++ [(.ip (.v4 (.new e 0 0)), 0)] else result
    let result := if family = AF_INET6 ∨ family = AF_UNSPEC then
      result ++ [(.ip (.v6 .new), 0)] else result
    some (true, result)
  else
    (insertAll e family getifaddrs fun _ => []).map fun found =>
      if !found.1 then (false, result) else (true, result ++ found.2 iface)

/-- the pairs of an interface, in the order of the list -/
def found (name : Str) (results : List Ifaddrs) : List (Object × Nat) :=
  (results.filter fun x => x.ifa_name = name).filterMap fun x => (x.read e family).join

/-- **The loop**: it follows a null pointer, or collects for each interface what is its own. -/
theorem foldlM_insert (results : List Ifaddrs) (m : Multimap) :
    results.foldlM (insertRound e family) m =
      if ∀ x ∈ results, (x.read e family).isSome then
        some fun name => m name ++ found e family name results
      else none := by
  induction results generalizing m with
  | nil =>
    rw [if_pos fun x hx => absurd hx List.not_mem_nil]
    show some m = some fun name => m name ++ []
    simp
  | cons x results ih =>
    rw [List.foldlM_cons, insertRound]
    cases hx : x.read e family with
    | none =>
      rw [if_neg]
      · rfl
      · intro hall
        have hsome := hall x List.mem_cons_self
        rw [hx] at hsome
        cases hsome
    | some pair =>
      have hall : (∀ y ∈ x :: results, (y.read e family).isSome)
          ↔ ∀ y ∈ results, (y.read e family).isSome := by
        rw [List.forall_mem_cons, hx]
        exact and_iff_right rfl
      simp only [Option.map_some, Option.bind_eq_bind, Option.bind_some, ih, hall]
      refine if_congr Iff.rfl (congrArg some (funext fun name => ?_)) rfl
      cases pair with
      | none =>
        by_cases hname : x.ifa_name = name
        · simp [found, hname, hx]
        · simp [found, hname]
      | some pair =>
        show Function.update m x.ifa_name (m x.ifa_name ++ [pair]) name ++ _ = _
        rw [Function.update_apply]
        by_cases hname : x.ifa_name = name
        · simp [found, hname, hx]
        · simp [found, hname, Ne.symm hname]

/-- **An interface with a name**: its addresses, provided that no entry of the list has a null
pointer that is followed, of whichever interface. -/
theorem named_eq (results : List Ifaddrs) (result : List (Object × Nat)) {iface : Str}
    (h : ¬ (iface = [] ∨ iface = asc "*")) :
    GetInertfaceAddresses e family (some results) result iface =
      if ∀ x ∈ results, (x.read e family).isSome then
        some (true, result ++ found e family iface results)
      else none := by
  rw [GetInertfaceAddresses, if_neg h]
  simp only [insertAll, foldlM_insert]
  split
  · simp
  · rfl

variable {e family}

theorem Ifaddrs.read_ip {x : Ifaddrs} {pair : Object × Nat}
    (h : x.read e family = some (some pair)) : pair.1.asIPAddress.isSome := by
  have hread : ∀ {addr : Sockaddr} {ip : IPAddress} {f : Sockaddr → Nat},
      CreateFromText e addr = .ip ip →
      (x.ifa_netmask.map fun netmask => some (CreateFromText e addr, f netmask))
        = some (some pair) →
      pair.1.asIPAddress.isSome := by
    intro addr ip f hip hmap
    obtain ⟨netmask, -, hpair⟩ := Option.map_eq_some_iff.mp hmap
    rw [← Option.some.inj hpair, hip]
    rfl
  rw [Ifaddrs.read] at h
  split at h
  · cases h
  · next addr _ =>
    split_ifs at h with hfamily h4 h6
    · cases h
    · exact hread (by rw [CreateFromText, if_pos h4]) h
    · exact hread (by rw [CreateFromText, if_neg h4, if_pos h6]) h
    · cases h

/-- **The addresses of a result are IP addresses.** -/
theorem ip_of_interface {getifaddrs : Option (List Ifaddrs)} {iface : Str} {ok : Bool}
    {l : List (Object × Nat)}
    (h : GetInertfaceAddresses e family getifaddrs [] iface = some (ok, l)) :
    ∀ pair ∈ l, pair.1.asIPAddress.isSome := by
  by_cases hany : iface = [] ∨ iface = asc "*"
  · rw [GetInertfaceAddresses, if_pos hany] at h
    rw [← (Prod.mk.inj (Option.some.inj h)).2]
    intro pair hpair
    split_ifs at hpair <;> simp at hpair
    · rcases hpair with rfl | rfl <;> rfl
    · rw [hpair]
      rfl
    · rw [hpair]
      rfl
  · cases getifaddrs with
    | none =>
      rw [GetInertfaceAddresses, if_neg hany] at h
      rw [← (Prod.mk.inj (Option.some.inj h)).2]
      exact fun pair hpair => absurd hpair List.not_mem_nil
    | some results =>
      rw [named_eq e family results [] hany] at h
      split at h
      · rw [← (Prod.mk.inj (Option.some.inj h)).2, List.nil_append]
        intro pair hpair
        obtain ⟨x, -, hx⟩ := List.mem_filterMap.mp hpair
        exact Ifaddrs.read_ip (Option.join_eq_some_iff.mp hx)
      · cases h

/-- **No result means a null pointer.** -/
theorem exists_null {getifaddrs : Option (List Ifaddrs)} {iface : Str}
    (h : GetInertfaceAddresses e family getifaddrs [] iface = none) :
    ∃ results, getifaddrs = some results ∧ ∃ x ∈ results, x.read e family = none := by
  by_cases hany : iface = [] ∨ iface = asc "*"
  · rw [GetInertfaceAddresses, if_pos hany] at h
    cases h
  · cases getifaddrs with
    | none =>
      rw [GetInertfaceAddresses, if_neg hany] at h
      cases h
    | some results =>
      rw [named_eq e family results [] hany] at h
      split at h
      · cases h
      · next hnot =>
        push Not at hnot
        obtain ⟨x, hx, hnone⟩ := hnot
        refine ⟨results, rfl, x, hx, ?_⟩
        simpa using hnone

end
end KitServer.Address
