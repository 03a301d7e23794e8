import KitServer.Uri.RoundTrip
import KitServer.Address.LookUp

/-!
# The port of a URI, from its digits to the address

The digits pass through `atoi` into a signed field of 16 bits, and from there to the unsigned port
of the address.

* `createAddress`      the address of the host, with the port;
* `stored_emod`        a number below 2 ^ 16 keeps its 16 bits;
* `port_iff`           the ports that come out as they are written.
-/

set_option linter.unusedVariables false

namespace KitServer
open Http (Str asc atoi)

namespace Address.IPAddress
variable (e : Endian)

def getPort : IPAddress → BitVec 16
  | .v4 s => IPv4Address.getPort e s
  | .v6 s => IPv6Address.getPort e s

def setPort (val : BitVec 16) : IPAddress → IPAddress
  | .v4 s => .v4 (IPv4Address.setPort e s val)
  | .v6 s => .v6 (IPv6Address.setPort e s val)

theorem getPort_setPort (val : BitVec 16) (a : IPAddress) : (a.setPort e val).getPort e = val := by
  cases a with
  | v4 s => exact byteswap_byteswap_16 e val
  | v6 s => exact byteswap_byteswap_16 e val

end Address.IPAddress

namespace Uri
open Regex

/-- `LookUpAnyIPAddress` with its default arguments (`AF_INET`, 0, 0) -/
def createAddress (getaddrinfo : Address.Resolver) (e : Endian) (x : Uri) :
    Option Address.IPAddress :=
  let addr := Address.LookUpAnyIPAddress getaddrinfo e x.host 2 0 0
  addr.map fun a => a.setPort e (BitVec.ofInt 16 x.getPort)

/-! ## the conversions -/

/-- the number that digits stand for -/
def number (d : Str) : Nat := Http.digitsFrom 10 0 d

section
variable {d : Str} (hd : Digits d) (hne : d ≠ [])
include hd hne

theorem atoi_digits (hle : number d ≤ 65535) : atoi d = number d := by
  obtain ⟨c, d', rfl⟩ := List.exists_cons_of_ne_nil hne
  have hlong : ((number (c :: d') : Nat) : Int).bmod (2 ^ 32) = number (c :: d') :=
    Int.bmod_eq_of_le (by omega) (by omega)
  rw [atoi, strtol_digits _ (hd c List.mem_cons_self), Http.toInt32]
  show (min (2 ^ 63 - 1) ((number (c :: d') : Nat) : Int)).bmod (2 ^ 32) = _
  rw [min_eq_right (by omega), hlong]

theorem stored_emod (hle : number d ≤ 65535) : storedPort (some d) % 2 ^ 16 = number d := by
  rw [storedPort, atoi_digits hd hne hle, toInt16]
  show ((number d : Nat) : Int).bmod (2 ^ 16) % ((2 ^ 16 : Nat) : Int) = _
  rw [Int.bmod_emod]
  omega

end

theorem toInt16_le (v : Int) : toInt16 v ≤ 32767 :=
  Int.bmod_le (by decide)

def defaultPort (scheme : Str) : Int :=
  if scheme = asc "http" then 80 else if scheme = asc "https" then 443 else 0

theorem getPort_eq (x : Uri) : x.getPort = if x.port ≠ 0 then x.port else defaultPort x.scheme :=
  rfl

theorem defaultPort_le (scheme : Str) : defaultPort scheme ≤ 443 := by
  unfold defaultPort
  split_ifs <;> decide

/-! ## the ports that come out as they are written -/

def Parts.withPort (p : Parts) (port : Option Str) : Parts := { p with port := port }

/-- what must become of the digits `d` behind the colon -/
structure PortRight (getaddrinfo : Address.Resolver) (e : Endian) (p : Parts) (d : Str) : Prop where
  inRange : d ≠ [] → 1 ≤ number d → number d ≤ 65535 →
    ∃ x, Create (p.withPort (some d)).text = .ok (some x) ∧ x.getPort % 2 ^ 16 = number d ∧
      ∀ a, x.createAddress getaddrinfo e = some a → (a.getPort e).toNat = number d
  above : 65535 < number d →
    ¬ ∃ x, Create (p.withPort (some d)).text = .ok (some x) ∧ x.getPort ≠ number d
  empty : d = [] → ∃ x, Create (p.withPort (some d)).text = .ok (some x) ∧
    x.getPort = defaultPort p.scheme

section
variable {p : Parts} {d : Str} (hform : (p.withPort none).Form hosts)
include hform

theorem withPort_form (hd : d ∈ Rl.port.lang) : (p.withPort (some d)).Form hosts :=
  { hform with port := fun v hv => Option.some.inj hv ▸ hd }

theorem create_withPort (hhost : p.host ∈ Rl.host.lang) (hd : d ∈ Rl.port.lang) (hne : d ≠ []) :
    Create (p.withPort (some d)).text = .ok (some (p.withPort (some d)).stored) :=
  create_parts (withPort_form hform hd) hhost fun h => hne (Option.some.inj h)

section
variable {getaddrinfo : Address.Resolver} {e : Endian}
  (hhost : p.host ∈ Rl.host.lang) (hd : d ∈ Rl.port.lang)
include hhost hd

theorem PortRight.le (h : PortRight getaddrinfo e p d) : d ≠ [] ∧ number d ≤ 65535 := by
  have hne : d ≠ [] := by
    intro hnil
    obtain ⟨x, hx, -⟩ := h.empty hnil
    rw [create_emptyPort (withPort_form hform hd) hhost (congrArg some hnil)] at hx
    cases hx
  refine ⟨hne, ?_⟩
  by_contra hlarge
  refine h.above (by omega) ⟨_, create_withPort hform hhost hd hne, ?_⟩
  rw [getPort_eq]
  have hport : (p.withPort (some d)).stored.port ≤ 32767 := toInt16_le _
  have hdefault := defaultPort_le (p.withPort (some d)).stored.scheme
  split_ifs <;> omega

theorem portRight_of_le (hne : d ≠ []) (hle : number d ≤ 65535) :
    PortRight getaddrinfo e p d where
  inRange := by
    intro _ hpos _
    have hdigits : Digits d := testBit_of_mem_lang Rl.port d (by decide) hd
    have hbits : (p.withPort (some d)).stored.port % 2 ^ 16 = number d :=
      stored_emod hdigits hne hle
    have hget : (p.withPort (some d)).stored.getPort = (p.withPort (some d)).stored.port := by
      rw [getPort_eq, if_pos]
      intro hzero
      rw [hzero] at hbits
      omega
    refine ⟨_, create_withPort hform hhost hd hne, by rw [hget, hbits], fun a ha => ?_⟩
    obtain ⟨b, -, rfl⟩ := Option.map_eq_some_iff.mp ha
    rw [Address.IPAddress.getPort_setPort, BitVec.toNat_ofInt, hget]
    show ((p.withPort (some d)).stored.port % 2 ^ 16).toNat = _
    rw [hbits, Int.toNat_natCast]
  above := fun h => absurd hle (by omega)
  empty := fun h => absurd h hne

end

/-- **The ports that come out as they are written: those that are not empty and no more than
65535.  As a signed number `getPort` is right up to 32767.** -/
theorem port_iff (getaddrinfo : Address.Resolver) (e : Endian) {y : Uri}
    (hy : Create (p.withPort none).text = .ok (some y)) (hd : d ∈ Rl.port.lang) :
    (PortRight getaddrinfo e p d ↔ d ≠ [] ∧ number d ≤ 65535) ∧
    ∀ x, Create (p.withPort (some d)).text = .ok (some x) → 1 ≤ number d → number d ≤ 65535 →
      (x.getPort = number d ↔ number d ≤ 32767) := by
  have hhost : p.host ∈ Rl.host.lang := (create_result hform hy).1
  refine ⟨⟨fun h => h.le hform hhost hd,
    fun h => portRight_of_le hform hhost hd h.1 h.2⟩, fun x hx hpos hle => ?_⟩
  have hne : d ≠ [] := by
    rintro rfl
    exact absurd hpos (by decide)
  obtain rfl := (create_result (withPort_form hform hd) hx).2
  have hdigits : Digits d := testBit_of_mem_lang Rl.port d (by decide) hd
  have hbits : (p.withPort (some d)).stored.port % 2 ^ 16 = number d :=
    stored_emod hdigits hne hle
  have hle' : (p.withPort (some d)).stored.port ≤ 32767 := toInt16_le _
  have hzero : (p.withPort (some d)).stored.port ≠ 0 := by
    intro hzero
    rw [hzero] at hbits
    omega
  rw [getPort_eq, if_pos hzero]
  constructor
  · intro h
    omega
  · intro h
    exact toInt16_atoi hdigits hne h

end

theorem noPort_form : ((portParts []).withPort none).Form hosts :=
  { portParts_form (show [] ∈ Rl.port.lang by decide +kernel) with
    port := fun v hv => by cases hv }

/-- one address for every name, 127.0.0.1 -/
def localhost : Address.Resolver := fun _ _ _ =>
  .ok [⟨Address.AF_INET, [0, 0, 127, 0, 0, 1, 0, 0, 0, 0, 0, 0, 0, 0]⟩]

theorem port_iff_8080 :
    ((((portParts []).withPort (some (asc "8080"))).stored).createAddress localhost
      .small).map (Address.IPAddress.getPort .small) = some 8080 ∧
    (PortRight localhost .small (portParts []) (asc "8080")
      ↔ asc "8080" ≠ [] ∧ number (asc "8080") ≤ 65535) ∧
    ∀ x, Create ((portParts []).withPort (some (asc "8080"))).text = .ok (some x) →
      1 ≤ number (asc "8080") → number (asc "8080") ≤ 65535 →
      (x.getPort = number (asc "8080") ↔ number (asc "8080") ≤ 32767) :=
  ⟨by decide +kernel, port_iff noPort_form localhost .small
    (create_parts noPort_form (portParts_host []) (by decide))
    (show asc "8080" ∈ Rl.port.lang by decide +kernel)⟩

/-- the port 65616 is stored as 80 -/
theorem port_wraps : ¬ ∀ (getaddrinfo : Address.Resolver) (e : Endian) (p : Parts) (d : Str)
    (y : Uri), (p.withPort none).Form hosts → Create (p.withPort none).text = .ok (some y) →
    d ∈ Rl.port.lang → PortRight getaddrinfo e p d := by
  intro h
  have hd : asc "65616" ∈ Rl.port.lang := by decide +kernel
  have hright := h (fun _ _ _ => .error 0) .small (portParts []) (asc "65616") _ noPort_form
    (create_parts noPort_form (portParts_host []) (by decide)) hd
  exact absurd (hright.le noPort_form (portParts_host []) hd).2 (by decide +kernel)

end Uri
end KitServer
