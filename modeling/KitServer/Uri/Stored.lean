import KitServer.Uri.Components

/-!
# What `Uri::Create` stores

`Parts` are the components of a URI with an authority, as RFC 3986 has them.  The parser stores
them, but for two slips of `uri.rl`: the counts of its `IPv6address` are exact (and its `IPvFuture`
has only the small `v`), and a digit behind the first colon of a userinfo sets the mark of a port.

* `create_parts`    the result, when the parser takes the host;
* `create_refuses`  no result, when it does not;
* `stores_iff`      the components that are stored as they are.
-/

set_option linter.unusedVariables false

namespace KitServer
open Http (Str asc atoi)

namespace Uri
open Regex

/-! ## the components -/

/-- the components of `scheme://[userinfo@]host[:port]path[?query][#fragment]` -/
structure Parts where
  scheme : Str
  userinfo : Option Str
  host : Str
  port : Option Str
  path : Str
  query : Option Str
  fragment : Option Str

/-- what follows the authority's host -/
def Parts.tailText (p : Parts) : Str := portPart p.port ++ (p.path ++ restText p.query p.fragment)

def Parts.text (p : Parts) : Str := frontText p.scheme p.userinfo ++ (p.host ++ p.tailText)

/-- every component is one of the grammar, the host one of `hosts` -/
structure Parts.Form (hosts : Regex) (p : Parts) : Prop where
  scheme : p.scheme ∈ Rl.scheme.lang
  userinfo : ∀ v ∈ p.userinfo, v ∈ Rl.userinfo.lang
  host : p.host ∈ hosts.lang
  port : ∀ d ∈ p.port, d ∈ Rl.port.lang
  path : p.path ∈ Rl.pathAbempty.lang
  query : ∀ v ∈ p.query, v ∈ Rl.query.lang
  fragment : ∀ v ∈ p.fragment, v ∈ Rl.fragment.lang

def Parts.stored (p : Parts) : Uri where
  scheme := p.scheme
  userinfo := storedUserinfo (p.userinfo.getD [])
  host := p.host
  port := storedPort p.port
  path := p.path
  query := p.query.getD []
  fragment := p.fragment.getD []

/-- the components themselves, absent ones empty -/
def Parts.uri (p : Parts) : Uri where
  scheme := p.scheme
  userinfo := p.userinfo.getD []
  host := p.host
  port := Http.digitsFrom 10 0 (p.port.getD [])
  path := p.path
  query := p.query.getD []
  fragment := p.fragment.getD []

/-! ## hosts -/

theorem ipv4_regName {host : Str} (h : host ∈ Rfc.ipv4address.lang) :
    host ∈ Rl.regName.lang := by
  have hbyte : ∀ c : UInt8, Rl.unreserved.testBit c.toNat = true →
      [c] ∈ (bytes Rl.unreserved + Rl.pctEncoded + bytes Rl.subDelims).lang :=
    fun c hc => Or.inl (Or.inl ⟨c, hc, rfl⟩)
  exact mem_star_of_bytes hbyte host
    (testBit_of_mem_lang (m := Rl.unreserved) _ host (by decide) h)

theorem rfc_host_cases {host : Str} (h : host ∈ Rfc.host.lang) : host ∈ Rl.regName.lang
    ∨ ∃ w, host = 91 :: (w ++ [93]) ∧ w ∈ (Rfc.ipv6address + Rfc.ipvFuture).lang := by
  rcases h with (h | h) | h
  · exact .inr (mem_literal.mp h)
  · exact .inl (ipv4_regName h)
  · exact .inl h

/-! ## the result -/

/-- **What is stored, when the parser takes the host.** -/
theorem create_parts {hosts : Regex} {p : Parts} (h : p.Form hosts)
    (hhost : p.host ∈ Rl.host.lang) (hport : p.port ≠ some []) :
    Create p.text = .ok (some p.stored) := by
  obtain ⟨cs, hcs, name, hcreate⟩ := create_front (u := p.text) rfl h.scheme h.userinfo
  have hdigits : ∀ d ∈ p.port, d ∈ Rl.port.lang ∧ d ≠ [] := by
    intro d hd
    refine ⟨h.port d hd, ?_⟩
    rintro rfl
    exact hport hd
  have htext : p.text = frontText p.scheme p.userinfo
      ++ (p.host ++ (portPart p.port ++ (p.path ++ restText p.query p.fragment))) := rfl
  rw [hcreate, Parts.tailText,
    resume_authority hcs htext hhost hdigits h.path h.query h.fragment rfl rfl rfl]
  rfl

theorem run_of_resume {u rest : Str} {cs p : Nat} {s : Parse} {x : Uri}
    (h : resume u cs p rest s = .ok (some x)) : ∃ cs', run trans cs rest = some cs' := by
  unfold resume at h
  cases hscan : scan trans (act u) cs p rest s with
  | more cs' s' => exact ⟨cs', run_of_more _ _ rest cs p s hscan⟩
  | stop cs' q s' =>
    rw [hscan] at h
    cases h
  | bad q s' =>
    rw [hscan] at h
    cases h
  | fail e =>
    rw [hscan] at h
    cases h

/-- **There is no result when it does not take the host.** -/
theorem create_refuses {p : Parts} (h : p.Form Rfc.host) (hhost : p.host ∉ Rl.host.lang) (x : Uri) :
    Create p.text ≠ .ok (some x) := by
  obtain ⟨cs, hcs, name, hcreate⟩ := create_front (u := p.text) rfl h.scheme h.userinfo
  rcases rfc_host_cases h.host with hname | ⟨w, hw, _⟩
  · exact absurd (.inr hname) hhost
  · intro hsome
    rw [hcreate, hw, List.cons_append] at hsome
    obtain ⟨cs', hcs', hgo⟩ := seg_byte (u := p.text) (frontText p.scheme p.userinfo)
      (w ++ [93] ++ p.tailText) cs hostSegs.bracket hcs (runActs_mark _ _ _)
    rw [List.mem_singleton] at hcs'
    rw [hgo, hcs'] at hsome
    obtain ⟨cs'', hrun⟩ := run_of_resume hsome
    rw [run_append, Option.bind_eq_some_iff] at hrun
    obtain ⟨cs₁, hliteral, _⟩ := hrun
    exact hhost (.inl (.inl (mem_literal.mpr ⟨w, hw, (literal_iff w).2 cs₁ hliteral⟩)))

/-! ## the components that are stored -/

theorem storedUserinfo_eq_self {v : Str} : storedUserinfo v = v ↔ portLike v = false := by
  unfold storedUserinfo
  cases hv : portLike v with
  | false => exact iff_of_true (if_neg Bool.false_ne_true) rfl
  | true =>
    rw [if_pos rfl]
    refine iff_of_false (fun heq => ?_) Bool.true_eq_false.mp
    have hlen : (afterColon v).length = (v.dropWhile (· ≠ colon)).length - 1 := List.length_drop
    have hle : (v.dropWhile (· ≠ colon)).length ≤ v.length := List.length_dropWhile_le _ v
    rw [heq] at hlen
    obtain rfl : v = [] := List.length_eq_zero_iff.mp (by omega)
    cases hv

/-- **The components are stored as they are exactly when the parser takes the host and no digit is
behind the first colon of the userinfo.** -/
theorem stores_iff (p : Parts) (h : p.Form Rfc.host)
    (hport : ∀ d ∈ p.port, 1 ≤ Http.digitsFrom 10 0 d ∧ Http.digitsFrom 10 0 d ≤ 32767) :
    Create p.text = .ok (some p.uri)
      ↔ p.host ∈ Rl.host.lang ∧ portLike (p.userinfo.getD []) = false := by
  by_cases hhost : p.host ∈ Rl.host.lang
  · have hne : p.port ≠ some [] := by
      intro hnil
      exact absurd (hport [] hnil).1 (by decide)
    have hnumber : storedPort p.port = Http.digitsFrom 10 0 (p.port.getD []) := by
      cases hp : p.port with
      | none => rfl
      | some d =>
        have hdigits : Digits d := testBit_of_mem_lang Rl.port d (by decide) (h.port d hp)
        exact toInt16_atoi hdigits (fun hnil => hne (by rw [hp, hnil])) (hport d hp).2
    rw [create_parts h hhost hne, ← storedUserinfo_eq_self]
    constructor
    · intro heq
      injection heq with heq
      injection heq with heq
      exact ⟨hhost, congrArg Uri.userinfo heq⟩
    · rintro ⟨_, huser⟩
      rw [Parts.stored, Parts.uri, huser, hnumber]
  · exact iff_of_false (create_refuses h hhost _) fun hboth => hhost hboth.1

def userParts (userinfo : Str) : Parts where
  scheme := asc "http"
  userinfo := some userinfo
  host := asc "h.org"
  port := some (asc "8080")
  path := asc "/x"
  query := none
  fragment := none

theorem userParts_form {userinfo : Str} (h : userinfo ∈ Rl.userinfo.lang) :
    (userParts userinfo).Form Rfc.host where
  scheme := show asc "http" ∈ Rl.scheme.lang by decide +kernel
  userinfo := fun v hv => Option.some.inj hv ▸ h
  host := show asc "h.org" ∈ Rfc.host.lang by decide +kernel
  port := fun d hd => Option.some.inj hd ▸ by decide +kernel
  path := show asc "/x" ∈ Rl.pathAbempty.lang by decide +kernel
  query := fun v hv => by cases hv
  fragment := fun v hv => by cases hv

/-- a userinfo without a colon -/
theorem stores_iff_user : Create (userParts (asc "user")).text
    = .ok (some (userParts (asc "user")).uri)
      ↔ (userParts (asc "user")).host ∈ Rl.host.lang
        ∧ portLike ((userParts (asc "user")).userinfo.getD []) = false :=
  stores_iff (userParts (asc "user")) (userParts_form (by decide +kernel))
    fun d hd => Option.some.inj hd ▸ by decide

/-- **Of `user:1` the parser keeps `1`.** -/
theorem userinfo_cut : ¬ ∀ p : Parts, p.Form Rfc.host →
    (∀ d ∈ p.port, 1 ≤ Http.digitsFrom 10 0 d ∧ Http.digitsFrom 10 0 d ≤ 32767) →
    Create p.text = .ok (some p.uri) := by
  intro h
  have hform : (userParts (asc "user:1")).Form Rfc.host := userParts_form (by decide +kernel)
  have hstored := create_parts hform (show asc "h.org" ∈ Rl.host.lang by decide +kernel) (by decide)
  rw [h _ hform fun d hd => Option.some.inj hd ▸ by decide] at hstored
  injection hstored with hstored
  injection hstored with hstored
  exact absurd (congrArg Uri.userinfo hstored) (by decide)

end Uri
end KitServer
