import KitServer.Uri.Stored

/-!
# `Uri::Create` of what `Uri::toString` writes

A URI with a port that is not the default one is not printed: the printer adds the port to the
address of a literal.  Without a port, a userinfo that is stored may be cut a second time.

* `toString_eq`          the text, when the port is the default one;
* `create_result`        the result is what `Parts.stored` says;
* `create_toString_iff`  the URIs that come back.
-/

set_option linter.unusedVariables false

namespace KitServer
open Http (Str asc atoi)

namespace Uri
open Regex

structure Same (x y : Uri) : Prop where
  scheme : y.scheme = x.scheme
  userinfo : y.userinfo = x.userinfo
  host : y.host = x.host
  port : y.getPort = x.getPort
  path : y.path = if x.path = [] then asc "/" else x.path
  query : y.query = x.query
  fragment : y.fragment = x.fragment

/-- the text of the URI is parsed to the same URI -/
def RoundTrips (x : Uri) : Prop :=
  ∃ t y, toString x = .ok t ∧ Create t = .ok (some y) ∧ Same x y

/-- a component that is not written when it is empty -/
def written (v : Str) : Option Str := if v = [] then none else some v

def toParts (x : Uri) : Parts where
  scheme := x.scheme
  userinfo := written x.userinfo
  host := x.host
  port := none
  path := if x.path = [] then asc "/" else x.path
  query := written x.query
  fragment := written x.fragment

theorem written_getD (v : Str) : (written v).getD [] = v := by
  unfold written
  split
  · rename_i hv
    rw [hv]
    rfl
  · rfl

theorem written_mem {L : Language UInt8} {v : Str} (hv : v ∈ L) : ∀ w ∈ written v, w ∈ L := by
  intro w hw
  unfold written at hw
  split at hw
  · cases hw
  · exact Option.some.inj hw ▸ hv

theorem length_ne_zero_iff {v : Str} : v.length ≠ 0 ↔ v ≠ [] := not_congr List.length_eq_zero_iff

/-- **The text of a URI with the default port.** -/
theorem toString_eq {x : Uri} (h : x.isDefaultPort = true) :
    toString x = .ok (toParts x).text := by
  have huser : userinfoPart (written x.userinfo)
      = x.userinfo ++ if x.userinfo.length ≠ 0 then asc "@" else [] := by
    unfold written
    by_cases hv : x.userinfo = []
    · rw [hv]
      rfl
    · rw [if_neg hv, if_pos (length_ne_zero_iff.mpr hv)]
      rfl
  have hquery : queryText (written x.query)
      = (if x.query.length ≠ 0 then asc "?" else []) ++ x.query := by
    unfold written
    by_cases hv : x.query = []
    · rw [hv]
      rfl
    · rw [if_neg hv, if_pos (length_ne_zero_iff.mpr hv)]
      rfl
  have hfragment : fragmentText (written x.fragment)
      = (if x.fragment.length ≠ 0 then asc "#" else []) ++ x.fragment := by
    unfold written
    by_cases hv : x.fragment = []
    · rw [hv]
      rfl
    · rw [if_neg hv, if_pos (length_ne_zero_iff.mpr hv)]
      rfl
  have hpath : (toParts x).path = if x.path.length ≠ 0 then x.path else asc "/" := by
    show (if x.path = [] then asc "/" else x.path) = _
    by_cases hv : x.path = []
    · rw [hv]
      rfl
    · rw [if_neg hv, if_pos (length_ne_zero_iff.mpr hv)]
  have hport : portText x = .ok [] := by
    unfold portText
    rw [if_pos h]
  unfold toString dump
  rw [hport]
  dsimp only
  rw [Parts.text, Parts.tailText, restText, frontText, ← hpath]
  show Except.ok _ = Except.ok (x.scheme ++ asc "://" ++ userinfoPart (written x.userinfo)
    ++ (x.host ++ ([] ++ ((toParts x).path
      ++ (queryText (written x.query) ++ fragmentText (written x.fragment))))))
  rw [huser, hquery, hfragment]
  simp only [List.append_assoc, List.nil_append]

theorem toString_faults {x : Uri} (h : x.isDefaultPort = false) :
    toString x = .error .outOfBounds := by
  have hne : x.port ≠ 0 := by
    intro hzero
    rw [isDefaultPort, if_pos hzero] at h
    cases h
  have hport : portText x = .error .outOfBounds := by
    unfold portText
    rw [h, if_neg Bool.false_ne_true, if_neg hne]
  unfold toString dump
  rw [hport]

theorem getPort_default {x y : Uri} (h : x.isDefaultPort = true) (hscheme : y.scheme = x.scheme)
    (hport : y.port = 0) : y.getPort = x.getPort := by
  unfold isDefaultPort at h
  unfold getPort
  rw [hscheme, hport, if_neg (show ¬ (0 : Int) ≠ 0 by decide)]
  by_cases hzero : x.port = 0
  · rw [if_neg (show ¬ x.port ≠ 0 from not_not.mpr hzero)]
  · rw [if_neg hzero] at h
    rw [if_pos hzero]
    by_cases hhttp : x.scheme = asc "http"
    · rw [if_pos hhttp] at h ⊢
      exact (of_decide_eq_true h).symm
    · rw [if_neg hhttp] at h ⊢
      by_cases hhttps : x.scheme = asc "https"
      · rw [if_pos hhttps] at h ⊢
        exact (of_decide_eq_true h).symm
      · rw [if_neg hhttps] at h
        cases h

/-! ## the components of what is stored -/

theorem storedUserinfo_lang {v : Str} (hv : v ∈ Rl.userinfo.lang) :
    storedUserinfo v ∈ Rl.userinfo.lang := by
  unfold storedUserinfo
  split
  · rcases userinfo_split hv with hname | ⟨a, b, rfl, hname, hb⟩
    · rw [afterColon_none (regName_no_colon hname)]
      exact (nil_mem_lang _).mpr (by decide)
    · rw [afterColon_cons (regName_no_colon hname)]
      exact hb
  · exact hv

theorem mem_getD {L : Language UInt8} {v : Option Str} (h : ∀ w ∈ v, w ∈ L) (hnil : [] ∈ L) :
    v.getD [] ∈ L := by
  cases v with
  | none => exact hnil
  | some w => exact h w rfl

theorem Parts.Form.toParts {hosts : Regex} {p : Parts} (h : p.Form hosts) :
    (Uri.toParts p.stored).Form hosts where
  scheme := h.scheme
  userinfo := written_mem
    (storedUserinfo_lang (mem_getD h.userinfo ((nil_mem_lang _).mpr (by decide))))
  host := h.host
  port := fun d hd => by cases hd
  path := by
    show (if p.path = [] then asc "/" else p.path) ∈ _
    split
    · decide
    · exact h.path
  query := written_mem (mem_getD h.query ((nil_mem_lang _).mpr (by decide)))
  fragment := written_mem (mem_getD h.fragment ((nil_mem_lang _).mpr (by decide)))

/-! ## the result -/

/-- the hosts of RFC 3986 and those of `uri.rl` -/
def hosts : Regex := Rfc.host + Rl.host

theorem create_emptyPort {p : Parts} (h : p.Form hosts) (hhost : p.host ∈ Rl.host.lang)
    (hport : p.port = some []) : Create p.text = .error .nullMark := by
  obtain ⟨cs, hcs, name, hcreate⟩ := create_front (u := p.text) rfl h.scheme h.userinfo
  have htail : p.tailText = colon :: (p.path ++ restText p.query p.fragment) := by
    rw [Parts.tailText, hport]
    rfl
  have htext : p.text = frontText p.scheme p.userinfo ++ (p.host
      ++ colon :: (p.path ++ restText p.query p.fragment)) := by
    rw [Parts.text, htail]
  obtain ⟨cs', hcs', m, hgo⟩ := resume_colon hcs htext hhost _
  rw [hcreate, htail, hgo, resume_emptyPort hcs' (by rw [htext]; simp) h.path
    (pathEnd_restText _ _)]

/-- **What is returned is what is stored.** -/
theorem create_result {p : Parts} (h : p.Form hosts) {x : Uri} (hx : Create p.text = .ok (some x)) :
    p.host ∈ Rl.host.lang ∧ x = p.stored := by
  have hhost : p.host ∈ Rl.host.lang := by
    rcases h.host with hrfc | hrl
    · by_contra hno
      exact create_refuses { h with host := hrfc } hno x hx
    · exact hrl
  refine ⟨hhost, ?_⟩
  by_cases hport : p.port = some []
  · rw [create_emptyPort h hhost hport] at hx
    cases hx
  · rw [create_parts h hhost hport] at hx
    injection hx with hx
    exact (Option.some.inj hx).symm

/-- the port is absent, or its number is 0 or the default one of the scheme -/
def Parts.DefaultPort (p : Parts) : Prop :=
  storedPort p.port = 0 ∨ (p.scheme = asc "http" ∧ storedPort p.port = 80)
    ∨ (p.scheme = asc "https" ∧ storedPort p.port = 443)

theorem isDefaultPort_iff (p : Parts) : p.stored.isDefaultPort = true ↔ p.DefaultPort := by
  unfold isDefaultPort Parts.DefaultPort
  show (if storedPort p.port = 0 then true else if p.scheme = asc "http" then
    decide (storedPort p.port = 80) else if p.scheme = asc "https" then
      decide (storedPort p.port = 443) else false) = true ↔ _
  by_cases hzero : storedPort p.port = 0
  · exact iff_of_true (if_pos hzero) (.inl hzero)
  · rw [if_neg hzero]
    by_cases hhttp : p.scheme = asc "http"
    · rw [if_pos hhttp, decide_eq_true_iff]
      constructor
      · exact fun hport => .inr (.inl ⟨hhttp, hport⟩)
      · rintro (hport | ⟨_, hport⟩ | ⟨hhttps, _⟩)
        · exact absurd hport hzero
        · exact hport
        · rw [hhttp] at hhttps
          exact absurd hhttps (by decide)
    · rw [if_neg hhttp]
      by_cases hhttps : p.scheme = asc "https"
      · rw [if_pos hhttps, decide_eq_true_iff]
        constructor
        · exact fun hport => .inr (.inr ⟨hhttps, hport⟩)
        · rintro (hport | ⟨hother, _⟩ | ⟨_, hport⟩)
          · exact absurd hport hzero
          · exact absurd hother hhttp
          · exact hport
      · rw [if_neg hhttps]
        refine iff_of_false Bool.false_ne_true ?_
        rintro (hport | ⟨hother, _⟩ | ⟨hother, _⟩)
        · exact hzero hport
        · exact hhttp hother
        · exact hhttps hother

/-- **A URI comes back exactly when its port is the default one and no digit is behind the first
colon of the userinfo that was stored.** -/
theorem create_toString_iff (p : Parts) (h : p.Form hosts) (x : Uri) (hx : Create p.text = .ok (some x)) :
    RoundTrips x ↔ p.DefaultPort ∧ portLike (storedUserinfo (p.userinfo.getD [])) = false := by
  obtain ⟨hhost, rfl⟩ := create_result h hx
  rw [← isDefaultPort_iff, ← storedUserinfo_eq_self]
  by_cases hdefault : p.stored.isDefaultPort = true
  · have htext := toString_eq hdefault
    have hcreate := create_parts h.toParts hhost (show none ≠ some [] by decide)
    have huser : (toParts p.stored).stored.userinfo
        = storedUserinfo (storedUserinfo (p.userinfo.getD [])) :=
      congrArg storedUserinfo (written_getD _)
    constructor
    · rintro ⟨t, y, ht, hy, hsame⟩
      rw [htext] at ht
      injection ht with ht
      rw [← ht, hcreate] at hy
      injection hy with hy
      obtain rfl := Option.some.inj hy
      exact ⟨hdefault, huser.symm.trans hsame.userinfo⟩
    · rintro ⟨_, hkept⟩
      exact ⟨_, _, htext, hcreate, rfl, huser.trans hkept, rfl, getPort_default hdefault rfl rfl,
        rfl, written_getD _, written_getD _⟩
  · refine iff_of_false ?_ fun hboth => hdefault hboth.1
    rintro ⟨t, y, ht, _⟩
    rw [toString_faults (Bool.eq_false_iff.mpr hdefault)] at ht
    cases ht

def portParts (port : Str) : Parts where
  scheme := asc "http"
  userinfo := none
  host := asc "h.org"
  port := some port
  path := asc "/x"
  query := none
  fragment := none

theorem portParts_form {port : Str} (h : port ∈ Rl.port.lang) : (portParts port).Form hosts where
  scheme := show asc "http" ∈ Rl.scheme.lang by decide +kernel
  userinfo := fun v hv => by cases hv
  host := show asc "h.org" ∈ hosts.lang by decide +kernel
  port := fun d hd => Option.some.inj hd ▸ h
  path := show asc "/x" ∈ Rl.pathAbempty.lang by decide +kernel
  query := fun v hv => by cases hv
  fragment := fun v hv => by cases hv

theorem portParts_host (port : Str) : (portParts port).host ∈ Rl.host.lang :=
  show asc "h.org" ∈ Rl.host.lang by decide +kernel

/-- the default port -/
theorem create_toString_iff_80 : RoundTrips (portParts (asc "80")).stored
    ↔ (portParts (asc "80")).DefaultPort
      ∧ portLike (storedUserinfo ((portParts (asc "80")).userinfo.getD [])) = false :=
  create_toString_iff (portParts (asc "80")) (portParts_form (by decide +kernel)) _
    (create_parts (portParts_form (by decide +kernel)) (portParts_host _) (by decide))

/-- **A URI with port 8080 is not printed.** -/
theorem port_faults : ¬ ∀ p : Parts, p.Form hosts → ∀ x, Create p.text = .ok (some x) →
    RoundTrips x := by
  intro h
  have hform : (portParts (asc "8080")).Form hosts := portParts_form (by decide +kernel)
  obtain ⟨t, y, ht, _⟩ := h _ hform _ (create_parts hform (portParts_host _) (by decide))
  rw [toString_faults (by decide)] at ht
  cases ht

end Uri
end KitServer
