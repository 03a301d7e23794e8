import KitServer.Uri.Parts

/-!
# The components behind the userinfo, and the whole of a URI

What ends the authority, with or without a port, performs its actions in front of the path, of the
query, of the fragment and of the end of the input alike (`EndsAuthority`).  The lemmas follow the
table from a component to the result.

* `EndsAuthority`     a path with its query and fragment, to the result;
* `resume_host`       a host, up to what ends it;
* `resume_authority`  host and port, to the result;
* `create_front`      scheme and userinfo.
-/

set_option linter.unusedVariables false

namespace KitServer
open Http (Str asc atoi)

namespace Uri
open Regex

/-! ## query and fragment -/

def queryText : Option Str → Str
  | none => []
  | some q => question :: q

def fragmentText : Option Str → Str
  | none => []
  | some f => hash :: f

/-- the states `S` end a query with the actions `a`, in front of a fragment and of the end -/
structure EndsQuery (S : List Nat) (a : List Act) : Prop where
  fragment : seg anyByte a S (byte hash) [453] = true
  eof : (S.all fun cs => decide (eofActs cs = a ∧ firstFinal ≤ cs)) = true

/-- they end a path, also in front of a query -/
structure EndsPath (S : List Nat) (a : List Act) : Prop extends EndsQuery S a where
  query : seg anyByte a S (byte question) [456] = true

/-- they end an authority, also in front of a path -/
structure EndsAuthority (S : List Nat) (a : List Act) : Prop
    extends EndsPath S (a ++ [.savePath]) where
  path : seg anyByte a S Rl.pathAbempty [513] = true

theorem endsQuery_empty : EndsQuery [456] [.marku, .saveQuery] := by
  constructor <;> decide +kernel

theorem endsQuery : EndsQuery [457] [.saveQuery] := by
  constructor <;> decide +kernel

theorem endsPath : EndsPath [513] [.savePath] where
  fragment := by decide +kernel
  eof := by decide +kernel
  query := by decide +kernel

/-- the parts of a query and of a fragment -/
structure TailSegs : Prop where
  query : seg anyByte [.marku] [456] Rl.query [457] = true
  fragment : seg anyByte [.marku] [453] Rl.fragment [454] = true

theorem tailSegs : TailSegs := by
  constructor <;> decide +kernel

section
variable {u pre : Str}

theorem resume_end {cs : Nat} {s s' : Parse} (hu : u = pre) (hcs : firstFinal ≤ cs)
    (hacts : runActs (act u pre.length) (eofActs cs) s = .ok s') :
    resume u cs pre.length [] s = .ok (some s'.uri) := by
  subst hu
  have hne : cs ≠ error := by
    intro h
    subst h
    exact absurd hcs (by decide)
  show finish u cs s = _
  unfold finish
  rw [hacts]
  dsimp only
  rw [if_neg hne, if_pos hcs]

theorem save_part {v rest : Str} (hu : u = pre ++ (v ++ rest)) (set : Str → Uri → Uri)
    (next : Option Nat) (x : Uri) :
    save u (pre ++ v).length set next ⟨some pre.length, x⟩ = .ok ⟨next, set v x⟩ := by
  rw [save, span_part hu]

theorem save_here (p : Nat) (set : Str → Uri → Uri) (next : Option Nat) (x : Uri) :
    save u p set next ⟨some p, x⟩ = .ok ⟨next, set [] x⟩ := by
  rw [save, span_here]

theorem resume_fragment {f : Str} (hu : u = pre ++ f) (hf : f ∈ Rl.fragment.lang)
    (m : Option Nat) (x : Uri) :
    resume u 453 pre.length f ⟨m, x⟩ = .ok (some (setFragment f x)) := by
  by_cases hne : f = []
  · subst hne
    have hacts : runActs (act u pre.length) (eofActs 453) ⟨m, x⟩
        = .ok ⟨none, setFragment [] x⟩ := by
      show runActs (act u pre.length) [.marku, .saveFragment] ⟨m, x⟩ = _
      simp only [runActs, act, save_here]
    rw [List.append_nil] at hu
    exact resume_end hu (by decide) hacts
  · obtain ⟨cs, hcs, hgo⟩ := seg_resume (u := u) pre [] 453 tailSegs.fragment (by decide) hf hne
      (fun c _ => anyByte_testBit c)
      (show runActs (act u pre.length) [.marku] ⟨m, x⟩ = .ok ⟨some pre.length, x⟩ from rfl)
    rw [List.mem_singleton] at hcs
    have hacts : runActs (act u (pre ++ f).length) (eofActs 454) ⟨some pre.length, x⟩
        = .ok ⟨none, setFragment f x⟩ := by
      show runActs (act u (pre ++ f).length) [.saveFragment] ⟨some pre.length, x⟩ = _
      simp only [runActs, act, save_part (show u = pre ++ (f ++ []) by rw [List.append_nil, hu])]
    rw [List.append_nil] at hgo
    rw [hgo, hcs]
    exact resume_end hu (by decide) hacts

theorem EndsQuery.resume {S : List Nat} {a : List Act} (h : EndsQuery S a) {cs : Nat}
    (hcs : cs ∈ S) {f : Option Str} (hu : u = pre ++ fragmentText f)
    (hf : ∀ v ∈ f, v ∈ Rl.fragment.lang) {s : Parse} {m : Option Nat} {x : Uri}
    (hacts : runActs (act u pre.length) a s = .ok ⟨m, x⟩) (hx : x.fragment = []) :
    resume u cs pre.length (fragmentText f) s
      = .ok (some { x with fragment := f.getD [] }) := by
  cases f with
  | none =>
    obtain ⟨heof, hfinal⟩ := of_decide_eq_true (List.all_eq_true.mp h.eof cs hcs)
    rw [fragmentText, List.append_nil] at hu
    rw [← heof] at hacts
    rw [fragmentText, resume_end hu hfinal hacts, Option.getD_none, ← hx]
  | some v =>
    obtain ⟨cs', hcs', hgo⟩ := seg_byte (u := u) pre v cs h.fragment hcs hacts
    rw [List.mem_singleton] at hcs'
    rw [fragmentText, hgo, hcs', resume_fragment (by rw [hu, fragmentText]; simp) (hf v rfl)]
    rfl

theorem resume_query {q : Str} {f : Option Str} (hu : u = pre ++ (q ++ fragmentText f))
    (hq : q ∈ Rl.query.lang) (hf : ∀ v ∈ f, v ∈ Rl.fragment.lang) (m : Option Nat) {x : Uri}
    (hx : x.fragment = []) :
    resume u 456 pre.length (q ++ fragmentText f) ⟨m, x⟩
      = .ok (some { x with query := q, fragment := f.getD [] }) := by
  by_cases hne : q = []
  · subst hne
    have hacts : runActs (act u pre.length) [.marku, .saveQuery] ⟨m, x⟩
        = .ok ⟨none, setQuery [] x⟩ := by
      simp only [runActs, act, save_here]
    exact endsQuery_empty.resume List.mem_cons_self hu hf hacts hx
  · obtain ⟨cs, hcs, hgo⟩ := seg_resume (u := u) pre (fragmentText f) 456 tailSegs.query (by decide)
      hq hne (fun c _ => anyByte_testBit c)
      (show runActs (act u pre.length) [.marku] ⟨m, x⟩ = .ok ⟨some pre.length, x⟩ from rfl)
    have hacts : runActs (act u (pre ++ q).length) [.saveQuery] ⟨some pre.length, x⟩
        = .ok ⟨none, setQuery q x⟩ := by
      simp only [runActs, act, save_part hu]
    rw [hgo]
    exact endsQuery.resume hcs (by rw [hu, List.append_assoc]) hf hacts hx

def restText (q f : Option Str) : Str := queryText q ++ fragmentText f

theorem EndsPath.resume {S : List Nat} {a : List Act} (h : EndsPath S a) {cs : Nat}
    (hcs : cs ∈ S) {q f : Option Str} (hu : u = pre ++ restText q f)
    (hq : ∀ v ∈ q, v ∈ Rl.query.lang) (hf : ∀ v ∈ f, v ∈ Rl.fragment.lang) {s : Parse}
    {m : Option Nat} {x : Uri} (hacts : runActs (act u pre.length) a s = .ok ⟨m, x⟩)
    (hxq : x.query = []) (hx : x.fragment = []) :
    resume u cs pre.length (restText q f) s
      = .ok (some { x with query := q.getD [], fragment := f.getD [] }) := by
  cases q with
  | none =>
    have hplain : ({ x with query := (none : Option Str).getD [], fragment := f.getD [] } : Uri)
        = { x with fragment := f.getD [] } := by rw [Option.getD_none, ← hxq]
    rw [hplain]
    exact h.toEndsQuery.resume hcs hu hf hacts hx
  | some v =>
    obtain ⟨cs', hcs', hgo⟩ := seg_byte (u := u) pre (v ++ fragmentText f) cs h.query hcs hacts
    rw [List.mem_singleton] at hcs'
    have htext : restText (some v) f = question :: (v ++ fragmentText f) := rfl
    have hu' : u = pre ++ [question] ++ (v ++ fragmentText f) := by
      rw [hu, htext, List.append_assoc]
      rfl
    rw [htext, hgo, hcs', resume_query hu' (hq v rfl) hf _ hx]
    rfl

/-- **From the end of the authority to the result.** -/
theorem EndsAuthority.resume {S : List Nat} {a : List Act} (h : EndsAuthority S a) {cs : Nat}
    (hcs : cs ∈ S) {path : Str} {q f : Option Str} (hu : u = pre ++ (path ++ restText q f))
    (hpath : path ∈ Rl.pathAbempty.lang) (hq : ∀ v ∈ q, v ∈ Rl.query.lang)
    (hf : ∀ v ∈ f, v ∈ Rl.fragment.lang) {s : Parse} {x : Uri}
    (hacts : runActs (act u pre.length) a s = .ok ⟨some pre.length, x⟩)
    (hxq : x.query = []) (hx : x.fragment = []) :
    resume u cs pre.length (path ++ restText q f) s
      = .ok (some { x with path := path, query := q.getD [], fragment := f.getD [] }) := by
  by_cases hne : path = []
  · subst hne
    have hsave : runActs (act u pre.length) (a ++ [.savePath]) s = .ok ⟨none, setPath [] x⟩ := by
      rw [runActs_append, hacts]
      simp only [runActs, act, save_here]
    exact h.toEndsPath.resume hcs hu hq hf hsave hxq hx
  · obtain ⟨cs', hcs', hgo⟩ := seg_resume (u := u) pre (restText q f) cs h.path hcs hpath hne
      (fun c _ => anyByte_testBit c) hacts
    have hsave : runActs (act u (pre ++ path).length) [.savePath] ⟨some pre.length, x⟩
        = .ok ⟨none, setPath path x⟩ := by
      simp only [runActs, act, save_part hu]
    rw [hgo]
    exact endsPath.resume hcs' (by rw [hu, List.append_assoc]) hq hf hsave hxq hx

end

/-! ## the number of a port -/

theorem head_testBit {r : Regex} {m : Nat}
    (h : ((leftFirsts [[r]]).all fun x => x.1 &&& m == x.1) = true) {c : UInt8} {w : Str}
    (hw : c :: w ∈ r.lang) : m.testBit c.toNat = true := by
  rw [← mem_left_singleton, cons_mem_left] at hw
  obtain ⟨k, hk, _⟩ := hw
  rw [derive, List.mem_eraseDups] at hk
  obtain ⟨x, hx, _⟩ := List.mem_map.mp hk
  obtain ⟨hx, hc⟩ := List.mem_filter.mp hx
  have hset := List.all_eq_true.mp h x hx
  rw [beq_iff_eq] at hset
  rw [← hset, Nat.testBit_and, Bool.and_eq_true] at hc
  exact hc.2

/-- `d` is made of digits -/
def Digits (d : Str) : Prop := ∀ c ∈ d, Rl.digit.testBit c.toNat = true

theorem digit?_of_testBit {c : UInt8} (h : Rl.digit.testBit c.toNat = true) :
    Http.digit? 10 c = some (c.toNat - 48) := by
  rw [Rl.digit, testBit_byteRange, Bool.and_eq_true, decide_eq_true_iff, decide_eq_true_iff] at h
  have hlt : c.toNat - 48 < 10 := by omega
  simp only [Http.digit?, h, and_self, if_true, if_pos hlt]

theorem digit?_eq_none {c : UInt8} (h : Rl.digit.testBit c.toNat = false) :
    Http.digit? 10 c = none := by
  have hno : ¬ (48 ≤ c.toNat ∧ c.toNat ≤ 57) := by
    rintro ⟨hlo, hhi⟩
    rw [Rl.digit, testBit_byteRange, decide_eq_true hlo, decide_eq_true hhi] at h
    cases h
  unfold Http.digit?
  dsimp only
  rw [if_neg hno]
  split
  · rw [if_neg (by omega)]
  · split
    · rw [if_neg (by omega)]
    · rw [if_neg (by omega)]

theorem digitsFrom_append (d : Str) {rest : Str}
    (hrest : ∀ c ∈ rest.head?, Rl.digit.testBit c.toNat = false) : ∀ acc : Nat, Digits d →
      Http.digitsFrom 10 acc (d ++ rest) = Http.digitsFrom 10 acc d := by
  induction d with
  | nil =>
    intro acc _
    cases rest with
    | nil => rfl
    | cons c rest =>
      show Http.digitsFrom 10 acc (c :: rest) = acc
      rw [Http.digitsFrom, digit?_eq_none (hrest c rfl)]
  | cons c d ih =>
    intro acc hd
    rw [List.cons_append, Http.digitsFrom, Http.digitsFrom,
      digit?_of_testBit (hd c List.mem_cons_self)]
    exact ih _ fun e he => hd e (List.mem_cons_of_mem c he)

theorem skip0x_ten (s : Str) : Http.skip0x 10 s = s := by
  unfold Http.skip0x
  split
  · rfl
  · rfl

theorem strtol_digits {c : UInt8} (d : Str) (hc : Rl.digit.testBit c.toNat = true) :
    Http.strtol 10 (c :: d) = min (2 ^ 63 - 1) (Http.digitsFrom 10 0 (c :: d) : Int) := by
  rw [Rl.digit, testBit_byteRange, Bool.and_eq_true, decide_eq_true_iff, decide_eq_true_iff] at hc
  have hspace : Http.isspace c = false := by
    have h9 : ¬ c ≤ 13 := by
      rw [UInt8.le_iff_toNat_le]
      exact Nat.not_le.mpr (Nat.lt_of_lt_of_le (by decide) hc.1)
    have h32 : c ≠ 32 := by
      rintro rfl
      exact absurd hc.1 (by decide)
    rw [Http.isspace, decide_eq_false h9, decide_eq_false h32, Bool.and_false]
    rfl
  have hdrop : (c :: d).dropWhile Http.isspace = c :: d :=
    List.dropWhile_cons_of_neg (by rw [hspace]; exact Bool.false_ne_true)
  unfold Http.strtol
  dsimp only
  rw [hdrop, skip0x_ten]
  split
  · rename_i heq
    obtain ⟨rfl, _⟩ := List.cons.inj heq
    exact absurd hc.1 (by decide)
  · rename_i heq
    obtain ⟨rfl, _⟩ := List.cons.inj heq
    exact absurd hc.1 (by decide)
  · rfl

theorem atoi_append {d rest : Str} (hd : Digits d) (hne : d ≠ [])
    (hrest : ∀ c ∈ rest.head?, Rl.digit.testBit c.toNat = false) : atoi (d ++ rest) = atoi d := by
  obtain ⟨c, d', rfl⟩ := List.exists_cons_of_ne_nil hne
  have hc := hd c List.mem_cons_self
  rw [atoi, atoi, List.cons_append, strtol_digits _ hc, strtol_digits _ hc, ← List.cons_append,
    digitsFrom_append (c :: d') hrest 0 hd]

theorem toInt16_atoi {d : Str} (hd : Digits d) (hne : d ≠ [])
    (hle : Http.digitsFrom 10 0 d ≤ 32767) : toInt16 (atoi d) = Http.digitsFrom 10 0 d := by
  obtain ⟨c, d', rfl⟩ := List.exists_cons_of_ne_nil hne
  have hlong : ((Http.digitsFrom 10 0 (c :: d') : Nat) : Int).bmod (2 ^ 32)
      = Http.digitsFrom 10 0 (c :: d') := Int.bmod_eq_of_le (by omega) (by omega)
  rw [atoi, strtol_digits _ (hd c List.mem_cons_self), toInt16, Http.toInt32,
    min_eq_right (by omega), hlong]
  exact Int.bmod_eq_of_le (by omega) (by omega)

theorem head_rest {path : Str} (hpath : path ∈ Rl.pathAbempty.lang) (q f : Option Str) :
    ∀ c ∈ (path ++ restText q f).head?, Rl.digit.testBit c.toNat = false := by
  intro c hc
  cases path with
  | nil =>
    cases q with
    | some v =>
      obtain rfl := Option.some.inj hc
      decide
    | none =>
      cases f with
      | some v =>
        obtain rfl := Option.some.inj hc
        decide
      | none => cases hc
  | cons d path =>
    obtain rfl := Option.some.inj hc
    have hslash := head_testBit (m := one '/') (by decide) hpath
    have hd : d = slash := by
      rw [one, testBit_byteRange, Bool.and_eq_true, decide_eq_true_iff,
        decide_eq_true_iff] at hslash
      exact UInt8.toNat_inj.mp (Nat.le_antisymm hslash.2 hslash.1)
    rw [hd]
    decide

/-! ## host and port -/

theorem mem_chr {c : Char} {b : UInt8} (hb : c.toNat = b.toNat) {w : Str}
    (hw : w ∈ (chr c).lang) : w = [b] := by
  obtain ⟨d, hd, rfl⟩ := hw
  rw [one, hb, testBit_byteRange, Bool.and_eq_true, decide_eq_true_eq, decide_eq_true_eq] at hd
  have heq : d = b := UInt8.toNat_inj.mp (Nat.le_antisymm hd.2 hd.1)
  rw [heq]

theorem chr_mem {c : Char} {b : UInt8} (hb : c.toNat = b.toNat) : [b] ∈ (chr c).lang := by
  refine ⟨b, ?_, rfl⟩
  rw [one, hb, testBit_byteRange, decide_eq_true (le_refl _)]
  rfl

theorem mem_literal {a : Regex} {host : Str} :
    host ∈ (chr '[' * (a * chr ']')).lang ↔ ∃ w, host = 91 :: (w ++ [93]) ∧ w ∈ a.lang := by
  constructor
  · rintro ⟨u, hu, v, ⟨w, hw, z, hz, rfl⟩, rfl⟩
    rw [mem_chr (b := 91) rfl hu, mem_chr (b := 93) rfl hz]
    exact ⟨w, rfl, hw⟩
  · rintro ⟨w, rfl, hw⟩
    exact ⟨[91], chr_mem rfl, w ++ [93], ⟨w, hw, [93], chr_mem rfl, rfl⟩, rfl⟩

def portPart : Option Str → Str
  | none => []
  | some d => colon :: d

def storedPort : Option Str → Int
  | none => 0
  | some d => toInt16 (atoi d)

theorem endsAuthority_host : EndsAuthority hostEnd [.saveHost, .markh] where
  fragment := by decide +kernel
  eof := by decide +kernel
  query := by decide +kernel
  path := by decide +kernel

theorem endsAuthority_empty : EndsAuthority [511, 522] [.markh, .saveHost] where
  fragment := by decide +kernel
  eof := by decide +kernel
  query := by decide +kernel
  path := by decide +kernel

theorem endsAuthority_port : EndsAuthority [515, 542] [.savePort, .markh] where
  fragment := by decide +kernel
  eof := by decide +kernel
  query := by decide +kernel
  path := by decide +kernel

/-- the parts of a host and of a port -/
structure HostSegs : Prop where
  name : seg anyByte [.markh] [511, 522] Rl.regName hostEnd = true
  address : seg anyByte [.markh] [511, 522] Rl.ipv4address hostEnd = true
  bracket : seg anyByte [.markh] [511, 522] (byte 91) [260] = true
  behind : seg anyByte [.saveHost] hostEnd (byte colon) [514, 521] = true
  empty : seg anyByte [.markh, .saveHost] [511, 522] (byte colon) [514, 521] = true
  digits : seg anyByte [.markh] [514, 521] Rl.port [515, 542] = true

theorem hostSegs : HostSegs := by
  constructor <;> decide +kernel

section
variable {u pre : Str} {cs : Nat} {host : Str} {rest : Str}

theorem resume_literal {w : Str} (hw : w ∈ (Rl.ipv6address + Rl.ipvFuture).lang) (p : Nat)
    (rest : Str) (s : Parse) :
    resume u 260 p (w ++ [93] ++ rest) s = resume u 512 (p + (w ++ [93]).length) rest s :=
  congrArg (outcome u) (scan_quiet (act u) rest s (w ++ [93]) _ _ p ((literal_iff w).1 hw))

/-- **A host that is not empty, up to what ends it.** -/
theorem resume_host (hcs : cs ∈ [511, 522]) (hu : u = pre ++ (host ++ rest))
    (hhost : host ∈ Rl.host.lang) (hne : host ≠ []) (m : Option Nat) (x : Uri) :
    ∃ cs' ∈ hostEnd, resume u cs pre.length (host ++ rest) ⟨m, x⟩
      = resume u cs' (pre ++ host).length rest ⟨some pre.length, x⟩ := by
  have hmark : runActs (act u pre.length) [.markh] ⟨m, x⟩ = .ok ⟨some pre.length, x⟩ := rfl
  rcases hhost with (hliteral | haddress) | hname
  · obtain ⟨w, rfl, hw⟩ := mem_literal.mp hliteral
    obtain ⟨cs', hcs', hgo⟩ := seg_byte pre (w ++ [93] ++ rest) cs hostSegs.bracket hcs hmark
    rw [List.mem_singleton] at hcs'
    refine ⟨512, by decide, ?_⟩
    rw [List.cons_append, hgo, hcs', resume_literal hw]
    have hlen : (pre ++ [91]).length + (w ++ [93]).length = (pre ++ 91 :: (w ++ [93])).length := by
      simp only [List.length_append, List.length_cons, List.length_nil]
      omega
    rw [hlen]
  · exact seg_resume pre rest cs hostSegs.address hcs haddress hne
      (fun c _ => anyByte_testBit c) hmark
  · exact seg_resume pre rest cs hostSegs.name hcs hname hne (fun c _ => anyByte_testBit c) hmark

theorem resume_colon (hcs : cs ∈ [511, 522]) (hu : u = pre ++ (host ++ colon :: rest))
    (hhost : host ∈ Rl.host.lang) (x : Uri) :
    ∃ cs' ∈ [514, 521], ∃ m, resume u cs pre.length (host ++ colon :: rest) ⟨none, x⟩
      = resume u cs' (pre ++ host ++ [colon]).length rest ⟨m, setHost host x⟩ := by
  by_cases hne : host = []
  · subst hne
    obtain ⟨cs', hcs', hgo⟩ := seg_byte (u := u) pre rest cs hostSegs.empty hcs
      (runActs_markHost u _ ⟨none, x⟩)
    rw [List.append_nil]
    exact ⟨cs', hcs', _, hgo⟩
  · obtain ⟨cs₁, hcs₁, hgo₁⟩ := resume_host hcs hu hhost hne none x
    obtain ⟨cs', hcs', hgo⟩ := seg_byte (pre ++ host) rest cs₁ hostSegs.behind hcs₁
      (runActs_saveHost hu x)
    exact ⟨cs', hcs', _, hgo₁.trans hgo⟩

/-- **Host and port, to the result.** -/
theorem resume_authority {port q f : Option Str} {path : Str} (hcs : cs ∈ [511, 522])
    (hu : u = pre ++ (host ++ (portPart port ++ (path ++ restText q f))))
    (hhost : host ∈ Rl.host.lang) (hport : ∀ d ∈ port, d ∈ Rl.port.lang ∧ d ≠ [])
    (hpath : path ∈ Rl.pathAbempty.lang) (hq : ∀ v ∈ q, v ∈ Rl.query.lang)
    (hf : ∀ v ∈ f, v ∈ Rl.fragment.lang) {x : Uri} (hxp : x.port = 0) (hxq : x.query = [])
    (hxf : x.fragment = []) :
    resume u cs pre.length (host ++ (portPart port ++ (path ++ restText q f))) ⟨none, x⟩
      = .ok (some { x with host := host, port := storedPort port, path := path
                           query := q.getD [], fragment := f.getD [] }) := by
  cases port with
  | none =>
    have hplain : ({ x with host := host, port := storedPort none, path := path
                            query := q.getD [], fragment := f.getD [] } : Uri)
        = { setHost host x with path := path, query := q.getD [], fragment := f.getD [] } := by
      rw [storedPort, ← hxp]
      rfl
    rw [hplain]
    by_cases hne : host = []
    · subst hne
      exact endsAuthority_empty.resume hcs hu hpath hq hf (runActs_markHost u _ ⟨none, x⟩) hxq hxf
    · obtain ⟨cs', hcs', hgo⟩ := resume_host hcs hu hhost hne none x
      rw [hgo]
      have hacts : runActs (act u (pre ++ host).length) [.saveHost, .markh] ⟨some pre.length, x⟩
          = .ok ⟨some (pre ++ host).length, setHost host x⟩ := by
        simp only [runActs, act_saveHost hu]
        rfl
      exact endsAuthority_host.resume hcs' (by rw [hu]; simp [portPart]) hpath hq hf hacts hxq hxf
  | some d =>
    obtain ⟨hd, hne⟩ := hport d rfl
    have hdigits : Digits d := testBit_of_mem_lang Rl.port d (by decide) hd
    have hpart : portPart (some d) ++ (path ++ restText q f)
        = colon :: (d ++ (path ++ restText q f)) := rfl
    rw [hpart] at hu ⊢
    have hu' : u = pre ++ host ++ [colon] ++ (d ++ (path ++ restText q f)) := by
      rw [hu]
      simp
    obtain ⟨cs₁, hcs₁, m, hgo₁⟩ := resume_colon hcs hu hhost x
    obtain ⟨cs₂, hcs₂, hgo₂⟩ := seg_resume (u := u) (pre ++ host ++ [colon])
      (path ++ restText q f) cs₁ hostSegs.digits hcs₁ hd hne (fun c _ => anyByte_testBit c)
      (runActs_mark u _ ⟨m, setHost host x⟩)
    have hport : atoi (u.drop (pre ++ host ++ [colon]).length) = atoi d := by
      rw [hu', List.drop_left, atoi_append hdigits hne (head_rest hpath q f)]
    have hlen : (pre ++ host ++ [colon] ++ d).length ≠ (pre ++ host ++ [colon]).length := by
      have := List.length_pos_iff.mpr hne
      rw [List.length_append]
      omega
    have hacts : runActs (act u (pre ++ host ++ [colon] ++ d).length) [.savePort, .markh]
        ⟨some (pre ++ host ++ [colon]).length, setHost host x⟩
          = .ok ⟨some (pre ++ host ++ [colon] ++ d).length, setPort (atoi d) (setHost host x)⟩ := by
      simp only [runActs, act, if_pos hlen, hport]
    rw [hgo₁, hgo₂, endsAuthority_port.resume hcs₂ (by rw [hu', ← List.append_assoc]) hpath hq hf
      hacts hxq hxf]
    rfl

end

/-! ## a port that is empty -/

theorem seg_fail {m : Nat} {acts : List Act} {S E : List Nat} {c : UInt8} {u : Str} {cs p : Nat}
    {s : Parse} {e : Fault} (h : seg m acts S (byte c) E = true) (hm : m.testBit c.toNat = true)
    (hcs : cs ∈ S) (hacts : runActs (act u p) acts s = .error e) (rest : Str) :
    resume u cs p (c :: rest) s = .error e := by
  have hc : (byteRange c.toNat c.toNat).testBit c.toNat = true := by
    rw [testBit_byteRange, decide_eq_true le_rfl]
    rfl
  obtain ⟨t, cs', ht, hta, _, _, _⟩ := segment_run h hcs hm
    ((mem_left_singleton (byte c) [c]).mpr ⟨c, hc, rfl⟩)
  rw [← hta] at hacts
  exact congrArg (outcome u) (scan_fail ht hacts)

/-- the end of the input, or of the path -/
def PathEnd (rest : Str) : Prop := rest = [] ∨ ∃ r, rest = question :: r ∨ rest = hash :: r

theorem pathEnd_restText (q f : Option Str) : PathEnd (restText q f) := by
  cases q with
  | some v => exact .inr ⟨v ++ fragmentText f, .inl rfl⟩
  | none =>
    cases f with
    | some v => exact .inr ⟨v, .inr rfl⟩
    | none => exact .inl rfl

section
variable {u pre : Str} {cs : Nat} {rest : Str} {s : Parse} {e : Fault}

theorem endsPath_fails {S : List Nat} {a : List Act} (h : EndsPath S a) (hcs : cs ∈ S)
    (hu : u = pre ++ rest) (hrest : PathEnd rest)
    (hacts : runActs (act u pre.length) a s = .error e) :
    resume u cs pre.length rest s = .error e := by
  rcases hrest with rfl | ⟨r, rfl | rfl⟩
  · obtain ⟨heof, _⟩ := of_decide_eq_true (List.all_eq_true.mp h.eof cs hcs)
    rw [List.append_nil] at hu
    subst hu
    show finish u cs s = _
    unfold finish
    rw [heof, hacts]
  · exact seg_fail h.query (anyByte_testBit question) hcs hacts r
  · exact seg_fail h.fragment (anyByte_testBit hash) hcs hacts r

theorem endsAuthority_colon : EndsAuthority [514, 521] [.markh, .savePort] where
  fragment := by decide +kernel
  eof := by decide +kernel
  query := by decide +kernel
  path := by decide +kernel

/-- **Without a digit behind the colon there is no mark at the end of the path.** -/
theorem resume_emptyPort {path : Str} (hcs : cs ∈ [514, 521]) (hu : u = pre ++ (path ++ rest))
    (hpath : path ∈ Rl.pathAbempty.lang) (hrest : PathEnd rest) (s : Parse) :
    resume u cs pre.length (path ++ rest) s = .error .nullMark := by
  have hacts : runActs (act u pre.length) [.markh, .savePort] s = .ok ⟨none, s.uri⟩ := by
    simp only [runActs, act, ne_eq, not_true_eq_false, if_false]
  have hfail : ∀ p : Nat, runActs (act u p) [.savePath] ⟨none, s.uri⟩ = .error .nullMark :=
    fun p => rfl
  by_cases hne : path = []
  · subst hne
    have hsave : runActs (act u pre.length) ([.markh, .savePort] ++ [.savePath]) s
        = .error .nullMark := by
      rw [runActs_append, hacts]
      exact hfail pre.length
    exact endsPath_fails endsAuthority_colon.toEndsPath hcs hu hrest hsave
  · obtain ⟨cs', hcs', hgo⟩ := seg_resume (u := u) pre rest cs endsAuthority_colon.path hcs hpath
      hne (fun c _ => anyByte_testBit c) hacts
    rw [hgo]
    exact endsPath_fails endsPath hcs' (by rw [hu, List.append_assoc]) hrest (hfail _)

end

/-! ## scheme and userinfo -/

def userinfoPart : Option Str → Str
  | none => []
  | some v => v ++ [atSign]

/-- what stands in front of the host -/
def frontText (scheme : Str) (userinfo : Option Str) : Str :=
  scheme ++ asc "://" ++ userinfoPart userinfo

structure SchemeSegs : Prop where
  scheme : seg anyByte [.marku] [451] Rl.scheme [508] = true
  behind : seg anyByte [.saveScheme] [508] (byte colon) [509] = true
  first : seg anyByte [] [509] (byte slash) [510] = true
  second : seg anyByte [] [510] (byte slash) [511] = true

theorem schemeSegs : SchemeSegs := by
  constructor <;> decide +kernel

/-- **Scheme and userinfo.** -/
theorem create_front {scheme : Str} {userinfo : Option Str} {u rest : Str}
    (hu : u = frontText scheme userinfo ++ rest) (hscheme : scheme ∈ Rl.scheme.lang)
    (huserinfo : ∀ v ∈ userinfo, v ∈ Rl.userinfo.lang) :
    ∃ cs ∈ [511, 522], ∃ h, Create u = resume u cs (frontText scheme userinfo).length rest
      ⟨none, { new with scheme := scheme, userinfo := storedUserinfo (userinfo.getD [])
                        host := h }⟩ := by
  have hne : scheme ≠ [] := by
    rintro rfl
    exact absurd ((nil_mem_lang _).mp hscheme) (by decide)
  have hslashes : ∀ r : Str,
      scheme ++ asc "://" ++ r = scheme ++ (colon :: slash :: slash :: r) := by
    intro r
    rw [List.append_assoc]
    rfl
  have hsplit : u = []
      ++ (scheme ++ colon :: slash :: slash :: (userinfoPart userinfo ++ rest)) := by
    rw [hu, frontText, List.append_assoc, hslashes]
    rfl
  obtain ⟨cs₁, hcs₁, hgo₁⟩ := seg_resume (u := u) []
    (colon :: slash :: slash :: (userinfoPart userinfo ++ rest)) 451 schemeSegs.scheme (by decide)
    hscheme hne (fun c _ => anyByte_testBit c)
    (show runActs _ [Act.marku] ⟨none, new⟩ = .ok ⟨some ([] : Str).length, new⟩ from rfl)
  have hsave : runActs (act u ([] ++ scheme).length) [.saveScheme] ⟨some ([] : Str).length, new⟩
      = .ok ⟨none, setScheme scheme new⟩ := by
    simp only [runActs, act, save_part hsplit]
  obtain ⟨cs₂, hcs₂, hgo₂⟩ := seg_byte (u := u) ([] ++ scheme)
    (slash :: slash :: (userinfoPart userinfo ++ rest)) cs₁ schemeSegs.behind hcs₁ hsave
  obtain ⟨cs₃, hcs₃, hgo₃⟩ := seg_byte (u := u) ([] ++ scheme ++ [colon])
    (slash :: (userinfoPart userinfo ++ rest)) cs₂ schemeSegs.first hcs₂
    (show runActs _ [] _ = .ok ⟨none, setScheme scheme new⟩ from rfl)
  obtain ⟨cs₄, hcs₄, hgo₄⟩ := seg_byte (u := u) ([] ++ scheme ++ [colon] ++ [slash])
    (userinfoPart userinfo ++ rest) cs₃ schemeSegs.second hcs₃
    (show runActs _ [] _ = .ok ⟨none, setScheme scheme new⟩ from rfl)
  rw [List.mem_singleton] at hcs₄
  have hpre : [] ++ scheme ++ [colon] ++ [slash] ++ [slash] = scheme ++ asc "://" := by
    have := hslashes []
    simp only [List.append_nil] at this
    rw [this]
    simp
  have hcreate : Create u = resume u 511 (scheme ++ asc "://").length
      (userinfoPart userinfo ++ rest) ⟨none, setScheme scheme new⟩ := by
    have htext : scheme ++ colon :: slash :: slash :: (userinfoPart userinfo ++ rest) = u :=
      hsplit.symm
    rw [← hcs₄, ← hpre, ← hgo₄, ← hgo₃, ← hgo₂, ← hgo₁, htext]
    rfl
  cases userinfo with
  | none =>
    refine ⟨511, by decide, [], ?_⟩
    rw [hcreate, frontText, userinfoPart, List.append_nil]
    rfl
  | some v =>
    have hpart : userinfoPart (some v) ++ rest = v ++ atSign :: rest := by simp [userinfoPart]
    have hsplit : u = (scheme ++ asc "://") ++ (v ++ atSign :: rest) := by
      rw [hu, frontText, List.append_assoc, hpart]
    obtain ⟨h, hgo⟩ := resume_userinfo hsplit (huserinfo v rfl) (setScheme scheme new)
    refine ⟨522, by decide, h, ?_⟩
    rw [hcreate, hpart, hgo, frontText, userinfoPart, List.append_assoc]
    rfl

end Uri
end KitServer
