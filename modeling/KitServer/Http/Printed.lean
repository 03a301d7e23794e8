import KitServer.Http.HostHeader
import KitServer.Http.Method
import KitServer.Uri.Parts

/-!
# A request that is printed and parsed

`HttpRequest::dump` writes the request line, the field `connection` and the other fields;
`HttpRequestParser::execute` is given the text in one piece.  The lemmas follow the table from one
part of the text to the next (`segment`), and say which request has been read so far (`Reads`).

* `target_go`           the target with its query and fragment;
* `field_go`            one line of the header;
* `set_ordered`         the fields of an ordered map, set behind one that was there before;
* `request_comes_back`  the whole text.
-/

set_option linter.unusedVariables false

namespace KitServer
namespace Http
namespace Request
open Regex
open Uri (chr byte anyByte anyByte_testBit)

/-! ## the grammar of `http11_parser.rl`, without `uri_relaxed` -/

namespace Rl
open Uri.Rl (unreserved subDelims pctEncoded)

def pchar : Regex := bytes unreserved + pctEncoded + bytes subDelims + chr ':' + chr '@'
def query : Regex := star (pchar + chr '/' + chr '?')
def fragment : Regex := star (pchar + chr '/' + chr '?')
def segment : Regex := star pchar
def segmentNz : Regex := plus pchar
def pathAbsolute : Regex := chr '/' * opt (segmentNz * star (chr '/' * segment))
def httpVersion : Regex :=
  chr 'H' * (chr 'T' * (chr 'T' * (chr 'P' * (chr '/' * (chr '1' * (chr '.'
    * (chr '0' + chr '1')))))))

end Rl

/-- `HTTP_CTL` -/
def control (c : UInt8) : Bool := c < 32 || c = 127

/-- `HTTP_separator` -/
def separators : Str := asc "()<>@,;:\\\"/[]?=\x7b\x7d \t"

def tokenChar (c : UInt8) : Bool := c < 128 && !control c && !separators.contains c

/-- the bytes with a property, as a set -/
def byteSet (p : UInt8 → Bool) : Nat :=
  (List.range 256).foldl (fun m n => if p (UInt8.ofNat n) then m ||| byteRange n n else m) 0

def tokenBytes : Nat := byteSet tokenChar
def valueBytes : Nat := byteSet fun c => !control c
/-- the bytes that a value may start with -/
def valueHead : Nat := byteSet fun c => !control c && c ≠ 32

theorem byteSets : ∀ c : Fin 256,
    (tokenChar (UInt8.ofNat c.val) = true → tokenBytes.testBit c.val = true)
    ∧ (control (UInt8.ofNat c.val) = false → valueBytes.testBit c.val = true
      ∧ (UInt8.ofNat c.val ≠ 32 → valueHead.testBit c.val = true)) := by
  decide +kernel

def row (cs : Nat) : List Range := rows.getD cs []

def seg (m : Nat) (acts : List Act) (S : List Nat) (r : Regex) (E : List Nat) : Bool :=
  segment row tr m acts S [[r]] E 2000

structure Segs : Prop where
  path : seg anyByte [.mark] [3] Rl.pathAbsolute [33, 26] = true
  question : seg anyByte [.requestPath] [33, 26] (byte 63) [29] = true
  query : seg anyByte [.startQuery] [29] Rl.query [30] = true
  fragment : seg anyByte [.mark] [20] Rl.fragment [21] = true
  fragmentEnd : seg anyByte [.fragment] [21] (byte 32) [4] = true
  version : seg anyByte [.mark] [4] Rl.httpVersion [12] = true
  versionEnd : seg anyByte [.httpVersion] [12] (byte 13) [17] = true
  lineEnd : seg anyByte [] [17] (byte 10) [13] = true
  name : seg anyByte [.startField] [13] (plus (bytes tokenBytes)) [14] = true
  colon : seg anyByte [.writeField] [14] (byte 58) [15] = true
  value : seg valueHead [.startValue] [15] (star (bytes valueBytes)) [16] = true
  valueEnd : seg anyByte [.writeValue] [16] (byte 13) [17] = true
  valueEmpty : seg anyByte [.startValue, .writeValue] [15] (byte 13) [17] = true
  headEnd : seg anyByte [.startField] [13] (byte 13) [18] = true

theorem segs : Segs := by
  constructor <;> decide +kernel

/-! ## the scan from one part to the next -/

/-- the position in the buffer when `rest` is left of it -/
def pos (buffer rest : Str) : Nat := buffer.length - rest.length

section
variable (rel : Bool) (stale : Nat → UInt8) (buffer : Str)

def go (cs : Nat) (rest : Str) (s : HttpRequestParser) : Scan HttpRequestParser Fault :=
  scan (trans rel) (act stale buffer) cs (pos buffer rest) rest s

/-- the request that has been read so far, without an error -/
structure Reads (req : HttpRequest) (s : HttpRequestParser) : Prop where
  request : s.request = req
  error : s.error = 0
  xmlSent : s.xmlSent = false
  jsonSent : s.jsonSent = false
  cs : s.cs = start

variable {stale buffer} {m : Nat} {acts : List Act} {S E : List Nat} {r : Regex} {cs : Nat}
  {v w rest : Str} {s s' : HttpRequestParser} {req : HttpRequest}

theorem pos_append (h : w ++ rest <:+ buffer) :
    pos buffer (w ++ rest) + w.length = pos buffer rest := by
  have hle := h.length_le
  rw [pos, pos, List.length_append] at *
  omega

theorem suffix_of_append (h : w ++ rest <:+ buffer) : rest <:+ buffer :=
  (List.suffix_append w rest).trans h

theorem seg_go (h : seg m acts S r E = true) (hcs : cs ∈ S) (hw : w ∈ r.lang) (hne : w ≠ [])
    (hm : ∀ c ∈ w.head?, m.testBit c.toNat = true) (hsuf : w ++ rest <:+ buffer)
    (hacts : runActs (act stale buffer (pos buffer (w ++ rest))) acts s = .ok s') :
    ∃ cs' ∈ E, go rel stale buffer cs (w ++ rest) s = go rel stale buffer cs' rest s' := by
  obtain ⟨c, w', rfl⟩ := List.exists_cons_of_ne_nil hne
  obtain ⟨cs', hE, hscan⟩ := segment_scan_in (T := trans rel)
    (fun _ _ _ ht => trans_of_table rel ht) h hcs (hm c rfl)
    ((mem_left_singleton _ _).mpr hw) hacts rest
  rw [pos_append hsuf] at hscan
  exact ⟨cs', hE, hscan⟩

theorem byte_go {c : UInt8} (h : seg anyByte acts S (byte c) E = true) (hcs : cs ∈ S)
    (hsuf : c :: rest <:+ buffer)
    (hacts : runActs (act stale buffer (pos buffer (c :: rest))) acts s = .ok s') :
    ∃ cs' ∈ E, go rel stale buffer cs (c :: rest) s = go rel stale buffer cs' rest s' := by
  have hc : (byteRange c.toNat c.toNat).testBit c.toNat = true := by
    rw [testBit_byteRange, decide_eq_true le_rfl]
    rfl
  exact seg_go rel (w := [c]) h hcs ⟨c, hc, rfl⟩ (List.cons_ne_nil c [])
    (fun d _ => anyByte_testBit d) hsuf hacts

/-! ## what the callbacks get -/

theorem chars_here (hsuf : v ++ rest <:+ buffer) (hlen : buffer.length < 2 ^ 63) :
    chars stale buffer (pos buffer (v ++ rest)) v.length = .ok v := by
  obtain ⟨pre, rfl⟩ := hsuf
  have hpos : pos (pre ++ (v ++ rest)) (v ++ rest) = pre.length + 0 := by
    rw [pos, List.length_append]
    omega
  have hv : v.length < 2 ^ 63 := by
    simp only [List.length_append] at hlen
    omega
  rw [hpos, ← List.append_assoc, chars_part stale (Nat.zero_add _).le, chars,
    if_pos hv]
  congr 1
  refine List.ext_getElem (by simp) fun i hi hi' => ?_
  rw [List.getElem_map, List.getElem_range, Nat.zero_add, List.getD_eq_getElem _ _ hi']

theorem LEN_here (hsuf : v ++ rest <:+ buffer) :
    LEN (pos buffer (v ++ rest)) (pos buffer rest) = v.length := by
  have h := pos_append hsuf
  rw [LEN, if_pos (by omega)]
  omega

theorem withChars_here (hsuf : v ++ rest <:+ buffer) (hlen : buffer.length < 2 ^ 63)
    (cb : Str → HttpRequestParser → HttpRequestParser) (s : HttpRequestParser) :
    withChars stale buffer (pos buffer (v ++ rest)) (pos buffer rest) cb s = .ok (cb v s) := by
  rw [withChars, LEN_here hsuf, chars_here hsuf hlen]

theorem drop_here (hsuf : v ++ rest <:+ buffer) :
    buffer.drop (pos buffer (v ++ rest)) = v ++ rest := by
  obtain ⟨pre, rfl⟩ := hsuf
  have hpos : pos (pre ++ (v ++ rest)) (v ++ rest) = pre.length := by
    rw [pos, List.length_append]
    omega
  rw [hpos, List.drop_left]

/-! ## the target -/

/-- what `dump` writes of a query and of a fragment -/
def queryText (q : Str) : Str := (if q.length ≠ 0 then asc "?" else []) ++ q
def fragmentText (f : Str) : Str := (if f.length ≠ 0 then asc "#" else []) ++ f

/-- in the states `S` the target ends with the actions `a`, in front of a space and of a fragment -/
structure EndsTarget (S : List Nat) (a : List Act) : Prop where
  space : seg anyByte a S (byte 32) [4] = true
  hash : seg anyByte a S (byte 35) [20] = true

theorem endsTarget_path : EndsTarget [33, 26] [.requestPath, .requestUri] := by
  constructor <;> decide +kernel

theorem endsTarget_query : EndsTarget [30] [.queryString, .requestUri] := by
  constructor <;> decide +kernel

theorem anyHead (w : Str) : ∀ c ∈ w.head?, anyByte.testBit c.toNat = true :=
  fun c _ => anyByte_testBit c

/-- **The end of the target, with the fragment.** -/
theorem EndsTarget.go {S : List Nat} {a : List Act} (h : EndsTarget S a) (hcs : cs ∈ S) {f : Str}
    (hf : f ∈ Rl.fragment.lang) (hsuf : fragmentText f ++ 32 :: rest <:+ buffer)
    (hlen : buffer.length < 2 ^ 63)
    (hacts : runActs (act stale buffer (pos buffer (fragmentText f ++ 32 :: rest))) a s = .ok s')
    (hs : Reads req s') (hnone : req.fragment = []) :
    ∃ s'', go rel stale buffer cs (fragmentText f ++ 32 :: rest) s = go rel stale buffer 4 rest s''
      ∧ Reads { req with fragment := f } s'' := by
  by_cases hnil : f = []
  · subst hnil
    obtain ⟨cs', hcs', hgo⟩ := byte_go rel h.space hcs hsuf hacts
    rw [List.mem_singleton] at hcs'
    refine ⟨s', ?_, ?_⟩
    · rw [← hcs', ← hgo]
      rfl
    · rw [← hnone]
      exact hs
  · have htext : fragmentText f ++ 32 :: rest = 35 :: (f ++ 32 :: rest) := by
      rw [fragmentText, if_pos (mt List.length_eq_zero_iff.mp hnil)]
      rfl
    rw [htext] at hsuf hacts ⊢
    have hsuf₁ : f ++ 32 :: rest <:+ buffer := suffix_of_append (w := [35]) hsuf
    have hsuf₂ : 32 :: rest <:+ buffer := suffix_of_append hsuf₁
    obtain ⟨cs₁, hcs₁, hgo₁⟩ := byte_go rel h.hash hcs hsuf hacts
    obtain ⟨cs₂, hcs₂, hgo₂⟩ := seg_go rel segs.fragment hcs₁ hf hnil (anyHead f) hsuf₁
      (show runActs (act stale buffer _) [.mark] s'
        = .ok { s' with mark := pos buffer (f ++ 32 :: rest) } from rfl)
    have hsave : runActs (act stale buffer (pos buffer (32 :: rest))) [.fragment]
          { s' with mark := pos buffer (f ++ 32 :: rest) }
        = .ok (onRequestFragment f { s' with mark := pos buffer (f ++ 32 :: rest) }) := by
      simp only [runActs, act, withChars_here hsuf₁ hlen]
    obtain ⟨cs₃, hcs₃, hgo₃⟩ := byte_go rel segs.fragmentEnd hcs₂ hsuf₂ hsave
    rw [List.mem_singleton] at hcs₃
    rw [hcs₃] at hgo₃
    refine ⟨_, hgo₁.trans (hgo₂.trans hgo₃), ?_, hs.error, hs.xmlSent, hs.jsonSent, hs.cs⟩
    rw [← hs.request]
    rfl

/-- **The target.** -/
theorem target_go {path q f : Str} (hpath : path ∈ Rl.pathAbsolute.lang) (hq : q ∈ Rl.query.lang)
    (hf : f ∈ Rl.fragment.lang)
    (hsuf : path ++ (queryText q ++ (fragmentText f ++ 32 :: rest)) <:+ buffer)
    (hlen : buffer.length < 2 ^ 63) (hs : Reads req s) (hquery : req.query = [])
    (hnone : req.fragment = []) :
    ∃ s', go rel stale buffer 3 (path ++ (queryText q ++ (fragmentText f ++ 32 :: rest))) s
        = go rel stale buffer 4 rest s'
      ∧ Reads { req with path := path, query := q, fragment := f } s' := by
  have hne : path ≠ [] := by
    rintro rfl
    exact absurd ((nil_mem_lang _).mp hpath) (by decide)
  have hsuf₁ : queryText q ++ (fragmentText f ++ 32 :: rest) <:+ buffer := suffix_of_append hsuf
  obtain ⟨cs₁, hcs₁, hgo₁⟩ := seg_go rel segs.path (show 3 ∈ [3] by decide) hpath hne
    (anyHead path) hsuf (show runActs (act stale buffer _) [.mark] s
      = .ok { s with mark := pos buffer (path ++ (queryText q ++ (fragmentText f ++ 32 :: rest))) }
      from rfl)
  rw [hgo₁]
  generalize hp : pos buffer (path ++ (queryText q ++ (fragmentText f ++ 32 :: rest))) = p
  have hsave : withChars stale buffer p
        (pos buffer (queryText q ++ (fragmentText f ++ 32 :: rest))) onRequestPath
        { s with mark := p } = .ok (onRequestPath path { s with mark := p }) := by
    rw [← hp]
    exact withChars_here hsuf hlen _ _
  have hread : Reads { req with path := path } (onRequestPath path { s with mark := p }) :=
    ⟨by rw [← hs.request]; rfl, hs.error, hs.xmlSent, hs.jsonSent, hs.cs⟩
  by_cases hnil : q = []
  · subst hnil
    have hacts : runActs (act stale buffer (pos buffer (fragmentText f ++ 32 :: rest)))
          [.requestPath, .requestUri] { s with mark := p }
        = .ok (onRequestPath path { s with mark := p }) := by
      have hsave' : withChars stale buffer p (pos buffer (fragmentText f ++ 32 :: rest))
          onRequestPath { s with mark := p } = .ok (onRequestPath path { s with mark := p }) :=
        hsave
      simp only [runActs, act, hsave']
    obtain ⟨s'', hgo, hs''⟩ :=
      endsTarget_path.go rel hcs₁ hf hsuf₁ hlen hacts hread hnone
    refine ⟨s'', hgo, ?_⟩
    rw [← hquery]
    exact hs''
  · have htext : queryText q ++ (fragmentText f ++ 32 :: rest)
        = 63 :: (q ++ (fragmentText f ++ 32 :: rest)) := by
      rw [queryText, if_pos (mt List.length_eq_zero_iff.mp hnil)]
      rfl
    rw [htext] at hsave hsuf₁ ⊢
    have hsuf₂ : q ++ (fragmentText f ++ 32 :: rest) <:+ buffer :=
      suffix_of_append (w := [63]) hsuf₁
    have hsuf₃ : fragmentText f ++ 32 :: rest <:+ buffer := suffix_of_append hsuf₂
    have hacts : runActs
          (act stale buffer (pos buffer (63 :: (q ++ (fragmentText f ++ 32 :: rest)))))
          [.requestPath] { s with mark := p } = .ok (onRequestPath path { s with mark := p }) := by
      simp only [runActs, act, hsave]
    obtain ⟨cs₂, hcs₂, hgo₂⟩ := byte_go rel segs.question hcs₁ hsuf₁ hacts
    obtain ⟨cs₃, hcs₃, hgo₃⟩ := seg_go rel segs.query hcs₂ hq hnil (anyHead q) hsuf₂
      (show runActs (act stale buffer _) [.startQuery] (onRequestPath path { s with mark := p })
        = .ok { onRequestPath path { s with mark := p } with
            queryStart := pos buffer (q ++ (fragmentText f ++ 32 :: rest)) } from rfl)
    generalize hk : pos buffer (q ++ (fragmentText f ++ 32 :: rest)) = k at hgo₃
    have hsaveQuery : runActs (act stale buffer (pos buffer (fragmentText f ++ 32 :: rest)))
          [.queryString, .requestUri]
          { onRequestPath path { s with mark := p } with queryStart := k }
        = .ok (onRequestQueryString q
            { onRequestPath path { s with mark := p } with queryStart := k }) := by
      have hchars : withChars stale buffer k (pos buffer (fragmentText f ++ 32 :: rest))
            onRequestQueryString { onRequestPath path { s with mark := p } with queryStart := k }
          = .ok (onRequestQueryString q
              { onRequestPath path { s with mark := p } with queryStart := k }) := by
        rw [← hk]
        exact withChars_here hsuf₂ hlen _ _
      simp only [runActs, act, hchars]
    have hread' : Reads { req with path := path, query := q } (onRequestQueryString q
        { onRequestPath path { s with mark := p } with queryStart := k }) :=
      ⟨by rw [← hs.request]; rfl, hs.error, hs.xmlSent, hs.jsonSent, hs.cs⟩
    obtain ⟨s'', hgo, hs''⟩ :=
      endsTarget_query.go rel hcs₃ hf hsuf₃ hlen hsaveQuery hread' hnone
    exact ⟨s'', hgo₂.trans (hgo₃.trans hgo), hs''⟩

/-! ## the version -/

theorem versionString_mem {version : UInt8} (h : version = 0x10 ∨ version = 0x11) :
    versionString version ∈ Rl.httpVersion.lang
      ∧ ∀ s, onRequestHttpVersion (versionString version) 8 s
        = { s with request := { s.request with version := version } } := by
  rcases h with rfl | rfl
  · refine ⟨by decide +kernel, fun s => ?_⟩
    rw [onRequestHttpVersion, if_neg (by decide), if_pos (by decide)]
  · refine ⟨by decide +kernel, fun s => ?_⟩
    rw [onRequestHttpVersion, if_pos (by decide)]

/-- **The version, and the end of the request line.** -/
theorem version_go {version : UInt8} (h : version = 0x10 ∨ version = 0x11)
    (hsuf : versionString version ++ 13 :: 10 :: rest <:+ buffer) (hs : Reads req s) :
    ∃ s', go rel stale buffer 4 (versionString version ++ 13 :: 10 :: rest) s
        = go rel stale buffer 13 rest s'
      ∧ Reads { req with version := version } s' := by
  obtain ⟨hmem, hset⟩ := versionString_mem h
  have hlength : (versionString version).length = 8 := by
    rcases h with rfl | rfl
    · decide
    · decide
  have hne : versionString version ≠ [] := fun hnil => by
    rw [hnil] at hlength
    cases hlength
  have hsuf₁ : 13 :: 10 :: rest <:+ buffer := suffix_of_append hsuf
  have hsuf₂ : 10 :: rest <:+ buffer := suffix_of_append (w := [13]) hsuf₁
  obtain ⟨cs₁, hcs₁, hgo₁⟩ := seg_go rel segs.version (show 4 ∈ [4] by decide) hmem hne
    (anyHead _) hsuf (show runActs (act stale buffer _) [.mark] s
      = .ok { s with mark := pos buffer (versionString version ++ 13 :: 10 :: rest) } from rfl)
  have hacts : runActs (act stale buffer (pos buffer (13 :: 10 :: rest))) [.httpVersion]
        { s with mark := pos buffer (versionString version ++ 13 :: 10 :: rest) }
      = .ok { s with
          mark := pos buffer (versionString version ++ 13 :: 10 :: rest)
          request := { s.request with version := version } } := by
    have hcmp : ∀ x, strncmpEq 8 (versionString version ++ 13 :: 10 :: rest) x
        = strncmpEq 8 (versionString version) x := fun x => strncmpEq_append x 8 _ hlength.ge
    have hcall := hset { s with mark := pos buffer (versionString version ++ 13 :: 10 :: rest) }
    unfold onRequestHttpVersion at hcall
    simp only [runActs, act, LEN_here hsuf, drop_here hsuf, hlength]
    unfold onRequestHttpVersion
    rw [hcmp, hcmp, hcall]
  obtain ⟨cs₂, hcs₂, hgo₂⟩ := byte_go rel segs.versionEnd hcs₁ hsuf₁ hacts
  obtain ⟨cs₃, hcs₃, hgo₃⟩ := byte_go rel segs.lineEnd hcs₂ hsuf₂
    (show runActs (act stale buffer _) [] _ = .ok _ from rfl)
  rw [List.mem_singleton] at hcs₃
  rw [hcs₃] at hgo₃
  refine ⟨_, hgo₁.trans (hgo₂.trans hgo₃), ?_, hs.error, hs.xmlSent, hs.jsonSent, hs.cs⟩
  rw [← hs.request]

/-! ## the header -/

structure Name (name : Str) : Prop where
  ne : name ≠ []
  token : ∀ c ∈ name, tokenChar c = true

/-- a value that may be sent; blanks behind it would come back, too -/
structure Value (val : Str) : Prop where
  plain : ∀ c ∈ val, control c = false
  head : val.head? ≠ some 32

theorem byteSet_facts (c : UInt8) : (tokenChar c = true → tokenBytes.testBit c.toNat = true)
    ∧ (control c = false → valueBytes.testBit c.toNat = true
      ∧ (c ≠ 32 → valueHead.testBit c.toNat = true)) := by
  have h := byteSets ⟨c.toNat, c.toNat_lt⟩
  rwa [UInt8.ofNat_toNat] at h

theorem Name.mem {name : Str} (h : Name name) : name ∈ (plus (bytes tokenBytes)).lang := by
  obtain ⟨c, name, rfl⟩ := List.exists_cons_of_ne_nil h.ne
  have hbyte : ∀ d ∈ c :: name, tokenBytes.testBit d.toNat = true :=
    fun d hd => (byteSet_facts d).1 (h.token d hd)
  exact ⟨[c], ⟨c, hbyte c List.mem_cons_self, rfl⟩, name,
    mem_star_of_bytes (a := bytes tokenBytes) (fun d hd => ⟨d, hd, rfl⟩) name
      fun d hd => hbyte d (List.mem_cons_of_mem c hd), rfl⟩

theorem Value.mem {val : Str} (h : Value val) : val ∈ (star (bytes valueBytes)).lang :=
  mem_star_of_bytes (a := bytes valueBytes) (fun d hd => ⟨d, hd, rfl⟩) val
    fun d hd => ((byteSet_facts d).2 (h.plain d hd)).1

theorem Value.head_mem {val : Str} (h : Value val) :
    ∀ c ∈ val.head?, valueHead.testBit c.toNat = true := by
  intro c hc
  have hmem : c ∈ val := List.mem_of_mem_head? hc
  refine ((byteSet_facts c).2 (h.plain c hmem)).2 ?_
  rintro rfl
  exact h.head hc

theorem writeValue_here {name val r₁ r₂ : Str} (hname : name ++ r₁ <:+ buffer)
    (hval : val ++ r₂ <:+ buffer) (hlen : buffer.length < 2 ^ 63) (hne : name ≠ [])
    (hstart : s.fieldStart = pos buffer (name ++ r₁)) (hflen : s.fieldLen = name.length)
    (hmark : s.mark = pos buffer (val ++ r₂)) :
    act stale buffer (pos buffer r₂) .writeValue s
      = .ok { s with request := s.request.setHeader name val } := by
  have hpos : name.length ≠ 0 := mt List.length_eq_zero_iff.mp hne
  simp only [act, onRequestHttpField, hstart, hflen, hmark, if_neg hpos, LEN_here hval,
    chars_here hname hlen, chars_here hval hlen]

/-- **A field of the header.** -/
theorem field_go {x : Str × Str} (hname : Name x.1) (hval : Value x.2)
    (hsuf : x.1 ++ 58 :: (x.2 ++ 13 :: 10 :: rest) <:+ buffer) (hlen : buffer.length < 2 ^ 63)
    (hs : Reads req s) :
    ∃ s', go rel stale buffer 13 (x.1 ++ 58 :: (x.2 ++ 13 :: 10 :: rest)) s
        = go rel stale buffer 13 rest s'
      ∧ Reads (req.setHeader x.1 x.2) s' := by
  have hsuf₁ : 58 :: (x.2 ++ 13 :: 10 :: rest) <:+ buffer := suffix_of_append hsuf
  have hsuf₂ : x.2 ++ 13 :: 10 :: rest <:+ buffer := suffix_of_append (w := [58]) hsuf₁
  have hsuf₃ : 13 :: 10 :: rest <:+ buffer := suffix_of_append hsuf₂
  have hsuf₄ : 10 :: rest <:+ buffer := suffix_of_append (w := [13]) hsuf₃
  obtain ⟨cs₁, hcs₁, hgo₁⟩ := seg_go rel segs.name (show 13 ∈ [13] by decide)
    hname.mem hname.ne (anyHead _) hsuf (show runActs (act stale buffer _) [.startField] s
      = .ok { s with fieldStart := pos buffer (x.1 ++ 58 :: (x.2 ++ 13 :: 10 :: rest)) } from rfl)
  have hfield : runActs (act stale buffer (pos buffer (58 :: (x.2 ++ 13 :: 10 :: rest))))
        [.writeField] { s with fieldStart := pos buffer (x.1 ++ 58 :: (x.2 ++ 13 :: 10 :: rest)) }
      = .ok { s with
          fieldStart := pos buffer (x.1 ++ 58 :: (x.2 ++ 13 :: 10 :: rest))
          fieldLen := x.1.length } := by
    simp only [runActs, act, LEN_here hsuf]
  obtain ⟨cs₂, hcs₂, hgo₂⟩ := byte_go rel segs.colon hcs₁ hsuf₁ hfield
  generalize hs₂ : ({ s with
      fieldStart := pos buffer (x.1 ++ 58 :: (x.2 ++ 13 :: 10 :: rest))
      fieldLen := x.1.length } : HttpRequestParser) = s₂ at hgo₂
  have hwrite : act stale buffer (pos buffer (13 :: 10 :: rest)) .writeValue
        { s₂ with mark := pos buffer (x.2 ++ 13 :: 10 :: rest) }
      = .ok { s₂ with
          mark := pos buffer (x.2 ++ 13 :: 10 :: rest)
          request := s.request.setHeader x.1 x.2 } := by
    rw [← hs₂]
    exact writeValue_here hsuf hsuf₂ hlen hname.ne rfl rfl rfl
  obtain ⟨cs₃, hcs₃, hgo₃⟩ : ∃ cs₃ ∈ [17], go rel stale buffer cs₂ (x.2 ++ 13 :: 10 :: rest) s₂
      = go rel stale buffer cs₃ (10 :: rest) { s₂ with
          mark := pos buffer (x.2 ++ 13 :: 10 :: rest)
          request := s.request.setHeader x.1 x.2 } := by
    by_cases hnil : x.2 = []
    · rw [hnil] at hwrite ⊢
      refine byte_go rel segs.valueEmpty hcs₂ hsuf₃ ?_
      simp only [List.nil_append] at hwrite ⊢
      rw [runActs, act]
      simp only [runActs, hwrite]
    · obtain ⟨cs', hcs', hgo'⟩ := seg_go rel segs.value hcs₂ hval.mem hnil hval.head_mem
        hsuf₂ (show runActs (act stale buffer _) [.startValue] s₂
          = .ok { s₂ with mark := pos buffer (x.2 ++ 13 :: 10 :: rest) } from rfl)
      have hend : runActs (act stale buffer (pos buffer (13 :: 10 :: rest))) [.writeValue]
            { s₂ with mark := pos buffer (x.2 ++ 13 :: 10 :: rest) }
          = .ok { s₂ with
              mark := pos buffer (x.2 ++ 13 :: 10 :: rest)
              request := s.request.setHeader x.1 x.2 } := by
        simp only [runActs, hwrite]
      obtain ⟨cs'', hcs'', hgo''⟩ := byte_go rel segs.valueEnd hcs' hsuf₃ hend
      exact ⟨cs'', hcs'', hgo'.trans hgo''⟩
  obtain ⟨cs₄, hcs₄, hgo₄⟩ := byte_go rel segs.lineEnd hcs₃ hsuf₄
    (show runActs (act stale buffer _) [] _ = .ok _ from rfl)
  rw [List.mem_singleton] at hcs₄
  rw [hcs₄] at hgo₄
  refine ⟨_, hgo₁.trans (hgo₂.trans (hgo₃.trans hgo₄)), ?_⟩
  rw [← hs₂]
  exact ⟨by rw [← hs.request], hs.error, hs.xmlSent, hs.jsonSent, hs.cs⟩

/-- **The fields of the header, one after the other.** -/
theorem fields_go (fields : List (Str × Str)) (hall : ∀ x ∈ fields, Name x.1 ∧ Value x.2)
    (hlen : buffer.length < 2 ^ 63) : ∀ (req : HttpRequest) (s : HttpRequestParser),
    fields.flatMap (fun x => fieldString x ++ crlf) ++ rest <:+ buffer → Reads req s →
    ∃ s', go rel stale buffer 13 (fields.flatMap (fun x => fieldString x ++ crlf) ++ rest) s
        = go rel stale buffer 13 rest s'
      ∧ Reads { req with headers := setAll fields req.headers } s' := by
  induction fields with
  | nil => intro req s _ hs; exact ⟨s, rfl, hs⟩
  | cons x fields ih =>
    intro req s hsuf hs
    have htext : (x :: fields).flatMap (fun x => fieldString x ++ crlf) ++ rest
        = x.1 ++ 58 :: (x.2 ++ 13 :: 10 ::
          (fields.flatMap (fun x => fieldString x ++ crlf) ++ rest)) := by
      rw [List.flatMap_cons, fieldString]
      simp only [List.append_assoc]
      rfl
    rw [htext] at hsuf ⊢
    obtain ⟨hname, hval⟩ := hall x List.mem_cons_self
    obtain ⟨s₁, hgo₁, hs₁⟩ := field_go rel hname hval hsuf hlen hs
    have hsuf₁ : fields.flatMap (fun x => fieldString x ++ crlf) ++ rest <:+ buffer := by
      have h₁ := suffix_of_append (w := [58]) (suffix_of_append hsuf)
      exact suffix_of_append (w := [13, 10]) (suffix_of_append h₁)
    obtain ⟨s₂, hgo₂, hs₂⟩ := ih (fun y hy => hall y (List.mem_cons_of_mem x hy)) _ s₁ hsuf₁ hs₁
    exact ⟨s₂, hgo₁.trans hgo₂, hs₂⟩

/-- **The end of the header.** -/
theorem end_go (hsuf : [13, 10] <:+ buffer) (hs : Reads req s) :
    ∃ s', go rel stale buffer 13 [13, 10] s = .stop firstFinal buffer.length s' ∧ Reads req s' := by
  have hle := hsuf.length_le
  obtain ⟨cs₁, hcs₁, hgo₁⟩ := byte_go rel segs.headEnd (show 13 ∈ [13] by decide) hsuf
    (show runActs (act stale buffer _) [.startField] s
      = .ok { s with fieldStart := pos buffer [13, 10] } from rfl)
  rw [List.mem_singleton] at hcs₁
  have htrans : trans rel 18 10 = some ⟨[.done], firstFinal, true⟩ :=
    trans_of_table rel (by decide +kernel)
  have hacts : runActs (act stale buffer (pos buffer [10])) [.done]
        { s with fieldStart := pos buffer [13, 10] }
      = .ok { s with fieldStart := pos buffer [13, 10], bodyStart := pos buffer [10] + 1 } := by
    simp only [runActs, act, hs.xmlSent, hs.jsonSent, Bool.or_self, Bool.false_eq_true, if_false]
  have hpos : pos buffer [10] + 1 = buffer.length := by
    rw [List.length_cons, List.length_singleton] at hle
    rw [pos, List.length_singleton]
    omega
  have hstop : go rel stale buffer 18 [10] { s with fieldStart := pos buffer [13, 10] }
      = .stop firstFinal buffer.length
          { s with fieldStart := pos buffer [13, 10], bodyStart := pos buffer [10] + 1 } := by
    rw [go, scan_ok htrans hacts, if_pos rfl, hpos]
  rw [hcs₁] at hgo₁
  exact ⟨_, hgo₁.trans hstop, hs.request, hs.error, hs.xmlSent, hs.jsonSent, hs.cs⟩

end

/-! ## the map -/

theorem lexLess_trans {a b c : Str} (hab : lexLess a b = true) (hbc : lexLess b c = true) :
    lexLess a c = true := by
  induction a generalizing b c with
  | nil =>
    cases c with
    | nil => cases b <;> cases hbc
    | cons z c => rfl
  | cons x a ih =>
    cases b with
    | nil => cases hab
    | cons y b =>
      cases c with
      | nil => cases hbc
      | cons z c =>
        simp only [lexLess, Bool.or_eq_true, Bool.and_eq_true, decide_eq_true_eq] at hab hbc ⊢
        rcases hab with hxy | ⟨rfl, hab⟩
        · rcases hbc with hyz | ⟨rfl, hbc⟩
          · exact .inl (UInt8.lt_trans hxy hyz)
          · exact .inl hxy
        · rcases hbc with hyz | ⟨rfl, hbc⟩
          · exact .inl hyz
          · exact .inr ⟨rfl, ih hab hbc⟩

theorem less_asymm {a b : Str} (h : CaseInsensitiveLess a b = true) :
    CaseInsensitiveLess b a = false := by
  refine Bool.eq_false_iff.mpr fun hba => ?_
  have hself := lexLess_trans h hba
  rw [lexLess_irrefl] at hself
  cases hself

/-- the entries of a map, in its order -/
def Ordered (m : MapType) : Prop := m.Pairwise fun x y => CaseInsensitiveLess x.1 y.1 = true

theorem set_last {m : MapType} {x : Str × Str}
    (hm : ∀ y ∈ m, CaseInsensitiveLess y.1 x.1 = true) : MapType.set x.1 x.2 m = m ++ [x] := by
  induction m with
  | nil => rfl
  | cons y m ih =>
    rw [MapType.set, if_pos (hm y List.mem_cons_self),
      ih fun z hz => hm z (List.mem_cons_of_mem y hz)]
    rfl

/-- an entry behind all others but one that is set before it -/
theorem set_set_last {key val : Str} {m : MapType} {x : Str × Str}
    (hm : ∀ y ∈ m, CaseInsensitiveLess y.1 x.1 = true)
    (hne : ∀ y ∈ m ++ [x], strcasecmpEq y.1 key = false) :
    MapType.set x.1 x.2 (MapType.set key val m) = MapType.set key val (m ++ [x]) := by
  induction m with
  | nil =>
    have hx := hne x List.mem_cons_self
    show (if CaseInsensitiveLess key x.1 = true then [(key, val), x]
        else if CaseInsensitiveLess x.1 key = true then [x, (key, val)] else [(key, x.2)])
      = if CaseInsensitiveLess x.1 key = true then [x, (key, val)]
        else if CaseInsensitiveLess key x.1 = true then [(key, val), x] else [(x.1, val)]
    by_cases hlt : CaseInsensitiveLess key x.1 = true
    · rw [if_pos hlt, less_asymm hlt, if_neg Bool.false_ne_true, if_pos hlt]
    · rw [if_neg hlt]
      by_cases hgt : CaseInsensitiveLess x.1 key = true
      · rw [if_pos hgt, if_pos hgt]
      · have hsame := eq_of_not_lexLess _ _ (Bool.eq_false_iff.mpr hgt) (Bool.eq_false_iff.mpr hlt)
        rw [strcasecmpEq_iff.mpr hsame] at hx
        cases hx
  | cons y m ih =>
    have hy := hne y List.mem_cons_self
    have hyx := hm y List.mem_cons_self
    have hrest : ∀ z ∈ m, CaseInsensitiveLess z.1 x.1 = true :=
      fun z hz => hm z (List.mem_cons_of_mem y hz)
    rw [List.cons_append, MapType.set, MapType.set]
    by_cases hlt : CaseInsensitiveLess y.1 key = true
    · rw [if_pos hlt, if_pos hlt, MapType.set, if_pos hyx,
        ih hrest fun z hz => hne z (List.mem_cons_of_mem y hz)]
    · rw [if_neg hlt, if_neg hlt]
      by_cases hgt : CaseInsensitiveLess key y.1 = true
      · have hkx : CaseInsensitiveLess key x.1 = true := lexLess_trans hgt hyx
        rw [if_pos hgt, if_pos hgt, MapType.set, if_pos hkx, set_last hm]
        rfl
      · have hsame := eq_of_not_lexLess _ _ (Bool.eq_false_iff.mpr hlt) (Bool.eq_false_iff.mpr hgt)
        rw [strcasecmpEq_iff.mpr hsame] at hy
        cases hy

/-- **The entries of a map are set behind one that was there before.** -/
theorem set_ordered {key val : Str} (m : MapType) : Ordered m →
    (∀ y ∈ m, strcasecmpEq y.1 key = false) →
      setAll m [(key, val)] = MapType.set key val m := by
  induction m using List.reverseRecOn with
  | nil => intro _ _; rfl
  | append_singleton m x ih =>
    intro hm hne
    obtain ⟨hleft, _, hless⟩ := List.pairwise_append.mp hm
    have hlast : ∀ y ∈ m, CaseInsensitiveLess y.1 x.1 = true :=
      fun y hy => hless y hy x List.mem_cons_self
    rw [← set_set_last hlast hne, ← ih hleft fun y hy => hne y (List.mem_append_left [x] hy),
      setAll, List.foldl_append]
    rfl

/-! ## the request -/

/-- a request without a body, of parts that the grammar has -/
structure Printable (r : HttpRequest) : Prop where
  body : r.body = []
  method : ∀ c ∈ HttpMethodToString r.method, 65 ≤ c ∧ c ≤ 90
  version : r.version = 0x10 ∨ r.version = 0x11
  path : r.path ∈ Rl.pathAbsolute.lang
  query : r.query = [] ∨ r.query ∈ Rl.query.lang
  fragment : r.fragment = [] ∨ r.fragment ∈ Rl.fragment.lang
  ordered : Ordered r.headers
  fields : ∀ x ∈ r.headers, Name x.1 ∧ Value x.2
  connection : ∀ x ∈ r.headers, strcasecmpEq x.1 (asc "connection") = false

/-- what the names are like behind a space -/
structure TokenFacts : Prop where
  length : ∀ x ∈ httpMethodMap, 1 ≤ x.2.length ∧ x.2.length ≤ 20
  found : ∀ x ∈ httpMethodMap, CharsToHttpMethod x.2 = x.1

theorem tokenFacts : TokenFacts := by
  constructor <;> decide +kernel

theorem method_found {method : HttpMethod}
    (h : ∀ c ∈ HttpMethodToString method, 65 ≤ c ∧ c ≤ 90) :
    Method (HttpMethodToString method)
      ∧ CharsToHttpMethod (HttpMethodToString method) = method ∧ method ≠ .INVALID_METHOD := by
  unfold HttpMethodToString at h ⊢
  cases hfind : httpMethodMap.find? fun x => decide (x.1 = method) with
  | none =>
    rw [hfind] at h
    exact absurd (h 60 (by decide)).1 (by decide)
  | some x =>
    rw [hfind] at h
    have hx := List.mem_of_find?_eq_some hfind
    have hname := List.find?_some hfind
    simp only [decide_eq_true_eq] at hname
    subst hname
    refine ⟨⟨(tokenFacts.length x hx).1, (tokenFacts.length x hx).2, fun c hc => ?_⟩,
      tokenFacts.found x hx, nameFacts.valid x hx⟩
    obtain ⟨hlo, hhi⟩ := h c hc
    rw [methodChar, decide_eq_true hlo, decide_eq_true hhi]
    rfl

/-- the method of the request line -/
theorem method_go (rel : Bool) (stale : Nat → UInt8) {method : HttpMethod} {rest : Str}
    {s : HttpRequestParser} {req : HttpRequest} (hs : Reads req s)
    (h : ∀ c ∈ HttpMethodToString method, 65 ≤ c ∧ c ≤ 90) :
    ∃ s', scan (trans rel) (act stale (HttpMethodToString method ++ 32 :: rest)) start 0
          (HttpMethodToString method ++ 32 :: rest) s
        = go rel stale (HttpMethodToString method ++ 32 :: rest) 3 rest s'
      ∧ Reads { req with method := method } s' := by
  obtain ⟨htoken, hfound, hvalid⟩ := method_found h
  have hscan := method_scan rel stale (HttpMethodToString method ++ 32 :: rest) htoken s
  have hcall : onRequestMethod (HttpMethodToString method ++ 32 :: rest) { s with mark := 0 }
      = { s with mark := 0, request := { s.request with method := method } } := by
    unfold onRequestMethod
    rw [CharsToHttpMethod_token, hfound]
    split
    · exact absurd rfl hvalid
    · rfl
  have hsplit : HttpMethodToString method ++ 32 :: rest
      = (HttpMethodToString method ++ [32]) ++ rest := by
    rw [List.append_assoc]
    rfl
  have hpos : 0 + (HttpMethodToString method ++ [32]).length
      = pos (HttpMethodToString method ++ 32 :: rest) rest := by
    have hlen : ((HttpMethodToString method ++ [32]) ++ rest).length
        = (HttpMethodToString method ++ [32]).length + rest.length := List.length_append
    rw [pos, hsplit, hlen]
    omega
  rw [hcall] at hscan
  refine ⟨{ s with mark := 0, request := { s.request with method := method } }, ?_,
    by rw [← hs.request], hs.error, hs.xmlSent, hs.jsonSent, hs.cs⟩
  have happend := scan_append (trans rel) (act stale (HttpMethodToString method ++ 32 :: rest))
    (HttpMethodToString method ++ [32]) rest start 0 s
  rw [hscan] at happend
  dsimp only at happend
  rw [hpos, ← hsplit] at happend
  exact happend

theorem text_eq {r : HttpRequest} (hbody : r.body = []) : r.toString
    = HttpMethodToString r.method ++ 32 :: (r.path ++ (queryText r.query
      ++ (fragmentText r.fragment ++ 32 :: (versionString r.version ++ 13 :: 10 ::
        ((written r).flatMap (fun x => fieldString x ++ crlf) ++ [13, 10]))))) := by
  have hend : dumpBody r.body = [13, 10] := by
    rw [hbody]
    rfl
  have hspace : ∀ w : Str, 32 :: w = asc " " ++ w := fun w => rfl
  have hcrlf : ∀ w : Str, 13 :: 10 :: w = crlf ++ w := fun w => rfl
  rw [HttpRequest.toString, dump_written, hend, HttpRequest.startLine, queryText, fragmentText]
  simp only [hspace, hcrlf, List.append_assoc]

theorem written_fields {r : HttpRequest} (h : Printable r) :
    ∀ x ∈ written r, Name x.1 ∧ Value x.2 := by
  intro x hx
  rcases List.mem_cons.mp hx with rfl | hx
  · have hname : Name (asc "connection") := ⟨by decide, by decide +kernel⟩
    refine ⟨hname, ?_⟩
    show Value (connectionString r.close)
    cases r.close with
    | true => exact ⟨by decide +kernel, by decide⟩
    | false => exact ⟨by decide +kernel, by decide⟩
  · exact h.fields x (List.mem_of_mem_filter hx)

theorem setAll_written {r : HttpRequest} (h : Printable r) :
    setAll (written r) []
      = MapType.set (asc "connection") (connectionString r.close) r.headers := by
  have hkept : r.headers.filter (fun x => !strcasecmpEq x.1 (asc "connection")) = r.headers := by
    refine List.filter_eq_self.mpr fun x hx => ?_
    rw [h.connection x hx]
    rfl
  rw [written, hkept]
  exact set_ordered r.headers h.ordered h.connection

theorem init_close (close : Bool) (r : HttpRequest) (m : MapType)
    (hm : r.headers = MapType.set (asc "connection") (connectionString close) m) :
    r.init = { r with close := close } := by
  have hget : r.getHeader (asc "connection") [] = connectionString close := by
    rw [HttpRequest.getHeader, hm, MapType.find_set, if_pos (by decide)]
    rfl
  unfold HttpRequest.init
  rw [hget]
  cases close with
  | true => rfl
  | false => rfl

/-- **A request that is printed comes back when the text is parsed.** -/
theorem request_comes_back (u : Ambient) (rel : Bool) (stale : Nat → UInt8) (r : HttpRequest)
    (h : Printable r) (hlen : r.toString.length < 2 ^ 63) :
    ∃ s, execute stale r.toString rel (HttpRequestParser.new u) = .ok (s, r.toString.length)
      ∧ s.hasError = false ∧ s.isFinished = 1
      ∧ s.request.init = { r with
          headers := MapType.set (asc "connection") (connectionString r.close) r.headers } := by
  have hquery : r.query ∈ Rl.query.lang := by
    rcases h.query with hnil | hmem
    · rw [hnil]
      exact (nil_mem_lang _).mpr (by decide)
    · exact hmem
  have hfragment : r.fragment ∈ Rl.fragment.lang := by
    rcases h.fragment with hnil | hmem
    · rw [hnil]
      exact (nil_mem_lang _).mpr (by decide)
    · exact hmem
  have htext := text_eq h.body
  have hnew : Reads HttpRequest.new (HttpRequestParser.new u).rewind := ⟨rfl, rfl, rfl, rfl, rfl⟩
  obtain ⟨s₁, hgo₁, hs₁⟩ := method_go rel stale hnew h.method
  rw [← htext] at hgo₁
  generalize hfields : (written r).flatMap (fun x => fieldString x ++ crlf) ++ [13, 10] = fields
    at htext hgo₁
  have hsuf₁ : r.path ++ (queryText r.query ++ (fragmentText r.fragment ++ 32 ::
      (versionString r.version ++ 13 :: 10 :: fields))) <:+ r.toString :=
    ⟨HttpMethodToString r.method ++ [32], by rw [htext, List.append_assoc]; rfl⟩
  have hsuf₂ : versionString r.version ++ 13 :: 10 :: fields <:+ r.toString :=
    suffix_of_append (w := [32]) (suffix_of_append (suffix_of_append (suffix_of_append hsuf₁)))
  have hsuf₃ : fields <:+ r.toString := suffix_of_append (w := [13, 10]) (suffix_of_append hsuf₂)
  obtain ⟨s₂, hgo₂, hs₂⟩ := target_go rel h.path hquery hfragment hsuf₁ hlen hs₁ rfl rfl
  obtain ⟨s₃, hgo₃, hs₃⟩ := version_go rel h.version hsuf₂ hs₂
  rw [← hfields] at hsuf₃ hgo₃
  obtain ⟨s₄, hgo₄, hs₄⟩ := fields_go rel (written r) (written_fields h) hlen _ s₃ hsuf₃ hs₃
  obtain ⟨s₅, hgo₅, hs₅⟩ := end_go rel (suffix_of_append hsuf₃) hs₄
  rw [hfields] at hgo₃
  have hscan : scan (trans rel) (act stale r.toString) (HttpRequestParser.new u).cs 0 r.toString
      (HttpRequestParser.new u).rewind = .stop firstFinal r.toString.length s₅ := by
    rw [← hgo₅, ← hgo₄, hfields, ← hgo₃, ← hgo₂, ← hgo₁]
    rfl
  have hcs : s₅.setCs firstFinal = { s₅ with cs := firstFinal } :=
    if_neg (show ¬ s₅.cs = error by rw [hs₅.cs]; decide)
  have hne : r.toString.length ≠ 0 := by
    rw [htext]
    simp
  refine ⟨{ s₅ with cs := firstFinal }, ?_, ?_, rfl, ?_⟩
  · unfold execute
    rw [if_neg hne, hscan, ← hcs]
  · show (decide (s₅.error ≠ 0) || decide (firstFinal = error)) = false
    rw [hs₅.error]
    decide
  · show s₅.request.init = _
    have hheaders := setAll_written h
    have hbody : HttpRequest.new.body = r.body := h.body.symm
    rw [hs₅.request, init_close r.close _ r.headers hheaders, ← hheaders, hbody]
    rfl

/-- a request with a query, a field with a blank inside and an empty field -/
def exampleRequest : HttpRequest where
  method := .GET
  version := 0x10
  close := false
  path := asc "/a"
  query := asc "q=1"
  fragment := []
  body := []
  headers := [(asc "accept", asc "x y"), (asc "Host", [])]

theorem exampleRequest_printable : Printable exampleRequest where
  body := rfl
  method := by decide +kernel
  version := .inl rfl
  path := show asc "/a" ∈ Rl.pathAbsolute.lang by decide +kernel
  query := .inr (show asc "q=1" ∈ Rl.query.lang by decide +kernel)
  fragment := .inl rfl
  ordered := show List.Pairwise _ [(asc "accept", asc "x y"), (asc "Host", [])] by decide +kernel
  fields := by
    intro x hx
    rcases List.mem_cons.mp hx with rfl | hx
    · exact ⟨⟨by decide, by decide +kernel⟩, ⟨by decide +kernel, by decide⟩⟩
    · obtain rfl := List.mem_singleton.mp hx
      exact ⟨⟨by decide, by decide +kernel⟩, ⟨by decide +kernel, by decide⟩⟩
  connection := by decide +kernel

theorem request_comes_back_get :
    ∃ s, execute (fun _ => 0) exampleRequest.toString false (HttpRequestParser.new .zero)
        = .ok (s, exampleRequest.toString.length)
      ∧ s.hasError = false ∧ s.isFinished = 1
      ∧ s.request.init = { exampleRequest with
          headers := MapType.set (asc "connection") (connectionString exampleRequest.close)
            exampleRequest.headers } :=
  request_comes_back .zero false (fun _ => 0) exampleRequest exampleRequest_printable
    (by decide +kernel)

end Request
end Http
end KitServer
