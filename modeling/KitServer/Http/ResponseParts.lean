import KitServer.Http.ChunkedBody
import KitServer.Http.Printed

/-!
# The parts of a response, as the parser takes them

The lemmas follow the table of `httpclient_parser.rl` from one part of a head to the next
(`segment`), and say which response has been read so far (`Reads`).

* `spell_run`       a state within a special name is reached by its letters alone;
* `name_go`         any other name ends in a plain state;
* `field_go`        one line of the header;
* `connection_go`   the field `connection`, behind which the next line starts in a state of its own
                    when it says `close`;
* `end_go`          the end of the head.
-/

set_option linter.unusedVariables false

namespace KitServer
namespace Http
namespace Response
open Regex
open Uri (chr byte anyByte anyByte_testBit)
open Request (tokenBytes tokenChar byteSet pos pos_append suffix_of_append chars_here LEN_here
  drop_here Name Ordered anyHead)

/-- the bytes of a line, and those that a value may start with -/
def lineBytes : Nat := byteSet fun c => c ≠ 10 && c ≠ 13
def valueHead : Nat := byteSet fun c => !isspace c
def digitBytes : Nat := byteRange 48 57

theorem byteSets : ∀ c : Fin 256,
    (UInt8.ofNat c.val ≠ 10 ∧ UInt8.ofNat c.val ≠ 13 → lineBytes.testBit c.val = true)
    ∧ (isspace (UInt8.ofNat c.val) = false → valueHead.testBit c.val = true) := by
  decide +kernel

def row (cs : Nat) : List Range := rows.getD cs []

def seg (m : Nat) (acts : List Act) (S : List Nat) (r : Regex) (E : List Nat) : Bool :=
  segment row tr m acts S [[r]] E 2000

def word : Str → Regex
  | [] => eps
  | c :: w => byte c * word w

def nameStates : List Nat :=
  21 :: (List.range' 25 10 ++ List.range' 44 17 ++ List.range' 101 11)

/-- those behind a name that is none of the special ones -/
def plainStates : List Nat := nameStates.filter fun cs => cs ≠ 34 && cs ≠ 60 && cs ≠ 111

structure Segs : Prop where
  version : seg anyByte [.httpVersion] [15] (byte 32) [16] = true
  status : seg anyByte [.mark] [16] (plus (bytes digitBytes)) [17] = true
  statusEnd : seg anyByte [.statusCode] [17] (byte 32) [18] = true
  reason : seg anyByte [.mark] [18] (plus (bytes lineBytes)) [19] = true
  reasonEnd : seg anyByte [.reasonPhrase] [19] (byte 13) [24] = true
  lineEnd : seg anyByte [] [24] (byte 10) [20] = true
  name : seg anyByte [.startField] [20] (plus (bytes tokenBytes)) nameStates = true
  colon : seg anyByte [.writeField] plainStates (byte 58) [22] = true
  value : seg valueHead [.startValue] [22] (star (bytes lineBytes)) [23] = true
  valueEnd : seg anyByte [.writeValue] [23] (byte 13) [24] = true
  valueEmpty : seg anyByte [.startValue, .writeValue] [22] (byte 13) [24] = true

theorem segs : Segs := by
  constructor <;> decide +kernel

/-- where a line starts, and behind `connection: close` -/
def lineStarts : List (Nat × List Act) := [(20, []), (43, [.writeConnectionClose])]

/-- from the start of a line: the end of the head, and the field `content-length` -/
structure LineSegs (cs : Nat) (acts : List Act) : Prop where
  headEnd : seg anyByte acts [cs] (byte 13) [3] = true
  length : seg anyByte (acts ++ [.startField]) [cs] (word (asc "content-length")) [111] = true

theorem lineSegs : ∀ x ∈ lineStarts, LineSegs x.1 x.2 := by
  have h : ∀ x ∈ lineStarts, seg anyByte x.2 [x.1] (byte 13) [3] = true
      ∧ seg anyByte (x.2 ++ [.startField]) [x.1] (word (asc "content-length")) [111] = true := by
    decide +kernel
  exact fun x hx => ⟨(h x hx).1, (h x hx).2⟩

/-- the fields that `dump` adds -/
structure OwnSegs : Prop where
  connection : seg anyByte [.startField] [20] (word (asc "connection")) [34] = true
  connectionColon : seg anyByte [.writeField] [34] (byte 58) [35] = true
  connectionBlank : seg anyByte [.startValue] [35] (byte 32) [35] = true
  keepAlive : seg anyByte [.startValue] [35] (word (asc "keep-alive")) [23] = true
  close : seg anyByte [.startValue] [35] (word (asc "close")) [100] = true
  closeEnd : seg anyByte [.writeValue] [100] (byte 13) [88] = true
  closeLineEnd : seg anyByte [] [88] (byte 10) [43] = true
  lengthColon : seg anyByte [.writeField] [111] (byte 58) [112] = true
  lengthBlank : seg anyByte [.startValue] [112] (byte 32) [112] = true
  length : seg anyByte [.startValue] [112] (plus (bytes digitBytes)) [119] = true
  lengthEnd : seg anyByte [.writeContentLen, .writeValue] [119] (byte 13) [24] = true

theorem ownSegs : OwnSegs := by
  constructor <;> decide +kernel

/-! ## what a name leads to -/

/-- the text in lower case that leads from the start of a line to a state within a special name -/
def spelled (cs : Nat) : Option Str :=
  if cs = 20 then some []
  else if 25 ≤ cs ∧ cs ≤ 34 then some ((asc "connection").take (cs - 24))
  else if 44 ≤ cs ∧ cs ≤ 60 then some ((asc "transfer-encoding").take (cs - 43))
  else if 101 ≤ cs ∧ cs ≤ 111 then some ((asc "content-length").take (cs - 97))
  else none

/-- from the start of a line and within a name, a range of bytes of a name leads to a state that
spells one letter more, or to one that spells nothing -/
def spellsOn (cs : Nat) (r : Range) : Bool :=
  let letter := UInt8.ofNat r.lo
  !decide (cs ∈ 20 :: nameStates)
    || r.lo = r.hi && !tokenChar letter
    || decide ((r.jump.trans tr).target ∈ nameStates)
      && match spelled (r.jump.trans tr).target with
        | none => true
        | some text =>
          r.lo = r.hi && decide ((spelled cs).map (· ++ [tolower letter]) = some text)

theorem rows_spell : (rows.zipIdx.all fun x => x.1.all (spellsOn x.2)) = true := by
  decide +kernel

theorem spell_step {cs : Nat} {c : UInt8} {t : Trans Act} (h : trans cs c = some t)
    (hcs : cs ∈ 20 :: nameStates) (hc : tokenChar c = true) :
    t.target ∈ nameStates ∧ ∀ text, spelled t.target = some text →
      (spelled cs).map (· ++ [tolower c]) = some text := by
  obtain ⟨r, hr, hlo, hhi, rfl⟩ := tableTrans_all rows_spell h
  have hone : r.lo = r.hi → UInt8.ofNat r.lo = c := by
    intro heq
    rw [show r.lo = c.toNat by omega, UInt8.ofNat_toNat]
  simp only [spellsOn, decide_eq_true hcs, Bool.not_true, Bool.false_or, Bool.or_eq_true,
    Bool.and_eq_true, decide_eq_true_eq, Bool.not_eq_true'] at hr
  rcases hr with ⟨heq, hno⟩ | ⟨hmem, htext⟩
  · rw [hone heq, hc] at hno
    cases hno
  · refine ⟨hmem, fun text hspelled => ?_⟩
    rw [hspelled] at htext
    simp only [Bool.and_eq_true, decide_eq_true_eq] at htext
    rw [← hone htext.1]
    exact htext.2

/-- **A state within a special name is reached by its letters alone.** -/
theorem spell_run (w : Str) (hw : ∀ c ∈ w, tokenChar c = true) : ∀ cs cs' : Nat,
    cs ∈ 20 :: nameStates → run trans cs w = some cs' → ∀ text, spelled cs' = some text →
      (spelled cs).map (· ++ w.map tolower) = some text := by
  induction w with
  | nil =>
    intro cs cs' _ hrun text htext
    cases hrun
    simp [htext]
  | cons c w ih =>
    intro cs cs' hcs hrun text htext
    obtain ⟨t, ht, _, hrun⟩ := run_cons_some hrun
    obtain ⟨hmem, hstep⟩ := spell_step ht hcs (hw c List.mem_cons_self)
    have hmem' : t.target ∈ 20 :: nameStates :=
      List.mem_cons_of_mem 20 hmem
    obtain ⟨mid, hmid, rfl⟩ := Option.map_eq_some_iff.mp
      (ih (fun d hd => hw d (List.mem_cons_of_mem c hd)) t.target cs' hmem' hrun text htext)
    obtain ⟨before, hbefore, rfl⟩ := Option.map_eq_some_iff.mp (hstep mid hmid)
    simp [hbefore]

/-! ## the scan from one part to the next -/

section
variable (stale : Nat → UInt8) (buffer : Str)

def go (cs : Nat) (rest : Str) (s : HttpResponseParser) : Scan HttpResponseParser Fault :=
  scan trans (act stale buffer) cs (pos buffer rest) rest s

/-- the response that has been read so far, without an error and without chunks -/
structure Reads (rsp : HttpResponse) (s : HttpResponseParser) : Prop where
  response : s.response = rsp
  error : s.error = 0
  chunked : s.chunked = false

variable {stale buffer} {m : Nat} {acts : List Act} {S E : List Nat} {r : Regex} {cs : Nat}
  {v w rest : Str} {s s' : HttpResponseParser} {rsp : HttpResponse}

theorem seg_run (h : seg m acts S r E = true) (hcs : cs ∈ S) (hw : w ∈ r.lang) (hne : w ≠ [])
    (hm : ∀ c ∈ w.head?, m.testBit c.toNat = true) (hsuf : w ++ rest <:+ buffer)
    (hacts : runActs (act stale buffer (pos buffer (w ++ rest))) acts s = .ok s') :
    ∃ cs' ∈ E, run trans cs w = some cs' ∧
      go stale buffer cs (w ++ rest) s = go stale buffer cs' rest s' := by
  obtain ⟨c, w', rfl⟩ := List.exists_cons_of_ne_nil hne
  obtain ⟨t, cs', ht, rfl, hbrk, hrun, hE⟩ :=
    segment_run h hcs (hm c rfl) ((mem_left_singleton _ _).mpr hw)
  have hquiet : ∀ cs c t, only quiet (tableOf row tr) cs c = some t → trans cs c = some t :=
    fun cs c t ht => (Option.filter_eq_some_iff.mp ht).1
  have hrun' : run trans t.target w' = some cs' := run_mono hquiet w' _ _ hrun
  have htrans : trans cs c = some t := ht
  refine ⟨cs', hE, ?_, ?_⟩
  · simp only [run, htrans, hbrk, Bool.false_eq_true, if_false]
    exact hrun'
  · have hpos := pos_append hsuf
    have hscan : scan trans (act stale buffer) t.target (pos buffer (c :: w' ++ rest) + 1)
        (w' ++ rest) s' = scan trans (act stale buffer) cs'
          (pos buffer (c :: w' ++ rest) + 1 + w'.length) rest s' :=
      scan_quiet _ rest s' w' _ _ _ hrun
    rw [List.length_cons] at hpos
    rw [go, go, ← hpos, Nat.add_comm w'.length, ← Nat.add_assoc, ← hscan]
    exact (scan_ok htrans hacts).trans (by rw [hbrk, if_neg Bool.false_ne_true]; rfl)

theorem seg_go (h : seg m acts S r E = true) (hcs : cs ∈ S) (hw : w ∈ r.lang) (hne : w ≠ [])
    (hm : ∀ c ∈ w.head?, m.testBit c.toNat = true) (hsuf : w ++ rest <:+ buffer)
    (hacts : runActs (act stale buffer (pos buffer (w ++ rest))) acts s = .ok s') :
    ∃ cs' ∈ E, go stale buffer cs (w ++ rest) s = go stale buffer cs' rest s' := by
  obtain ⟨cs', hE, _, hgo⟩ := seg_run h hcs hw hne hm hsuf hacts
  exact ⟨cs', hE, hgo⟩

theorem byte_go {c : UInt8} {cs' : Nat} (h : seg anyByte acts S (byte c) [cs'] = true)
    (hcs : cs ∈ S) (hsuf : c :: rest <:+ buffer)
    (hacts : runActs (act stale buffer (pos buffer (c :: rest))) acts s = .ok s') :
    go stale buffer cs (c :: rest) s = go stale buffer cs' rest s' := by
  have hc : (byteRange c.toNat c.toNat).testBit c.toNat = true := by
    rw [testBit_byteRange, decide_eq_true le_rfl]
    rfl
  obtain ⟨cs₁, hcs₁, hgo⟩ := seg_go (w := [c]) h hcs ⟨c, hc, rfl⟩ (List.cons_ne_nil c [])
    (fun d _ => anyByte_testBit d) hsuf hacts
  rw [List.mem_singleton] at hcs₁
  rw [← hcs₁]
  exact hgo

theorem word_mem : ∀ w : Str, w ∈ (word w).lang
  | [] => rfl
  | c :: w => by
    have hc : (byteRange c.toNat c.toNat).testBit c.toNat = true := by
      rw [testBit_byteRange, decide_eq_true le_rfl]
      rfl
    exact ⟨[c], ⟨c, hc, rfl⟩, w, word_mem w, rfl⟩

theorem word_go {cs' : Nat} (h : seg anyByte acts S (word w) [cs'] = true) (hcs : cs ∈ S)
    (hne : w ≠ []) (hsuf : w ++ rest <:+ buffer)
    (hacts : runActs (act stale buffer (pos buffer (w ++ rest))) acts s = .ok s') :
    go stale buffer cs (w ++ rest) s = go stale buffer cs' rest s' := by
  obtain ⟨cs₁, hcs₁, hgo⟩ := seg_go h hcs (word_mem w) hne (anyHead w) hsuf hacts
  rw [List.mem_singleton] at hcs₁
  rw [← hcs₁]
  exact hgo

/-! ## the status line -/

theorem plus_mem {M : Nat} (hne : w ≠ []) (hw : ∀ c ∈ w, M.testBit c.toNat = true) :
    w ∈ (plus (bytes M)).lang := by
  obtain ⟨c, w, rfl⟩ := List.exists_cons_of_ne_nil hne
  exact ⟨[c], ⟨c, hw c List.mem_cons_self, rfl⟩, w,
    mem_star_of_bytes (a := bytes M) (fun d hd => ⟨d, hd, rfl⟩) w
      fun d hd => hw d (List.mem_cons_of_mem c hd), rfl⟩

def Line (v : Str) : Prop := ∀ c ∈ v, c ≠ 10 ∧ c ≠ 13

theorem byteSet_facts (c : UInt8) : (c ≠ 10 ∧ c ≠ 13 → lineBytes.testBit c.toNat = true)
    ∧ (isspace c = false → valueHead.testBit c.toNat = true) := by
  have h := byteSets ⟨c.toNat, c.toNat_lt⟩
  rwa [UInt8.ofNat_toNat] at h

theorem decimal_bytes {n : Nat} {c : UInt8} (hc : c ∈ decimal n) :
    digitBytes.testBit c.toNat = true := by
  obtain ⟨d, hd, rfl⟩ := List.mem_map.mp hc
  have hdigit := Nat.isDigit_of_mem_toDigits (by omega) (by omega) hd
  rw [Char.isDigit, Bool.and_eq_true, decide_eq_true_iff, decide_eq_true_iff] at hdigit
  have hlo : 48 ≤ d.toNat := hdigit.1
  have hhi : d.toNat ≤ 57 := hdigit.2
  have hbyte : (UInt8.ofNat d.toNat).toNat = d.toNat :=
    Nat.mod_eq_of_lt (show d.toNat < 2 ^ 8 by omega)
  rw [digitBytes, testBit_byteRange, hbyte, decide_eq_true hlo, decide_eq_true hhi]
  rfl

theorem digitsFrom_stop {base : Nat} {ds t : Str} (hds : ∀ c ∈ ds, (digit? base c).isSome = true)
    (ht : ∀ c ∈ t.head?, digit? base c = none) :
    ∀ acc, digitsFrom base acc (ds ++ t) = digitsFrom base acc ds := by
  induction ds with
  | nil =>
    intro acc
    cases t with
    | nil => rfl
    | cons c t =>
      have hc : digit? base c = none := ht c rfl
      simp only [List.nil_append, digitsFrom, hc]
  | cons c ds ih =>
    intro acc
    obtain ⟨d, hd⟩ := Option.isSome_iff_exists.mp (hds c List.mem_cons_self)
    rw [List.cons_append, digitsFrom, digitsFrom, hd]
    exact ih (fun e he => hds e (List.mem_cons_of_mem c he)) _

theorem skip0x_ten (s : Str) : skip0x 10 s = s := by
  unfold skip0x
  split
  · exact if_neg (by simp)
  · rfl

/-- a number in front of what is no digit -/
theorem atoi_decimal {n : Nat} (hn : n < 2 ^ 31) {t : Str}
    (ht : ∀ c ∈ t.head?, digit? 10 c = none) : atoi (decimal n ++ t) = n := by
  have hvalue : digitsFrom 10 0 (decimal n ++ t) = n :=
    (digitsFrom_stop (fun c hc => decimal_digit hc) ht 0).trans (digitsFrom_decimal n)
  obtain ⟨c, ds, hds⟩ := List.exists_cons_of_ne_nil (decimal_ne_nil n)
  have hc : digitBytes.testBit c.toNat = true :=
    decimal_bytes (n := n) (hds ▸ List.mem_cons_self)
  rw [digitBytes, testBit_byteRange, Bool.and_eq_true, decide_eq_true_eq, decide_eq_true_eq] at hc
  have hspace : isspace c = false := by
    rw [isspace]
    simp only [UInt8.le_iff_toNat_le, ← UInt8.toNat_inj]
    grind
  have hdrop : (decimal n ++ t).dropWhile isspace = decimal n ++ t := by
    rw [hds]
    exact List.dropWhile_cons_of_neg (by rw [hspace]; exact Bool.false_ne_true)
  have hstrtol : strtol 10 (decimal n ++ t) = n := by
    unfold strtol
    dsimp only
    rw [hdrop]
    split
    · rename_i heq
      rw [hds] at heq
      obtain ⟨rfl, _⟩ := List.cons.inj heq
      exact absurd hc (by decide)
    · rename_i heq
      rw [hds] at heq
      obtain ⟨rfl, _⟩ := List.cons.inj heq
      exact absurd hc (by decide)
    · rw [skip0x_ten, hvalue]
      omega
  rw [atoi, hstrtol, toInt32, Int.bmod_eq_of_le (by omega) (by omega)]

theorem find_none {m : MapType} {k : Str} (h : ∀ x ∈ m, strcasecmpEq x.1 k = false) :
    MapType.find m k = none := by
  induction m with
  | nil => rfl
  | cons x m ih =>
    rw [MapType.find_cons, if_neg (by rw [h x List.mem_cons_self]; exact Bool.false_ne_true),
      ih fun y hy => h y (List.mem_cons_of_mem x hy)]

variable (stale)

/-- the version, and the space behind it -/
theorem version_go {version : UInt8} (h : version = 0x10 ∨ version = 0x11)
    (hbuf : buffer = versionString version ++ 32 :: rest) (hs : Reads rsp s) :
    ∃ s', scan trans (act stale buffer) start 0 buffer s = go stale buffer 16 rest s'
      ∧ Reads { rsp with version := version } s' := by
  have hknown : Known (versionString version) := by
    rcases h with rfl | rfl
    · exact .inr (by decide)
    · exact .inl (by decide)
  have hset : ∀ (t : HttpResponseParser) (more : Str),
      onResponseHttpVersion (versionString version ++ more) 8 t
        = { t with response := { t.response with version := version } } := by
    intro t more
    rcases h with rfl | rfl <;> rfl
  have hlen : buffer.length = 9 + rest.length := by
    rw [hbuf, List.length_append, hknown.length, List.length_cons]
    omega
  have hscan := scan_known (f := stale) (r := 32 :: rest) hknown buffer s
  rw [← hbuf] at hscan
  refine ⟨{ s with mark := 0, response := { s.response with version := version } }, ?_, ?_⟩
  · have hpos : (8 : Nat) = pos buffer (32 :: rest) := by
      rw [pos, hlen, List.length_cons]
      omega
    have hacts : runActs (act stale buffer (pos buffer (32 :: rest))) [.httpVersion]
        { s with mark := 0 }
        = .ok { s with mark := 0, response := { s.response with version := version } } := by
      have hcall := hset { s with mark := 0 } (32 :: rest)
      rw [← hbuf] at hcall
      rw [← hpos]
      exact congrArg Except.ok hcall
    rw [hscan, hpos]
    exact byte_go segs.version List.mem_cons_self
      (hbuf ▸ List.suffix_append (versionString version) (32 :: rest)) hacts
  · exact ⟨by rw [← hs.response], hs.error, hs.chunked⟩

theorem status_go {n : Nat} (hn : n < 2 ^ 31) (hsuf : decimal n ++ 32 :: rest <:+ buffer)
    (hs : Reads rsp s) :
    ∃ s', go stale buffer 16 (decimal n ++ 32 :: rest) s = go stale buffer 18 rest s'
      ∧ Reads { rsp with status := n } s' := by
  obtain ⟨cs₁, hcs₁, hgo₁⟩ := seg_go segs.status (show 16 ∈ [16] from List.mem_cons_self)
    (plus_mem (decimal_ne_nil n) fun c hc => decimal_bytes hc) (decimal_ne_nil n) (anyHead _) hsuf
    (show runActs (act stale buffer _) [.mark] s
      = .ok { s with mark := pos buffer (decimal n ++ 32 :: rest) } from rfl)
  have hvalue : atoi (decimal n ++ 32 :: rest) = n :=
    atoi_decimal hn fun c hc => by cases hc; decide
  have hacts : runActs (act stale buffer (pos buffer (32 :: rest))) [.statusCode]
      { s with mark := pos buffer (decimal n ++ 32 :: rest) }
      = .ok { s with
          mark := pos buffer (decimal n ++ 32 :: rest)
          response := { s.response with status := n } } := by
    simp only [runActs, act, onResponseStatusCode, drop_here hsuf, hvalue]
  refine ⟨_, hgo₁.trans (byte_go segs.statusEnd hcs₁ (suffix_of_append hsuf) hacts), ?_,
    hs.error, hs.chunked⟩
  rw [← hs.response]

theorem reason_go (hv : Line v) (hne : v ≠ []) (hsuf : v ++ 13 :: 10 :: rest <:+ buffer)
    (hlen : buffer.length < 2 ^ 63) (hs : Reads rsp s) :
    ∃ s', go stale buffer 18 (v ++ 13 :: 10 :: rest) s = go stale buffer 20 rest s'
      ∧ Reads { rsp with reason := v } s' := by
  have hsuf₁ : 13 :: 10 :: rest <:+ buffer := suffix_of_append hsuf
  obtain ⟨cs₁, hcs₁, hgo₁⟩ := seg_go segs.reason (show 18 ∈ [18] from List.mem_cons_self)
    (plus_mem hne fun c hc => (byteSet_facts c).1 (hv c hc)) hne (anyHead v) hsuf
    (show runActs (act stale buffer _) [.mark] s
      = .ok { s with mark := pos buffer (v ++ 13 :: 10 :: rest) } from rfl)
  have hacts : runActs (act stale buffer (pos buffer (13 :: 10 :: rest))) [.reasonPhrase]
      { s with mark := pos buffer (v ++ 13 :: 10 :: rest) }
      = .ok { s with
          mark := pos buffer (v ++ 13 :: 10 :: rest)
          response := { s.response with reason := v } } := by
    simp only [runActs, act, onResponseReasonPhrase, LEN_here hsuf, chars_here hsuf hlen]
  have hgo₂ := byte_go segs.reasonEnd hcs₁ hsuf₁ hacts
  have hgo₃ := byte_go (s := { s with
      mark := pos buffer (v ++ 13 :: 10 :: rest)
      response := { s.response with reason := v } })
    segs.lineEnd List.mem_cons_self (suffix_of_append (w := [13]) hsuf₁)
    (show runActs (act stale buffer _) [] _ = .ok _ from rfl)
  refine ⟨_, hgo₁.trans (hgo₂.trans hgo₃), ?_, hs.error, hs.chunked⟩
  rw [← hs.response]

/-! ## the header -/

/-- the names that the parser treats in a way of its own -/
def special : List Str := [asc "connection", asc "transfer-encoding", asc "content-length"]

/-- a value that may be sent; blanks in front of it would not come back -/
structure Value (val : Str) : Prop where
  line : Line val
  head : ∀ c ∈ val.head?, isspace c = false

theorem caseFold_token {name : Str} (h : ∀ c ∈ name, tokenChar c = true) :
    caseFold name = name.map tolower := by
  have hnul : ∀ c ∈ name, decide (c ≠ 0) = true := by
    intro c hc
    rw [decide_eq_true_eq]
    rintro rfl
    exact absurd (h 0 hc) (by decide)
  rw [caseFold, List.takeWhile_eq_self_iff.mpr hnul]

/-- **A name that is none of the special ones ends in a plain state.** -/
theorem name_go {name : Str} (hname : Name name)
    (hplain : ∀ k ∈ special, strcasecmpEq name k = false) (hsuf : name ++ rest <:+ buffer) :
    ∃ cs' ∈ plainStates, go stale buffer 20 (name ++ rest) s
      = go stale buffer cs' rest { s with fieldStart := pos buffer (name ++ rest) } := by
  obtain ⟨cs', hcs', hrun, hgo⟩ := seg_run segs.name (show 20 ∈ [20] from List.mem_cons_self)
    hname.mem hname.ne (anyHead name) hsuf
    (show runActs (act stale buffer _) [.startField] s
      = .ok { s with fieldStart := pos buffer (name ++ rest) } from rfl)
  have hspells := spell_run name hname.token 20 cs' List.mem_cons_self hrun
  have hfolds : ∀ k ∈ special, caseFold k = k := by decide
  have hnot : ∀ k ∈ special, spelled cs' ≠ some k := by
    intro k hk htext
    have hsame : name.map tolower = k := Option.some.inj (hspells k htext)
    have hno := hplain k hk
    rw [strcasecmpEq, caseFold_token hname.token, hsame, hfolds k hk, decide_eq_true rfl] at hno
    cases hno
  refine ⟨cs', List.mem_filter.mpr ⟨hcs', ?_⟩, hgo⟩
  simp only [Bool.and_eq_true, decide_eq_true_eq]
  refine ⟨⟨?_, ?_⟩, ?_⟩
  · rintro rfl
    exact hnot (asc "connection") (by decide) (by decide)
  · rintro rfl
    exact hnot (asc "transfer-encoding") (by decide) (by decide)
  · rintro rfl
    exact hnot (asc "content-length") (by decide) (by decide)

theorem colon_go {name : Str} {cs' : Nat} (h : seg anyByte [.writeField] S (byte 58) [cs'] = true)
    (hcs : cs ∈ S) (hsuf : name ++ 58 :: rest <:+ buffer)
    (hstart : s.fieldStart = pos buffer (name ++ 58 :: rest)) :
    go stale buffer cs (58 :: rest) s
      = go stale buffer cs' rest { s with fieldLen := name.length } := by
  refine byte_go h hcs (suffix_of_append hsuf) ?_
  simp only [runActs, act, hstart, LEN_here hsuf]

theorem writeValue_here {name val r₁ r₂ : Str} (hname : name ++ r₁ <:+ buffer)
    (hval : val ++ r₂ <:+ buffer) (hlen : buffer.length < 2 ^ 63) (hne : name ≠ [])
    (hstart : s.fieldStart = pos buffer (name ++ r₁)) (hflen : s.fieldLen = name.length)
    (hmark : s.mark = pos buffer (val ++ r₂)) :
    act stale buffer (pos buffer r₂) .writeValue s
      = .ok { s with response := s.response.setHeader name val } := by
  have hpos : name.length ≠ 0 := mt List.length_eq_zero_iff.mp hne
  simp only [act, onResponseHttpField, hstart, hflen, hmark, if_neg hpos, LEN_here hval,
    chars_here hname hlen, chars_here hval hlen]

/-- **A field of the map.** -/
theorem field_go {x : Str × Str} (hname : Name x.1) (hval : Value x.2)
    (hplain : ∀ k ∈ special, strcasecmpEq x.1 k = false)
    (hsuf : x.1 ++ 58 :: (x.2 ++ 13 :: 10 :: rest) <:+ buffer) (hlen : buffer.length < 2 ^ 63)
    (hs : Reads rsp s) :
    ∃ s', go stale buffer 20 (x.1 ++ 58 :: (x.2 ++ 13 :: 10 :: rest)) s
        = go stale buffer 20 rest s'
      ∧ Reads (rsp.setHeader x.1 x.2) s' := by
  have hsuf₂ : x.2 ++ 13 :: 10 :: rest <:+ buffer :=
    suffix_of_append (w := [58]) (suffix_of_append hsuf)
  have hsuf₃ : 13 :: 10 :: rest <:+ buffer := suffix_of_append hsuf₂
  obtain ⟨cs₁, hcs₁, hgo₁⟩ := name_go stale (s := s) hname hplain hsuf
  have hgo₂ := colon_go stale (s := { s with
      fieldStart := pos buffer (x.1 ++ 58 :: (x.2 ++ 13 :: 10 :: rest)) }) segs.colon hcs₁ hsuf rfl
  generalize hs₂ : ({ s with
      fieldStart := pos buffer (x.1 ++ 58 :: (x.2 ++ 13 :: 10 :: rest))
      fieldLen := x.1.length } : HttpResponseParser) = s₂ at hgo₂
  have hwrite : act stale buffer (pos buffer (13 :: 10 :: rest)) .writeValue
        { s₂ with mark := pos buffer (x.2 ++ 13 :: 10 :: rest) }
      = .ok { s₂ with
          mark := pos buffer (x.2 ++ 13 :: 10 :: rest)
          response := s.response.setHeader x.1 x.2 } := by
    rw [← hs₂]
    exact writeValue_here stale hsuf hsuf₂ hlen hname.ne rfl rfl rfl
  have hgo₃ : go stale buffer 22 (x.2 ++ 13 :: 10 :: rest) s₂
      = go stale buffer 24 (10 :: rest) { s₂ with
          mark := pos buffer (x.2 ++ 13 :: 10 :: rest)
          response := s.response.setHeader x.1 x.2 } := by
    by_cases hnil : x.2 = []
    · rw [hnil] at hwrite ⊢
      refine byte_go segs.valueEmpty List.mem_cons_self hsuf₃ ?_
      simp only [List.nil_append] at hwrite ⊢
      rw [runActs, act]
      simp only [runActs, hwrite]
    · obtain ⟨cs', hcs', hgo'⟩ := seg_go segs.value (show 22 ∈ [22] from List.mem_cons_self)
        (mem_star_of_bytes (a := bytes lineBytes) (fun d hd => ⟨d, hd, rfl⟩) x.2
          fun d hd => (byteSet_facts d).1 (hval.line d hd)) hnil
        (fun d hd => (byteSet_facts d).2 (hval.head d hd)) hsuf₂
        (show runActs (act stale buffer _) [.startValue] s₂
          = .ok { s₂ with mark := pos buffer (x.2 ++ 13 :: 10 :: rest) } from rfl)
      have hend : runActs (act stale buffer (pos buffer (13 :: 10 :: rest))) [.writeValue]
            { s₂ with mark := pos buffer (x.2 ++ 13 :: 10 :: rest) }
          = .ok { s₂ with
              mark := pos buffer (x.2 ++ 13 :: 10 :: rest)
              response := s.response.setHeader x.1 x.2 } := by
        simp only [runActs, hwrite]
      exact hgo'.trans (byte_go segs.valueEnd hcs' hsuf₃ hend)
  have hgo₄ := byte_go (s := { s₂ with
      mark := pos buffer (x.2 ++ 13 :: 10 :: rest)
      response := s.response.setHeader x.1 x.2 })
    segs.lineEnd List.mem_cons_self (suffix_of_append (w := [13]) hsuf₃)
    (show runActs (act stale buffer _) [] _ = .ok _ from rfl)
  refine ⟨_, hgo₁.trans (hgo₂.trans (hgo₃.trans hgo₄)), ?_⟩
  rw [← hs₂]
  exact ⟨by rw [← hs.response], hs.error, hs.chunked⟩

/-- a field of the map is not one of the special ones -/
structure Field (x : Str × Str) : Prop where
  name : Name x.1
  value : Value x.2
  plain : ∀ k ∈ special, strcasecmpEq x.1 k = false

/-- **The fields of the map, one after the other.** -/
theorem fields_go (fields : List (Str × Str)) (hall : ∀ x ∈ fields, Field x)
    (hlen : buffer.length < 2 ^ 63) : ∀ (rsp : HttpResponse) (s : HttpResponseParser),
    fields.flatMap (fun x => fieldString x ++ crlf) ++ rest <:+ buffer → Reads rsp s →
    ∃ s', go stale buffer 20 (fields.flatMap (fun x => fieldString x ++ crlf) ++ rest) s
        = go stale buffer 20 rest s'
      ∧ Reads { rsp with headers := setAll fields rsp.headers } s' := by
  induction fields with
  | nil => intro rsp s _ hs; exact ⟨s, rfl, hs⟩
  | cons x fields ih =>
    intro rsp s hsuf hs
    have htext : (x :: fields).flatMap (fun x => fieldString x ++ crlf) ++ rest
        = x.1 ++ 58 :: (x.2 ++ 13 :: 10 ::
          (fields.flatMap (fun x => fieldString x ++ crlf) ++ rest)) := by
      rw [List.flatMap_cons, fieldString]
      simp only [List.append_assoc]
      rfl
    rw [htext] at hsuf ⊢
    have hx := hall x List.mem_cons_self
    obtain ⟨s₁, hgo₁, hs₁⟩ := field_go stale hx.name hx.value hx.plain hsuf hlen hs
    have hsuf₁ : fields.flatMap (fun x => fieldString x ++ crlf) ++ rest <:+ buffer := by
      have h₁ := suffix_of_append (w := [58]) (suffix_of_append hsuf)
      exact suffix_of_append (w := [13, 10]) (suffix_of_append h₁)
    obtain ⟨s₂, hgo₂, hs₂⟩ := ih (fun y hy => hall y (List.mem_cons_of_mem x hy)) _ s₁ hsuf₁ hs₁
    exact ⟨s₂, hgo₁.trans hgo₂, hs₂⟩

/-! ## the fields that `dump` adds -/

/-- the field `content-length`, in front of a body -/
def lengthLine (body : Str) : Str :=
  if body.length ≠ 0 then asc "content-length" ++ 58 :: 32 :: (decimal body.length ++ crlf) else []

/-- behind the name of such a field: the colon, a blank, and the value up to its carriage return -/
theorem own_go {q v e f : Nat} {pre : List Act} {name val : Str}
    (hpre : pre = [] ∨ pre = [.writeContentLen])
    (hcolon : seg anyByte [.writeField] [q] (byte 58) [v] = true)
    (hblank : seg anyByte [.startValue] [v] (byte 32) [v] = true)
    (hvalue : seg anyByte [.startValue] [v] r [e] = true)
    (hend : seg anyByte (pre ++ [.writeValue]) [e] (byte 13) [f] = true) (hval : val ∈ r.lang)
    (hvne : val ≠ []) (hne : name ≠ [])
    (hsuf : name ++ 58 :: 32 :: (val ++ 13 :: rest) <:+ buffer) (hlen : buffer.length < 2 ^ 63)
    (hstart : s.fieldStart = pos buffer (name ++ 58 :: 32 :: (val ++ 13 :: rest)))
    (hs : Reads rsp s) :
    ∃ s', go stale buffer q (58 :: 32 :: (val ++ 13 :: rest)) s = go stale buffer f rest s'
      ∧ Reads (rsp.setHeader name val) s' := by
  have hsuf₁ : 58 :: 32 :: (val ++ 13 :: rest) <:+ buffer := suffix_of_append hsuf
  have hsuf₂ : 32 :: (val ++ 13 :: rest) <:+ buffer := suffix_of_append (w := [58]) hsuf₁
  have hsuf₃ : val ++ 13 :: rest <:+ buffer := suffix_of_append (w := [32]) hsuf₂
  have hgo₁ := colon_go stale hcolon (List.mem_singleton_self q) hsuf hstart
  generalize hs₁ : ({ s with fieldLen := name.length } : HttpResponseParser) = s₁ at hgo₁
  have hgo₂ := byte_go hblank (List.mem_singleton_self v) hsuf₂
    (show runActs (act stale buffer _) [.startValue] s₁
      = .ok { s₁ with mark := pos buffer (32 :: (val ++ 13 :: rest)) } from rfl)
  obtain ⟨e', he', hgo₃⟩ := seg_go hvalue (List.mem_singleton_self v) hval hvne (anyHead val) hsuf₃
    (show runActs (act stale buffer _) [.startValue]
        { s₁ with mark := pos buffer (32 :: (val ++ 13 :: rest)) }
      = .ok { s₁ with mark := pos buffer (val ++ 13 :: rest) } from rfl)
  have hwrite : ∀ contentLen, act stale buffer (pos buffer (13 :: rest)) .writeValue
        { s₁ with mark := pos buffer (val ++ 13 :: rest), contentLen := contentLen }
      = .ok { s₁ with
          mark := pos buffer (val ++ 13 :: rest)
          contentLen := contentLen
          response := s.response.setHeader name val } := by
    intro contentLen
    rw [← hs₁]
    exact writeValue_here stale hsuf hsuf₃ hlen hne hstart rfl rfl
  obtain ⟨contentLen, hacts⟩ : ∃ contentLen,
      runActs (act stale buffer (pos buffer (13 :: rest))) (pre ++ [.writeValue])
        { s₁ with mark := pos buffer (val ++ 13 :: rest) }
      = .ok { s₁ with
          mark := pos buffer (val ++ 13 :: rest)
          contentLen := contentLen
          response := s.response.setHeader name val } := by
    rcases hpre with rfl | rfl
    · refine ⟨s₁.contentLen, ?_⟩
      simp only [List.nil_append, runActs]
      rw [hwrite s₁.contentLen]
    · refine ⟨toInt32 (strtol 10 (buffer.drop (pos buffer (val ++ 13 :: rest)))), ?_⟩
      simp only [List.cons_append, List.nil_append, runActs]
      rw [act]
      dsimp only
      rw [hwrite]
  refine ⟨_, hgo₁.trans (hgo₂.trans (hgo₃.trans
    (byte_go hend he' (suffix_of_append hsuf₃) hacts))), ?_⟩
  rw [← hs₁]
  exact ⟨by rw [← hs.response], hs.error, hs.chunked⟩

/-- **The field `connection`.** -/
theorem connection_go (close : Bool)
    (hsuf : asc "connection" ++ 58 :: 32 :: (connectionString close ++ 13 :: 10 :: rest) <:+ buffer)
    (hlen : buffer.length < 2 ^ 63) (hs : Reads rsp s) :
    ∃ x ∈ lineStarts, ∃ s', go stale buffer 20
        (asc "connection" ++ 58 :: 32 :: (connectionString close ++ 13 :: 10 :: rest)) s
        = go stale buffer x.1 rest s'
      ∧ Reads (rsp.setHeader (asc "connection") (connectionString close)) s' := by
  have hname := word_go (s := s) ownSegs.connection
    (show 20 ∈ [20] from List.mem_cons_self) (by decide) hsuf
    (show runActs (act stale buffer _) [.startField] s = .ok { s with fieldStart := _ } from rfl)
  have hend : 10 :: rest <:+ buffer := by
    have h₁ := suffix_of_append (w := [58, 32]) (suffix_of_append hsuf)
    exact suffix_of_append (w := [13]) (suffix_of_append h₁)
  cases close with
  | true =>
    obtain ⟨s₁, hgo₁, hs₁⟩ := own_go stale (s := { s with fieldStart := _ }) (.inl rfl)
      ownSegs.connectionColon ownSegs.connectionBlank ownSegs.close ownSegs.closeEnd
      (word_mem (asc "close")) (by decide) (by decide) hsuf hlen rfl
      (show Reads rsp { s with fieldStart := _ } from ⟨hs.response, hs.error, hs.chunked⟩)
    have hgo₂ := byte_go (s := s₁) ownSegs.closeLineEnd List.mem_cons_self hend
      (show runActs (act stale buffer _) [] s₁ = .ok s₁ from rfl)
    exact ⟨(43, [.writeConnectionClose]), by simp [lineStarts], s₁,
      hname.trans (hgo₁.trans hgo₂), hs₁⟩
  | false =>
    obtain ⟨s₁, hgo₁, hs₁⟩ := own_go stale (s := { s with fieldStart := _ }) (.inl rfl)
      ownSegs.connectionColon ownSegs.connectionBlank ownSegs.keepAlive segs.valueEnd
      (word_mem (asc "keep-alive")) (by decide) (by decide) hsuf hlen rfl
      (show Reads rsp { s with fieldStart := _ } from ⟨hs.response, hs.error, hs.chunked⟩)
    have hgo₂ := byte_go (s := s₁) segs.lineEnd List.mem_cons_self hend
      (show runActs (act stale buffer _) [] s₁ = .ok s₁ from rfl)
    exact ⟨(20, []), by simp [lineStarts], s₁, hname.trans (hgo₁.trans hgo₂), hs₁⟩

theorem runActs_lineStart {x : Nat × List Act} (hx : x ∈ lineStarts) (p : Nat) (as : List Act) :
    runActs (act stale buffer p) (x.2 ++ as) s = runActs (act stale buffer p) as s := by
  simp only [lineStarts, List.mem_cons, List.not_mem_nil, or_false] at hx
  rcases hx with rfl | rfl <;> rfl

/-- **The field `content-length`.** -/
theorem length_go {x : Nat × List Act} (hx : x ∈ lineStarts) (n : Nat)
    (hsuf : asc "content-length" ++ 58 :: 32 :: (decimal n ++ 13 :: 10 :: rest) <:+ buffer)
    (hlen : buffer.length < 2 ^ 63) (hs : Reads rsp s) :
    ∃ s', go stale buffer x.1
        (asc "content-length" ++ 58 :: 32 :: (decimal n ++ 13 :: 10 :: rest)) s
        = go stale buffer 20 rest s'
      ∧ Reads (rsp.setHeader (asc "content-length") (decimal n)) s' := by
  have hname := word_go (s := s) (lineSegs x hx).length
    (List.mem_singleton_self x.1) (by decide) hsuf
    ((runActs_lineStart stale hx _ _).trans
      (show runActs (act stale buffer _) [.startField] s = .ok { s with fieldStart := _ } from rfl))
  obtain ⟨s₁, hgo₁, hs₁⟩ := own_go stale (s := { s with fieldStart := _ }) (.inr rfl)
    ownSegs.lengthColon ownSegs.lengthBlank ownSegs.length ownSegs.lengthEnd
    (plus_mem (decimal_ne_nil n) fun c hc => decimal_bytes hc) (decimal_ne_nil n) (by decide) hsuf
    hlen rfl (show Reads rsp { s with fieldStart := _ } from ⟨hs.response, hs.error, hs.chunked⟩)
  have hend : 10 :: rest <:+ buffer := by
    have h₁ := suffix_of_append (w := [58, 32]) (suffix_of_append hsuf)
    exact suffix_of_append (w := [13]) (suffix_of_append h₁)
  have hgo₂ := byte_go (s := s₁) segs.lineEnd List.mem_cons_self hend
    (show runActs (act stale buffer _) [] s₁ = .ok s₁ from rfl)
  exact ⟨s₁, hname.trans (hgo₁.trans hgo₂), hs₁⟩

/-- **The end of the head.** -/
theorem end_go {x : Nat × List Act} (hx : x ∈ lineStarts) (hsuf : 13 :: 10 :: rest <:+ buffer)
    (hs : Reads rsp s) :
    ∃ s', go stale buffer x.1 (13 :: 10 :: rest) s = .stop firstFinal (pos buffer rest) s'
      ∧ Reads rsp s' := by
  have hsuf₁ : 10 :: rest <:+ buffer := suffix_of_append (w := [13]) hsuf
  have hacts₁ : runActs (act stale buffer (pos buffer (13 :: 10 :: rest))) x.2 s = .ok s := by
    rw [← List.append_nil x.2]
    exact runActs_lineStart stale hx _ []
  have hgo := byte_go (lineSegs x hx).headEnd (List.mem_singleton_self x.1) hsuf hacts₁
  have htrans : trans 3 10 = some ⟨[.done], firstFinal, true⟩ := by decide
  have hacts : runActs (act stale buffer (pos buffer (10 :: rest))) [.done] s
      = .ok { s with bodyStart := pos buffer (10 :: rest) + 1 } := rfl
  have hstop : go stale buffer 3 (10 :: rest) s = .stop firstFinal (pos buffer rest)
      { s with bodyStart := pos buffer (10 :: rest) + 1 } := by
    rw [go, scan_ok htrans hacts, if_pos rfl, ← pos_append (w := [10]) hsuf₁]
    rfl
  exact ⟨_, hgo.trans hstop, hs.response, hs.error, hs.chunked⟩

end

end Response
end Http
end KitServer
