import KitServer.Http.Dump
import KitServer.Http.ResponseVersion

/-!
# The body of a chunked response

* `Chunk`, `encode`      the chunks that a peer sends, and their bytes;
* `InStep`               every read ends behind a chunk, or where what is lost comes back;
* `execute_size`         the parser on the size line of a chunk;
* `chunkStep_data`       a round of the loop, by the number of bytes behind the size line;
* `chunked_body_iff`     when the body is the data of the chunks.
-/

set_option linter.unusedVariables false

namespace KitServer
namespace Http

/-! ## what is sent -/

/-- a chunk, with its size in hexadecimal digits -/
structure Chunk where
  size : Str
  data : Str
  digits : size ≠ [] ∧ ∀ c ∈ size, (digit? 16 c).isSome
  value : digitsFrom 16 0 size = data.length
  nonempty : data ≠ []

def Chunk.line (c : Chunk) : Str := c.size ++ crlf

def Chunk.bytes (c : Chunk) : Str := c.line ++ (c.data ++ crlf)

def lastChunk : Str := asc "0" ++ crlf ++ crlf

def encode (chunks : List Chunk) : Str := chunks.flatMap Chunk.bytes ++ lastChunk

def payload (chunks : List Chunk) : Str := chunks.flatMap Chunk.data

/-! ## what is read -/

/-- the stream behind its next bytes -/
def Stream.skip : Stream → Nat → Stream
  | [], _ => []
  | seg :: rest, n =>
    if n = 0 then seg :: rest
    else if seg.length ≤ n then Stream.skip rest (n - seg.length)
    else seg.drop n :: rest

/-- the buffer behind one more read, and the stream -/
def Stream.refill (buff_size : Nat) (held : Str) (stream : Stream) : Str × Stream :=
  let (bytes, rest) := stream.read (buff_size - held.length)
  (held ++ bytes, rest)

/-- every round finds a whole size line, of a size that fits in an `int`; `held` is in the buffer -/
def SizesWhole (buff_size : Nat) : List Chunk → Str → Stream → Prop
  | [], held, stream => 3 ≤ (stream.refill buff_size held).1.length
  | c :: chunks, held, stream =>
    let (buffer, rest) := stream.refill buff_size held
    let k := buffer.length - c.line.length
    c.line.length ≤ buffer.length ∧ c.data.length < 2 ^ 31 ∧
      (k ≤ c.data.length + 2 →
        SizesWhole buff_size chunks [] (rest.skip (c.data.length + 2 - k)))

/-- every round reads something; it ends behind a chunk, or the bytes of the chunk that are still to
come are the data from two bytes in front of them on -/
def InStep (buff_size : Nat) : List Chunk → Str → Stream → Prop
  | [], held, stream =>
    held.length < (stream.refill buff_size held).1.length ∧
      5 ≤ (stream.refill buff_size held).1.length
  | c :: chunks, held, stream =>
    let (buffer, rest) := stream.refill buff_size held
    let k := buffer.length - c.line.length
    held.length < buffer.length ∧ c.line.length + 2 ≤ buffer.length ∧ k ≤ c.data.length + 2 ∧
      (c.data ++ crlf).drop k = c.data.drop (k - 2) ∧
      InStep buff_size chunks [] (rest.skip (c.data.length + 2 - k))

instance SizesWhole.decidable (buff_size : Nat) :
    ∀ (chunks : List Chunk) (held : Str) (stream : Stream),
      Decidable (SizesWhole buff_size chunks held stream)
  | [], _, _ => inferInstanceAs (Decidable (_ ≤ _))
  | _ :: chunks, _, _ =>
    have := SizesWhole.decidable buff_size chunks
    inferInstanceAs (Decidable (_ ∧ _ ∧ (_ → _)))

instance InStep.decidable (buff_size : Nat) :
    ∀ (chunks : List Chunk) (held : Str) (stream : Stream),
      Decidable (InStep buff_size chunks held stream)
  | [], _, _ => inferInstanceAs (Decidable (_ ∧ _))
  | _ :: chunks, _, _ =>
    have := InStep.decidable buff_size chunks
    inferInstanceAs (Decidable (_ ∧ _ ∧ _ ∧ _ ∧ _))

/-! ## the size line -/

section
variable {f : Nat → UInt8} {ds t : Str}

theorem digit_range {c : UInt8} (h : (digit? 16 c).isSome) :
    48 ≤ c.toNat ∧ c.toNat ≤ 57 ∨ 65 ≤ c.toNat ∧ c.toNat ≤ 70 ∨
      97 ≤ c.toNat ∧ c.toNat ≤ 102 := by
  unfold digit? at h
  grind

theorem trans_digit {c : UInt8} (h : (digit? 16 c).isSome) :
    Response.trans Response.start c = some ⟨[.mark], 2, false⟩ ∧
      Response.trans 2 c = some ⟨[], 2, false⟩ := by
  rcases digit_range h with hc | hc | hc
  · exact ⟨tableTrans_pick [] ⟨48, 57, .tr 0⟩ _ rfl hc (by simp),
      tableTrans_pick [⟨10, 10, .tr 3⟩, ⟨13, 13, .tr 4⟩] ⟨48, 57, .st 2⟩ _ rfl hc (by simp; omega)⟩
  · exact ⟨tableTrans_pick [⟨48, 57, .tr 0⟩] ⟨65, 70, .tr 0⟩ _ rfl hc (by simp; omega),
      tableTrans_pick [⟨10, 10, .tr 3⟩, ⟨13, 13, .tr 4⟩, ⟨48, 57, .st 2⟩, ⟨59, 59, .tr 6⟩]
        ⟨65, 70, .st 2⟩ _ rfl hc (by simp; omega)⟩
  · exact ⟨tableTrans_pick [⟨48, 57, .tr 0⟩, ⟨65, 70, .tr 0⟩, ⟨72, 72, .tr 2⟩]
        ⟨97, 102, .tr 0⟩ _ rfl hc (by simp; omega),
      tableTrans_pick [⟨10, 10, .tr 3⟩, ⟨13, 13, .tr 4⟩, ⟨48, 57, .st 2⟩, ⟨59, 59, .tr 6⟩,
        ⟨65, 70, .st 2⟩] ⟨97, 102, .st 2⟩ _ rfl hc (by simp; omega)⟩

theorem digitsFrom_crlf (hds : ∀ c ∈ ds, (digit? 16 c).isSome) (t : Str) :
    ∀ acc, digitsFrom 16 acc (ds ++ (crlf ++ t)) = digitsFrom 16 acc ds := by
  induction ds with
  | nil => intro acc; rfl
  | cons c ds ih =>
    intro acc
    obtain ⟨d, hd⟩ := Option.isSome_iff_exists.mp (hds c List.mem_cons_self)
    rw [List.cons_append, digitsFrom, digitsFrom, hd]
    exact ih (fun c' hc' => hds c' (List.mem_cons_of_mem c hc')) _

theorem skip0x_size (hne : ds ≠ []) (hds : ∀ c ∈ ds, (digit? 16 c).isSome) (t : Str) :
    skip0x 16 (ds ++ (crlf ++ t)) = ds ++ (crlf ++ t) := by
  generalize heq : ds ++ (crlf ++ t) = w
  unfold skip0x
  split
  · rename_i x c s
    refine if_neg fun h => ?_
    have hx : x = 120 ∨ x = 88 := by
      simp only [Bool.and_eq_true, Bool.or_eq_true, decide_eq_true_eq] at h
      exact h.1.2
    rcases ds with _ | ⟨d, _ | ⟨d', ds⟩⟩
    · exact hne rfl
    · obtain ⟨rfl, _⟩ := List.cons.inj (List.cons.inj heq).2
      rcases hx with hx | hx <;> exact absurd hx (by decide)
    · obtain ⟨rfl, _⟩ := List.cons.inj (List.cons.inj heq).2
      have hrange := digit_range (hds d' (by simp))
      rcases hx with rfl | rfl
      · exact absurd hrange (by decide)
      · exact absurd hrange (by decide)
  · rfl

theorem strtol_size (hne : ds ≠ []) (hds : ∀ c ∈ ds, (digit? 16 c).isSome) (t : Str) :
    strtol 16 (ds ++ (crlf ++ t)) = min (2 ^ 63 - 1) (digitsFrom 16 0 ds : Int) := by
  have hvalue := digitsFrom_crlf hds t 0
  have hskip := skip0x_size hne hds t
  obtain ⟨c, ds, rfl⟩ := List.exists_cons_of_ne_nil hne
  have hrange := digit_range (hds c List.mem_cons_self)
  have hspace : isspace c = false := by
    rw [isspace]
    simp only [UInt8.le_iff_toNat_le, ← UInt8.toNat_inj]
    grind
  have hdrop : (c :: ds ++ (crlf ++ t)).dropWhile isspace = c :: ds ++ (crlf ++ t) :=
    List.dropWhile_cons_of_neg (by rw [hspace]; exact Bool.false_ne_true)
  unfold strtol
  dsimp only
  rw [hdrop]
  split
  · rename_i heq
    obtain ⟨rfl, _⟩ := List.cons.inj heq
    exact absurd hrange (by decide)
  · rename_i heq
    obtain ⟨rfl, _⟩ := List.cons.inj heq
    exact absurd hrange (by decide)
  · rw [hskip, hvalue]

theorem scan_digits (buffer w : Str) (hds : ∀ c ∈ ds, (digit? 16 c).isSome) :
    ∀ (p : Nat) (s : Response.HttpResponseParser),
      scan Response.trans (Response.act f buffer) 2 p (ds ++ w) s
        = scan Response.trans (Response.act f buffer) 2 (p + ds.length) w s := by
  induction ds with
  | nil => intro p s; rfl
  | cons c ds ih =>
    intro p s
    rw [List.cons_append, scan_ok (trans_digit (hds c List.mem_cons_self)).2 rfl,
      if_neg Bool.false_ne_true, ih (fun c' hc' => hds c' (List.mem_cons_of_mem c hc')),
      List.length_cons, Nat.add_comm ds.length, ← Nat.add_assoc]

/-- the parser is through with a size line -/
structure Sized (size : Int) (s s' : Response.HttpResponseParser) : Prop where
  error : s'.error = s.error
  contentLen : s'.contentLen = toInt32 size
  chunksDone : s'.chunksDone = decide (s'.contentLen ≤ 0)
  mark : s'.mark = 0
  fieldStart : s'.fieldStart = s.fieldStart
  fieldLen : s'.fieldLen = s.fieldLen

theorem scan_size (buffer : Str) (hne : ds ≠ []) (hds : ∀ c ∈ ds, (digit? 16 c).isSome) (t : Str)
    (s : Response.HttpResponseParser) :
    ∃ s', scan Response.trans (Response.act f buffer) Response.start 0 (ds ++ (crlf ++ t)) s
        = .stop Response.firstFinal (ds.length + 2) s' ∧ Sized (strtol 16 buffer) s s' := by
  obtain ⟨c, ds, rfl⟩ := List.exists_cons_of_ne_nil hne
  have h13 : Response.trans 2 13 = some ⟨[.chunkSize], 3, false⟩ := by decide
  have h10 : Response.trans 3 10 = some ⟨[.done], 120, true⟩ := by decide
  have hdigits := scan_digits (f := f) buffer (crlf ++ t)
    fun c' hc' => hds c' (List.mem_cons_of_mem c hc')
  rw [List.cons_append, scan_ok (trans_digit (hds c List.mem_cons_self)).1 rfl,
    if_neg Bool.false_ne_true]
  dsimp only
  rw [hdigits, show crlf ++ t = 13 :: 10 :: t from rfl, scan_ok h13 rfl, if_neg Bool.false_ne_true]
  dsimp only
  rw [scan_ok h10 rfl, if_pos rfl, List.length_cons, Nat.add_comm ds.length 1, Nat.zero_add,
    Nat.add_assoc (1 + ds.length)]
  exact ⟨_, rfl, rfl, rfl, rfl, rfl, rfl, rfl⟩

/-- **The parser on a buffer that begins with a size line.** -/
theorem execute_size (f : Nat → UInt8) (hne : ds ≠ []) (hds : ∀ c ∈ ds, (digit? 16 c).isSome)
    (t : Str) (s : Response.HttpResponseParser) :
    ∃ s', Response.execute f (ds ++ (crlf ++ t)) true s = .ok (s', ds.length + 2) ∧
      s'.cs = Response.firstFinal ∧
      Sized (min (2 ^ 63 - 1) (digitsFrom 16 0 ds)) s.initParser.rewind s' := by
  obtain ⟨s', hscan, hsized⟩ :=
    scan_size (f := f) (ds ++ (crlf ++ t)) hne hds t s.initParser.rewind
  rw [strtol_size hne hds t] at hsized
  have hnonempty : ds ++ (crlf ++ t) ≠ [] := List.append_ne_nil_of_left_ne_nil hne _
  have hbelow : Response.Below 0 { s' with cs := Response.firstFinal } :=
    ⟨.inr hsized.mark, .inr hsized.fieldStart, Nat.le_of_eq hsized.fieldLen⟩
  refine ⟨{ s' with cs := Response.firstFinal }, ?_, rfl,
    ⟨hsized.error, hsized.contentLen, hsized.chunksDone, hsized.mark, hsized.fieldStart,
      hsized.fieldLen⟩⟩
  have hcs : s.initParser.cs = Response.start := rfl
  rw [Response.execute]
  simp only [if_true, hcs, hscan]
  rw [hbelow.checked hnonempty (Nat.zero_le _)]
  rfl

end

/-! ## the stream behind some bytes -/

namespace Stream

theorem skip_zero (s : Stream) : s.skip 0 = s := by
  cases s with
  | nil => rfl
  | cons seg rest => rw [skip, if_pos rfl]

theorem skip_skip (s : Stream) : ∀ m n, (s.skip m).skip n = s.skip (m + n) := by
  induction s with
  | nil => intro m n; rfl
  | cons seg rest ih =>
    intro m n
    by_cases hm : m = 0
    · rw [hm, skip_zero, Nat.zero_add]
    by_cases hseg : seg.length ≤ m
    · rw [skip, if_neg hm, if_pos hseg, ih, skip, if_neg (by omega), if_pos (by omega)]
      congr 1
      omega
    · rw [skip, if_neg hm, if_neg hseg]
      by_cases hn : n = 0
      · rw [hn, skip_zero, Nat.add_zero, skip, if_neg hm, if_neg hseg]
      rw [skip, if_neg hn, skip, if_neg (show ¬ m + n = 0 by omega), List.length_drop,
        List.drop_drop]
      by_cases hle : seg.length ≤ m + n
      · rw [if_pos (by omega), if_pos hle]
        congr 1
        omega
      · rw [if_neg (by omega), if_neg hle]

theorem Live.read_skip {s : Stream} (hs : s.Live) (n : Nat) :
    (s.read n).2 = s.skip (s.read n).1.length := by
  cases s with
  | nil => rfl
  | cons seg rest =>
    have hseg : seg.length ≠ 0 := fun h0 => hs (by
      rw [← List.length_eq_zero_iff.mp h0]
      exact List.mem_cons_self)
    simp only [Stream.read]
    by_cases hk : seg.length ≤ min n (2 ^ 31 - 1)
    · rw [if_pos hk, skip, if_neg hseg, if_pos (Nat.le_refl _), Nat.sub_self, skip_zero]
    · rw [if_neg hk]
      dsimp only
      rw [List.length_take_of_le (by omega)]
      by_cases h0 : min n (2 ^ 31 - 1) = 0
      · rw [h0, skip_zero, List.drop_zero]
      · rw [skip, if_neg h0, if_neg hk]

theorem flatten_skip (s : Stream) : ∀ n, List.flatten (s.skip n) = (List.flatten s).drop n := by
  induction s with
  | nil => intro n; exact (List.drop_nil).symm
  | cons seg rest ih =>
    intro n
    by_cases hn : n = 0
    · rw [hn, skip_zero, List.drop_zero]
    by_cases hseg : seg.length ≤ n
    · rw [skip, if_neg hn, if_pos hseg, ih, List.flatten_cons, List.drop_append,
        List.drop_of_length_le hseg, List.nil_append]
    · rw [skip, if_neg hn, if_neg hseg, List.flatten_cons, List.flatten_cons,
        List.drop_append_of_le_length (by omega)]

theorem Live.skip {s : Stream} (hs : s.Live) : ∀ n, (s.skip n).Live := by
  induction s with
  | nil => intro n; exact hs
  | cons seg rest ih =>
    intro n
    have hrest : Live rest := fun h => hs (List.mem_cons_of_mem _ h)
    by_cases hn : n = 0
    · rw [hn, skip_zero]
      exact hs
    by_cases hseg : seg.length ≤ n
    · rw [Stream.skip, if_neg hn, if_pos hseg]
      exact ih hrest _
    · rw [Stream.skip, if_neg hn, if_neg hseg]
      intro hmem
      rcases List.mem_cons.mp hmem with hnil | hin
      · have hlen := congrArg List.length hnil
        rw [List.length_drop, List.length_nil] at hlen
        omega
      · exact hrest hin

end Stream

theorem chunkRest_loop {buff_size : Nat} (hb : 0 < buff_size ∧ buff_size < 2 ^ 31) (fuel : Nat) :
    ∀ (n : Nat) (body : Str) (stream : Stream), stream.Live → n ≤ stream.left →
      stream.left < fuel →
      loop (chunkRestStep buff_size) fuel ⟨n, body, stream⟩ = some
        ⟨.message (body ++ (List.flatten stream).take n), stream.skip n, body.length + n⟩ := by
  induction fuel with
  | zero => intro n body stream _ _ hfuel; exact absurd hfuel (Nat.not_lt_zero _)
  | succ fuel ih =>
    intro n body stream hlive hn hfuel
    rcases Nat.eq_zero_or_pos n with rfl | hpos
    · rw [List.take_zero, List.append_nil, Stream.skip_zero]
      exact loop_done rfl fuel
    · have hint : 0 < toInt32 buff_size := by
        rw [toInt32_of_lt hb.2]
        omega
      obtain ⟨k, _, hk, hkpos, _, hstep⟩ := @chunkRestStep_more buff_size (by omega)
        ⟨n, body, stream⟩ (by dsimp only; omega)
      obtain ⟨a, rest, hread⟩ : ∃ a rest, stream.read k = (a, rest) := ⟨_, _, rfl⟩
      have hle := Stream.length_read_le k stream
      have happ := Stream.read_append k stream
      have hleft := Stream.left_read k stream
      have hskip := hlive.read_skip k
      have hrest := hlive.read k
      have hne : ¬ (stream.read k).1.length = 0 := by
        intro h0
        have hnil := congrArg List.length (hlive.read_nil (hkpos hint) h0)
        change stream.left = 0 at hnil
        omega
      dsimp only at hstep hk
      rw [if_neg hne] at hstep
      rw [hread] at hstep hle happ hleft hskip hrest hne
      dsimp only at hstep hle happ hleft hskip hrest hne
      have hcast : (n : Int) - (a.length : Int) = ((n - a.length : Nat) : Int) := by omega
      rw [hcast] at hstep
      rw [loop_next hstep, ih (n - a.length) (body ++ a) rest hrest (by omega) (by omega), hskip,
        Stream.skip_skip, ← happ, List.take_append,
        List.take_of_length_le (l := a) (by omega), List.append_assoc, List.length_append,
        Nat.add_assoc, Nat.add_sub_cancel' (by omega), ← hskip]

/-- **The rest of a chunk is the next bytes of the stream**, when it has them. -/
theorem chunkRest_skip {buff_size : Nat} (hb : 0 < buff_size ∧ buff_size < 2 ^ 31) {body : Str}
    {stream : Stream} (hlive : stream.Live) {n : Nat} (hn : n ≤ stream.left) :
    chunkRest buff_size ⟨n, body, stream⟩
      = ⟨.message (body ++ (List.flatten stream).take n), stream.skip n, body.length + n⟩ := by
  rw [chunkRest, chunkRest_loop hb _ n body stream hlive hn (Nat.lt_succ_self _)]
  rfl

/-! ## rounds of the loop -/

section
variable {u : Ambient} {buff_size : Nat} {s : Chunks} {ds t : Str}

theorem recvChunks_done {r : Result HttpResponse} (h : chunkStep u buff_size s = .inl r) :
    recvChunks u buff_size s = r := recvChunks_eq .refl h

theorem recvChunks_next {s' : Chunks} (h : chunkStep u buff_size s = .inr s') :
    recvChunks u buff_size s = recvChunks u buff_size s' := by
  obtain ⟨e, he, hlast⟩ := recvChunks_ends u buff_size s'
  exact recvChunks_eq (Relation.ReflTransGen.head h he) hlast

theorem chunkStep_unread
    (h : ¬ s.data.length < (s.stream.refill buff_size s.data).1.length) :
    ∃ r, chunkStep u buff_size s = .inl r ∧ r.outcome = .null := by
  have hnil : (s.stream.read (buff_size - s.data.length)).1 = [] := by
    simp only [Stream.refill, List.length_append] at h
    exact List.length_eq_zero_iff.mp (by omega)
  have hnull : chunkStep u buff_size s
      = .inl ⟨.null, (s.stream.read (buff_size - s.data.length)).2, s.body.length⟩ := by
    simp only [chunkStep, Response.read_loop_unread true (Prod.ext hnil rfl)]
  exact ⟨_, hnull, rfl⟩

theorem sizeLine_refill (hb : buff_size < 2 ^ 31) (herr : s.parser.error = 0)
    (hheld : s.data.length ≤ buff_size) (hne : ds ≠ []) (hds : ∀ c ∈ ds, (digit? 16 c).isSome)
    (hbuffer : (s.stream.refill buff_size s.data).1 = ds ++ crlf ++ t)
    (hread : s.data.length < (s.stream.refill buff_size s.data).1.length) :
    ∃ p, SizeLine u buff_size s p t (s.stream.refill buff_size s.data).2 ∧ p.error = 0 ∧
      p.contentLen = toInt32 (min (2 ^ 63 - 1) (digitsFrom 16 0 ds)) ∧
      p.chunksDone = decide (p.contentLen ≤ 0) := by
  obtain ⟨a, rest, ha⟩ :
      ∃ a rest, s.stream.read (buff_size - s.data.length) = (a, rest) := ⟨_, _, rfl⟩
  simp only [Stream.refill, ha] at hbuffer hread ⊢
  have hane : a ≠ [] := by
    rintro rfl
    rw [List.append_nil] at hread
    exact Nat.lt_irrefl _ hread
  obtain ⟨p, hex, hcs, hsized⟩ := execute_size (u.stale rest.left) hne hds t s.parser
  rw [← List.append_assoc, ← hbuffer] at hex
  refine ⟨p, ?_, hsized.error.trans herr, hsized.contentLen, hsized.chunksDone⟩
  have hloop := Response.read_loop_done hb hheld ha hane (Nat.succ_pos _) true hex hcs
    (hsized.error.trans herr)
  rw [SizeLine, hloop, hbuffer, List.drop_left' (by rw [List.length_append]; rfl)]

/-- what a round makes of the data of a chunk with `n` bytes, when it has found the size line -/
theorem chunkStep_data (hb : 0 < buff_size ∧ buff_size < 2 ^ 31)
    {p : Response.HttpResponseParser} {rest : Stream} (hsize : SizeLine u buff_size s p t rest)
    {n : Nat} (hn : p.contentLen = n) (hdone : p.chunksDone = false) (hlive : rest.Live) :
    (t.length < 2 → ∃ r e, chunkStep u buff_size s = .inl r ∧ r.outcome = .fault e) ∧
    (n + 2 < t.length → chunkStep u buff_size s =
      .inr ⟨p, (t.take (t.length - 2)).drop n, s.body ++ t.take n, rest⟩) ∧
    (2 ≤ t.length → t.length ≤ n + 2 → n + 2 - t.length ≤ rest.left → chunkStep u buff_size s =
      .inr ⟨p, [], s.body ++ (t.take (t.length - 2) ++ (List.flatten rest).take (n + 2 - t.length)),
        rest.skip (n + 2 - t.length)⟩) := by
  obtain ⟨hmsg, _, hfault⟩ := chunkStep_sized hsize
  refine ⟨fun hlt => ?_, fun hlt => ?_, fun hge hle hleft => ?_⟩
  · exact ⟨_, _, hfault _ _ _ (chunkData_bad buff_size (.inl hlt)), rfl⟩
  · have hstep := hmsg _ _ _ _ (chunkData_held buff_size hn (Nat.le_of_lt hlt))
    rw [hdone, if_neg Bool.false_ne_true] at hstep
    exact hstep
  · rcases Nat.lt_or_ge t.length (n + 2) with hlt | hall
    · have hdata := chunkData_more buff_size (s := ⟨p, t, s.body, rest⟩) hge
        (by dsimp only; omega)
      have hcast : p.contentLen - ((t.length : Int) - 2) = ((n + 2 - t.length : Nat) : Int) := by
        omega
      dsimp only at hdata
      rw [hcast, chunkRest_skip hb hlive hleft] at hdata
      have hstep := hmsg _ _ _ _ hdata
      rw [hdone, if_neg Bool.false_ne_true, List.append_assoc] at hstep
      exact hstep
    · obtain rfl : n = t.length - 2 := by omega
      have hstep := hmsg _ _ _ _ (chunkData_held buff_size (s := ⟨p, t, s.body, rest⟩) hn hall)
      rw [hdone, if_neg Bool.false_ne_true] at hstep
      rw [hstep, Nat.sub_add_cancel hge, Nat.sub_self, List.take_zero, Stream.skip_zero,
        List.append_nil]
      dsimp only
      rw [List.drop_of_length_le (by rw [List.length_take]; omega)]

theorem chunkStep_last {p : Response.HttpResponseParser} {rest : Stream}
    (hsize : SizeLine u buff_size s p t rest) (hn : p.contentLen = 0)
    (hdone : p.chunksDone = true) :
    (t.length < 2 → ∃ r e, chunkStep u buff_size s = .inl r ∧ r.outcome = .fault e) ∧
    (2 ≤ t.length → ∃ r, chunkStep u buff_size s = .inl r ∧
      r.outcome = .message { p.response with body := s.body }) := by
  obtain ⟨hmsg, _, hfault⟩ := chunkStep_sized hsize
  refine ⟨fun hlt => ?_, fun hge => ?_⟩
  · exact ⟨_, _, hfault _ _ _ (chunkData_bad buff_size (.inl hlt)), rfl⟩
  · have hstep := hmsg _ _ _ _
      (chunkData_held buff_size (s := ⟨p, t, s.body, rest⟩) (n := 0) hn hge)
    rw [hdone, if_pos rfl] at hstep
    refine ⟨_, hstep, ?_⟩
    rw [List.take_zero, List.append_nil]

theorem chunkStep_crlf {w : Str} (hdata : s.data = 13 :: w) :
    ∃ r, chunkStep u buff_size s = .inl r ∧ r.outcome = .null := by
  by_cases hread : s.data.length < (s.stream.refill buff_size s.data).1.length
  swap
  · exact chunkStep_unread hread
  obtain ⟨a, rest, ha⟩ :
      ∃ a rest, s.stream.read (buff_size - s.data.length) = (a, rest) := ⟨_, _, rfl⟩
  simp only [Stream.refill, ha, List.length_append] at hread
  have hbad : Response.trans Response.start 13 = none := by decide
  have hex : ∃ p, Response.execute (u.stale rest.left) (s.data ++ a) true s.parser = .ok (p, 0) ∧
      p.cs = Response.error := by
    have hbelow : Response.Below 0 { s.parser.initParser.rewind with cs := Response.error } :=
      ⟨.inr rfl, .inr rfl, Nat.le_refl 0⟩
    refine ⟨{ s.parser.initParser.rewind with cs := Response.error }, ?_, rfl⟩
    have hcs : s.parser.initParser.cs = Response.start := rfl
    rw [hdata, List.cons_append, Response.execute]
    simp only [if_true, hcs, scan_bad hbad]
    rw [hbelow.checked (List.cons_ne_nil _ _) (Nat.zero_le _)]
    rfl
  obtain ⟨p, hex, hcs⟩ := hex
  have herr : p.hasError = true := by
    rw [Response.HttpResponseParser.hasError, hcs]
    exact Bool.or_true _
  have hne : a ≠ [] := by
    rintro rfl
    exact Nat.lt_irrefl _ hread
  have hnull : chunkStep u buff_size s = .inl ⟨.null, rest, s.body.length⟩ := by
    simp only [chunkStep, Response.read_loop_refused ha hne hex herr]
  exact ⟨_, hnull, rfl⟩

/-! ## the body only grows -/

theorem chunkData_grows (hb : buff_size < 2 ^ 31) {body data' : Str} {rest : Stream} {alloc : Nat}
    (h : chunkData buff_size s = ⟨.message (body, data'), rest, alloc⟩) : s.body <+: body := by
  obtain ⟨n, hn, hlen, _⟩ := chunkData_message h
  by_cases hheld : n + 2 ≤ s.data.length
  · rw [chunkData_held buff_size hn hheld] at h
    cases h
    exact List.prefix_append _ _
  · have hbpos : 0 ≤ toInt32 buff_size := by
      rw [toInt32_of_lt hb]
      omega
    obtain ⟨got, hends⟩ := chunkRest_spec hbpos (s := ⟨s.parser.contentLen -
      ((s.data.length : Int) - 2), s.body ++ s.data.take (s.data.length - 2), s.stream⟩)
      (by dsimp only; omega)
    rw [chunkData_more buff_size hlen (by omega)] at h
    rcases hends.outcome with ⟨hmsg, _⟩ | ⟨hnull, _⟩
    · rw [Result.map, hmsg] at h
      injection h with hout _ _
      injection hout with hpair
      injection hpair with hbody
      rw [← hbody, List.append_assoc]
      exact List.prefix_append _ _
    · rw [Result.map, hnull] at h
      cases h

/-- what was taken of the body is the front of the body in the end -/
theorem recvChunks_grows (hb : buff_size < 2 ^ 31) {m : HttpResponse}
    (h : (recvChunks u buff_size s).outcome = .message m) : s.body <+: m.body := by
  obtain ⟨last, hrounds, hlast⟩ := recvChunks_ends u buff_size s
  have hgrows : s.body <+: last.body := by
    refine hrounds.inv (I := fun t => s.body <+: t.body) ?_ List.prefix_rfl
    intro t t' ht hst
    obtain ⟨parser, data, rest, body, data', rest', alloc, _, hd, _, rfl⟩ := chunkStep_next hst
    exact ht.trans (chunkData_grows (s := ⟨parser, data, t.body, rest⟩) hb hd)
  generalize recvChunks u buff_size s = r at h hlast
  refine hgrows.trans ?_
  cases hp : parseLoop (responseOps true) u.stale buff_size
      ⟨last.parser, last.data, last.stream⟩ with
  | null rest =>
    simp only [chunkStep, hp] at hlast
    cases hlast
    cases h
  | fault e rest =>
    simp only [chunkStep, hp] at hlast
    cases hlast
    cases h
  | finished parser data rest =>
    obtain ⟨hmsg, hnull, hfault⟩ := chunkStep_sized hp
    rcases hd : chunkData buff_size ⟨parser, data, last.body, rest⟩ with
      ⟨_ | ⟨body, data'⟩ | e, rest', alloc⟩
    · rw [hnull _ _ hd] at hlast
      cases hlast
      cases h
    · rw [hmsg _ _ _ _ hd] at hlast
      by_cases hdone : parser.chunksDone = true
      · rw [if_pos hdone] at hlast
        cases hlast
        cases h
        exact chunkData_grows (s := ⟨parser, data, last.body, rest⟩) hb hd
      · rw [if_neg hdone] at hlast
        cases hlast
    · rw [hfault _ _ _ hd] at hlast
      cases hlast
      cases h

/-! ## all chunks -/

theorem Stream.refill_append (buff_size : Nat) (held : Str) (stream : Stream) :
    (stream.refill buff_size held).1 ++ List.flatten (stream.refill buff_size held).2
      = held ++ List.flatten stream := by
  rw [Stream.refill, List.append_assoc, Stream.read_append]

theorem chunk_split {d t to_come more : Str} (h : t ++ to_come = d ++ crlf ++ more)
    (hle : t.length ≤ d.length + 2) :
    t = (d ++ crlf).take t.length ∧
      to_come.take (d.length + 2 - t.length) = (d ++ crlf).drop t.length ∧
      to_come.drop (d.length + 2 - t.length) = more := by
  have hlen : (d ++ crlf).length = d.length + 2 := List.length_append
  obtain ⟨x, hx⟩ : t <+: d ++ crlf := by
    refine List.prefix_of_prefix_length_le ?_ (List.prefix_append (d ++ crlf) more) (by omega)
    rw [← h]
    exact List.prefix_append t to_come
  have hxlen : d.length + 2 - t.length = x.length := by
    rw [← hlen, ← hx, List.length_append, Nat.add_sub_cancel_left]
  rw [← hx, List.append_assoc] at h
  rw [← hx, hxlen, List.append_cancel_left h]
  exact ⟨(List.take_left).symm, by rw [List.take_left, List.drop_left], List.drop_left⟩

theorem chunk_taken_iff {d t to_come more : Str} (h : t ++ to_come = d ++ crlf ++ more)
    (hge : 2 ≤ t.length) (hle : t.length ≤ d.length + 2) :
    t.take (t.length - 2) ++ to_come.take (d.length + 2 - t.length) = d ↔
      (d ++ crlf).drop t.length = d.drop (t.length - 2) := by
  obtain ⟨ht, htake, _⟩ := chunk_split h hle
  have hfront : t.take (t.length - 2) = d.take (t.length - 2) := by
    calc t.take (t.length - 2)
        = ((d ++ crlf).take t.length).take (t.length - 2) := congrArg (List.take _) ht
      _ = (d ++ crlf).take (t.length - 2) := by
        rw [List.take_take, Nat.min_eq_left (Nat.sub_le _ _)]
      _ = d.take (t.length - 2) := List.take_append_of_le_length (by omega)
  rw [htake, hfront]
  constructor
  · intro heq
    conv_rhs at heq => rw [← List.take_append_drop (t.length - 2) d]
    exact List.append_cancel_left heq
  · intro heq
    rw [heq, List.take_append_drop]

theorem chunk_over {d t to_come more : Str} (h : t ++ to_come = d ++ crlf ++ more)
    (hlt : d.length + 2 < t.length) : ∃ w, (t.take (t.length - 2)).drop d.length = 13 :: w := by
  have hfront : d ++ [13] <+: t.take (t.length - 2) := by
    refine List.prefix_of_prefix_length_le ?_
      ((List.take_prefix _ t).trans (List.prefix_append t to_come)) ?_
    · rw [h]
      exact ⟨10 :: more, by simp [crlf]⟩
    · simp only [List.length_append, List.length_take, List.length_singleton]
      omega
  obtain ⟨w, hw⟩ := hfront
  exact ⟨w, by rw [← hw, List.append_assoc, List.drop_left, List.singleton_append]⟩

def Result.HasBody (body : Str) (r : Result HttpResponse) : Prop :=
  ∃ m, r.outcome = .message m ∧ m.body = body

theorem not_hasBody_of_null {r : Result HttpResponse} (h : r.outcome = .null) (body : Str) :
    ¬ r.HasBody body := by
  rintro ⟨m, hm, _⟩
  rw [h] at hm
  cases hm

theorem not_hasBody_of_fault {r : Result HttpResponse} {e : Fault} (h : r.outcome = .fault e)
    (body : Str) : ¬ r.HasBody body := by
  rintro ⟨m, hm, _⟩
  rw [h] at hm
  cases hm

/-- a state of the loop in front of the bytes `w` -/
structure Before (buff_size : Nat) (w : Str) (s : Chunks) : Prop where
  error : s.parser.error = 0
  held : s.data.length ≤ buff_size
  live : s.stream.Live
  bytes : s.data ++ List.flatten s.stream = w

theorem size_fits {v : Nat} (h : v < 2 ^ 31) : toInt32 (min (2 ^ 63 - 1) (v : Int)) = v := by
  rw [min_eq_right (by omega), toInt32_of_lt h]

theorem recvChunks_last (hb : 0 < buff_size ∧ buff_size < 2 ^ 31)
    (hs : Before buff_size lastChunk s)
    (hsize : SizesWhole buff_size [] s.data s.stream) :
    (recvChunks u buff_size s).HasBody s.body ↔ InStep buff_size [] s.data s.stream := by
  rw [SizesWhole] at hsize
  rw [InStep]
  have happ := Stream.refill_append buff_size s.data s.stream
  rw [hs.bytes] at happ
  by_cases hread : s.data.length < (s.stream.refill buff_size s.data).1.length
  swap
  · obtain ⟨r, hr, hnull⟩ := chunkStep_unread (u := u) hread
    rw [recvChunks_done hr]
    exact iff_of_false (not_hasBody_of_null hnull _) fun h => hread h.1
  obtain ⟨t, ht⟩ : asc "0" ++ crlf <+: (s.stream.refill buff_size s.data).1 := by
    refine List.prefix_of_prefix_length_le (List.prefix_append _ crlf) ?_ hsize
    show _ <+: lastChunk
    rw [← happ]
    exact List.prefix_append _ _
  have hlen : (s.stream.refill buff_size s.data).1.length = 3 + t.length := by
    rw [← ht, List.length_append]
    rfl
  have hdigit : ∀ c ∈ asc "0", (digit? 16 c).isSome := by
    intro c hc
    obtain rfl := List.mem_singleton.mp hc
    decide
  have hvalue : digitsFrom 16 0 (asc "0") = 0 := by decide
  obtain ⟨p, hline, _, hcontent, hdone⟩ := sizeLine_refill (u := u) hb.2 hs.error hs.held
    (show asc "0" ≠ [] from List.cons_ne_nil 48 []) hdigit ht.symm hread
  rw [hvalue, size_fits (by norm_num)] at hcontent
  have hzero : p.contentLen = 0 := hcontent
  rw [hzero] at hdone
  obtain ⟨hshort, hlong⟩ := chunkStep_last hline hzero hdone
  rcases Nat.lt_or_ge t.length 2 with hlt | hge
  · obtain ⟨r, e, hr, hfault⟩ := hshort hlt
    rw [recvChunks_done hr]
    exact iff_of_false (not_hasBody_of_fault hfault _) fun h => by omega
  · obtain ⟨r, hr, hmsg⟩ := hlong hge
    rw [recvChunks_done hr]
    exact iff_of_true ⟨_, hmsg, rfl⟩ ⟨hread, by omega⟩

theorem encode_cons (c : Chunk) (chunks : List Chunk) :
    encode (c :: chunks) = c.line ++ (c.data ++ crlf ++ encode chunks) := by
  simp only [encode, Chunk.bytes, List.flatMap_cons, List.append_assoc]

theorem payload_cons (c : Chunk) (chunks : List Chunk) :
    payload (c :: chunks) = c.data ++ payload chunks := List.flatMap_cons

theorem line_refill {c : Chunk} {chunks : List Chunk}
    (hs : Before buff_size (encode (c :: chunks)) s)
    (hline : c.line.length ≤ (s.stream.refill buff_size s.data).1.length) :
    ∃ t, (s.stream.refill buff_size s.data).1 = c.line ++ t ∧
      t ++ List.flatten (s.stream.refill buff_size s.data).2
        = c.data ++ crlf ++ encode chunks := by
  have happ := Stream.refill_append buff_size s.data s.stream
  rw [hs.bytes, encode_cons] at happ
  obtain ⟨t, ht⟩ : c.line <+: (s.stream.refill buff_size s.data).1 := by
    refine List.prefix_of_prefix_length_le
      (List.prefix_append c.line (c.data ++ crlf ++ encode chunks)) ?_ hline
    rw [← happ]
    exact List.prefix_append _ _
  rw [← ht, List.append_assoc] at happ
  exact ⟨t, ht.symm, List.append_cancel_left happ⟩

/-- **The data of all chunks is received exactly when every round is in step.** -/
theorem recvChunks_iff (hb : 0 < buff_size ∧ buff_size < 2 ^ 31) (chunks : List Chunk) :
    ∀ s : Chunks, Before buff_size (encode chunks) s →
      SizesWhole buff_size chunks s.data s.stream →
      ((recvChunks u buff_size s).HasBody (s.body ++ payload chunks) ↔
        InStep buff_size chunks s.data s.stream) := by
  induction chunks with
  | nil =>
    intro s hs hsize
    rw [payload, List.flatMap_nil, List.append_nil]
    exact recvChunks_last hb hs hsize
  | cons c chunks ih =>
    intro s hs hsize
    rw [SizesWhole] at hsize
    rw [InStep]
    dsimp only at hsize ⊢
    obtain ⟨hwhole, h31, hsizes⟩ := hsize
    by_cases hread : s.data.length < (s.stream.refill buff_size s.data).1.length
    swap
    · obtain ⟨r, hr, hnull⟩ := chunkStep_unread (u := u) hread
      rw [recvChunks_done hr]
      exact iff_of_false (not_hasBody_of_null hnull _) fun h => hread h.1
    obtain ⟨t, ht, hrest⟩ := line_refill hs hwhole
    have hbuffer : (s.stream.refill buff_size s.data).1.length = c.line.length + t.length := by
      rw [ht, List.length_append]
    obtain ⟨p, hline, herr, hcontent, hdone⟩ := sizeLine_refill (u := u) hb.2 hs.error hs.held
      c.digits.1 c.digits.2 ht hread
    rw [c.value, size_fits h31] at hcontent
    have hpos := List.length_pos_iff.mpr c.nonempty
    have hmore : p.chunksDone = false := by
      rw [hdone, hcontent]
      exact decide_eq_false (by omega)
    have hlive : (s.stream.refill buff_size s.data).2.Live := hs.live.read _
    generalize (s.stream.refill buff_size s.data).2 = rest at *
    rw [hbuffer, Nat.add_sub_cancel_left] at hsizes ⊢
    obtain ⟨hshort, hlong, hround⟩ := chunkStep_data hb hline hcontent hmore hlive
    rcases Nat.lt_or_ge t.length 2 with hlt | hge
    · -- the two bytes that a round gives back are not in the buffer
      obtain ⟨r, e, hr, hfault⟩ := hshort hlt
      rw [recvChunks_done hr]
      exact iff_of_false (not_hasBody_of_fault hfault _) fun h => by omega
    rcases Nat.lt_or_ge (c.data.length + 2) t.length with hlt | hle
    · -- the next round begins with the CRLF of this one
      obtain ⟨w, hw⟩ := chunk_over hrest hlt
      obtain ⟨r, hr, hnull⟩ := @chunkStep_crlf u buff_size
        ⟨p, _, s.body ++ t.take c.data.length, rest⟩ w hw
      rw [recvChunks_next (hlong hlt), recvChunks_done hr]
      exact iff_of_false (not_hasBody_of_null hnull _) fun h => by omega
    · obtain ⟨_, hcome, hbehind⟩ := chunk_split hrest hle
      have hleft : c.data.length + 2 - t.length ≤ rest.left := by
        have hlen := congrArg List.length hrest
        simp only [List.length_append] at hlen
        have hcrlf : crlf.length = 2 := rfl
        show _ ≤ (List.flatten rest).length
        omega
      have hnext : Before buff_size (encode chunks) ⟨p, [],
          s.body ++ (t.take (t.length - 2) ++
            (List.flatten rest).take (c.data.length + 2 - t.length)),
          rest.skip (c.data.length + 2 - t.length)⟩ := by
        refine ⟨herr, Nat.zero_le _, hlive.skip _, ?_⟩
        rw [List.nil_append, Stream.flatten_skip, hbehind]
      have htaken := chunk_taken_iff hrest hge hle
      have hlater := ih _ hnext (hsizes hle)
      rw [recvChunks_next (hround hge hle hleft), payload_cons]
      generalize htake : t.take (t.length - 2) ++
        (List.flatten rest).take (c.data.length + 2 - t.length) = piece at *
      have hpiece : piece.length = c.data.length := by
        change _ ≤ (List.flatten rest).length at hleft
        rw [← htake, List.length_append, List.length_take, List.length_take]
        omega
      constructor
      · rintro ⟨m, hm, hbody⟩
        have hgrows := recvChunks_grows hb.2 hm
        dsimp only at hgrows
        rw [hbody, ← List.append_assoc] at hgrows
        have hsame := (List.prefix_of_prefix_length_le hgrows
          (List.prefix_append (s.body ++ c.data) (payload chunks))
          (by simp only [List.length_append]; omega)).eq_of_length
            (by simp only [List.length_append]; omega)
        have hdata : piece = c.data := List.append_cancel_left hsame
        refine ⟨by omega, by omega, hle, htaken.mp hdata, hlater.mp ⟨m, hm, ?_⟩⟩
        rw [hbody, hdata, List.append_assoc]
      · rintro ⟨_, _, _, hback, hstep⟩
        obtain ⟨m, hm, hbody⟩ := hlater.mpr hstep
        refine ⟨m, hm, ?_⟩
        rw [hbody, htaken.mpr hback, List.append_assoc]

end

/-! ## behind the head -/

/-- what is held and what is in the stream behind a head -/
theorem Stream.Live.behind {buff_size : Nat} (hb : 0 < buff_size) (fuel : Nat) :
    ∀ (n : Nat) (s : Stream), s.Live → n ≤ fuel → n ≤ s.left →
      (s.behind buff_size fuel n).2.Live ∧ (s.behind buff_size fuel n).1.length ≤ buff_size ∧
      (s.behind buff_size fuel n).1 ++ List.flatten (s.behind buff_size fuel n).2
        = (List.flatten s).drop n := by
  induction fuel with
  | zero =>
    intro n s hs hn _
    obtain rfl := Nat.le_zero.mp hn
    exact ⟨hs, Nat.zero_le _, rfl⟩
  | succ fuel ih =>
    intro n s hs hn hleft
    have happ := Stream.read_append buff_size s
    have hle := Stream.length_read_le buff_size s
    have hrest := hs.read buff_size
    have hnil := hs.read_nil hb
    have hlefts := Stream.left_read buff_size s
    rw [Stream.behind]
    generalize s.read buff_size = r at *
    obtain ⟨a, rest⟩ := r
    dsimp only at *
    by_cases hall : n ≤ a.length
    · rw [if_pos hall]
      refine ⟨hrest, by rw [List.length_drop]; omega, ?_⟩
      rw [← happ, List.drop_append_of_le_length hall]
    · rw [if_neg hall]
      have hpos : a.length ≠ 0 := by
        intro h0
        rw [Stream.left, hnil h0] at hleft
        exact hall (Nat.le_trans hleft (Nat.zero_le _))
      obtain ⟨hlive', hle', happ'⟩ := ih (n - a.length) rest hrest (by omega) (by omega)
      refine ⟨hlive', hle', ?_⟩
      rw [happ', ← happ, List.drop_append, List.drop_of_length_le (Nat.le_of_not_le hall),
        List.nil_append]

theorem InStep.pos {buff_size : Nat} {chunks : List Chunk} {held : Str} {stream : Stream}
    (h : InStep buff_size chunks held stream) : 0 < buff_size := by
  have hread : held.length < (stream.refill buff_size held).1.length := by
    cases chunks with
    | nil => exact h.1
    | cons c chunks => exact h.1
  have hle := Stream.length_read_le (buff_size - held.length) stream
  simp only [Stream.refill, List.length_append] at hread
  omega

/-- the length of the buffer is an `int`, and no read cuts a size line -/
structure Regular (buff_size : Nat) (head : Str) (chunks : List Chunk) (stream : Stream) :
    Prop where
  buffer : buff_size < 2 ^ 31
  sizes : SizesWhole buff_size chunks (stream.behind buff_size head.length head.length).1
    (stream.behind buff_size head.length head.length).2

/-- **When the body of a response is the data of its chunks.** -/
theorem chunked_body_iff (u : Ambient) (buff_size : Nat) (head : Response.ChunkedHead)
    (chunks : List Chunk) {stream : Stream} (hlive : stream.Live)
    (hbytes : List.flatten stream = head.text ++ encode chunks)
    (hregular : Regular buff_size head.text chunks stream) :
    (recvResponse u buff_size stream).HasBody (payload chunks) ↔
      VersionRead buff_size stream ∧
        InStep buff_size chunks (stream.behind buff_size head.text.length head.text.length).1
          (stream.behind buff_size head.text.length head.text.length).2 := by
  rcases Nat.eq_zero_or_pos buff_size with rfl | hpos
  · have hread : stream.read (0 - ([] : Str).length) = ([], (stream.read 0).2) :=
      Prod.ext (List.length_eq_zero_iff.mp (Nat.le_zero.mp (Stream.length_read_le 0 stream))) rfl
    rw [recvResponse, recvResponseHead, Response.read_loop_unread false hread]
    exact iff_of_false (not_hasBody_of_null rfl _) fun h => Nat.lt_irrefl 0 h.2.pos
  have hb : 0 < buff_size ∧ buff_size < 2 ^ 31 := ⟨hpos, hregular.buffer⟩
  obtain ⟨hread, hcut⟩ := Response.head_read (u := u) hb head hlive
    (by rw [hbytes]; exact List.prefix_append _ _)
  by_cases hversion : VersionRead buff_size stream
  · obtain ⟨p, hhead, hchunked, herr⟩ := hread hversion
    have hleft : head.text.length ≤ stream.left := by
      rw [Stream.left, hbytes, List.length_append]
      omega
    obtain ⟨hlive', hheld, happ⟩ := hlive.behind hpos _ _ _ (Nat.le_refl _) hleft
    rw [hbytes, List.drop_left] at happ
    rw [recvResponse, hhead, and_iff_right hversion]
    dsimp only
    rw [if_pos hchunked]
    exact recvChunks_iff hb chunks ⟨p, _, [], _⟩ ⟨herr, hheld, hlive', happ⟩ hregular.sizes
  · obtain ⟨rest, hnull⟩ := hcut hversion
    rw [recvResponse, hnull]
    exact iff_of_false (not_hasBody_of_null rfl _) fun h => hversion h.1

def chunkedHead.accepted : Response.ChunkedHead where
  text := chunkedHead
  version := .inl (by decide)
  accepted := ⟨0, rfl⟩

def helloChunk : Chunk where
  size := asc "5"
  data := asc "hello"
  digits := by decide +kernel
  value := by decide
  nonempty := by decide

/-- a read for each chunk -/
theorem chunked_body_in_step : (recvResponse .zero 4096
    [chunkedHead, asc "5\r\nhello\r\n", asc "0\r\n\r\n"]).HasBody (payload [helloChunk]) :=
  (chunked_body_iff .zero 4096 chunkedHead.accepted [helloChunk] (by decide +kernel)
    (by decide +kernel) ⟨by norm_num, by decide +kernel⟩).mpr (by decide +kernel)

/-- the whole response in one read -/
theorem chunked_body_lost : ¬ ∀ (u : Ambient) (buff_size : Nat) (head : Response.ChunkedHead)
    (chunks : List Chunk) (stream : Stream), stream.Live →
      List.flatten stream = head.text ++ encode chunks →
      (recvResponse u buff_size stream).HasBody (payload chunks) := by
  intro h
  obtain ⟨m, hm, _⟩ := h .zero 4096 chunkedHead.accepted [helloChunk]
    [chunkedHead ++ asc "5\r\nhello\r\n0\r\n\r\n"] (by decide +kernel) (by decide +kernel)
  have hnull : (recvResponse .zero 4096
      [chunkedHead ++ asc "5\r\nhello\r\n0\r\n\r\n"]).outcome = .null := by
    decide +kernel
  rw [hnull] at hm
  cases hm

end Http
end KitServer
