import KitServer.Http.Limits

/-!
# Lengths and offsets while chunks are received

A fault is a length below zero, or above the number of bytes held, that reaches `append`, `memmove`
or `read`.

* `responseLoop_safe`   the parsing loop has no fault;
* `chunkStep_fault_iff` a round has one when fewer than two bytes are held behind the size line, or
                        the size is negative as an `int`;
* `chunked_safe_iff`    when a chunked response is received without one;
* `size_line_alone`     a response that is not.
-/

set_option linter.unusedVariables false

namespace KitServer
namespace Http

theorem toInt32_of_lt {v : Nat} (h : v < 2 ^ 31) : toInt32 v = v := by
  unfold toInt32
  exact Int.bmod_eq_of_le (by omega) (by omega)

section
variable {u : Ambient} {buff_size : Nat}

theorem responseLoop_safe (hb : buff_size < 2 ^ 31) (chunck : Bool) (stale : Nat → Nat → UInt8)
    {s : Parse Response.HttpResponseParser} (hs : s.data.length ≤ buff_size) (e : Fault)
    (rest : Stream) : parseLoop (responseOps chunck) stale buff_size s ≠ .fault e rest := by
  intro h
  obtain ⟨t, ht, hlast⟩ := parseLoop_ends (responseOps chunck) stale buff_size s
  rw [h] at hlast
  obtain ⟨bytes, hread, hne, hex⟩ := parseStep_fault hlast
  have hle := Stream.length_read_le (buff_size - t.data.length) t.stream
  have hdata := rounds_data_le ht hs
  rw [hread] at hle
  dsimp only at hle
  obtain ⟨p, n, hok, _⟩ := Response.execute_safe (stale rest.left)
    (List.append_ne_nil_of_right_ne_nil t.data hne)
    (show (t.data ++ bytes).length < 2 ^ 63 by rw [List.length_append]; omega) chunck t.parser
  rw [show (responseOps chunck).execute (stale rest.left) (t.data ++ bytes) t.parser
    = .ok (p, n) from hok] at hex
  cases hex

theorem chunkData_length {s : Chunks} {body data' : Str} {rest : Stream} {alloc : Nat}
    (h : chunkData buff_size s = ⟨.message (body, data'), rest, alloc⟩) :
    data'.length ≤ s.data.length := by
  obtain ⟨n, hn, hlen, _⟩ := chunkData_message h
  by_cases hheld : n + 2 ≤ s.data.length
  · rw [chunkData_held buff_size hn hheld] at h
    cases h
    rw [List.length_drop, List.length_take]
    omega
  · rw [chunkData_more buff_size hlen (by omega)] at h
    generalize chunkRest buff_size _ = r at h
    obtain ⟨_ | b | e, r', al⟩ := r
    · cases h
    · cases h
      exact Nat.zero_le _
    · cases h

theorem rounds_held_le {s s' : Chunks} (h : Rounds (chunkStep u buff_size) s s')
    (hs : s.data.length ≤ buff_size) : s'.data.length ≤ buff_size := by
  refine h.inv (I := fun t => t.data.length ≤ buff_size) ?_ hs
  intro t t' ht hst
  obtain ⟨parser, data, rest, body, data', rest', alloc, hsize, hd, _, rfl⟩ := chunkStep_next hst
  exact Nat.le_trans (chunkData_length hd) (finished_data_le hsize ht)

/-- the size line leaves two bytes, and the size is not negative -/
def InRange (parser : Response.HttpResponseParser) (data : Str) : Prop :=
  2 ≤ data.length ∧ 0 ≤ parser.contentLen

theorem chunkData_fault_iff (hb : buff_size < 2 ^ 31) (s : Chunks) :
    (∃ e, (chunkData buff_size s).outcome = .fault e) ↔ ¬ InRange s.parser s.data := by
  unfold InRange
  by_cases hbad : s.data.length < 2 ∨ s.parser.contentLen < 0
  · rw [chunkData_bad buff_size hbad]
    exact iff_of_true ⟨_, rfl⟩ (by omega)
  refine iff_of_false ?_ (by omega)
  rintro ⟨e, he⟩
  obtain ⟨n, hn⟩ : ∃ n : Nat, s.parser.contentLen = n := Int.eq_ofNat_of_zero_le (by omega)
  by_cases hheld : n + 2 ≤ s.data.length
  · rw [chunkData_held buff_size hn hheld] at he
    cases he
  · rw [chunkData_more buff_size (by omega) (by omega)] at he
    have hbpos : 0 ≤ toInt32 buff_size := by
      rw [toInt32_of_lt hb]
      omega
    obtain ⟨got, hends⟩ := chunkRest_spec hbpos (s := ⟨s.parser.contentLen -
      ((s.data.length : Int) - 2), s.body ++ s.data.take (s.data.length - 2), s.stream⟩)
      (by dsimp only; omega)
    rcases hends.outcome with ⟨hmsg, _⟩ | ⟨hnull, _⟩
    · rw [Result.map, hmsg] at he
      cases he
    · rw [Result.map, hnull] at he
      cases he

/-- **A round has a fault exactly when the size line leaves fewer than two bytes or the size is
negative.** -/
theorem chunkStep_fault_iff (hb : buff_size < 2 ^ 31) {s : Chunks}
    (hs : s.data.length ≤ buff_size) :
    (∃ r e, chunkStep u buff_size s = .inl r ∧ r.outcome = .fault e) ↔
      ∃ parser data rest, SizeLine u buff_size s parser data rest ∧ ¬ InRange parser data := by
  constructor
  · rintro ⟨r, e, hr, he⟩
    cases hp : parseLoop (responseOps true) u.stale buff_size ⟨s.parser, s.data, s.stream⟩ with
    | null rest =>
      simp only [chunkStep, hp] at hr
      cases hr
      cases he
    | fault e' rest => exact absurd hp (responseLoop_safe hb true u.stale hs e' rest)
    | finished parser data rest =>
      refine ⟨parser, data, rest, hp, ?_⟩
      apply (chunkData_fault_iff hb ⟨parser, data, s.body, rest⟩).mp
      obtain ⟨hmsg, hnull, hfault⟩ := chunkStep_sized hp
      rcases hd : chunkData buff_size ⟨parser, data, s.body, rest⟩ with
        ⟨_ | ⟨body, data'⟩ | e', rest', alloc⟩
      · rw [hnull _ _ hd] at hr
        cases hr
        cases he
      · rw [hmsg _ _ _ _ hd] at hr
        split at hr
        · cases hr
          cases he
        · cases hr
      · exact ⟨e', rfl⟩
  · rintro ⟨parser, data, rest, hsize, hout⟩
    obtain ⟨e, he⟩ := (chunkData_fault_iff hb ⟨parser, data, s.body, rest⟩).mpr hout
    obtain ⟨_, _, hfault⟩ := chunkStep_sized hsize
    rcases hd : chunkData buff_size ⟨parser, data, s.body, rest⟩ with ⟨o, rest', alloc⟩
    rw [hd] at he
    dsimp only at he
    subst he
    exact ⟨_, e, hfault e rest' alloc hd, rfl⟩

end

section
variable (u : Ambient) (buff_size : Nat)

/-- the buffer in which the parser finds the size line of a round -/
def SizeRead (s : Chunks) (line : Str) : Prop :=
  ∃ t parser data rest,
    Rounds (parseStep (responseOps true) u.stale buff_size) ⟨s.parser, s.data, s.stream⟩ t ∧
      parseStep (responseOps true) u.stale buff_size t = .inl (.finished parser data rest) ∧
      line = t.data ++ (t.stream.read (buff_size - t.data.length)).1

/-- no access out of range, and no message for a size that is malformed or too large for an `int` -/
structure ChunkSafe (start : Chunks) (o : Outcome HttpResponse) : Prop where
  inRange : ∀ e, o ≠ .fault e
  malformed : ∀ s, Rounds (chunkStep u buff_size) start s →
    (∀ parser data rest, ¬ SizeLine u buff_size s parser data rest) → o = .null
  oversized : ∀ s, Rounds (chunkStep u buff_size) start s →
    ∀ line, SizeRead u buff_size s line → 2 ^ 31 ≤ strtol 16 line → o = .null

/-- every size line leaves two bytes, and no size is negative -/
def SizesInRange (start : Chunks) : Prop :=
  ∀ s, Rounds (chunkStep u buff_size) start s → ∀ parser data rest,
    SizeLine u buff_size s parser data rest → InRange parser data

/-- every size fits in an `int` -/
def SizesFit (start : Chunks) : Prop :=
  ∀ s, Rounds (chunkStep u buff_size) start s → ∀ line, SizeRead u buff_size s line →
    strtol 16 line < 2 ^ 31

variable {u buff_size}

theorem recvChunks_inRange_iff (hb : buff_size < 2 ^ 31) {start : Chunks}
    (hstart : start.data.length ≤ buff_size) :
    (∀ e, (recvChunks u buff_size start).outcome ≠ .fault e) ↔ SizesInRange u buff_size start := by
  constructor
  · intro h s hs parser data rest hsize
    by_contra hout
    obtain ⟨r, e, hr, he⟩ :=
      (chunkStep_fault_iff hb (rounds_held_le hs hstart)).mpr ⟨parser, data, rest, hsize, hout⟩
    rw [← recvChunks_eq hs hr] at he
    exact h e he
  · intro h e he
    obtain ⟨last, hlast, hend⟩ := recvChunks_ends u buff_size start
    obtain ⟨parser, data, rest, hsize, hout⟩ :=
      (chunkStep_fault_iff hb (rounds_held_le hlast hstart)).mp ⟨_, e, hend, he⟩
    exact hout (h last hlast parser data rest hsize)

/-- **A chunked response is received in range exactly when every size line leaves two bytes and no
size is negative, and all sizes fit in an `int` or no last chunk comes.** -/
theorem chunked_safe_iff (u : Ambient) {buff_size : Nat} (hb : buff_size < 2 ^ 31) {stream : Stream}
    (hlive : stream.Live) {parser : Response.HttpResponseParser} {held : Str} {rest : Stream}
    (hhead : recvResponseHead u buff_size stream = .finished parser held rest)
    (hchunked : parser.chunked = true) :
    ChunkSafe u buff_size ⟨parser, held, [], rest⟩ (recvResponse u buff_size stream).outcome ↔
      SizesInRange u buff_size ⟨parser, held, [], rest⟩ ∧
        (SizesFit u buff_size ⟨parser, held, [], rest⟩ ∨
          ¬ LastChunk u buff_size ⟨parser, held, [], rest⟩) := by
  have heq : recvResponse u buff_size stream = recvChunks u buff_size ⟨parser, held, [], rest⟩ := by
    rw [recvResponse, hhead]
    exact if_pos hchunked
  have hstart : held.length ≤ buff_size := finished_data_le hhead (Nat.zero_le _)
  have hrest : Stream.Live (Chunks.mk parser held [] rest).stream := (finished_append hhead).2 hlive
  rw [heq, ← recvChunks_inRange_iff hb hstart, ← lastChunk_iff hrest]
  generalize hr : recvChunks u buff_size ⟨parser, held, [], rest⟩ = r
  constructor
  · intro h
    refine ⟨h.inRange, ?_⟩
    by_contra hcon
    rw [not_or, not_not] at hcon
    obtain ⟨hbig, m, hm⟩ := hcon
    apply hbig
    intro s hs line hline
    by_contra hlarge
    rw [h.oversized s hs line hline (by omega)] at hm
    cases hm
  · rintro ⟨hin, hfit⟩
    refine ⟨hin, ?_, ?_⟩
    · intro s hs hno
      obtain ⟨r', hr', _, hnomsg⟩ := chunkStep_unsized hno
      rw [← hr, recvChunks_eq hs hr'] at hin ⊢
      cases ho : r'.outcome with
      | null => rfl
      | message m => exact absurd ho (hnomsg m)
      | fault e => exact absurd ho (hin e)
    · intro s hs line hline hlarge
      rcases hfit with hfit | hnone
      · have := hfit s hs line hline
        omega
      · cases ho : r.outcome with
        | null => rfl
        | message m => exact absurd ⟨m, ho⟩ hnone
        | fault e => exact absurd ho (hin e)

end

/-- the head of a chunked response -/
def chunkedHead : Str := asc "HTTP/1.1 200 OK\r\nTransfer-Encoding: chunked\r\nA: b\r\n\r\n"

/-- a response without chunks, in two reads -/
theorem last_chunk_alone : ∃ parser held rest,
    recvResponseHead .zero 4096 [chunkedHead, asc "0\r\n\r\n"] = .finished parser held rest ∧
    ChunkSafe .zero 4096 ⟨parser, held, [], rest⟩
      (recvResponse .zero 4096 [chunkedHead, asc "0\r\n\r\n"]).outcome := by
  have hrun : (recvResponseHead .zero 4096 [chunkedHead, asc "0\r\n\r\n"]).finishes
      (fun parser held rest => parser.chunked &&
        (chunkStep .zero 4096 ⟨parser, held, [], rest⟩).isLeft &&
        (parseStep (responseOps true) Ambient.zero.stale 4096 ⟨parser, held, rest⟩).isLeft &&
        (parseLoop (responseOps true) Ambient.zero.stale 4096 ⟨parser, held, rest⟩).finishes
          (fun p d r => decide (2 ≤ d.length ∧ 0 ≤ p.contentLen)) &&
        decide (strtol 16 (held ++ (rest.read (4096 - held.length)).1) < 2 ^ 31)) = true := by
    decide +kernel
  obtain ⟨parser, held, rest, hhead, hq⟩ := (finishes_iff _).mp hrun
  simp only [Bool.and_eq_true, decide_eq_true_eq] at hq
  obtain ⟨⟨⟨⟨hchunked, hstep⟩, hparse⟩, hline⟩, hsmall⟩ := hq
  refine ⟨parser, held, rest, hhead, ?_⟩
  obtain ⟨r, hr⟩ := Sum.isLeft_iff.mp hstep
  obtain ⟨e, he⟩ := Sum.isLeft_iff.mp hparse
  apply (chunked_safe_iff .zero (by norm_num) (by decide +kernel) hhead hchunked).mpr
  refine ⟨?_, Or.inl ?_⟩
  · intro s hs p d r' hsize
    rw [hs.eq_of_done hr] at hsize
    obtain ⟨p', d', r'', hfin, hin⟩ := (finishes_iff _).mp hline
    rw [SizeLine, hfin] at hsize
    cases hsize
    rw [decide_eq_true_eq] at hin
    exact hin
  · intro s hs line hread
    rw [hs.eq_of_done hr] at hread
    obtain ⟨t, p, d, r', ht, _, rfl⟩ := hread
    rw [ht.eq_of_done he]
    exact hsmall

/-- a read that ends behind a size line -/
theorem size_line_alone : ¬ ∀ (u : Ambient) (buff_size : Nat), buff_size < 2 ^ 31 →
    ∀ stream : Stream, stream.Live → ∀ parser held rest,
      recvResponseHead u buff_size stream = .finished parser held rest → parser.chunked = true →
      ChunkSafe u buff_size ⟨parser, held, [], rest⟩ (recvResponse u buff_size stream).outcome := by
  intro h
  have hhead : (recvResponseHead .zero 4096
      [chunkedHead, asc "5\r\n", asc "hello\r\n", asc "0\r\n\r\n"]).finishes
      (fun parser held rest => parser.chunked) = true := by
    decide +kernel
  have hfault : (recvResponse .zero 4096
      [chunkedHead, asc "5\r\n", asc "hello\r\n", asc "0\r\n\r\n"]).outcome = .fault .outOfRange := by
    decide +kernel
  obtain ⟨parser, held, rest, hfin, hchunked⟩ := (finishes_iff _).mp hhead
  exact (h .zero 4096 (by norm_num) _ (by decide +kernel) parser held rest hfin hchunked).inRange
    _ hfault

end Http
end KitServer
