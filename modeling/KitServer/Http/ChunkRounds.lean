import KitServer.Http.Reads

/-!
# The loop over the chunks of a response

* `chunkRest_spec`    the rest of a chunk is read from the stream, or all that is left of it;
* `chunkData_bad`, `chunkData_held`, `chunkData_more`   the three ways the data of a chunk is taken;
* `chunkStep_next`    what a round does when the loop goes on;
* `recvChunks_ends`   the loop comes to an end, in a state that its rounds reach.
-/

set_option linter.unusedVariables false

namespace KitServer
namespace Http

/-! ## the rest of a chunk -/

/-- `t` is reached from `s` by reading `got` -/
structure ChunkRest.After (s t : ChunkRest) (got : Str) : Prop where
  body : t.body = s.body ++ got
  bytes : got ++ List.flatten t.stream = List.flatten s.stream
  left : t.left = s.left - got.length
  nonneg : 0 ≤ t.left
  live : s.stream.Live → t.stream.Live

theorem chunkRestStep_more {buff_size : Nat} (hb : 0 ≤ toInt32 buff_size) {s : ChunkRest}
    (hs : 0 < s.left) : ∃ n : Nat, 0 ≤ (n : Int) ∧ (n : Int) ≤ s.left ∧
      (0 < toInt32 buff_size → 0 < n) ∧ (toInt32 buff_size = 0 → n = 0) ∧
      chunkRestStep buff_size s =
        if (s.stream.read n).1.length = 0 then .inl ⟨.null, (s.stream.read n).2, s.body.length⟩
        else .inr ⟨s.left - (s.stream.read n).1.length, s.body ++ (s.stream.read n).1,
          (s.stream.read n).2⟩ := by
  have hn : 0 ≤ (if s.left > toInt32 buff_size then toInt32 buff_size else s.left) ∧
      (if s.left > toInt32 buff_size then toInt32 buff_size else s.left) ≤ s.left := by
    split <;> omega
  refine ⟨(if s.left > toInt32 buff_size then toInt32 buff_size else s.left).toNat, by omega,
    by omega, ?_, ?_, ?_⟩
  · intro hpos
    split <;> omega
  · intro hzero
    split <;> omega
  · rw [chunkRestStep, if_pos hs]
    simp only [if_neg (Int.not_lt.mpr hn.1)]

theorem chunkRestStep_next {buff_size : Nat} (hb : 0 ≤ toInt32 buff_size) {s t t' : ChunkRest}
    {got : Str} (ht : s.After t got) (h : chunkRestStep buff_size t = .inr t') :
    (∃ got', s.After t' got') ∧ t'.stream.left < t.stream.left ∧ 0 < toInt32 buff_size := by
  by_cases hpos : 0 < t.left
  · obtain ⟨n, _, hle, _, hzero, hstep⟩ := chunkRestStep_more hb hpos
    rw [hstep] at h
    by_cases hnil : (t.stream.read n).1.length = 0
    · rw [if_pos hnil] at h
      cases h
    · rw [if_neg hnil] at h
      cases h
      have hlen := Stream.length_read_le n t.stream
      have hall := Stream.left_read n t.stream
      refine ⟨⟨got ++ (t.stream.read n).1, ?_, ?_, ?_, ?_, ?_⟩, ?_, ?_⟩
      · show t.body ++ _ = _
        rw [ht.body, List.append_assoc]
      · show _ ++ List.flatten (t.stream.read n).2 = _
        rw [List.append_assoc, Stream.read_append, ht.bytes]
      · show t.left - _ = _
        rw [ht.left, List.length_append]
        omega
      · show 0 ≤ t.left - _
        omega
      · intro hl
        exact (ht.live hl).read n
      · show (t.stream.read n).2.left < t.stream.left
        omega
      · omega
  · rw [chunkRestStep, if_neg hpos] at h
    cases h

/-- how the rest of a chunk is read: `got` is what the stream gave -/
structure ChunkRest.Ends (buff_size : Nat) (s : ChunkRest) (got : Str) (r : Result Str) : Prop where
  bytes : got ++ List.flatten r.rest = List.flatten s.stream
  live : s.stream.Live → r.rest.Live
  alloc : r.alloc = s.body.length + got.length
  zero : toInt32 buff_size = 0 → got = []
  outcome : r.outcome = .message (s.body ++ got) ∧ (got.length : Int) = s.left ∨
    r.outcome = .null ∧ (got.length : Int) < s.left ∧
      (s.stream.Live → 0 < toInt32 buff_size → List.flatten r.rest = [])

theorem chunkRestStep_done {buff_size : Nat} (hb : 0 ≤ toInt32 buff_size) {s t : ChunkRest}
    {got : Str} {r : Result Str} (ht : s.After t got)
    (hgot : toInt32 buff_size = 0 → got = []) (h : chunkRestStep buff_size t = .inl r) :
    s.Ends buff_size got r := by
  have hbody : t.body.length = s.body.length + got.length := by
    rw [ht.body, List.length_append]
  have hleft := ht.left
  by_cases hpos : 0 < t.left
  · obtain ⟨n, _, hle, hnpos, _, hstep⟩ := chunkRestStep_more hb hpos
    rw [hstep] at h
    by_cases hnil : (t.stream.read n).1.length = 0
    · rw [if_pos hnil] at h
      cases h
      have happ := Stream.read_append n t.stream
      rw [List.length_eq_zero_iff.mp hnil, List.nil_append] at happ
      refine ⟨?_, fun hl => (ht.live hl).read n, hbody, hgot, Or.inr ⟨rfl, by omega, ?_⟩⟩
      · show got ++ List.flatten (t.stream.read n).2 = _
        rw [happ, ht.bytes]
      · intro hl hbpos
        exact happ.trans ((ht.live hl).read_nil (hnpos hbpos) hnil)
    · rw [if_neg hnil] at h
      cases h
  · rw [chunkRestStep, if_neg hpos] at h
    cases h
    refine ⟨ht.bytes, ht.live, hbody, hgot, Or.inl ⟨?_, ?_⟩⟩
    · show Outcome.message t.body = _
      rw [ht.body]
    · have := ht.nonneg
      omega

/-- **The rest of a chunk is read from the stream, or all that is left of it.** -/
theorem chunkRest_spec {buff_size : Nat} (hb : 0 ≤ toInt32 buff_size) {s : ChunkRest}
    (hs : 0 ≤ s.left) : ∃ got, s.Ends buff_size got (chunkRest buff_size s) := by
  have hstart : s.After s [] := by
    refine ⟨(List.append_nil _).symm, List.nil_append _, ?_, hs, id⟩
    rw [List.length_nil, Int.natCast_zero, Int.sub_zero]
  have hnext : ∀ t t' : ChunkRest,
      (∃ got, s.After t got ∧ (toInt32 buff_size = 0 → got = [])) →
      chunkRestStep buff_size t = .inr t' →
      (∃ got, s.After t' got ∧ (toInt32 buff_size = 0 → got = [])) ∧
        t'.stream.left < t.stream.left := by
    rintro t t' ⟨got, ht, _⟩ h
    obtain ⟨⟨got', ht'⟩, hlt, hpos⟩ := chunkRestStep_next hb ht h
    exact ⟨⟨got', ht', fun h0 => by omega⟩, hlt⟩
  obtain ⟨r, hr⟩ : ∃ r, loop (chunkRestStep buff_size) (s.stream.left + 1) s = some r :=
    loop_total (fun t => t.stream.left) hnext _ s ⟨[], hstart, fun _ => rfl⟩ (Nat.lt_succ_self _)
  have hend : ∃ got, s.Ends buff_size got r := by
    refine loop_inv (Q := fun r => ∃ got, s.Ends buff_size got r)
      (fun t t' ht h => (hnext t t' ht h).1) ?_ _ s r ⟨[], hstart, fun _ => rfl⟩ hr
    rintro t r ⟨got, ht, hgot⟩ h
    exact ⟨got, chunkRestStep_done hb ht hgot h⟩
  rw [chunkRest, hr, Option.getD_some]
  exact hend

theorem ChunkRest.Ends.length {buff_size : Nat} {s : ChunkRest} {got : Str} {r : Result Str}
    (h : s.Ends buff_size got r) (hb : 0 ≤ toInt32 buff_size) (hs : 0 < s.left)
    (hl : s.stream.Live) :
    got.length = min s.left.toNat (if 0 < toInt32 buff_size then s.stream.left else 0) ∧
      ((∃ body, r.outcome = .message body) ↔ s.left.toNat = got.length) := by
  have hbytes := congrArg List.length h.bytes
  rw [List.length_append] at hbytes
  have hsl : (List.flatten s.stream).length = s.stream.left := rfl
  have hzero : toInt32 buff_size = 0 → got.length = 0 := fun h0 => by rw [h.zero h0]; rfl
  rcases h.outcome with ⟨hmsg, hlen⟩ | ⟨hnull, hlen, hend⟩
  · rw [if_pos (by omega)]
    exact ⟨by omega, iff_of_true ⟨_, hmsg⟩ (by omega)⟩
  · refine ⟨?_, iff_of_false ?_ (by omega)⟩
    · by_cases hpos : 0 < toInt32 buff_size
      · have hnil := congrArg List.length (hend hl hpos)
        rw [List.length_nil] at hnil
        rw [if_pos hpos]
        omega
      · rw [if_neg hpos]
        omega
    · rintro ⟨body, hbody⟩
      rw [hnull] at hbody
      cases hbody

theorem chunkRest_negative {buff_size : Nat} (hb : toInt32 buff_size < 0) {s : ChunkRest}
    (hs : 0 < s.left) : chunkRest buff_size s = ⟨.fault .outOfRange, s.stream, s.body.length⟩ := by
  have hstep : chunkRestStep buff_size s = .inl ⟨.fault .outOfRange, s.stream, s.body.length⟩ := by
    rw [chunkRestStep, if_pos hs]
    simp only [if_pos (show s.left > toInt32 buff_size by omega), if_pos hb]
  rw [chunkRest, loop_done hstep, Option.getD_some]

/-! ## the data of a chunk -/

theorem chunkData_bad (buff_size : Nat) {s : Chunks}
    (h : s.data.length < 2 ∨ s.parser.contentLen < 0) :
    chunkData buff_size s = ⟨.fault .outOfRange, s.stream, s.body.length⟩ := by
  unfold chunkData
  dsimp only
  by_cases hle : s.parser.contentLen ≤ (s.data.length : Int) - 2
  · rw [if_pos hle, if_pos (by omega)]
  · rw [if_neg hle, if_pos (by omega)]

theorem chunkData_held (buff_size : Nat) {s : Chunks} {n : Nat} (hn : s.parser.contentLen = n)
    (h : n + 2 ≤ s.data.length) :
    chunkData buff_size s =
      ⟨.message (s.body ++ s.data.take n, (s.data.take (s.data.length - 2)).drop n), s.stream,
        s.body.length + n⟩ := by
  have hlen : ((s.data.length : Int) - 2).toNat = s.data.length - 2 := by omega
  unfold chunkData
  dsimp only
  rw [hn, if_pos (by omega), if_neg (by omega), Int.toNat_natCast, hlen]

theorem chunkData_more (buff_size : Nat) {s : Chunks} (hdata : 2 ≤ s.data.length)
    (h : (s.data.length : Int) - 2 < s.parser.contentLen) :
    chunkData buff_size s =
      (chunkRest buff_size ⟨s.parser.contentLen - ((s.data.length : Int) - 2),
        s.body ++ s.data.take (s.data.length - 2), s.stream⟩).map fun body => (body, []) := by
  have hlen : ((s.data.length : Int) - 2).toNat = s.data.length - 2 := by omega
  unfold chunkData
  dsimp only
  rw [if_neg (by omega), if_neg (by omega), hlen]

/-- what is known when the data of a chunk has been taken -/
theorem chunkData_message {buff_size : Nat} {s : Chunks} {body data' : Str} {rest : Stream}
    {alloc : Nat} (h : chunkData buff_size s = ⟨.message (body, data'), rest, alloc⟩) :
    ∃ n : Nat, s.parser.contentLen = n ∧ 2 ≤ s.data.length ∧ body.length = s.body.length + n ∧
      alloc = s.body.length + n ∧ List.flatten rest <:+ List.flatten s.stream ∧
      (s.stream.Live → rest.Live) := by
  by_cases hbad : s.data.length < 2 ∨ s.parser.contentLen < 0
  · rw [chunkData_bad buff_size hbad] at h
    cases h
  obtain ⟨n, hn⟩ : ∃ n : Nat, s.parser.contentLen = n := Int.eq_ofNat_of_zero_le (by omega)
  refine ⟨n, hn, by omega, ?_⟩
  by_cases hheld : n + 2 ≤ s.data.length
  · rw [chunkData_held buff_size hn hheld] at h
    cases h
    refine ⟨?_, rfl, List.suffix_rfl, id⟩
    rw [List.length_append, List.length_take_of_le (by omega)]
  · rw [chunkData_more buff_size (by omega) (by omega)] at h
    rcases Int.lt_or_le (toInt32 buff_size) 0 with hneg | hb
    · have hpos : 0 < s.parser.contentLen - ((s.data.length : Int) - 2) := by omega
      rw [chunkRest_negative hneg hpos] at h
      cases h
    · obtain ⟨got, hends⟩ := chunkRest_spec hb (s := ⟨s.parser.contentLen -
        ((s.data.length : Int) - 2), s.body ++ s.data.take (s.data.length - 2), s.stream⟩)
        (by dsimp only; omega)
      have hbytes := hends.bytes
      have hlive := hends.live
      have halloc := hends.alloc
      rcases hends.outcome with ⟨hmsg, hlen⟩ | ⟨hnull, _⟩
      · rw [Result.map, hmsg] at h
        injection h with hout hrest hal
        injection hout with hpair
        injection hpair with hbody
        subst hrest hal hbody
        have htake : (s.data.take (s.data.length - 2)).length = s.data.length - 2 :=
          List.length_take_of_le (by omega)
        dsimp only at hlen halloc
        rw [List.length_append, htake] at halloc
        refine ⟨?_, by omega, ⟨got, hbytes⟩, hlive⟩
        rw [List.length_append, List.length_append, htake]
        omega
      · rw [Result.map, hnull] at h
        cases h

/-! ## rounds -/

section
variable (u : Ambient) (buff_size : Nat)

/-- the parser is through with the size line of a chunk -/
def SizeLine (s : Chunks) (parser : Response.HttpResponseParser) (data : Str) (rest : Stream) :
    Prop :=
  parseLoop (responseOps true) u.stale buff_size ⟨s.parser, s.data, s.stream⟩
    = .finished parser data rest

variable {u buff_size} {s : Chunks} {parser : Response.HttpResponseParser} {data : Str}
  {rest : Stream}

theorem chunkStep_sized (h : SizeLine u buff_size s parser data rest) :
    (∀ body data' rest' alloc, chunkData buff_size ⟨parser, data, s.body, rest⟩
        = ⟨.message (body, data'), rest', alloc⟩ →
      chunkStep u buff_size s =
        if parser.chunksDone then .inl ⟨.message { parser.response with body := body }, rest', alloc⟩
        else .inr ⟨parser, data', body, rest'⟩) ∧
    (∀ rest' alloc, chunkData buff_size ⟨parser, data, s.body, rest⟩ = ⟨.null, rest', alloc⟩ →
      chunkStep u buff_size s = .inl ⟨.null, rest', alloc⟩) ∧
    (∀ e rest' alloc, chunkData buff_size ⟨parser, data, s.body, rest⟩ = ⟨.fault e, rest', alloc⟩ →
      chunkStep u buff_size s = .inl ⟨.fault e, rest', alloc⟩) := by
  unfold SizeLine at h
  refine ⟨?_, ?_, ?_⟩
  · intro body data' rest' alloc hd
    simp only [chunkStep, h, hd]
  · intro rest' alloc hd
    simp only [chunkStep, h, hd]
  · intro e rest' alloc hd
    simp only [chunkStep, h, hd]

theorem chunkStep_next {s' : Chunks} (h : chunkStep u buff_size s = .inr s') :
    ∃ parser data rest body data' rest' alloc, SizeLine u buff_size s parser data rest ∧
      chunkData buff_size ⟨parser, data, s.body, rest⟩ = ⟨.message (body, data'), rest', alloc⟩ ∧
      parser.chunksDone = false ∧ s' = ⟨parser, data', body, rest'⟩ := by
  cases hp : parseLoop (responseOps true) u.stale buff_size ⟨s.parser, s.data, s.stream⟩ with
  | null rest =>
    simp only [chunkStep, hp] at h
    cases h
  | fault e rest =>
    simp only [chunkStep, hp] at h
    cases h
  | finished parser data rest =>
    obtain ⟨hmsg, hnull, hfault⟩ := chunkStep_sized hp
    rcases hd : chunkData buff_size ⟨parser, data, s.body, rest⟩ with ⟨_ | ⟨body, data'⟩ | e, rest', alloc⟩
    · rw [hnull _ _ hd] at h
      cases h
    · rw [hmsg _ _ _ _ hd] at h
      by_cases hdone : parser.chunksDone = true
      · rw [if_pos hdone] at h
        cases h
      · rw [if_neg hdone] at h
        cases h
        exact ⟨parser, data, rest, body, data', rest', alloc, hp, hd, by simpa using hdone, rfl⟩
    · rw [hfault _ _ _ hd] at h
      cases h

theorem chunkStep_left {s' : Chunks} (h : chunkStep u buff_size s = .inr s') :
    s'.stream.left < s.stream.left := by
  obtain ⟨parser, data, rest, body, data', rest', alloc, hsize, hd, _, rfl⟩ := chunkStep_next h
  obtain ⟨n, _, _, _, _, hsuf, _⟩ := chunkData_message hd
  exact Nat.lt_of_le_of_lt hsuf.length_le (finished_left_lt hsize)

theorem recvChunks_ends (u : Ambient) (buff_size : Nat) (s : Chunks) :
    ∃ s', Rounds (chunkStep u buff_size) s s' ∧
      chunkStep u buff_size s' = .inl (recvChunks u buff_size s) := by
  obtain ⟨r, hr⟩ : ∃ r, loop (chunkStep u buff_size) (s.stream.left + 1) s = some r :=
    loop_total (I := fun _ => True) (fun t => t.stream.left)
      (fun t t' _ h => ⟨trivial, chunkStep_left h⟩) _ s trivial (Nat.lt_succ_self _)
  obtain ⟨s', hs', hlast⟩ := loop_rounds _ s hr
  refine ⟨s', hs', ?_⟩
  rw [hlast, recvChunks, hr, Option.getD_some]

theorem recvChunks_eq {s' : Chunks} {r : Result HttpResponse}
    (h : Rounds (chunkStep u buff_size) s s') (hr : chunkStep u buff_size s' = .inl r) :
    recvChunks u buff_size s = r := by
  obtain ⟨b, hb⟩ : ∃ b, loop (chunkStep u buff_size) (s.stream.left + 1) s = some b :=
    loop_total (I := fun _ => True) (fun t => t.stream.left)
      (fun t t' _ h => ⟨trivial, chunkStep_left h⟩) _ s trivial (Nat.lt_succ_self _)
  rw [recvChunks, hb, Option.getD_some]
  exact h.result hr hb

end
end Http
end KitServer
