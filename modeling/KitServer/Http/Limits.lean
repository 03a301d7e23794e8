import KitServer.Http.ChunkRounds
import KitServer.Http.FixedBody

/-!
# Sizes that a peer controls

The receiving functions look at the size of the buffer and never at the largest size of a body
(`max`).

* `chunkStep_sized_alloc`   a round grows the body by the bytes of the chunk that arrive;
* `limits_iff`              when a call keeps both limits;
* `four_bytes_not_allowed`  a call that does not.
-/

set_option linter.unusedVariables false

namespace KitServer
namespace Http

/-- the length of the head that the loop has passed -/
def ParseEnd.headLength {P : Type} (stream : Stream) : ParseEnd P → Nat
  | .finished _ held rest => stream.left - (held.length + rest.left)
  | .null _ => 0
  | .fault _ _ => 0

/-- what the settings promise of a call: a head of at most `buff_size` and a body of at most `max`
bytes in every message, and no larger buffer for a body -/
def WithinLimits {M : Type} (body : M → Str) (head buff_size max : Nat) (r : Result M) : Prop :=
  (∀ m, r.outcome = .message m → head ≤ buff_size ∧ (body m).length ≤ max) ∧ r.alloc ≤ max

/-! ## bodies of a known length -/

/-- `recvBody` finds as many bytes as it looks for -/
def BodyComes (len : Int) (held : Str) (rest : Stream) : Prop :=
  len ≤ held.length ∨
    0 < held.length ∧ 2 * (held.length : Int) ≤ len ∧ held.length ≤ rest.left

theorem recvBody_sizes {L : Nat} (held : Str) {rest : Stream} (hlive : rest.Live) :
    (recvBody L held rest).alloc = L ∧
      (∀ body, (recvBody L held rest).outcome = .message body → body.length = L) ∧
      ((∃ body, (recvBody L held rest).outcome = .message body) ↔ BodyComes L held rest) := by
  rcases Nat.lt_or_ge held.length L with hlt | hge
  swap
  · rw [recvBody_held hge]
    refine ⟨rfl, ?_, iff_of_true ⟨_, rfl⟩ (Or.inl (by omega))⟩
    intro body hbody
    cases hbody
    exact List.length_take_of_le hge
  obtain ⟨got, rest', hall, _, hcase⟩ := readFixSize_spec held.length hlive
  have hleft : got.length + rest'.left = rest.left := by
    have := congrArg List.length hall
    rwa [List.length_append] at this
  rcases hcase with ⟨hread, hgot⟩ | ⟨hread, hgot, hend⟩
  · rw [recvBody_read hlt hread]
    by_cases hover : held.length + got.length > L
    · rw [if_pos hover]
      refine ⟨rfl, fun body h => ?_, iff_of_false ?_ ?_⟩
      · cases h
      · rintro ⟨body, h⟩
        cases h
      · intro h
        rcases h with h | ⟨_, h, _⟩ <;> omega
    rw [if_neg hover]
    by_cases hpos : held.length > 0
    · rw [if_pos (by simpa using hpos)]
      refine ⟨rfl, fun body h => ?_, iff_of_true ⟨_, rfl⟩ (Or.inr ⟨hpos, by omega, by omega⟩)⟩
      cases h
      simp only [List.length_append, List.length_replicate]
      omega
    · rw [if_neg (by simp [hpos])]
      refine ⟨rfl, fun body h => ?_, iff_of_false ?_ ?_⟩
      · cases h
      · rintro ⟨body, h⟩
        cases h
      · intro h
        rcases h with h | ⟨h, _⟩ <;> omega
  · have hempty : rest'.left = 0 := congrArg List.length hend
    rw [recvBody_read hlt hread]
    refine ⟨?_, fun body h => ?_, iff_of_false ?_ ?_⟩
    · split <;> rfl
    · split at h <;> cases h
    · rintro ⟨body, h⟩
      split at h <;> cases h
    · intro h
      rcases h with h | ⟨_, _, h⟩ <;> omega

/-- the announced length is within the limit, and so is the head when the body comes -/
def FixedLimits (len : Int) (held : Str) (rest : Stream) (head buff_size max : Nat) : Prop :=
  len ≤ max ∧ (BodyComes len held rest → head ≤ buff_size)

theorem fixed_limits_iff {M : Type} {body : M → Str} {f : Str → M} (hf : ∀ b, body (f b) = b)
    {empty : M} (hempty : body empty = []) (len : Int) (held : Str) {rest : Stream}
    (hlive : rest.Live) (head buff_size max : Nat) :
    WithinLimits body head buff_size max
        (if len > 0 then (recvBody len held rest).map f else ⟨.message empty, rest, 0⟩) ↔
      FixedLimits len held rest head buff_size max := by
  by_cases hpos : len > 0
  · obtain ⟨L, rfl⟩ := Int.eq_ofNat_of_zero_le (Int.le_of_lt hpos)
    obtain ⟨halloc, hlen, hcomes⟩ := recvBody_sizes (L := L) held hlive
    rw [if_pos hpos]
    constructor
    · rintro ⟨hmsg, hal⟩
      refine ⟨?_, fun hc => ?_⟩
      · rw [← halloc]
        exact Int.ofNat_le.mpr hal
      · obtain ⟨b, hb⟩ := hcomes.mpr hc
        refine (hmsg (f b) ?_).1
        rw [Result.map, hb]
        rfl
    · rintro ⟨hmax, hhead⟩
      have hL : L ≤ max := Int.ofNat_le.mp hmax
      refine ⟨fun m hm => ?_, ?_⟩
      · cases ho : (recvBody (L : Int) held rest).outcome with
        | null =>
          rw [Result.map, ho] at hm
          cases hm
        | fault e =>
          rw [Result.map, ho] at hm
          cases hm
        | message b =>
          rw [Result.map, ho] at hm
          cases hm
          refine ⟨hhead (hcomes.mp ⟨b, ho⟩), ?_⟩
          rw [hf, hlen b ho]
          exact hL
      · show (recvBody (L : Int) held rest).alloc ≤ max
        rw [halloc]
        exact hL
  · rw [if_neg hpos]
    constructor
    · rintro ⟨hmsg, _⟩
      exact ⟨by omega, fun _ => (hmsg empty rfl).1⟩
    · rintro ⟨_, hhead⟩
      refine ⟨fun m hm => ?_, Nat.zero_le max⟩
      cases hm
      rw [hempty]
      exact ⟨hhead (Or.inl (by omega)), Nat.zero_le max⟩

/-! ## chunks -/

/-- the bytes of a chunk of size `n` that arrive, when `data` is held behind its size line -/
def arrives (buff_size : Nat) (n : Int) (data : Str) (rest : Stream) : Nat :=
  if 2 ≤ data.length then
    min n.toNat (data.length - 2 + if 0 < toInt32 buff_size then rest.left else 0)
  else 0

def ChunkComes (buff_size : Nat) (n : Int) (data : Str) (rest : Stream) : Prop :=
  2 ≤ data.length ∧ 0 ≤ n ∧ n = arrives buff_size n data rest

theorem chunkData_alloc (buff_size : Nat) {s : Chunks} (hlive : s.stream.Live) :
    (chunkData buff_size s).alloc
        = s.body.length + arrives buff_size s.parser.contentLen s.data s.stream ∧
      ((∃ b d, (chunkData buff_size s).outcome = .message (b, d)) ↔
        ChunkComes buff_size s.parser.contentLen s.data s.stream) := by
  unfold ChunkComes arrives
  by_cases hbad : s.data.length < 2 ∨ s.parser.contentLen < 0
  · rw [chunkData_bad buff_size hbad]
    constructor
    · show s.body.length = _
      split <;> omega
    · refine iff_of_false ?_ (by omega)
      rintro ⟨b, d, h⟩
      cases h
  obtain ⟨n, hn⟩ : ∃ n : Nat, s.parser.contentLen = n := Int.eq_ofNat_of_zero_le (by omega)
  rw [if_pos (by omega), hn, Int.toNat_natCast]
  by_cases hheld : n + 2 ≤ s.data.length
  · have hmin : min n (s.data.length - 2 + if 0 < toInt32 buff_size then s.stream.left else 0) = n :=
      Nat.min_eq_left (by omega)
    rw [chunkData_held buff_size hn hheld, hmin]
    exact ⟨rfl, iff_of_true ⟨_, _, rfl⟩ ⟨by omega, by omega, rfl⟩⟩
  rw [chunkData_more buff_size (by omega) (by omega)]
  have htake : (s.data.take (s.data.length - 2)).length = s.data.length - 2 :=
    List.length_take_of_le (by omega)
  have hleft : 0 < s.parser.contentLen - ((s.data.length : Int) - 2) := by omega
  rcases Int.lt_or_le (toInt32 buff_size) 0 with hneg | hb
  · rw [chunkRest_negative hneg hleft, if_neg (by omega)]
    constructor
    · show (s.body ++ s.data.take (s.data.length - 2)).length = _
      rw [List.length_append, htake]
      omega
    · refine iff_of_false ?_ (by omega)
      rintro ⟨b, d, h⟩
      cases h
  obtain ⟨got, hends⟩ := chunkRest_spec hb (s := ⟨s.parser.contentLen -
    ((s.data.length : Int) - 2), s.body ++ s.data.take (s.data.length - 2), s.stream⟩)
    (Int.le_of_lt hleft)
  obtain ⟨hlen, hmsg⟩ := hends.length hb hleft hlive
  have halloc := hends.alloc
  dsimp only at hlen hmsg halloc
  rw [List.length_append, htake] at halloc
  constructor
  · show (chunkRest buff_size _).alloc = _
    omega
  · have hiff : (∃ b d, ((chunkRest buff_size ⟨s.parser.contentLen - ((s.data.length : Int) - 2),
        s.body ++ s.data.take (s.data.length - 2), s.stream⟩).map fun body => (body, ([] : Str))
          ).outcome = .message (b, d)) ↔
        ∃ body, (chunkRest buff_size ⟨s.parser.contentLen - ((s.data.length : Int) - 2),
          s.body ++ s.data.take (s.data.length - 2), s.stream⟩).outcome = .message body := by
      generalize chunkRest buff_size _ = r
      obtain ⟨_ | body | e, rest, alloc⟩ := r
      · simp [Result.map, Outcome.map]
      · simp [Result.map, Outcome.map]
      · simp [Result.map, Outcome.map]
    rw [hiff, hmsg]
    omega

section
variable {u : Ambient} {buff_size : Nat} {s : Chunks} {parser : Response.HttpResponseParser}
  {data : Str} {rest : Stream}

/-- a round behind the size line grows the body by what arrives of the chunk -/
theorem chunkStep_sized_alloc (h : SizeLine u buff_size s parser data rest)
    (hlive : s.stream.Live) :
    (∀ r, chunkStep u buff_size s = .inl r →
      r.alloc = s.body.length + arrives buff_size parser.contentLen data rest ∧
        (∀ m, r.outcome = .message m → m.body.length = r.alloc ∧ parser.chunksDone = true ∧
          ChunkComes buff_size parser.contentLen data rest) ∧
        (parser.chunksDone = true → ChunkComes buff_size parser.contentLen data rest →
          ∃ m, r.outcome = .message m)) ∧
    (∀ s', chunkStep u buff_size s = .inr s' →
      s'.body.length = s.body.length + arrives buff_size parser.contentLen data rest ∧
        parser.chunksDone = false) := by
  obtain ⟨hmsg, hnull, hfault⟩ := chunkStep_sized h
  obtain ⟨halloc, hcomes⟩ := chunkData_alloc buff_size (s := ⟨parser, data, s.body, rest⟩)
    ((finished_append h).2 hlive)
  dsimp only at halloc hcomes
  rcases hd : chunkData buff_size ⟨parser, data, s.body, rest⟩ with
    ⟨_ | ⟨body, data'⟩ | e, rest', alloc⟩
  · rw [hd] at halloc hcomes
    have hno : ¬ ChunkComes buff_size parser.contentLen data rest := by
      intro hc
      obtain ⟨b, d, hbd⟩ := hcomes.mpr hc
      cases hbd
    rw [hnull _ _ hd]
    constructor
    · intro r hr
      cases hr
      refine ⟨halloc, fun m hm => ?_, fun _ hc => absurd hc hno⟩
      cases hm
    · intro s' hs'
      cases hs'
  · rw [hd] at halloc hcomes
    have hc : ChunkComes buff_size parser.contentLen data rest := hcomes.mp ⟨_, _, rfl⟩
    obtain ⟨n, _, _, hbody, hal, _⟩ := chunkData_message hd
    dsimp only at hbody hal halloc
    rw [hmsg _ _ _ _ hd]
    by_cases hdone : parser.chunksDone = true
    · rw [if_pos hdone]
      constructor
      · intro r hr
        cases hr
        refine ⟨halloc, fun m hm => ?_, fun _ _ => ⟨_, rfl⟩⟩
        cases hm
        exact ⟨hbody.trans hal.symm, hdone, hc⟩
      · intro s' hs'
        cases hs'
    · rw [if_neg hdone]
      constructor
      · intro r hr
        cases hr
      · intro s' hs'
        cases hs'
        exact ⟨by dsimp only; omega, by simpa using hdone⟩
  · rw [hd] at halloc hcomes
    have hno : ¬ ChunkComes buff_size parser.contentLen data rest := by
      intro hc
      obtain ⟨b, d, hbd⟩ := hcomes.mpr hc
      cases hbd
    rw [hfault _ _ _ hd]
    constructor
    · intro r hr
      cases hr
      refine ⟨halloc, fun m hm => ?_, fun _ hc => absurd hc hno⟩
      cases hm
    · intro s' hs'
      cases hs'

theorem chunkStep_unsized (h : ∀ parser data rest, ¬ SizeLine u buff_size s parser data rest) :
    ∃ r, chunkStep u buff_size s = .inl r ∧ r.alloc = s.body.length ∧
      ∀ m, r.outcome ≠ .message m := by
  cases hp : parseLoop (responseOps true) u.stale buff_size ⟨s.parser, s.data, s.stream⟩ with
  | null rest =>
    refine ⟨⟨.null, rest, s.body.length⟩, ?_, rfl, fun m hm => by cases hm⟩
    simp only [chunkStep, hp]
  | fault e rest =>
    refine ⟨⟨.fault e, rest, s.body.length⟩, ?_, rfl, fun m hm => by cases hm⟩
    simp only [chunkStep, hp]
  | finished parser data rest => exact absurd hp (h parser data rest)

theorem chunkStep_live {s' : Chunks} (h : chunkStep u buff_size s = .inr s')
    (hlive : s.stream.Live) : s'.stream.Live := by
  obtain ⟨parser, data, rest, body, data', rest', alloc, hsize, hd, _, rfl⟩ := chunkStep_next h
  obtain ⟨n, _, _, _, _, _, hl⟩ := chunkData_message hd
  exact hl ((finished_append hsize).2 hlive)

theorem rounds_live {s' : Chunks} (h : Rounds (chunkStep u buff_size) s s')
    (hlive : s.stream.Live) : s'.stream.Live :=
  h.inv (I := fun t => t.stream.Live) (fun t t' ht hst => chunkStep_live hst ht) hlive

theorem rounds_body_le {s' : Chunks} (h : Rounds (chunkStep u buff_size) s s') :
    s.body.length ≤ s'.body.length := by
  refine h.inv (I := fun t => s.body.length ≤ t.body.length) ?_ (Nat.le_refl _)
  intro t t' ht hst
  obtain ⟨parser, data, rest, body, data', rest', alloc, _, hd, _, rfl⟩ := chunkStep_next hst
  obtain ⟨n, _, _, hbody, _⟩ := chunkData_message hd
  dsimp only at hbody ⊢
  omega

end

/-- in every round the bytes of the chunk that arrive keep the body within the limit -/
def ChunkLimits (u : Ambient) (buff_size max : Nat) (start : Chunks) : Prop :=
  ∀ s, Rounds (chunkStep u buff_size) start s → ∀ parser data rest,
    SizeLine u buff_size s parser data rest →
      s.body.length + arrives buff_size parser.contentLen data rest ≤ max

/-- the rounds come to the last chunk, and it arrives -/
def LastChunk (u : Ambient) (buff_size : Nat) (start : Chunks) : Prop :=
  ∃ s, Rounds (chunkStep u buff_size) start s ∧ ∃ parser data rest,
    SizeLine u buff_size s parser data rest ∧ parser.chunksDone = true ∧
      ChunkComes buff_size parser.contentLen data rest

theorem lastChunk_iff {u : Ambient} {buff_size : Nat} {start : Chunks}
    (hlive : start.stream.Live) :
    (∃ m, (recvChunks u buff_size start).outcome = .message m) ↔ LastChunk u buff_size start := by
  constructor
  · rintro ⟨m, hm⟩
    obtain ⟨last, hlast, hend⟩ := recvChunks_ends u buff_size start
    by_cases hsized : ∃ p d r, SizeLine u buff_size last p d r
    · obtain ⟨p, d, r, hsz⟩ := hsized
      obtain ⟨_, hmsg, _⟩ := (chunkStep_sized_alloc hsz (rounds_live hlast hlive)).1 _ hend
      obtain ⟨_, hdone, hcomes⟩ := hmsg m hm
      exact ⟨last, hlast, p, d, r, hsz, hdone, hcomes⟩
    · obtain ⟨r, hr, _, hno⟩ := chunkStep_unsized (fun p d r hsz => hsized ⟨p, d, r, hsz⟩)
      rw [hend] at hr
      cases hr
      exact absurd hm (hno m)
  · rintro ⟨s, hs, parser, data, rest, hsize, hdone, hcomes⟩
    obtain ⟨hinl, hinr⟩ := chunkStep_sized_alloc hsize (rounds_live hs hlive)
    cases hst : chunkStep u buff_size s with
    | inl r =>
      rw [recvChunks_eq hs hst]
      exact (hinl r hst).2.2 hdone hcomes
    | inr s' =>
      rw [(hinr s' hst).2] at hdone
      cases hdone

theorem ChunkLimits.body_le {u : Ambient} {buff_size max : Nat} {start s : Chunks}
    (h : ChunkLimits u buff_size max start) (hbody : start.body = []) (hlive : start.stream.Live)
    (hs : Rounds (chunkStep u buff_size) start s) : s.body.length ≤ max := by
  have hall : Rounds (chunkStep u buff_size) start s ∧ s.body.length ≤ max := by
    refine hs.inv
      (I := fun t => Rounds (chunkStep u buff_size) start t ∧ t.body.length ≤ max) ?_ ?_
    · intro t t' ht hst
      refine ⟨ht.1.tail hst, ?_⟩
      obtain ⟨parser, data, rest, _, _, _, _, hsize, _, _, _⟩ := chunkStep_next hst
      rw [((chunkStep_sized_alloc hsize (rounds_live ht.1 hlive)).2 t' hst).1]
      exact h t ht.1 parser data rest hsize
    · refine ⟨.refl, ?_⟩
      rw [hbody]
      exact Nat.zero_le max
  exact hall.2

theorem body_le_alloc {u : Ambient} {buff_size : Nat} {start s : Chunks}
    (hlive : start.stream.Live) (hs : Rounds (chunkStep u buff_size) start s) :
    s.body.length ≤ (recvChunks u buff_size start).alloc := by
  obtain ⟨last, hlast, hend⟩ := recvChunks_ends u buff_size start
  refine Nat.le_trans (rounds_body_le (hs.toLast hlast hend)) ?_
  by_cases hsized : ∃ p d r, SizeLine u buff_size last p d r
  · obtain ⟨p, d, r, hsz⟩ := hsized
    rw [((chunkStep_sized_alloc hsz (rounds_live hlast hlive)).1 _ hend).1]
    omega
  · obtain ⟨r, hr, hra, _⟩ := chunkStep_unsized (fun p d r hsz => hsized ⟨p, d, r, hsz⟩)
    rw [hend] at hr
    cases hr
    omega

theorem chunk_limits_iff {u : Ambient} {buff_size : Nat} {start : Chunks}
    (hbody : start.body = []) (hlive : start.stream.Live) (head max : Nat) :
    WithinLimits HttpResponse.body head buff_size max (recvChunks u buff_size start) ↔
      ChunkLimits u buff_size max start ∧ (LastChunk u buff_size start → head ≤ buff_size) := by
  rw [← lastChunk_iff hlive]
  constructor
  · rintro ⟨hmsg, hal⟩
    have hlast : (∃ m, (recvChunks u buff_size start).outcome = .message m) → head ≤ buff_size := by
      rintro ⟨m, hm⟩
      exact (hmsg m hm).1
    refine ⟨?_, hlast⟩
    intro s hs parser data rest hsize
    obtain ⟨hinl, hinr⟩ := chunkStep_sized_alloc hsize (rounds_live hs hlive)
    cases hst : chunkStep u buff_size s with
    | inl r =>
      rw [recvChunks_eq hs hst] at hal
      rw [← (hinl r hst).1]
      exact hal
    | inr s' =>
      rw [← (hinr s' hst).1]
      exact Nat.le_trans (body_le_alloc hlive (Relation.ReflTransGen.tail hs hst)) hal
  · rintro ⟨hlim, hhead⟩
    obtain ⟨last, hlast, hend⟩ := recvChunks_ends u buff_size start
    by_cases hsized : ∃ p d r, SizeLine u buff_size last p d r
    · obtain ⟨p, d, r, hsz⟩ := hsized
      obtain ⟨halloc, hmsg, _⟩ := (chunkStep_sized_alloc hsz (rounds_live hlast hlive)).1 _ hend
      have hle := hlim last hlast p d r hsz
      refine ⟨fun m hm => ⟨hhead ⟨m, hm⟩, ?_⟩, by omega⟩
      have := (hmsg m hm).1
      omega
    · obtain ⟨r, hr, hra, hno⟩ := chunkStep_unsized (fun p d r hsz => hsized ⟨p, d, r, hsz⟩)
      have hle := hlim.body_le hbody hlive hlast
      rw [hend] at hr
      cases hr
      exact ⟨fun m hm => absurd hm (hno m), by omega⟩

/-! ## the receiving functions -/

def RequestLimits (u : Ambient) (buff_size max : Nat) (stream : Stream) : Prop :=
  ∀ parser held rest, recvRequestHead u buff_size stream = .finished parser held rest →
    FixedLimits (toInt64 (parser.getContentLength u)) held rest
      ((recvRequestHead u buff_size stream).headLength stream) buff_size max

def ResponseLimits (u : Ambient) (buff_size max : Nat) (stream : Stream) : Prop :=
  ∀ parser held rest, recvResponseHead u buff_size stream = .finished parser held rest →
    if parser.chunked then
      ChunkLimits u buff_size max ⟨parser, held, [], rest⟩ ∧
        (LastChunk u buff_size ⟨parser, held, [], rest⟩ →
          (recvResponseHead u buff_size stream).headLength stream ≤ buff_size)
    else
      FixedLimits (toInt64 (parser.getContentLength u)) held rest
        ((recvResponseHead u buff_size stream).headLength stream) buff_size max

/-- **A call keeps the limits exactly when the peer keeps them: the announced length, or the sum of
the chunks that arrive, is at most `max`, and a head whose body comes is at most `buff_size`.** -/
theorem limits_iff (u : Ambient) (buff_size max : Nat) (stream : Stream) (hlive : stream.Live) :
    (WithinLimits HttpRequest.body ((recvRequestHead u buff_size stream).headLength stream)
        buff_size max (recvRequest u buff_size stream) ↔ RequestLimits u buff_size max stream) ∧
    (WithinLimits HttpResponse.body ((recvResponseHead u buff_size stream).headLength stream)
        buff_size max (recvResponse u buff_size stream) ↔
      ResponseLimits u buff_size max stream) := by
  constructor
  · cases hhead : recvRequestHead u buff_size stream with
    | null rest =>
      refine iff_of_true ?_ (fun p h r hf => by rw [hhead] at hf; cases hf)
      rw [recvRequest, hhead]
      exact ⟨fun m hm => (by cases hm), Nat.zero_le max⟩
    | fault e rest =>
      refine iff_of_true ?_ (fun p h r hf => by rw [hhead] at hf; cases hf)
      rw [recvRequest, hhead]
      exact ⟨fun m hm => (by cases hm), Nat.zero_le max⟩
    | finished parser held rest =>
      have hempty : parser.request.init.body = [] :=
        (HttpRequest.init_body _).trans (recvRequestHead_body hhead)
      have hiff := fixed_limits_iff (fun b => HttpRequest.init_body { parser.request with body := b })
        hempty (toInt64 (parser.getContentLength u)) held ((finished_append hhead).2 hlive)
        ((recvRequestHead u buff_size stream).headLength stream) buff_size max
      rw [recvRequest_body hhead, ← hhead, hiff]
      constructor
      · intro h p hd r hf
        rw [hhead] at hf
        cases hf
        exact h
      · intro h
        exact h parser held rest hhead
  · cases hhead : recvResponseHead u buff_size stream with
    | null rest =>
      refine iff_of_true ?_ (fun p h r hf => by rw [hhead] at hf; cases hf)
      rw [recvResponse, hhead]
      exact ⟨fun m hm => (by cases hm), Nat.zero_le max⟩
    | fault e rest =>
      refine iff_of_true ?_ (fun p h r hf => by rw [hhead] at hf; cases hf)
      rw [recvResponse, hhead]
      exact ⟨fun m hm => (by cases hm), Nat.zero_le max⟩
    | finished parser held rest =>
      have hrest := (finished_append hhead).2 hlive
      have hall : ResponseLimits u buff_size max stream ↔
          if parser.chunked then
            ChunkLimits u buff_size max ⟨parser, held, [], rest⟩ ∧
              (LastChunk u buff_size ⟨parser, held, [], rest⟩ →
                (recvResponseHead u buff_size stream).headLength stream ≤ buff_size)
          else
            FixedLimits (toInt64 (parser.getContentLength u)) held rest
              ((recvResponseHead u buff_size stream).headLength stream) buff_size max := by
        constructor
        · intro h
          exact h parser held rest hhead
        · intro h p hd r hf
          rw [hhead] at hf
          cases hf
          exact h
      rw [← hhead, hall]
      by_cases hchunked : parser.chunked = true
      · rw [if_pos hchunked, recvResponse, hhead]
        dsimp only
        rw [if_pos hchunked]
        exact chunk_limits_iff rfl hrest _ _
      · rw [if_neg hchunked, recvResponse_body hhead (by simpa using hchunked)]
        exact fixed_limits_iff (fun b => rfl) (recvResponseHead_body hhead) _ held hrest _ _ _

/-- four bytes announced, four bytes allowed -/
theorem four_bytes_allowed :
    WithinLimits HttpRequest.body ((recvRequestHead .zero 4096
        [asc "POST / HTTP/1.1\r\nContent-Length: 4\r\n\r\nabcd"]).headLength
        [asc "POST / HTTP/1.1\r\nContent-Length: 4\r\n\r\nabcd"]) 4096 4
      (recvRequest .zero 4096 [asc "POST / HTTP/1.1\r\nContent-Length: 4\r\n\r\nabcd"]) := by
  have hlen : (recvRequestHead .zero 4096
      [asc "POST / HTTP/1.1\r\nContent-Length: 4\r\n\r\nabcd"]).finishes
      (fun parser held rest => toInt64 (parser.getContentLength .zero) = 4) = true := by
    decide +kernel
  have hhead : (recvRequestHead .zero 4096
      [asc "POST / HTTP/1.1\r\nContent-Length: 4\r\n\r\nabcd"]).headLength
      [asc "POST / HTTP/1.1\r\nContent-Length: 4\r\n\r\nabcd"] ≤ 4096 := by
    decide +kernel
  obtain ⟨_, _, _, hfin, hq⟩ := (finishes_iff _).mp hlen
  apply (limits_iff .zero 4096 4 _ (by decide +kernel)).1.mpr
  intro parser held rest h
  rw [hfin] at h
  cases h
  refine ⟨?_, fun _ => hhead⟩
  rw [decide_eq_true_eq] at hq
  rw [hq]
  norm_num

/-- four bytes announced and received, three bytes allowed -/
theorem four_bytes_not_allowed : ¬ ∀ (u : Ambient) (buff_size max : Nat) (stream : Stream),
    stream.Live →
      WithinLimits HttpRequest.body ((recvRequestHead u buff_size stream).headLength stream)
        buff_size max (recvRequest u buff_size stream) := by
  intro h
  have hal := (h .zero 4096 3 [asc "POST / HTTP/1.1\r\nContent-Length: 4\r\n\r\nabcd"]
    (by decide +kernel)).2
  revert hal
  decide +kernel

end Http
end KitServer
