import KitServer.Http.Actions
import KitServer.Http.Reads

/-!
# Bodies of a known length

`recvRequest` and `recvResponse` put a body together from the bytes that came with the head (`held`)
and those that `readFixSize` reads.  The second argument of `readFixSize` is the number of bytes
held, where the number of bytes missing is meant.

* `recvBody_taken_iff`   when the body is the next `L` bytes;
* `fixed_body_iff`       the same for the two receiving functions;
* `body_behind_head`     a body that comes behind the head is not received.
-/

set_option linter.unusedVariables false

namespace KitServer
namespace Http

/-- the message carries the first `L` bytes of `behind`, and what follows them is still to come -/
def BodyTaken {M : Type} (body : M → Str) (L : Nat) (behind : Str) (r : Result M) : Prop :=
  ∃ m, r.outcome = .message m ∧ body m = behind.take L ∧ behind.drop L <:+ List.flatten r.rest

/-- all of the body came with the head; or at most half of it did, and what follows the next
`held.length` bytes of it is zero -/
def BodyFits (L : Nat) (held : Str) (rest : Stream) : Prop :=
  L < 2 ^ 63 ∧ (held.length = L ∨ 0 < held.length ∧ 2 * held.length ≤ L ∧
    ∀ c ∈ ((held ++ List.flatten rest).take L).drop (2 * held.length), c = 0)

/-! ## `Content-Length` -/

theorem getAs_lt (lexical_cast : LexicalCast) (m : MapType) (key : Str) :
    m.getAs lexical_cast.uint64 key 0 < 2 ^ 64 := by
  unfold MapType.getAs
  cases hf : m.find key with
  | none => norm_num
  | some val =>
    dsimp only
    cases hc : lexical_cast.uint64 val with
    | none => norm_num
    | some v => exact lexical_cast.lt val v hc

theorem toInt64_of_lt {v : Nat} (h : v < 2 ^ 63) : toInt64 v = v := by
  unfold toInt64
  exact Int.bmod_eq_of_le (by omega) (by omega)

theorem toInt64_of_ge {v : Nat} (h : 2 ^ 63 ≤ v) (h' : v < 2 ^ 64) : toInt64 v ≤ 0 := by
  unfold toInt64
  rw [← Int.sub_bmod_right, Int.bmod_eq_of_le (by omega) (by omega)]
  omega

/-! ## the body -/

theorem overwrite_replicate (L : Nat) (data : Str) :
    overwrite (List.replicate L (0 : UInt8)) 0 data
      = data ++ List.replicate (L - data.length) 0 := by
  simp [overwrite]

theorem overwrite_behind (data got : Str) (n : Nat) :
    overwrite (data ++ List.replicate n (0 : UInt8)) data.length got
      = data ++ got ++ List.replicate (n - got.length) 0 := by
  simp [overwrite]

theorem recvBody_held {L : Nat} {data : Str} (h : L ≤ data.length) (stream : Stream) :
    recvBody L data stream = ⟨.message (data.take L), stream, L⟩ := by
  have hreal : (if (L : Int) ≥ (data.length : Int) then data.length else L) = L := by
    split
    · omega
    · rfl
  have hsub : ¬ ((L : Int) - (data.length : Int) > 0) := by omega
  simp only [recvBody, Int.toNat_natCast, hreal, hsub, if_false, overwrite_replicate]
  rw [List.length_take_of_le h, Nat.sub_self, List.replicate_zero, List.append_nil]

theorem recvBody_read {L : Nat} {data : Str} (h : data.length < L) {stream rest : Stream}
    {complete : Bool} {got : Str} (hr : readFixSize data.length stream = (complete, got, rest)) :
    recvBody L data stream =
      if data.length + got.length > L then ⟨.fault .outOfRange, rest, L⟩
      else if complete && data.length > 0 then
        ⟨.message (data ++ got ++ List.replicate (L - data.length - got.length) 0), rest, L⟩
      else ⟨.null, rest, L⟩ := by
  have hreal : (if (L : Int) ≥ (data.length : Int) then data.length else L) = data.length :=
    if_pos (by omega)
  have hsub : (L : Int) - (data.length : Int) > 0 := by omega
  simp only [recvBody, Int.toNat_natCast, hreal, hsub, if_true, hr, List.take_length,
    overwrite_replicate, overwrite_behind]

theorem taken_all_held {L : Nat} (hL : L < 2 ^ 63) {held : Str} (rest : Stream)
    (hge : L ≤ held.length) :
    BodyTaken id L (held ++ List.flatten rest) (recvBody L held rest) ↔ BodyFits L held rest := by
  rw [recvBody_held hge]
  have htake : (held ++ List.flatten rest).take L = held.take L :=
    List.take_append_of_le_length hge
  have hdrop : (held ++ List.flatten rest).drop L = held.drop L ++ List.flatten rest :=
    List.drop_append_of_le_length hge
  constructor
  · rintro ⟨m, _, _, hsuf⟩
    have hlen := hsuf.length_le
    rw [hdrop, List.length_append, List.length_drop] at hlen
    dsimp only at hlen
    exact ⟨hL, Or.inl (by omega)⟩
  · rintro ⟨_, heq | ⟨h0, hle, _⟩⟩
    · refine ⟨_, rfl, htake.symm, ?_⟩
      rw [hdrop, List.drop_of_length_le (by omega), List.nil_append]
    · omega

theorem take_behind {L : Nat} {held got after : Str} (h : held.length + got.length ≤ L) :
    (held ++ (got ++ after)).take L
      = held ++ got ++ after.take (L - held.length - got.length) := by
  rw [List.take_append, List.take_of_length_le (by omega), List.take_append,
    List.take_of_length_le (by omega), List.append_assoc]

theorem drop_behind {L : Nat} {held got after : Str} (h : held.length + got.length ≤ L) :
    (held ++ (got ++ after)).drop L = after.drop (L - held.length - got.length) := by
  rw [List.drop_append, List.drop_of_length_le (by omega), List.nil_append, List.drop_append,
    List.drop_of_length_le (by omega), List.nil_append]

theorem taken_part_held {L : Nat} (hL : L < 2 ^ 63) {held got after : Str} {rest' : Stream}
    (hpos : 0 < held.length) (hgot : got.length = held.length) (hle : 2 * held.length ≤ L)
    (hafter : List.flatten rest' = after) (henough : L ≤ held.length + (got ++ after).length) :
    (held ++ got ++ List.replicate (L - held.length - got.length) 0
        = (held ++ (got ++ after)).take L ∧
      (held ++ (got ++ after)).drop L <:+ List.flatten rest') ↔
    ∀ c ∈ ((held ++ (got ++ after)).take L).drop (2 * held.length), c = 0 := by
  have hfit : held.length + got.length ≤ L := by omega
  have hz : ((held ++ (got ++ after)).take L).drop (2 * held.length)
      = after.take (L - held.length - got.length) := by
    rw [take_behind hfit]
    exact List.drop_left' (by rw [List.length_append]; omega)
  rw [hz, take_behind hfit, drop_behind hfit, hafter]
  rw [List.length_append] at henough
  constructor
  · rintro ⟨heq, _⟩ c hc
    rw [← List.append_cancel_left heq] at hc
    exact List.eq_of_mem_replicate hc
  · intro h
    refine ⟨?_, List.drop_suffix _ _⟩
    rw [List.eq_replicate_iff.mpr ⟨rfl, h⟩, List.length_take, Nat.min_eq_left (by omega)]

theorem recvBody_taken_iff {L : Nat} (hL : L < 2 ^ 63) {held : Str} {rest : Stream}
    (hlive : rest.Live) (henough : L ≤ held.length + rest.left) :
    BodyTaken id L (held ++ List.flatten rest) (recvBody L held rest) ↔ BodyFits L held rest := by
  rcases Nat.lt_or_ge held.length L with hlt | hge
  swap
  · exact taken_all_held hL rest hge
  have hnot : ∀ rest', ¬ BodyTaken id L (held ++ List.flatten rest)
      (⟨.fault .outOfRange, rest', L⟩ : Result Str) := by
    rintro rest' ⟨m, hm, _⟩
    cases hm
  have hnull : ∀ rest', ¬ BodyTaken id L (held ++ List.flatten rest)
      (⟨.null, rest', L⟩ : Result Str) := by
    rintro rest' ⟨m, hm, _⟩
    cases hm
  obtain ⟨got, rest', hall, _, ⟨hread, hgot⟩ | ⟨hread, hgot, hend⟩⟩ :=
    readFixSize_spec held.length hlive
  · rw [recvBody_read hlt hread]
    by_cases hover : held.length + got.length > L
    · rw [if_pos hover]
      refine iff_of_false (hnot rest') ?_
      rintro ⟨_, heq | ⟨_, hle, _⟩⟩
      · omega
      · omega
    rw [if_neg hover]
    by_cases hpos : held.length > 0
    · rw [if_pos (by simpa using hpos)]
      have hpart := taken_part_held hL hpos hgot (by omega) rfl
        (by rw [hall]; exact henough)
      rw [hall] at hpart
      constructor
      · rintro ⟨m, hm, hb, hsuf⟩
        cases hm
        exact ⟨hL, Or.inr ⟨hpos, by omega, hpart.mp ⟨hb, hsuf⟩⟩⟩
      · rintro ⟨_, heq | ⟨_, _, hz⟩⟩
        · omega
        · obtain ⟨hb, hsuf⟩ := hpart.mpr hz
          exact ⟨_, rfl, hb, hsuf⟩
    · rw [if_neg (by simp [hpos])]
      refine iff_of_false (hnull rest') ?_
      rintro ⟨_, heq | ⟨h0, _⟩⟩
      · omega
      · omega
  · rw [recvBody_read hlt hread]
    have hleft : got.length + rest'.left = rest.left := by
      have := congrArg List.length hall
      rwa [List.length_append] at this
    have hempty : rest'.left = 0 := by
      show (List.flatten rest').length = 0
      rw [hend]
      rfl
    refine iff_of_false ?_ ?_
    · rintro ⟨m, hm, _⟩
      split at hm <;> cases hm
    · rintro ⟨_, heq | ⟨_, hle, _⟩⟩
      · omega
      · omega

/-! ## the receiving functions -/

theorem not_taken_negative {M : Type} {body : M → Str} {L : Nat} {behind : Str} {r : Result M}
    (hL : 1 ≤ L) (henough : L ≤ behind.length) (h : ∀ m, r.outcome = .message m → body m = []) :
    ¬ BodyTaken body L behind r := by
  rintro ⟨m, hm, hb, _⟩
  rw [h m hm] at hb
  have hlen := congrArg List.length hb
  rw [List.length_take, List.length_nil] at hlen
  omega

@[simp] theorem HttpRequest.init_body (r : HttpRequest) : r.init.body = r.body := by
  unfold HttpRequest.init
  dsimp only
  split <;> rfl

theorem BodyTaken.map_iff {M : Type} {body : M → Str} {f : Str → M} (hf : ∀ b, body (f b) = b)
    (L : Nat) (behind : Str) (r : Result Str) :
    BodyTaken body L behind (r.map f) ↔ BodyTaken id L behind r := by
  obtain ⟨_ | b | e, rest, alloc⟩ := r
  · refine iff_of_false ?_ ?_ <;> rintro ⟨m, hm, _⟩ <;> cases hm
  · simp [BodyTaken, Result.map, Outcome.map, hf]
  · refine iff_of_false ?_ ?_ <;> rintro ⟨m, hm, _⟩ <;> cases hm

theorem recvBody_sent_iff {M : Type} {f : Str → M} (hf : Function.Injective f) {body more held : Str}
    {rest : Stream} (hlen : body.length < 2 ^ 63) (hlive : rest.Live)
    (hsent : held ++ List.flatten rest = body ++ more) :
    ((recvBody body.length held rest).map f).outcome = .message (f body) ∧
        more <:+ List.flatten (recvBody body.length held rest).rest ↔
      BodyFits body.length held rest := by
  have hsize := congrArg List.length hsent
  rw [List.length_append, List.length_append] at hsize
  rw [← recvBody_taken_iff hlen hlive (by rw [Stream.left]; omega), hsent, BodyTaken,
    List.take_left, List.drop_left]
  generalize recvBody body.length held rest = got
  obtain ⟨outcome, rest', alloc⟩ := got
  constructor
  · rintro ⟨hmessage, hmore⟩
    cases outcome with
    | null => cases hmessage
    | fault e => cases hmessage
    | message m => exact ⟨m, rfl, hf (Outcome.message.inj hmessage), hmore⟩
  · rintro ⟨m, hmessage, hbody, hmore⟩
    obtain rfl : outcome = .message m := hmessage
    obtain rfl : m = body := hbody
    exact ⟨rfl, hmore⟩

theorem recvRequest_body {u : Ambient} {buff_size : Nat} {stream : Stream}
    {parser : Request.HttpRequestParser} {held : Str} {rest : Stream}
    (h : recvRequestHead u buff_size stream = .finished parser held rest) :
    recvRequest u buff_size stream =
      if toInt64 (parser.getContentLength u) > 0 then
        (recvBody (toInt64 (parser.getContentLength u)) held rest).map fun body =>
          { parser.request with body := body }.init
      else ⟨.message parser.request.init, rest, 0⟩ := by
  rw [recvRequest, h]

theorem recvResponse_body {u : Ambient} {buff_size : Nat} {stream : Stream}
    {parser : Response.HttpResponseParser} {held : Str} {rest : Stream}
    (h : recvResponseHead u buff_size stream = .finished parser held rest)
    (hchunked : parser.chunked = false) :
    recvResponse u buff_size stream =
      if toInt64 (parser.getContentLength u) > 0 then
        (recvBody (toInt64 (parser.getContentLength u)) held rest).map fun body =>
          { parser.response with body := body }
      else ⟨.message parser.response, rest, 0⟩ := by
  rw [recvResponse, h]
  dsimp only
  rw [hchunked, if_neg Bool.false_ne_true]

/-! ## heads come without a body -/

theorem recvRequestHead_body {u : Ambient} {buff_size : Nat} {stream : Stream}
    {parser : Request.HttpRequestParser} {held : Str} {rest : Stream}
    (h : recvRequestHead u buff_size stream = .finished parser held rest) :
    parser.request.body = [] :=
  finished_inv (I := fun p => p.request.body = [])
    (fun f buffer p p' n hp hex => Request.execute_body hp hex) rfl h

theorem recvResponseHead_body {u : Ambient} {buff_size : Nat} {stream : Stream}
    {parser : Response.HttpResponseParser} {held : Str} {rest : Stream}
    (h : recvResponseHead u buff_size stream = .finished parser held rest) :
    parser.response.body = [] :=
  finished_inv (I := fun p => p.response.body = [])
    (fun f buffer p p' n hp hex => Response.execute_body hp hex) rfl h

theorem taken_iff {M : Type} {body : M → Str} {f : Str → M} (hf : ∀ b, body (f b) = b)
    {empty : M} (hempty : body empty = []) {L : Nat} {held : Str} {rest : Stream}
    (hlt : L < 2 ^ 64) (hlive : rest.Live) (hL : 1 ≤ L) (henough : L ≤ held.length + rest.left) :
    BodyTaken body L (held ++ List.flatten rest)
        (if toInt64 L > 0 then (recvBody (toInt64 L) held rest).map f
          else ⟨.message empty, rest, 0⟩) ↔
      BodyFits L held rest := by
  rcases Nat.lt_or_ge L (2 ^ 63) with hsmall | hbig
  · rw [toInt64_of_lt hsmall, if_pos (by omega), BodyTaken.map_iff hf]
    exact recvBody_taken_iff hsmall hlive henough
  · have hneg := toInt64_of_ge hbig hlt
    rw [if_neg (by omega)]
    refine iff_of_false ?_ (fun h => absurd h.1 (by omega))
    apply not_taken_negative hL
    · rw [List.length_append]
      exact henough
    · intro m hm
      cases hm
      exact hempty

/-- **The body is the `L` bytes behind the head, and none behind it is taken, exactly when all of
it came with the head, or at most half of it did and the rest of it is zero.** -/
theorem fixed_body_iff (u : Ambient) (buff_size : Nat) (stream : Stream) (hlive : stream.Live) :
    (∀ parser held rest, recvRequestHead u buff_size stream = .finished parser held rest →
      1 ≤ parser.getContentLength u → parser.getContentLength u ≤ held.length + rest.left →
      (BodyTaken HttpRequest.body (parser.getContentLength u) (held ++ List.flatten rest)
          (recvRequest u buff_size stream) ↔ BodyFits (parser.getContentLength u) held rest)) ∧
    (∀ parser held rest, recvResponseHead u buff_size stream = .finished parser held rest →
      parser.chunked = false →
      1 ≤ parser.getContentLength u → parser.getContentLength u ≤ held.length + rest.left →
      (BodyTaken HttpResponse.body (parser.getContentLength u) (held ++ List.flatten rest)
          (recvResponse u buff_size stream) ↔ BodyFits (parser.getContentLength u) held rest)) := by
  constructor
  · intro parser held rest hhead hL henough
    have hempty : parser.request.init.body = [] :=
      (HttpRequest.init_body _).trans (recvRequestHead_body hhead)
    rw [recvRequest_body hhead]
    refine taken_iff (fun b => ?_) hempty (getAs_lt _ _ _) ((finished_append hhead).2 hlive) hL
      henough
    rw [HttpRequest.init_body]
  · intro parser held rest hhead hchunked hL henough
    have hempty := recvResponseHead_body hhead
    rw [recvResponse_body hhead hchunked]
    exact taken_iff (fun b => rfl) hempty (getAs_lt _ _ _) ((finished_append hhead).2 hlive) hL
      henough

/-- the four bytes of both bodies come with the heads -/
theorem four_bytes_with_head :
    (∃ behind, BodyTaken HttpRequest.body 4 behind (recvRequest .zero 4096
      [asc "POST / HTTP/1.1\r\nContent-Length: 4\r\n\r\nabcd"])) ∧
    ∃ behind, BodyTaken HttpResponse.body 4 behind (recvResponse .zero 4096
      [asc "HTTP/1.1 200 OK\r\nContent-Length: 4\r\nA: b\r\n\r\nabcd"]) := by
  have hrequest : (recvRequestHead .zero 4096
      [asc "POST / HTTP/1.1\r\nContent-Length: 4\r\n\r\nabcd"]).finishes
      (fun parser held rest => parser.getContentLength .zero = 4 && held.length = 4) = true := by
    decide +kernel
  have hresponse : (recvResponseHead .zero 4096
      [asc "HTTP/1.1 200 OK\r\nContent-Length: 4\r\nA: b\r\n\r\nabcd"]).finishes
      (fun parser held rest => parser.getContentLength .zero = 4 && held.length = 4 &&
        !parser.chunked) = true := by
    decide +kernel
  obtain ⟨parser, held, rest, hhead, hq⟩ := (finishes_iff _).mp hrequest
  obtain ⟨parser', held', rest', hhead', hq'⟩ := (finishes_iff _).mp hresponse
  simp only [Bool.and_eq_true, decide_eq_true_eq, Bool.not_eq_true'] at hq hq'
  obtain ⟨hL, hheld⟩ := hq
  obtain ⟨⟨hL', hheld'⟩, hchunked⟩ := hq'
  refine ⟨⟨held ++ List.flatten rest, ?_⟩, ⟨held' ++ List.flatten rest', ?_⟩⟩
  · have h := (fixed_body_iff .zero 4096 _ (by decide +kernel)).1 parser held rest hhead
      (by omega) (by omega)
    rw [hL] at h
    exact h.mpr ⟨by norm_num, Or.inl hheld⟩
  · have h := (fixed_body_iff .zero 4096 _ (by decide +kernel)).2 parser' held' rest' hhead'
      hchunked (by omega) (by omega)
    rw [hL'] at h
    exact h.mpr ⟨by norm_num, Or.inl hheld'⟩

/-- a body that comes behind the head is not received -/
theorem body_behind_head : ¬ ∀ (u : Ambient) (buff_size : Nat) (stream : Stream), stream.Live →
    ∀ parser held rest, recvRequestHead u buff_size stream = .finished parser held rest →
      1 ≤ parser.getContentLength u → parser.getContentLength u ≤ held.length + rest.left →
      BodyTaken HttpRequest.body (parser.getContentLength u) (held ++ List.flatten rest)
        (recvRequest u buff_size stream) := by
  intro h
  have hrequest : (recvRequestHead .zero 4096
      [asc "POST / HTTP/1.1\r\nContent-Length: 4\r\n\r\n", asc "abcd"]).finishes
      (fun parser held rest => parser.getContentLength .zero = 4 && rest.left = 4) = true := by
    decide +kernel
  have hnull : (recvRequest .zero 4096
      [asc "POST / HTTP/1.1\r\nContent-Length: 4\r\n\r\n", asc "abcd"]).outcome = .null := by
    decide +kernel
  obtain ⟨parser, held, rest, hhead, hq⟩ := (finishes_iff _).mp hrequest
  simp only [Bool.and_eq_true, decide_eq_true_eq] at hq
  obtain ⟨m, hm, _⟩ := h .zero 4096 _ (by decide +kernel) parser held rest hhead (by omega)
    (by omega)
  rw [hnull] at hm
  cases hm

end Http
end KitServer
