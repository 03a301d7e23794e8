import KitServer.Http.HeadCuts

/-!
# Requests that follow each other on a connection

Every call of `recvRequest` reads into a buffer of its own.  What a call has read behind the end of
its request is gone with the buffer.

* `Sent`                 a request on the wire;
* `Arrives`              reads that end with the body, all of which came with the head, or half of it;
* `recvRequest_arrives`  then the call returns the request, and the next call starts behind it;
* `recvRequest_lost`     what a read takes behind the body is lost;
* `recvRequests_kept`    `k` calls return `k` requests that arrive so;
* `pipelined`            two requests in one read.
-/

set_option linter.unusedVariables false

namespace KitServer
namespace Http

/-! ## the calls of a session -/

/-- what a call finds: memory that is not set, and the size of its buffer -/
structure Call where
  u : Ambient
  buff_size : Nat

/-- successive calls of `recvRequest`, until one of them returns no request -/
def recvRequests : List Call → Stream → List HttpRequest
  | [], _ => []
  | c :: calls, stream =>
    match recvRequest c.u c.buff_size stream with
    | ⟨.message req, rest, _⟩ => req :: recvRequests calls rest
    | ⟨.null, _, _⟩ => []
    | ⟨.fault _, _, _⟩ => []

/-- the requests that `HttpServer::handleClient` handles, in as many rounds as there are calls -/
def handleClient (m_isKeepalive : Bool) : List Call → Stream → List HttpRequest
  | [], _ => []
  | c :: calls, stream =>
    match recvRequest c.u c.buff_size stream with
    | ⟨.message req, rest, _⟩ =>
      if !m_isKeepalive || req.close then [req] else req :: handleClient m_isKeepalive calls rest
    | ⟨.null, _, _⟩ => []
    | ⟨.fault _, _, _⟩ => []

theorem handleClient_alive (calls : List Call) : ∀ stream : Stream,
    (∀ req ∈ recvRequests calls stream, req.close = false) →
      handleClient true calls stream = recvRequests calls stream := by
  induction calls with
  | nil => intro stream _; rfl
  | cons c calls ih =>
    intro stream h
    rw [handleClient, recvRequests]
    rw [recvRequests] at h
    generalize recvRequest c.u c.buff_size stream = called at h ⊢
    obtain ⟨_ | req | e, rest, alloc⟩ := called
    · rfl
    · dsimp only at h ⊢
      have hclose : req.close = false := h req List.mem_cons_self
      rw [hclose, if_neg (by decide), ih rest fun r hr => h r (List.mem_cons_of_mem req hr)]
    · rfl

/-! ## requests on the wire -/

/-- a request on the wire; `parser` is what the parser makes of the head -/
structure Sent where
  head : Str
  body : Str
  parser : Request.HttpRequestParser

namespace Sent

def bytes (r : Sent) : Str := r.head ++ r.body

def request (r : Sent) : HttpRequest := { r.parser.request with body := r.body }.init

/-- the head is accepted as a whole, and it announces the body -/
structure WellFormed (u : Ambient) (r : Sent) : Prop where
  length : r.head.length < 2 ^ 63
  accepted : ∃ stale,
    Request.execute stale r.head u.uriRelaxed (.new u) = .ok (r.parser, r.head.length)
  noError : r.parser.hasError = false
  finished : r.parser.isFinished ≠ 0
  content : r.parser.getContentLength u = r.body.length

/-- `head` and `body` as a request that is well formed -/
def parse (u : Ambient) (head body : Str) : Option Sent :=
  match Request.execute (fun _ => 0) head u.uriRelaxed (.new u) with
  | .ok (parser, n) =>
    if n = head.length ∧ n < 2 ^ 63 ∧ parser.hasError = false ∧ parser.isFinished ≠ 0 ∧
        parser.getContentLength u = body.length then some ⟨head, body, parser⟩
    else none
  | .error _ => none

theorem wellFormed_of_parse {u : Ambient} {head body : Str} {r : Sent}
    (h : parse u head body = some r) : r.WellFormed u ∧ r.head = head ∧ r.body = body := by
  rw [parse] at h
  split at h
  · next parser n hex =>
    split at h
    · next hall =>
      obtain ⟨rfl, hlen, hno, hfin, hcontent⟩ := hall
      cases h
      exact ⟨⟨hlen, ⟨_, hex⟩, hno, hfin, hcontent⟩, rfl, rfl⟩
    · cases h
  · cases h

/-- the head comes in `pieces`, with `held` behind it -/
structure HeadArrives (c : Call) (r : Sent) (stream : Stream) (pieces : List Str) (held : Str)
    (rest : Stream) : Prop where
  reads : stream.Reads c.buff_size pieces rest
  bytes : List.flatten pieces = r.head ++ held
  clean : Request.cleanCuts c.u.uriRelaxed Request.start pieces = true
  room : toInt32 c.buff_size ≠ 0 ∧ toInt32 c.buff_size ≠ held.length

/-- the reads that the call makes end with the body: `held` came with the head and `more` behind it,
and what is left of the body in `fill` is zero and is not read -/
structure Arrives (c : Call) (r : Sent) (stream : Stream) (pieces : List Str) (held more fill : Str)
    (rest next : Stream) : Prop where
  head : r.HeadArrives c stream pieces held rest
  body : r.body = held ++ more ++ fill
  length : r.body.length < 2 ^ 63
  takes : rest.Takes more.length more next
  half : more = [] ∧ fill = [] ∨ held ≠ [] ∧ more.length = held.length
  zero : ∀ b ∈ fill, b = 0
  left : fill <+: List.flatten next

variable {c : Call} {r : Sent} {stream rest next : Stream} {pieces : List Str}
  {held more fill lost : Str}

/-- the loop over the head ends behind the head, with the bytes in `held` -/
theorem recvRequestHead_arrives (hwf : r.WellFormed c.u)
    (h : r.HeadArrives c stream pieces held rest) :
    ∃ parser, recvRequestHead c.u c.buff_size stream = .finished parser held rest ∧
      parser.request = r.parser.request := by
  obtain ⟨stale, hex⟩ := hwf.accepted
  obtain ⟨hne, cs', s', hscan, herr, hreq⟩ :=
    Request.execute_finished Request.going_start hex hwf.noError hwf.finished
  have hscan : scan (Request.trans c.u.uriRelaxed) (Request.act stale r.head) Request.start 0 r.head
      (Request.HttpRequestParser.new c.u).rewind = .stop cs' r.head.length s' := hscan
  obtain ⟨s₁, hscan₁, hR⟩ : ∃ s₁, scan (Request.trans c.u.uriRelaxed)
      (Request.act stale (r.head ++ held)) Request.start 0 r.head
        (Request.HttpRequestParser.new c.u).rewind = .stop cs' r.head.length s₁ ∧
      Request.Follows 0 (fun _ => false) r.head.length s₁ s' := by
    rcases @Request.scan_request stale stale _ [] _ held _ _ _ hwf.length
        (Request.follows_start c.u (r.head ++ held)) with
      ⟨_, _, _, _, hboth, _⟩ | ⟨cs₂, q₂, s₂, t₂, hscan₂, hboth, hR₂⟩ | ⟨_, _, _, _, hboth⟩
    · rw [hscan] at hboth
      cases hboth
    · rw [hscan] at hboth
      injection hboth with hcs hq hs
      rw [hcs, hq, hs]
      rw [List.length_nil, Nat.zero_add, List.nil_append] at hscan₂
      exact ⟨s₂, hscan₂, hR₂⟩
    · rw [hscan] at hboth
      cases hboth
  have hall : scan (Request.trans c.u.uriRelaxed) (Request.act stale (r.head ++ held)) Request.start
      0 (r.head ++ held) (Request.HttpRequestParser.new c.u).rewind = .stop cs' r.head.length s₁ := by
    rw [scan_append, hscan₁]
  obtain ⟨parser, hhead, hpreq⟩ := Request.head_reads h.room.1 (fun he => h.room.2 he.symm)
    (hR.error.symm.trans herr) hall List.drop_left h.bytes h.clean h.reads
  exact ⟨parser, hhead, hpreq.trans (hR.request.symm.trans hreq.symm)⟩

theorem recvRequest_head (hwf : r.WellFormed c.u) (hlen : r.body.length < 2 ^ 63)
    (h : r.HeadArrives c stream pieces held rest) :
    (recvRequest c.u c.buff_size stream).outcome =
        ((recvBody r.body.length held rest).map fun body =>
          { r.parser.request with body := body }.init).outcome ∧
      (recvRequest c.u c.buff_size stream).rest = (recvBody r.body.length held rest).rest := by
  obtain ⟨parser, hhead, hreq⟩ := recvRequestHead_arrives hwf h
  have hcontent : parser.getContentLength c.u = r.body.length := by
    rw [Request.HttpRequestParser.getContentLength, hreq]
    exact hwf.content
  have hempty : r.parser.request.body = [] := hreq ▸ recvRequestHead_body hhead
  rw [recvRequest_body hhead, hcontent, toInt64_of_lt hlen, hreq]
  split
  · exact ⟨rfl, rfl⟩
  · next hzero =>
    have hzero : r.body.length = 0 := by omega
    rw [hzero, recvBody_held (Nat.zero_le held.length)]
    refine ⟨?_, rfl⟩
    show Outcome.message r.parser.request.init = .message _
    rw [List.take_zero, ← hempty]

/-- **What a read takes behind the body is lost**: the call returns the request, and the next call
reads on behind `lost`. -/
theorem recvRequest_lost (hwf : r.WellFormed c.u) (hlen : r.body.length < 2 ^ 63)
    (h : r.HeadArrives c stream pieces (r.body ++ lost) rest) :
    (recvRequest c.u c.buff_size stream).outcome = .message r.request ∧
      (recvRequest c.u c.buff_size stream).rest = rest := by
  obtain ⟨hout, hrest⟩ := recvRequest_head hwf hlen h
  have hle : r.body.length ≤ (r.body ++ lost).length := by
    rw [List.length_append]
    omega
  rw [recvBody_held hle, List.take_left] at hout
  rw [recvBody_held hle] at hrest
  exact ⟨hout, hrest⟩

/-- **A call whose reads end with the body returns the request, and the next call starts behind
it.** -/
theorem recvRequest_arrives (hwf : r.WellFormed c.u)
    (h : r.Arrives c stream pieces held more fill rest next) :
    (recvRequest c.u c.buff_size stream).outcome = .message r.request ∧
      (recvRequest c.u c.buff_size stream).rest = next := by
  have hhead := h.head
  have htakes := h.takes
  have hbody := h.body
  rcases h.half with ⟨rfl, rfl⟩ | ⟨hne, heq⟩
  · obtain rfl := htakes.of_zero
    rw [List.append_nil, List.append_nil] at hbody
    rw [← hbody, ← List.append_nil r.body] at hhead
    exact recvRequest_lost hwf h.length hhead
  · obtain ⟨hout, hrest⟩ := recvRequest_head hwf h.length hhead
    have hpos := List.length_pos_iff.mpr hne
    have hlen := congrArg List.length hbody
    rw [List.length_append, List.length_append] at hlen
    rw [heq] at htakes
    have hread := recvBody_read (by omega : held.length < r.body.length) (readFixSize_takes htakes)
    have hfill : List.replicate (r.body.length - held.length - more.length) 0 = fill := by
      refine (List.eq_replicate_iff.mpr ⟨?_, h.zero⟩).symm
      omega
    rw [if_neg (by omega), if_pos (by simpa using hpos), hfill, ← hbody] at hread
    rw [hread] at hout hrest
    exact ⟨hout, hrest⟩

end Sent

/-! ## all calls of a session -/

/-- every request arrives by reads that end with its body -/
inductive Kept : List Call → List Sent → Stream → Prop
  | done (stream : Stream) : Kept [] [] stream
  | call {c : Call} {r : Sent} {calls : List Call} {rs : List Sent} {stream rest next : Stream}
    {pieces : List Str} {held more fill : Str}
    (h : r.Arrives c stream pieces held more fill rest next) (hfill : fill = [] ∨ rs = [])
    (ht : Kept calls rs next) : Kept (c :: calls) (r :: rs) stream

theorem Kept.bytes {calls : List Call} {rs : List Sent} {stream : Stream}
    (h : Kept calls rs stream) : List.flatten (rs.map Sent.bytes) <+: List.flatten stream := by
  induction h with
  | done stream => exact List.nil_prefix
  | @call c r calls rs stream rest next pieces held more fill h hfill _ ih =>
    have hstream : List.flatten stream = r.head ++ (held ++ (more ++ List.flatten next)) := by
      rw [h.head.reads.append, h.head.bytes, h.takes.append, List.append_assoc]
    have hbytes : r.bytes = r.head ++ (held ++ (more ++ fill)) := by
      rw [Sent.bytes, h.body, List.append_assoc]
    rw [List.map_cons, List.flatten_cons, hstream, hbytes]
    simp only [List.append_assoc, List.prefix_append_right_inj]
    rcases hfill with rfl | rfl
    · exact ih
    · rw [List.map_nil, List.flatten_nil, List.append_nil]
      exact h.left

/-- **`k` calls return the `k` requests in order, when no read takes a byte behind the end of the
request that is read.** -/
theorem recvRequests_kept {calls : List Call} {rs : List Sent} {stream : Stream}
    (hwf : List.Forall₂ (fun c r => r.WellFormed c.u) calls rs) (h : Kept calls rs stream) :
    recvRequests calls stream = rs.map Sent.request ∧
      ((∀ r ∈ rs, r.request.close = false) →
        handleClient true calls stream = rs.map Sent.request) := by
  have hall : recvRequests calls stream = rs.map Sent.request := by
    induction h with
    | done stream => rfl
    | @call c r calls rs stream rest next pieces held more fill h _ _ ih =>
      obtain @⟨_⟩ | @⟨_, _, _, _, hr, hrs⟩ := hwf
      obtain ⟨hout, hrest⟩ := Sent.recvRequest_arrives hr h
      rw [recvRequests]
      generalize recvRequest c.u c.buff_size stream = called at hout hrest ⊢
      obtain ⟨outcome, rest', alloc⟩ := called
      obtain rfl : outcome = .message r.request := hout
      obtain rfl : rest' = next := hrest
      rw [List.map_cons, ← ih hrs]
  refine ⟨hall, fun hclose => ?_⟩
  rw [handleClient_alive calls stream, hall]
  intro req hreq
  rw [hall] at hreq
  obtain ⟨r, hr, rfl⟩ := List.mem_map.mp hreq
  exact hclose r hr

/-- the second half of a body comes in one piece with the next request -/
theorem two_kept : ∃ rs : List Sent,
    rs.map Sent.bytes
      = [asc "POST / HTTP/1.1\r\nContent-Length: 4\r\n\r\nabcd", asc "GET / HTTP/1.1\r\n\r\n"] ∧
    recvRequests [⟨.zero, 4096⟩, ⟨.zero, 4096⟩]
      [asc "POST / HTTP/1.1\r\nContent-Length: 4\r\n\r\nab", asc "cdGET / HTTP/1.1\r\n\r\n"]
      = rs.map Sent.request := by
  obtain ⟨r₁, hr₁⟩ : ∃ r, Sent.parse .zero (asc "POST / HTTP/1.1\r\nContent-Length: 4\r\n\r\n")
      (asc "abcd") = some r := Option.isSome_iff_exists.mp (by decide +kernel)
  obtain ⟨r₂, hr₂⟩ : ∃ r, Sent.parse .zero (asc "GET / HTTP/1.1\r\n\r\n") [] = some r :=
    Option.isSome_iff_exists.mp (by decide +kernel)
  obtain ⟨hwf₁, hhead₁, hbody₁⟩ := Sent.wellFormed_of_parse hr₁
  obtain ⟨hwf₂, hhead₂, hbody₂⟩ := Sent.wellFormed_of_parse hr₂
  have htakes : Stream.Takes 2 [asc "cdGET / HTTP/1.1\r\n\r\n"] (asc "cd" ++ [])
      [asc "GET / HTTP/1.1\r\n\r\n"] :=
    .read (by decide) (by decide +kernel) (by decide +kernel) (.done _)
  have h₁ : r₁.Arrives ⟨.zero, 4096⟩
      [asc "POST / HTTP/1.1\r\nContent-Length: 4\r\n\r\nab", asc "cdGET / HTTP/1.1\r\n\r\n"]
      [asc "POST / HTTP/1.1\r\nContent-Length: 4\r\n\r\nab"] (asc "ab") (asc "cd") []
      [asc "cdGET / HTTP/1.1\r\n\r\n"] [asc "GET / HTTP/1.1\r\n\r\n"] := by
    refine ⟨⟨.whole [_] [_] (by decide +kernel), ?_, by decide +kernel, by decide +kernel⟩, ?_, ?_,
      htakes, by decide +kernel, by decide +kernel, by decide +kernel⟩
    · rw [hhead₁]
      decide +kernel
    · rw [hbody₁]
      decide +kernel
    · rw [hbody₁]
      decide +kernel
  have h₂ : r₂.Arrives ⟨.zero, 4096⟩ [asc "GET / HTTP/1.1\r\n\r\n"]
      [asc "GET / HTTP/1.1\r\n\r\n"] [] [] [] [] [] := by
    refine ⟨⟨.whole [] [_] (by decide +kernel), ?_, by decide +kernel, by decide +kernel⟩, hbody₂, ?_,
      .done _, by decide +kernel, by decide +kernel, by decide +kernel⟩
    · rw [hhead₂]
      decide +kernel
    · rw [hbody₂]
      decide +kernel
  refine ⟨[r₁, r₂], ?_, ?_⟩
  · rw [List.map_cons, List.map_cons, Sent.bytes, Sent.bytes, hhead₁, hbody₁, hhead₂, hbody₂]
    decide +kernel
  · exact (recvRequests_kept (.cons hwf₁ (.cons hwf₂ .nil))
      (.call h₁ (.inl rfl) (.call h₂ (.inl rfl) (.done _)))).1

/-- two requests in one read: the second is gone with the buffer of the first call -/
theorem pipelined : ¬ ∀ (calls : List Call) (rs : List Sent) (stream : Stream),
    List.Forall₂ (fun c r => r.WellFormed c.u) calls rs → stream.Live →
    List.flatten stream = List.flatten (rs.map Sent.bytes) →
    recvRequests calls stream = rs.map Sent.request := by
  intro h
  obtain ⟨r, hr⟩ : ∃ r, Sent.parse .zero (asc "GET / HTTP/1.1\r\nConnection: keep-alive\r\n\r\n")
      [] = some r := Option.isSome_iff_exists.mp (by decide +kernel)
  obtain ⟨hwf, hhead, hbody⟩ := Sent.wellFormed_of_parse hr
  have hone : (recvRequests [⟨.zero, 4096⟩, ⟨.zero, 4096⟩]
      [asc "GET / HTTP/1.1\r\nConnection: keep-alive\r\n\r\n" ++
        asc "GET / HTTP/1.1\r\nConnection: keep-alive\r\n\r\n"]).length = 1 := by
    decide +kernel
  rw [h _ [r, r] _ (.cons hwf (.cons hwf .nil)) (by decide +kernel) ?_] at hone
  · cases hone
  · rw [List.map_cons, List.map_cons, Sent.bytes, hhead, hbody]
    decide +kernel

end Http
end KitServer
