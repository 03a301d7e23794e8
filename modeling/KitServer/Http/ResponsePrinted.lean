import KitServer.Http.ResponseParts

/-!
# A response that is printed and parsed

`HttpResponse::dump` writes the status line, the fields of the map, the field `connection` and, in
front of a body, its length.  `HttpConnection::recvResponse` finds all of the head in its first
read.

* `Printable`             a response of parts that the parser knows;
* `received`              what comes back of it;
* `head_executed`         the head is read to its end, whatever follows it in the buffer;
* `response_comes_back`   the response is received exactly when its body fits the reads.
-/

set_option linter.unusedVariables false

namespace KitServer
namespace Http
namespace Response
open Request (pos suffix_of_append Name Ordered)

/-! ## the response -/

/-- what is written of the reason -/
def phrase (r : HttpResponse) : Str :=
  if r.reason.length ≠ 0 then r.reason else HttpStatusToString r.status

/-- what is written in front of the body -/
def headText (r : HttpResponse) : Str :=
  versionString r.version ++ 32 :: (decimal (r.status % 2 ^ 32).toNat ++ 32 :: (phrase r ++ 13 :: 10
    :: (r.headers.flatMap (fun x => fieldString x ++ crlf) ++ (asc "connection" ++ 58 :: 32 ::
      (connectionString r.close ++ 13 :: 10 :: (lengthLine r.body ++ 13 :: 10 :: []))))))

/-- a response of parts that the parser knows -/
structure Printable (r : HttpResponse) : Prop where
  version : r.version = 0x10 ∨ r.version = 0x11
  status : 0 ≤ r.status ∧ r.status < 2 ^ 31
  reason : Line r.reason
  ordered : Ordered r.headers
  fields : ∀ x ∈ r.headers, Field x

/-- the response as it is received: with the fields that were added, and with the reason that was
written; `close` is what it is in a new response -/
def received (r : HttpResponse) : HttpResponse where
  status := r.status
  version := r.version
  close := true
  body := r.body
  reason := phrase r
  headers :=
    let headers := MapType.set (asc "connection") (connectionString r.close) r.headers
    if r.body.length ≠ 0 then MapType.set (asc "content-length") (decimal r.body.length) headers
    else headers

theorem httpStatusMap_plain :
    httpStatusMap.all (fun x => !x.2.isEmpty && x.2.all fun c => 32 ≤ c) = true := by
  decide +kernel

theorem httpStatusMap_line {x : Int × Str} (hx : x ∈ httpStatusMap) : Line x.2 ∧ x.2 ≠ [] := by
  have h := List.all_eq_true.mp httpStatusMap_plain x hx
  simp only [Bool.and_eq_true, Bool.not_eq_true', List.isEmpty_eq_false_iff, List.all_eq_true,
    decide_eq_true_eq] at h
  refine ⟨fun c hc => ⟨?_, ?_⟩, h.1⟩
  · rintro rfl
    exact absurd (h.2 10 hc) (by decide)
  · rintro rfl
    exact absurd (h.2 13 hc) (by decide)

theorem phrase_line {r : HttpResponse} (h : Printable r) : Line (phrase r) ∧ phrase r ≠ [] := by
  unfold phrase
  split
  · next hne => exact ⟨h.reason, fun hnil => hne (by rw [hnil]; rfl)⟩
  · unfold HttpStatusToString
    split
    · next x hfind => exact httpStatusMap_line (List.mem_of_find?_eq_some hfind)
    · exact ⟨show ∀ c ∈ asc "<unknown>", c ≠ 10 ∧ c ≠ 13 by decide +kernel, by decide⟩

theorem dump_eq {r : HttpResponse} (h : Printable r) : r.toString = headText r ++ r.body := by
  have hkept : r.headers.filter (fun x => !strcasecmpEq x.1 (asc "connection")) = r.headers := by
    refine List.filter_eq_self.mpr fun x hx => ?_
    rw [(h.fields x hx).plain (asc "connection") (by simp [special])]
    rfl
  have hblank : ∀ w : Str, 32 :: w = asc " " ++ w := fun w => rfl
  have hcrlf : ∀ w : Str, 13 :: 10 :: w = crlf ++ w := fun w => rfl
  have hcolon : ∀ w : Str, asc "connection" ++ 58 :: 32 :: w = asc "connection: " ++ w :=
    fun w => rfl
  have hlength : ∀ w : Str, asc "content-length" ++ 58 :: 32 :: w = asc "content-length: " ++ w :=
    fun w => rfl
  rw [headText, HttpResponse.toString, HttpResponse.dump, HttpResponse.startLine, dumpHeaders,
    hkept, phrase, lengthLine, dumpBody]
  simp only [hcolon, hlength]
  by_cases hbody : r.body.length ≠ 0
  · rw [if_pos hbody, if_pos hbody]
    simp only [hblank, hcrlf, List.append_assoc, List.nil_append]
  · have hnil : r.body = [] := by simpa using hbody
    rw [if_neg hbody, if_neg hbody, hnil]
    simp only [hblank, hcrlf, List.append_assoc, List.nil_append, List.append_nil]

theorem setAll_ordered {m : MapType} : Ordered m → setAll m [] = m := by
  induction m using List.reverseRecOn with
  | nil => intro _; rfl
  | append_singleton m x ih =>
    intro hm
    obtain ⟨hleft, _, hless⟩ := List.pairwise_append.mp hm
    have hset := Request.set_last (m := m) (x := x) fun y hy => hless y hy x List.mem_cons_self
    have hprefix := ih hleft
    rw [setAll] at hprefix
    rw [setAll, List.foldl_append, hprefix]
    exact hset

section
variable (stale : Nat → UInt8) {r : HttpResponse} {behind : Str}

/-- **A head that is printed is read to its end.** -/
theorem head_scanned (h : Printable r) (hlen : (headText r ++ behind).length < 2 ^ 63) :
    ∃ s, scan trans (act stale (headText r ++ behind)) start 0 (headText r ++ behind)
        HttpResponseParser.new.rewind = .stop firstFinal (headText r).length s
      ∧ Reads { received r with body := [] } s := by
  obtain ⟨n, hn⟩ := Int.eq_ofNat_of_zero_le h.status.1
  have hn31 : n < 2 ^ 31 := by
    have := h.status.2
    omega
  have hmod : (r.status % 2 ^ 32).toNat = n := by
    rw [hn]
    omega
  obtain ⟨hline, hne⟩ := phrase_line h
  generalize hbuf : headText r ++ behind = buffer at hlen ⊢
  have htext := hbuf.symm
  simp only [headText, List.append_assoc, List.cons_append, List.nil_append, hmod] at htext
  generalize hlast : lengthLine r.body ++ 13 :: 10 :: behind = last at htext
  obtain ⟨s₁, hgo₁, hs₁⟩ := version_go stale (s := HttpResponseParser.new.rewind)
    h.version htext ⟨rfl, rfl, rfl⟩
  have hsuf₁ : decimal n ++ 32 :: (phrase r ++ 13 :: 10 ::
      (r.headers.flatMap (fun x => fieldString x ++ crlf) ++ (asc "connection" ++ 58 :: 32 ::
        (connectionString r.close ++ 13 :: 10 :: last)))) <:+ buffer :=
    ⟨versionString r.version ++ [32], by rw [htext, List.append_assoc]; rfl⟩
  have hsuf₂ := suffix_of_append (w := [32]) (suffix_of_append hsuf₁)
  have hsuf₃ := suffix_of_append (w := [13, 10]) (suffix_of_append hsuf₂)
  have hsuf₄ := suffix_of_append hsuf₃
  have hsuf₅ : last <:+ buffer := suffix_of_append (w := [13, 10])
    (suffix_of_append (suffix_of_append (w := [58, 32]) (suffix_of_append hsuf₄)))
  obtain ⟨s₂, hgo₂, hs₂⟩ := status_go stale hn31 hsuf₁ hs₁
  obtain ⟨s₃, hgo₃, hs₃⟩ := reason_go stale hline hne hsuf₂ hlen hs₂
  obtain ⟨s₄, hgo₄, hs₄⟩ := fields_go stale r.headers h.fields hlen
    { HttpResponse.new with version := r.version, status := (n : Int), reason := phrase r } s₃ hsuf₃
    hs₃
  have hheaders : setAll r.headers HttpResponse.new.headers = r.headers := setAll_ordered h.ordered
  dsimp only at hs₄
  rw [hheaders] at hs₄
  obtain ⟨x, hx, s₅, hgo₅, hs₅⟩ := connection_go stale r.close hsuf₄ hlen hs₄
  obtain ⟨y, hy, s₆, hgo₆, hs₆⟩ : ∃ y ∈ lineStarts, ∃ s₆,
      go stale buffer x.1 last s₅ = go stale buffer y.1 (13 :: 10 :: behind) s₆
        ∧ Reads { received r with body := [] } s₆ := by
    by_cases hbody : r.body.length ≠ 0
    · have hsplit : last = asc "content-length" ++ 58 :: 32 :: (decimal r.body.length ++ 13 :: 10 ::
          (13 :: 10 :: behind)) := by
        rw [← hlast, lengthLine, if_pos hbody]
        simp only [List.append_assoc, List.cons_append]
        rfl
      rw [hsplit] at hsuf₅ ⊢
      obtain ⟨s₆, hgo₆, hs₆⟩ := length_go stale hx r.body.length hsuf₅ hlen hs₅
      refine ⟨(20, []), by simp [lineStarts], s₆, hgo₆, ?_⟩
      rw [received, if_pos hbody, hn]
      exact hs₆
    · have hsplit : last = 13 :: 10 :: behind := by
        rw [← hlast, lengthLine, if_neg hbody]
        rfl
      rw [hsplit]
      refine ⟨x, hx, s₅, rfl, ?_⟩
      rw [received, if_neg hbody, hn]
      exact hs₅
  have hsuf₆ : 13 :: 10 :: behind <:+ buffer :=
    suffix_of_append (w := lengthLine r.body) (hlast ▸ hsuf₅)
  obtain ⟨s₇, hgo₇, hs₇⟩ := end_go stale hy hsuf₆ hs₆
  have hpos : pos buffer behind = (headText r).length := by
    rw [pos, ← hbuf, List.length_append]
    omega
  refine ⟨s₇, ?_, hs₇⟩
  rw [hgo₁, hgo₂, hgo₃, hgo₄, hgo₅, hgo₆, hgo₇, hpos]

/-- **The head of a response that is printed comes back when the text is parsed.** -/
theorem head_executed (h : Printable r) (hlen : (headText r ++ behind).length < 2 ^ 63) :
    ∃ s, execute stale (headText r ++ behind) false .new = .ok (s, (headText r).length)
      ∧ s.cs = firstFinal ∧ s.error = 0 ∧ s.chunked = false
      ∧ s.response = { received r with body := [] } := by
  obtain ⟨s, hscan, hs⟩ := head_scanned stale h hlen
  have hne : headText r ++ behind ≠ [] := by
    rw [headText]
    simp
  obtain ⟨s', n, hex, _⟩ := execute_safe stale hne hlen false .new
  have hstart : HttpResponseParser.new.cs = start := rfl
  have hcopy := hex
  rw [execute] at hcopy
  simp only [Bool.false_eq_true, if_false, hstart, hscan] at hcopy
  have hs' := checked_ok hcopy
  have hn : (headText r).length = n := by
    unfold checked at hcopy
    split at hcopy
    · exact congrArg Prod.snd (Except.ok.inj hcopy)
    · cases hcopy
  subst hs' hn
  exact ⟨_, hex, rfl, hs.error, hs.chunked, hs.response⟩

end

/-! ## the connection -/

theorem getContentLength_received (lexical_cast : LexicalCast) {r : HttpResponse}
    (h : Printable r) (hlen : r.body.length < 2 ^ 63) :
    (received r).headers.getAs lexical_cast.uint64 (asc "content-length") 0 = r.body.length := by
  have hfind : MapType.find (received r).headers (asc "content-length")
      = if r.body.length ≠ 0 then some (decimal r.body.length) else none := by
    have hno : MapType.find (MapType.set (asc "connection") (connectionString r.close) r.headers)
        (asc "content-length") = none := by
      rw [MapType.find_set, if_neg (by decide)]
      exact find_none fun x hx => (h.fields x hx).plain (asc "content-length") (by simp [special])
    by_cases hbody : r.body.length ≠ 0
    · simp only [received, if_pos hbody]
      rw [MapType.find_set, if_pos (by decide)]
    · simp only [received, if_neg hbody]
      exact hno
  rw [MapType.getAs, hfind]
  by_cases hbody : r.body.length ≠ 0
  · rw [if_pos hbody]
    dsimp only
    rw [lexical_cast.read_decimal _ (by omega)]
  · rw [if_neg hbody]
    exact (not_not.mp hbody).symm

section
variable {u : Ambient} {buff_size : Nat} {r : HttpResponse} {stream rest : Stream} {held : Str}

theorem recvResponse_head (hb : buff_size < 2 ^ 31) (h : Printable r)
    (hlen : r.body.length < 2 ^ 63) (hread : stream.read buff_size = (headText r ++ held, rest)) :
    (recvResponse u buff_size stream).outcome =
        ((recvBody r.body.length held rest).map fun body =>
          { received r with body := body }).outcome ∧
      (recvResponse u buff_size stream).rest = (recvBody r.body.length held rest).rest := by
  have hle := Stream.length_read_le buff_size stream
  rw [hread] at hle
  dsimp only at hle
  have hne : headText r ≠ [] := by
    rw [headText]
    simp
  obtain ⟨s, hex, hcs, herr, hchunked, hrsp⟩ :=
    head_executed (u.stale rest.left) h (show (headText r ++ held).length < 2 ^ 63 by omega)
  have hhead : recvResponseHead u buff_size stream = .finished s held rest := by
    have hdone := read_loop_done (u := u) hb (show ([] : Str).length ≤ _ from Nat.zero_le _) hread
      (by simp [hne]) (List.length_pos_iff.mpr hne) false hex hcs herr
    rw [List.nil_append, List.drop_left] at hdone
    exact hdone
  have hlength : s.getContentLength u = r.body.length := by
    rw [HttpResponseParser.getContentLength, hrsp]
    exact getContentLength_received u.lexical_cast h hlen
  rw [recvResponse_body hhead hchunked, hlength, toInt64_of_lt hlen, hrsp]
  split
  · exact ⟨rfl, rfl⟩
  · next hzero =>
    have hzero : r.body.length = 0 := by omega
    rw [hzero, recvBody_held (Nat.zero_le held.length), List.take_zero]
    exact ⟨rfl, rfl⟩

theorem recvResponse_whole (hb : buff_size < 2 ^ 31) (h : Printable r)
    (hread : stream.read buff_size = (r.toString, rest)) :
    (recvResponse u buff_size stream).outcome = .message (received r) ∧
      (recvResponse u buff_size stream).rest = rest := by
  have hle := Stream.length_read_le buff_size stream
  rw [hread, dump_eq h] at hle
  dsimp only at hle
  rw [List.length_append] at hle
  rw [dump_eq h] at hread
  obtain ⟨hout, hrest⟩ := recvResponse_head (u := u) hb h (by omega) hread
  rw [recvBody_held (Nat.le_refl _), List.take_length] at hout
  rw [recvBody_held (Nat.le_refl _)] at hrest
  exact ⟨hout, hrest⟩

end

/-- **A response that is printed is received, and nothing behind it is lost, exactly when its body
fits the reads.** -/
theorem response_comes_back (u : Ambient) (buff_size : Nat) (hb : buff_size < 2 ^ 31)
    (r : HttpResponse) (h : Printable r) (hlen : r.body.length < 2 ^ 63) (stream rest : Stream)
    (held more : Str) (hread : stream.read buff_size = (headText r ++ held, rest))
    (hlive : rest.Live) (hsent : held ++ List.flatten rest = r.body ++ more) :
    (recvResponse u buff_size stream).outcome = .message (received r) ∧
        more <:+ List.flatten (recvResponse u buff_size stream).rest ↔
      BodyFits r.body.length held rest := by
  obtain ⟨hout, hrest⟩ := recvResponse_head (u := u) hb h hlen hread
  rw [hout, hrest]
  exact recvBody_sent_iff (f := fun body => { received r with body := body })
    (fun a b hab => congrArg HttpResponse.body hab) hlen hlive hsent

/-- a page of two lines, with a field without a value -/
def exampleResponse : HttpResponse where
  status := 404
  version := 0x10
  close := true
  body := asc "a\r\nb"
  reason := []
  headers := [(asc "Content-type", asc "text/html"), (asc "Server", [])]

theorem exampleResponse_printable : Printable exampleResponse where
  version := .inl rfl
  status := by decide
  reason := fun c hc => by cases hc
  ordered := show List.Pairwise _
    [(asc "Content-type", asc "text/html"), (asc "Server", [])] by decide +kernel
  fields := by
    intro x hx
    rcases List.mem_cons.mp hx with rfl | hx
    · have hline : ∀ c ∈ asc "text/html", c ≠ 10 ∧ c ≠ 13 := by decide +kernel
      have hhead : ∀ c ∈ (asc "text/html").head?, isspace c = false := by
        intro c hc
        cases hc
        decide
      exact ⟨⟨by decide, by decide +kernel⟩, ⟨hline, hhead⟩, by decide +kernel⟩
    · obtain rfl := List.mem_singleton.mp hx
      exact ⟨⟨by decide, by decide +kernel⟩, ⟨List.forall_mem_nil _, fun c hc => by cases hc⟩,
        by decide +kernel⟩

/-- it comes back from one read, with the first byte of the next response in the second -/
theorem response_comes_back_page :
    (recvResponse .zero 4096 [exampleResponse.toString, asc "H"]).outcome
        = .message (received exampleResponse) ∧
      asc "H" <:+ List.flatten (recvResponse .zero 4096 [exampleResponse.toString, asc "H"]).rest :=
  (response_comes_back .zero 4096 (by decide) exampleResponse exampleResponse_printable (by decide)
    [exampleResponse.toString, asc "H"] [asc "H"] exampleResponse.body (asc "H")
    (by decide +kernel) (by decide) (by decide)).mpr ⟨by decide, .inl rfl⟩

end Response
end Http
end KitServer
