import KitServer.Http.KeepAlive
import KitServer.Http.ResponseParts

/-!
# A request with a body, printed and received

`HttpRequest::dump` writes the length in front of a body, with a blank behind the colon.

* `Posted`              a request with any body, of parts that the grammar has;
* `arrived`             what comes back of it;
* `length_go`           the field `content-length`;
* `printed_wellFormed`  the text is a request on the wire.
-/

set_option linter.unusedVariables false

namespace KitServer
namespace Http
namespace Request
open Regex
open Uri (byte anyByte)

/-- a request with a body, of parts that the grammar has -/
structure Posted (r : HttpRequest) : Prop where
  head : Printable { r with body := [] }
  length : ∀ x ∈ r.headers, strcasecmpEq x.1 (asc "content-length") = false
  fits : r.toString.length < 2 ^ 63

/-- the request as it is received -/
def arrived (r : HttpRequest) : HttpRequest :=
  let headers := MapType.set (asc "connection") (connectionString r.close) r.headers
  { r with
    headers := if r.body.length ≠ 0 then
        MapType.set (asc "content-length") (decimal r.body.length) headers
      else headers }

/-- what is written in front of the body -/
def headText (r : HttpRequest) : Str :=
  HttpMethodToString r.method ++ 32 :: (r.path ++ (queryText r.query
    ++ (fragmentText r.fragment ++ 32 :: (versionString r.version ++ 13 :: 10 ::
      ((written r).flatMap (fun x => fieldString x ++ crlf)
        ++ (Response.lengthLine r.body ++ [13, 10]))))))

theorem dump_eq (r : HttpRequest) : r.toString = headText r ++ r.body := by
  have hspace : ∀ w : Str, 32 :: w = asc " " ++ w := fun w => rfl
  have hcrlf : ∀ w : Str, 13 :: 10 :: w = crlf ++ w := fun w => rfl
  have hlength : ∀ w : Str, asc "content-length" ++ 58 :: 32 :: w = asc "content-length: " ++ w :=
    fun w => rfl
  rw [HttpRequest.toString, dump_written, HttpRequest.startLine, headText, queryText, fragmentText,
    dumpBody, Response.lengthLine]
  simp only [hlength]
  by_cases hbody : r.body.length ≠ 0
  · rw [if_pos hbody, if_pos hbody]
    simp only [hspace, hcrlf, List.append_assoc, List.append_nil]
  · have hnil : r.body = [] := by simpa using hbody
    rw [if_neg hbody, if_neg hbody, hnil]
    simp only [hspace, hcrlf, List.append_assoc, List.nil_append, List.append_nil]

section
variable {rel : Bool} {stale : Nat → UInt8} {buffer rest : Str} {s : HttpRequestParser}
  {req : HttpRequest}

theorem blank_seg : seg anyByte [.startValue] [15] (byte 32) [15] = true := by
  decide +kernel

theorem digit_value {c : UInt8} (hc : Response.digitBytes.testBit c.toNat = true) :
    control c = false ∧ c ≠ 32 := by
  rw [Response.digitBytes, testBit_byteRange, Bool.and_eq_true, decide_eq_true_eq,
    decide_eq_true_eq] at hc
  rw [control]
  simp only [UInt8.lt_iff_toNat_lt, ← UInt8.toNat_inj, ne_eq]
  grind

theorem decimal_value (n : Nat) : Value (decimal n) where
  plain := fun c hc => (digit_value (Response.decimal_bytes hc)).1
  head := by
    intro h
    exact (digit_value (Response.decimal_bytes (List.mem_of_mem_head? h))).2 rfl

/-- **The field `content-length`.** -/
theorem length_go (rel : Bool) (stale : Nat → UInt8) (n : Nat)
    (hsuf : asc "content-length" ++ 58 :: 32 :: (decimal n ++ 13 :: 10 :: rest) <:+ buffer)
    (hlen : buffer.length < 2 ^ 63) (hs : Reads req s) :
    ∃ s', go rel stale buffer 13
        (asc "content-length" ++ 58 :: 32 :: (decimal n ++ 13 :: 10 :: rest)) s
        = go rel stale buffer 13 rest s'
      ∧ Reads (req.setHeader (asc "content-length") (decimal n)) s' := by
  have hname : Name (asc "content-length") := ⟨by decide, by decide +kernel⟩
  have hval := decimal_value n
  have hsuf₁ : 58 :: 32 :: (decimal n ++ 13 :: 10 :: rest) <:+ buffer := suffix_of_append hsuf
  have hsuf₂ : 32 :: (decimal n ++ 13 :: 10 :: rest) <:+ buffer :=
    suffix_of_append (w := [58]) hsuf₁
  have hsuf₃ : decimal n ++ 13 :: 10 :: rest <:+ buffer := suffix_of_append (w := [32]) hsuf₂
  have hsuf₄ : 13 :: 10 :: rest <:+ buffer := suffix_of_append hsuf₃
  have hsuf₅ : 10 :: rest <:+ buffer := suffix_of_append (w := [13]) hsuf₄
  obtain ⟨cs₁, hcs₁, hgo₁⟩ := seg_go rel segs.name (show 13 ∈ [13] from List.mem_cons_self)
    hname.mem hname.ne (anyHead _) hsuf (show runActs (act stale buffer _) [.startField] s
      = .ok { s with fieldStart := pos buffer (asc "content-length" ++ 58 :: 32 ::
          (decimal n ++ 13 :: 10 :: rest)) } from rfl)
  have hfield : runActs
        (act stale buffer (pos buffer (58 :: 32 :: (decimal n ++ 13 :: 10 :: rest)))) [.writeField]
        { s with fieldStart := pos buffer (asc "content-length" ++ 58 :: 32 ::
          (decimal n ++ 13 :: 10 :: rest)) }
      = .ok { s with
          fieldStart := pos buffer (asc "content-length" ++ 58 :: 32 ::
            (decimal n ++ 13 :: 10 :: rest))
          fieldLen := (asc "content-length").length } := by
    simp only [runActs, act, LEN_here hsuf]
  obtain ⟨cs₂, hcs₂, hgo₂⟩ := byte_go rel segs.colon hcs₁ hsuf₁ hfield
  generalize hs₂ : ({ s with
      fieldStart := pos buffer (asc "content-length" ++ 58 :: 32 :: (decimal n ++ 13 :: 10 :: rest))
      fieldLen := (asc "content-length").length } : HttpRequestParser) = s₂ at hgo₂
  obtain ⟨cs₃, hcs₃, hgo₃⟩ := byte_go rel blank_seg hcs₂ hsuf₂
    (show runActs (act stale buffer _) [.startValue] s₂
      = .ok { s₂ with mark := pos buffer (32 :: (decimal n ++ 13 :: 10 :: rest)) } from rfl)
  obtain ⟨cs₄, hcs₄, hgo₄⟩ := seg_go rel segs.value hcs₃ hval.mem (decimal_ne_nil n) hval.head_mem
    hsuf₃ (show runActs (act stale buffer _) [.startValue]
        { s₂ with mark := pos buffer (32 :: (decimal n ++ 13 :: 10 :: rest)) }
      = .ok { s₂ with mark := pos buffer (decimal n ++ 13 :: 10 :: rest) } from rfl)
  have hwrite : runActs (act stale buffer (pos buffer (13 :: 10 :: rest))) [.writeValue]
        { s₂ with mark := pos buffer (decimal n ++ 13 :: 10 :: rest) }
      = .ok { s₂ with
          mark := pos buffer (decimal n ++ 13 :: 10 :: rest)
          request := s.request.setHeader (asc "content-length") (decimal n) } := by
    rw [← hs₂, runActs, writeValue_here hsuf hsuf₃ hlen hname.ne rfl rfl rfl]
    rfl
  obtain ⟨cs₅, hcs₅, hgo₅⟩ := byte_go rel segs.valueEnd hcs₄ hsuf₄ hwrite
  obtain ⟨cs₆, hcs₆, hgo₆⟩ := byte_go rel segs.lineEnd hcs₅ hsuf₅
    (show runActs (act stale buffer _) [] _ = .ok _ from rfl)
  rw [List.mem_singleton] at hcs₆
  rw [hcs₆] at hgo₆
  refine ⟨_, hgo₁.trans (hgo₂.trans (hgo₃.trans (hgo₄.trans (hgo₅.trans hgo₆)))), ?_⟩
  rw [← hs₂]
  exact ⟨by rw [← hs.request], hs.error, hs.xmlSent, hs.jsonSent, hs.cs⟩

theorem arrived_connection (r : HttpRequest) :
    MapType.find (arrived r).headers (asc "connection") = some (connectionString r.close) := by
  have hset : MapType.find (MapType.set (asc "connection") (connectionString r.close) r.headers)
      (asc "connection") = some (connectionString r.close) := by
    rw [MapType.find_set, if_pos (by decide)]
  by_cases hbody : r.body.length ≠ 0
  · simp only [arrived, if_pos hbody]
    rw [MapType.find_set, if_neg (by decide), hset]
  · simp only [arrived, if_neg hbody]
    exact hset

theorem init_connection {close : Bool} {r : HttpRequest}
    (h : r.getHeader (asc "connection") [] = connectionString close) :
    r.init = { r with close := close } := by
  unfold HttpRequest.init
  rw [h]
  cases close with
  | true => rfl
  | false => rfl

/-- **A head that is printed is read to its end.** -/
theorem head_executed (rel : Bool) (stale : Nat → UInt8) (u : Ambient) {r : HttpRequest}
    (h : Posted r) :
    ∃ s, execute stale (headText r) rel (.new u) = .ok (s, (headText r).length)
      ∧ s.hasError = false ∧ s.isFinished = 1
      ∧ s.request.headers = (arrived r).headers
      ∧ s.request.init = { arrived r with body := [] } := by
  have hp := h.head
  have hfits : (headText r).length < 2 ^ 63 := by
    have hlen := h.fits
    rw [dump_eq, List.length_append] at hlen
    omega
  have hquery : r.query ∈ Rl.query.lang := by
    rcases hp.query with hnil | hmem
    · exact hnil ▸ (nil_mem_lang _).mpr (by decide)
    · exact hmem
  have hfragment : r.fragment ∈ Rl.fragment.lang := by
    rcases hp.fragment with hnil | hmem
    · exact hnil ▸ (nil_mem_lang _).mpr (by decide)
    · exact hmem
  have hnew : Reads HttpRequest.new (HttpRequestParser.new u).rewind := ⟨rfl, rfl, rfl, rfl, rfl⟩
  have htext : headText r = HttpMethodToString r.method ++ 32 :: (r.path ++ (queryText r.query
    ++ (fragmentText r.fragment ++ 32 :: (versionString r.version ++ 13 :: 10 ::
      ((written r).flatMap (fun x => fieldString x ++ crlf)
        ++ (Response.lengthLine r.body ++ [13, 10])))))) := rfl
  obtain ⟨s₁, hgo₁, hs₁⟩ : ∃ s', scan (trans rel) (act stale (headText r)) start 0 (headText r)
        (HttpRequestParser.new u).rewind
      = go rel stale (headText r) 3 (r.path ++ (queryText r.query ++ (fragmentText r.fragment
        ++ 32 :: (versionString r.version ++ 13 :: 10 ::
          ((written r).flatMap (fun x => fieldString x ++ crlf)
            ++ (Response.lengthLine r.body ++ [13, 10])))))) s'
      ∧ Reads { HttpRequest.new with method := r.method } s' := by
    rw [htext]
    exact method_go rel stale hnew hp.method
  generalize headText r = buffer at htext hgo₁ hfits ⊢
  generalize hlast : Response.lengthLine r.body ++ [13, 10] = last at htext hgo₁
  have hsuf₁ : r.path ++ (queryText r.query ++ (fragmentText r.fragment ++ 32 ::
      (versionString r.version ++ 13 :: 10 ::
        ((written r).flatMap (fun x => fieldString x ++ crlf) ++ last)))) <:+ buffer :=
    ⟨HttpMethodToString r.method ++ [32], by rw [htext, List.append_assoc]; rfl⟩
  have hsuf₂ : versionString r.version ++ 13 :: 10 ::
      ((written r).flatMap (fun x => fieldString x ++ crlf) ++ last) <:+ buffer :=
    suffix_of_append (w := [32]) (suffix_of_append (suffix_of_append (suffix_of_append hsuf₁)))
  have hsuf₃ : (written r).flatMap (fun x => fieldString x ++ crlf) ++ last <:+ buffer :=
    suffix_of_append (w := [13, 10]) (suffix_of_append hsuf₂)
  have hsuf₄ : last <:+ buffer := suffix_of_append hsuf₃
  obtain ⟨s₂, hgo₂, hs₂⟩ := target_go rel hp.path hquery hfragment hsuf₁ hfits hs₁ rfl rfl
  obtain ⟨s₃, hgo₃, hs₃⟩ := version_go rel hp.version hsuf₂ hs₂
  obtain ⟨s₄, hgo₄, hs₄⟩ := fields_go rel (written r)
    (written_fields (r := { r with body := [] }) hp) hfits _ s₃ hsuf₃ hs₃
  have hheaders : setAll (written r) []
      = MapType.set (asc "connection") (connectionString r.close) r.headers :=
    setAll_written (r := { r with body := [] }) hp
  obtain ⟨s₅, hgo₅, hs₅⟩ : ∃ s₅, go rel stale buffer 13 last s₄
        = go rel stale buffer 13 [13, 10] s₅
      ∧ Reads { arrived r with body := [], close := HttpRequest.new.close } s₅ := by
    by_cases hbody : r.body.length ≠ 0
    · have hsplit : last = asc "content-length" ++ 58 :: 32 :: (decimal r.body.length ++ 13 :: 10 ::
          [13, 10]) := by
        rw [← hlast, Response.lengthLine, if_pos hbody]
        simp only [List.append_assoc, List.cons_append]
        rfl
      rw [hsplit] at hsuf₄ ⊢
      obtain ⟨s₅, hgo₅, hs₅⟩ := length_go rel stale r.body.length hsuf₄ hfits hs₄
      refine ⟨s₅, hgo₅, ?_⟩
      rw [arrived, if_pos hbody, ← hheaders]
      exact hs₅
    · have hsplit : last = [13, 10] := by
        rw [← hlast, Response.lengthLine, if_neg hbody]
        rfl
      rw [hsplit]
      refine ⟨s₄, rfl, ?_⟩
      rw [arrived, if_neg hbody, ← hheaders]
      exact hs₄
  have hsuf₅ : [13, 10] <:+ buffer :=
    suffix_of_append (w := Response.lengthLine r.body) (hlast ▸ hsuf₄)
  obtain ⟨s₆, hgo₆, hs₆⟩ := end_go rel hsuf₅ hs₅
  have hscan : scan (trans rel) (act stale buffer) (HttpRequestParser.new u).cs 0 buffer
      (HttpRequestParser.new u).rewind = .stop firstFinal buffer.length s₆ := by
    rw [← hgo₆, ← hgo₅, ← hgo₄, ← hgo₃, ← hgo₂, ← hgo₁]
    rfl
  have hcs : s₆.setCs firstFinal = { s₆ with cs := firstFinal } :=
    if_neg (show ¬ s₆.cs = error by rw [hs₆.cs]; decide)
  have hne : buffer.length ≠ 0 := by
    rw [htext]
    simp
  refine ⟨{ s₆ with cs := firstFinal }, ?_, ?_, rfl, ?_, ?_⟩
  · unfold execute
    rw [if_neg hne, hscan, ← hcs]
  · show (decide (s₆.error ≠ 0) || decide (firstFinal = error)) = false
    rw [hs₆.error]
    decide
  · show s₆.request.headers = _
    rw [hs₆.request]
  · have hget : s₆.request.getHeader (asc "connection") [] = connectionString r.close := by
      rw [hs₆.request]
      exact (congrArg (fun o => Option.getD o []) (arrived_connection r)).trans rfl
    show s₆.request.init = _
    rw [init_connection hget, hs₆.request]
    rfl

/-- the text is a request on the wire -/
theorem printed_wellFormed (u : Ambient) {r : HttpRequest} (h : Posted r) :
    ∃ sent : Sent, sent.WellFormed u ∧ sent.head = headText r ∧ sent.body = r.body ∧
      ∀ body, { sent.parser.request with body := body }.init = { arrived r with body := body } := by
  obtain ⟨s, hex, herr, hfin, hheaders, hinit⟩ :=
    head_executed u.uriRelaxed (fun _ => 0) u h
  have hfits := h.fits
  rw [dump_eq, List.length_append] at hfits
  have hno : MapType.find (MapType.set (asc "connection") (connectionString r.close) r.headers)
      (asc "content-length") = none := by
    rw [MapType.find_set, if_neg (by decide)]
    exact Response.find_none h.length
  have hcontent : s.getContentLength u = r.body.length := by
    rw [HttpRequestParser.getContentLength, hheaders, MapType.getAs]
    by_cases hbody : r.body.length ≠ 0
    · simp only [arrived, if_pos hbody]
      rw [MapType.find_set, if_pos (by decide)]
      dsimp only
      rw [u.lexical_cast.read_decimal _ (by omega)]
    · simp only [arrived, if_neg hbody]
      rw [hno]
      exact (not_not.mp hbody).symm
  refine ⟨⟨headText r, r.body, s⟩, ⟨show (headText r).length < 2 ^ 63 by omega, ⟨_, hex⟩, herr,
    by rw [hfin]; decide, hcontent⟩, rfl, rfl, fun body => ?_⟩
  have hbodies : ∀ q : HttpRequest,
      { q with body := body }.init = { q.init with body := body } := by
    intro q
    unfold HttpRequest.init HttpRequest.getHeader
    dsimp only
    split <;> rfl
  show { s.request with body := body }.init = _
  rw [hbodies, hinit]

theorem recvRequest_printed {c : Call} {r : HttpRequest} (h : Posted r) {stream rest : Stream}
    {pieces : List Str} {held : Str} (hreads : stream.Reads c.buff_size pieces rest)
    (hbytes : List.flatten pieces = headText r ++ held)
    (hclean : cleanCuts c.u.uriRelaxed start pieces = true)
    (hroom : toInt32 c.buff_size ≠ 0 ∧ toInt32 c.buff_size ≠ held.length) :
    (recvRequest c.u c.buff_size stream).outcome =
        ((recvBody r.body.length held rest).map fun body =>
          { arrived r with body := body }).outcome ∧
      (recvRequest c.u c.buff_size stream).rest = (recvBody r.body.length held rest).rest := by
  obtain ⟨sent, hwf, hhead, hbody, hinit⟩ := printed_wellFormed c.u h
  have hfits := h.fits
  rw [dump_eq, List.length_append] at hfits
  have harrives : sent.HeadArrives c stream pieces held rest :=
    ⟨hreads, by rw [hbytes, hhead], hclean, hroom⟩
  have hcall := Sent.recvRequest_head hwf (by rw [hbody]; omega) harrives
  rw [hbody] at hcall
  simp only [hinit] at hcall
  exact hcall

end

/-- **A request that is printed is received, and nothing behind it is lost, exactly when its body
fits the reads.** -/
theorem posted_comes_back (c : Call) (r : HttpRequest) (h : Posted r) (stream rest : Stream)
    (pieces : List Str) (held more : Str) (hreads : stream.Reads c.buff_size pieces rest)
    (hbytes : List.flatten pieces = headText r ++ held)
    (hclean : cleanCuts c.u.uriRelaxed start pieces = true)
    (hroom : toInt32 c.buff_size ≠ 0 ∧ toInt32 c.buff_size ≠ held.length) (hlive : rest.Live)
    (hsent : held ++ List.flatten rest = r.body ++ more) :
    (recvRequest c.u c.buff_size stream).outcome = .message (arrived r) ∧
        more <:+ List.flatten (recvRequest c.u c.buff_size stream).rest ↔
      BodyFits r.body.length held rest := by
  obtain ⟨hout, hrest⟩ := recvRequest_printed h hreads hbytes hclean hroom
  have hfits := h.fits
  rw [dump_eq, List.length_append] at hfits
  rw [hout, hrest]
  exact recvBody_sent_iff (f := fun body => { arrived r with body := body })
    (fun a b hab => congrArg HttpRequest.body hab) (by omega) hlive hsent

/-- a request with a body of four bytes -/
def examplePost : HttpRequest where
  method := .POST
  version := 0x11
  close := false
  path := asc "/a"
  query := []
  fragment := []
  body := asc "abcd"
  headers := [(asc "Host", asc "h")]

theorem examplePost_posted : Posted examplePost where
  head := {
    body := rfl
    method := by decide +kernel
    version := .inr rfl
    path := show asc "/a" ∈ Rl.pathAbsolute.lang by decide +kernel
    query := .inl rfl
    fragment := .inl rfl
    ordered := List.pairwise_singleton _ _
    fields := by
      intro x hx
      obtain rfl := List.mem_singleton.mp hx
      exact ⟨⟨by decide, by decide +kernel⟩, ⟨by decide +kernel, by decide⟩⟩
    connection := by decide +kernel }
  length := by decide +kernel
  fits := by decide +kernel

/-- half of the body comes with the head -/
theorem posted_comes_back_halves :
    (recvRequest .zero 4096 [headText examplePost ++ asc "ab", asc "cd"]).outcome
        = .message (arrived examplePost) ∧
      ([] : Str) <:+ List.flatten
        (recvRequest .zero 4096 [headText examplePost ++ asc "ab", asc "cd"]).rest :=
  (posted_comes_back ⟨.zero, 4096⟩ examplePost examplePost_posted
    [headText examplePost ++ asc "ab", asc "cd"] [asc "cd"] [headText examplePost ++ asc "ab"]
    (asc "ab") [] (.whole [asc "cd"] [_] (by decide +kernel)) (List.append_nil _)
    (by decide +kernel) (by decide +kernel) (by decide) (by decide)).mpr
    ⟨by decide +kernel, .inr ⟨by decide +kernel, by decide +kernel, by decide +kernel⟩⟩

end Request
end Http
end KitServer
