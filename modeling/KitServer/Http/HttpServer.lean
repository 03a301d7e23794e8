import KitServer.Http.RequestPrinted
import KitServer.Http.ResponsePrinted
import KitServer.Http.Servlet

/-!
# `HttpServer::handleClient` and its client

A servlet makes what its `handle` leaves of the request, the response and the session (`Handled`).  A
call of `recvRequest` or `recvResponse` finds memory that is not set and a buffer (`Call`).

* `HttpServer.handleClient`   the loop, with what the servlets have made and how it ends;
* `Served`                    each request is received from what the servlets before it have left;
* `handled_requests`          with servlets that leave the session alone, the requests are those of
                              the loop without responses;
* `closing_announced`         the last response says `close` exactly when the server ends the
                              connection on its own, and no response before it does;
* `session_answered`          a client that prints its requests receives the responses of the
                              servlets, one for each request, in order.
-/

set_option linter.unusedVariables false

namespace KitServer
namespace Http

/-- what `handle` leaves: the objects behind its pointers, and the session -/
structure Handled where
  request : HttpRequest
  response : HttpResponse
  rest : Stream
  written : List Str
  closed : Bool

/-- what the session can still read -/
def Handled.left (h : Handled) : Stream := if h.closed then [] else h.rest

/-- `handle`, with what the session has left to read -/
abbrev Servlet := HttpRequest → HttpResponse → Stream → Handled

/-- `ServletDispatch::handle` -/
def ServletDispatch.handle (fnmatch : Str → Str → Bool) (d : ServletDispatch Servlet) : Servlet :=
  fun request response rest =>
    match d.getMatchedServlet fnmatch request.path with
    | some slt => slt request response rest
    | none => ⟨request, response, rest, [], false⟩

/-- the page of the `NotFoundServlet`, with its `</hl>` -/
def NotFoundServlet.content (serverName : Str) : Str :=
  asc "<html><head><title>404 Not Found</title></head>"
    ++ asc "<body><center><h1>404 Not Found</hl></center><hr><center>"
    ++ serverName ++ asc "</center></hr></body></html>"

/-- what the `NotFoundServlet` makes of the response -/
def NotFoundServlet.answer (serverName : Str) (response : HttpResponse) : HttpResponse :=
  let response := { response with status := 404 }
  let response := response.setHeader (asc "Server") serverName
  let response := response.setHeader (asc "Content-type") (asc "text/html")
  { response with body := NotFoundServlet.content serverName }

/-- `NotFoundServlet::handle` -/
def NotFoundServlet (serverName : Str) : Servlet := fun request response rest =>
  ⟨request, NotFoundServlet.answer serverName response, rest, [], false⟩

structure HttpServer where
  m_isKeepalive : Bool
  m_name : Str
  m_dispatch : ServletDispatch Servlet

namespace HttpServer

def new (keepalive : Bool) : HttpServer :=
  ⟨keepalive, asc "kit/1.0.0", .new (some (NotFoundServlet (asc "kit_server/1.0.0")))⟩

def setName (v : Str) (s : HttpServer) : HttpServer :=
  { s with
    m_name := v
    m_dispatch := { s.m_dispatch with defaultServlet := some (NotFoundServlet v) } }

/-- the response that the servlets are given -/
def prepared (s : HttpServer) (req : HttpRequest) : HttpResponse :=
  let rsp := { HttpResponse.new with
    version := req.version
    close := req.close || !s.m_isKeepalive }
  rsp.setHeader (asc "Server") s.m_name

def respond (fnmatch : Str → Str → Bool) (s : HttpServer) (req : HttpRequest) (rest : Stream) :
    Handled :=
  s.m_dispatch.handle fnmatch req (s.prepared req) rest

/-- why a run of `handleClient` is over: it awaits its next request, it got none, the process is
broken, or it has answered the last one -/
inductive End where
  | awaits
  | noRequest
  | fault (e : Fault)
  | answered
deriving DecidableEq

/-- a request as it was received, and what was made of it -/
structure Exchange where
  request : HttpRequest
  handled : Handled

/-- what is written to the session -/
def Exchange.sent (x : Exchange) : List Str :=
  x.handled.written ++ if x.handled.closed then [] else [x.handled.response.toString]

structure Run where
  exchanges : List Exchange
  ended : End

/-- one exchange in front of a run -/
def Run.cons (x : Exchange) (r : Run) : Run := ⟨x :: r.exchanges, r.ended⟩

def Run.sent (r : Run) : List Str := r.exchanges.flatMap Exchange.sent

/-- the result of `sendResponse` is dropped, so the loop does not depend on it -/
def handleClient (fnmatch : Str → Str → Bool) (s : HttpServer) : List Call → Stream → Run
  | [], _ => ⟨[], .awaits⟩
  | c :: calls, stream =>
    match recvRequest c.u c.buff_size stream with
    | ⟨.null, _, _⟩ => ⟨[], .noRequest⟩
    | ⟨.fault e, _, _⟩ => ⟨[], .fault e⟩
    | ⟨.message req, rest, _⟩ =>
      let h := s.respond fnmatch req rest
      -- `isClose` is asked of the request as the servlet has left it
      if !s.m_isKeepalive || h.request.close then ⟨[⟨req, h⟩], .answered⟩
      else (handleClient fnmatch s calls h.left).cons ⟨req, h⟩

/-- the exchanges of a connection: each request is what the next call of `recvRequest` gets of what
is left, and each response is what the servlets make of it -/
inductive Served (fnmatch : Str → Str → Bool) (s : HttpServer) :
    List Call → Stream → List Exchange → Prop where
  | none {calls : List Call} {stream : Stream} : Served fnmatch s calls stream []
  | cons {c : Call} {calls : List Call} {stream rest : Stream} {req : HttpRequest} {alloc : Nat}
      {xs : List Exchange} (hreq : recvRequest c.u c.buff_size stream = ⟨.message req, rest, alloc⟩)
      (hnext : Served fnmatch s calls (s.respond fnmatch req rest).left xs) :
      Served fnmatch s (c :: calls) stream (⟨req, s.respond fnmatch req rest⟩ :: xs)

/-- the servlets leave `m_close` of the request alone and do nothing with the session; `answer` is
what they make of a response -/
def Quiet (fnmatch : Str → Str → Bool) (s : HttpServer)
    (answer : HttpRequest → HttpResponse → HttpResponse) : Prop :=
  ∀ req rsp rest, ∃ req', s.m_dispatch.handle fnmatch req rsp rest
    = ⟨req', answer req rsp, rest, [], false⟩ ∧ req'.close = req.close

variable {fnmatch : Str → Str → Bool} {s : HttpServer}

/-! ## runs -/

theorem served (fnmatch : Str → Str → Bool) (s : HttpServer) (calls : List Call) :
    ∀ stream : Stream, Served fnmatch s calls stream (s.handleClient fnmatch calls stream).exchanges := by
  induction calls with
  | nil => exact fun stream => .none
  | cons c calls ih =>
    intro stream
    rw [handleClient]
    cases hcall : recvRequest c.u c.buff_size stream with
    | mk outcome rest alloc =>
      cases outcome with
      | null => exact .none
      | fault e => exact .none
      | message req =>
        dsimp only
        split
        · exact .cons hcall .none
        · exact .cons hcall (ih _)

/-- **With quiet servlets the requests are those of the loop without responses, each with its
response.** -/
theorem handled_requests {answer : HttpRequest → HttpResponse → HttpResponse}
    (h : Quiet fnmatch s answer) (calls : List Call) : ∀ stream : Stream,
    (s.handleClient fnmatch calls stream).sent
      = (Http.handleClient s.m_isKeepalive calls stream).map fun req =>
        (answer req (s.prepared req)).toString := by
  induction calls with
  | nil => intro stream; rfl
  | cons c calls ih =>
    intro stream
    rw [handleClient, Http.handleClient]
    generalize recvRequest c.u c.buff_size stream = called
    obtain ⟨_ | req | e, rest, alloc⟩ := called
    · rfl
    · obtain ⟨req', hhandle, hclose⟩ := h req (s.prepared req) rest
      have hrespond : s.respond fnmatch req rest
          = ⟨req', answer req (s.prepared req), rest, [], false⟩ := hhandle
      dsimp only
      rw [hrespond]
      dsimp only
      rw [hclose]
      split
      · rfl
      · show _ :: Run.sent _ = _
        rw [show (⟨req', answer req (s.prepared req), rest, [], false⟩ : Handled).left = rest from rfl,
          ih rest]
        rfl
    · rfl

theorem Served.made {calls : List Call} {stream : Stream} {xs : List Exchange}
    (h : Served fnmatch s calls stream xs) :
    ∀ x ∈ xs, ∃ rest, x.handled = s.respond fnmatch x.request rest := by
  induction h with
  | none => exact fun x hx => absurd hx List.not_mem_nil
  | cons hreq hnext ih =>
    intro x hx
    rcases List.mem_cons.mp hx with rfl | hx
    · exact ⟨_, rfl⟩
    · exact ih x hx

theorem quiet_setName (keepalive : Bool) (name : Str) :
    Quiet fnmatch ((new keepalive).setName name) fun _ => NotFoundServlet.answer name :=
  fun req _ _ => ⟨req, rfl, rfl⟩

/-- **The page of a server without servlets can be received**, when its name is a value. -/
theorem notFound_printable {name : Str} (hname : Response.Value name) (keepalive : Bool)
    {req : HttpRequest} (hversion : req.version = 0x10 ∨ req.version = 0x11) :
    Response.Printable
      (NotFoundServlet.answer name (((new keepalive).setName name).prepared req)) := by
  have hserver : MapType.set (asc "Server") name [(asc "Server", name)]
      = [(asc "Server", name)] := by
    rw [MapType.set, if_neg (by decide), if_neg (by decide)]
  have htype : MapType.set (asc "Content-type") (asc "text/html") [(asc "Server", name)]
      = [(asc "Content-type", asc "text/html"), (asc "Server", name)] := by
    rw [MapType.set, if_neg (by decide), if_pos (by decide)]
  have hheaders :
      (NotFoundServlet.answer name (((new keepalive).setName name).prepared req)).headers
        = [(asc "Content-type", asc "text/html"), (asc "Server", name)] := by
    rw [← htype, ← hserver]
    rfl
  refine ⟨hversion, ⟨show (0 : Int) ≤ 404 by decide, show (404 : Int) < 2 ^ 31 by decide⟩,
    fun c hc => (by cases hc), ?_, ?_⟩
  · rw [hheaders]
    exact List.pairwise_pair.mpr
      (show CaseInsensitiveLess (asc "Content-type") (asc "Server") = true by decide)
  · rw [hheaders]
    intro x hx
    rcases List.mem_cons.mp hx with rfl | hx
    · have hline : ∀ c ∈ asc "text/html", c ≠ 10 ∧ c ≠ 13 := by decide +kernel
      have hhead : ∀ c ∈ (asc "text/html").head?, isspace c = false := by
        intro c hc
        cases hc
        decide
      exact ⟨⟨by decide, by decide +kernel⟩, ⟨hline, hhead⟩, by decide +kernel⟩
    · obtain rfl := List.mem_singleton.mp hx
      have hfield : Request.Name (asc "Server") ∧
          ∀ k ∈ Response.special, strcasecmpEq (asc "Server") k = false :=
        ⟨⟨by decide, by decide +kernel⟩, by decide +kernel⟩
      exact ⟨hfield.1, hname, hfield.2⟩

end HttpServer

/-! ## the client -/

/-- the requests that are handled of those that a client sends: up to the first that closes -/
def handled (m_isKeepalive : Bool) : List HttpRequest → List HttpRequest
  | [] => []
  | req :: reqs => if !m_isKeepalive || req.close then [req] else req :: handled m_isKeepalive reqs

/-- successive calls of `recvResponse`, until one of them returns no response -/
def recvResponses : List Call → Stream → List HttpResponse
  | [], _ => []
  | c :: calls, stream =>
    match recvResponse c.u c.buff_size stream with
    | ⟨.message rsp, rest, _⟩ => rsp :: recvResponses calls rest
    | ⟨.null, _, _⟩ => []
    | ⟨.fault _, _, _⟩ => []

/-- a text that a call takes in one read -/
structure Call.Takes (c : Call) (text : Str) : Prop where
  room : text.length ≤ c.buff_size
  int : c.buff_size < 2 ^ 31

theorem Call.Takes.read {c : Call} {text : Str} (h : c.Takes text) (stream : Stream) :
    Stream.read c.buff_size (text :: stream) = (text, stream) :=
  Stream.read_whole h.room (Nat.lt_of_le_of_lt h.room h.int) stream

theorem Request.recvRequest_whole {c : Call} {r : HttpRequest} (h : Posted r)
    (htakes : c.Takes r.toString) (stream : Stream) :
    (recvRequest c.u c.buff_size (r.toString :: stream)).outcome = .message (arrived r) ∧
      (recvRequest c.u c.buff_size (r.toString :: stream)).rest = stream := by
  have hle := htakes.room
  rw [dump_eq, List.length_append] at hle
  have hint := htakes.int
  have hhead : 0 < (headText r).length := by simp [headText]
  have hne : r.toString ≠ [] := by
    rw [dump_eq, ← List.length_pos_iff, List.length_append]
    omega
  obtain ⟨hout, hrest⟩ := recvRequest_printed (c := c) h
    (.whole stream [r.toString] (by
      intro a ha
      obtain rfl := List.mem_singleton.mp ha
      exact ⟨hne, htakes.room, Nat.lt_of_le_of_lt htakes.room hint⟩))
    (show List.flatten [r.toString] = headText r ++ r.body by
      rw [List.flatten_singleton, dump_eq]) rfl
    (by rw [toInt32_of_lt hint]; constructor <;> omega)
  rw [recvBody_held (Nat.le_refl _), List.take_length] at hout
  rw [recvBody_held (Nat.le_refl _)] at hrest
  exact ⟨hout, hrest⟩

/-- **Every request that is printed is handled, up to the first that closes.** -/
theorem handleClient_printed {m_isKeepalive : Bool} {calls : List Call} {reqs : List HttpRequest}
    (h : List.Forall₂ (fun c r => Request.Posted r ∧ c.Takes r.toString) calls reqs) :
    handleClient m_isKeepalive calls (reqs.map HttpRequest.toString)
      = (handled m_isKeepalive reqs).map Request.arrived := by
  induction h with
  | nil => rfl
  | @cons c r calls reqs hr _ ih =>
    obtain ⟨hposted, htakes⟩ := hr
    obtain ⟨hout, hrest⟩ := Request.recvRequest_whole hposted htakes
      (reqs.map HttpRequest.toString)
    rw [List.map_cons, handleClient, handled]
    generalize recvRequest c.u c.buff_size (r.toString :: reqs.map HttpRequest.toString) = called
      at hout hrest ⊢
    obtain ⟨outcome, rest, alloc⟩ := called
    obtain rfl : outcome = .message (Request.arrived r) := hout
    obtain rfl : rest = reqs.map HttpRequest.toString := hrest
    dsimp only
    have hclose : (Request.arrived r).close = r.close := rfl
    rw [hclose]
    split
    · rfl
    · rw [ih]
      rfl

/-- **Every response that is printed is received.** -/
theorem recvResponses_printed {calls : List Call} {rsps : List HttpResponse}
    (h : List.Forall₂ (fun c r => Response.Printable r ∧ c.Takes r.toString) calls rsps) :
    recvResponses calls (rsps.map HttpResponse.toString) = rsps.map Response.received := by
  induction h with
  | nil => rfl
  | @cons c r calls rsps hr _ ih =>
    obtain ⟨hprint, htakes⟩ := hr
    obtain ⟨hout, hrest⟩ := Response.recvResponse_whole (u := c.u) htakes.int hprint
      (htakes.read (rsps.map HttpResponse.toString))
    rw [List.map_cons, recvResponses]
    generalize recvResponse c.u c.buff_size (r.toString :: rsps.map HttpResponse.toString) = called
      at hout hrest ⊢
    obtain ⟨outcome, rest, alloc⟩ := called
    obtain rfl : outcome = .message (Response.received r) := hout
    obtain rfl : rest = rsps.map HttpResponse.toString := hrest
    dsimp only
    rw [ih]
    rfl

/-- **A client that prints its requests receives the responses of the servlets, one for each
request that is handled, in order.** -/
theorem session_answered (fnmatch : Str → Str → Bool) (s : HttpServer)
    (answer : HttpRequest → HttpResponse → HttpResponse)
    (hquiet : HttpServer.Quiet fnmatch s answer)
    (calls clientCalls : List Call) (reqs : List HttpRequest)
    (hsent : List.Forall₂ (fun c r => Request.Posted r ∧ c.Takes r.toString) calls reqs)
    (hanswered : List.Forall₂ (fun c r =>
        let rsp := answer (Request.arrived r) (s.prepared (Request.arrived r))
        Response.Printable rsp ∧ c.Takes rsp.toString)
      clientCalls (handled s.m_isKeepalive reqs)) :
    recvResponses clientCalls
        (s.handleClient fnmatch calls (reqs.map HttpRequest.toString)).sent
      = (handled s.m_isKeepalive reqs).map fun r =>
          Response.received (answer (Request.arrived r) (s.prepared (Request.arrived r))) := by
  have hsame : (s.handleClient fnmatch calls (reqs.map HttpRequest.toString)).sent
      = ((handled s.m_isKeepalive reqs).map fun r =>
          answer (Request.arrived r) (s.prepared (Request.arrived r))).map
          HttpResponse.toString := by
    rw [HttpServer.handled_requests hquiet, handleClient_printed hsent]
    simp only [List.map_map]
    rfl
  rw [hsame, recvResponses_printed (List.forall₂_map_right_iff.mpr hanswered), List.map_map]
  rfl

/-- two requests with bodies, for the page of a server without servlets -/
theorem session_answered_notFound :
    recvResponses [⟨.zero, 4096⟩, ⟨.zero, 4096⟩]
        (((HttpServer.new true).setName (asc "kit")).handleClient (fun _ _ => false)
          [⟨.zero, 4096⟩, ⟨.zero, 4096⟩]
          [Request.examplePost.toString, Request.examplePost.toString]).sent
      = [Request.examplePost, Request.examplePost].map fun r => Response.received
          (NotFoundServlet.answer (asc "kit")
            (((HttpServer.new true).setName (asc "kit")).prepared (Request.arrived r))) := by
  have hposted := Request.examplePost_posted
  have htakes : Call.Takes ⟨.zero, 4096⟩ Request.examplePost.toString :=
    ⟨by decide +kernel, by decide⟩
  have hname : Response.Value (asc "kit") :=
    ⟨show ∀ c ∈ asc "kit", c ≠ 10 ∧ c ≠ 13 by decide +kernel, by decide +kernel⟩
  have hprint : Response.Printable (NotFoundServlet.answer (asc "kit")
      (((HttpServer.new true).setName (asc "kit")).prepared
        (Request.arrived Request.examplePost))) :=
    HttpServer.notFound_printable hname true (.inr rfl)
  exact session_answered (fun _ _ => false) ((HttpServer.new true).setName (asc "kit"))
    (fun _ => NotFoundServlet.answer (asc "kit")) (HttpServer.quiet_setName true (asc "kit"))
    [⟨.zero, 4096⟩, ⟨.zero, 4096⟩] [⟨.zero, 4096⟩, ⟨.zero, 4096⟩]
    [Request.examplePost, Request.examplePost]
    (.cons ⟨hposted, htakes⟩ (.cons ⟨hposted, htakes⟩ .nil))
    (.cons ⟨hprint, ⟨by decide +kernel, by decide⟩⟩
      (.cons ⟨hprint, ⟨by decide +kernel, by decide⟩⟩ .nil))

end Http
end KitServer
