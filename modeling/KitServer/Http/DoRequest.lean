import KitServer.Stream.Writes
import KitServer.Http.Dump
import KitServer.Uri.Port
import KitServer.Address.Text

/-!
# `HttpConnection::DoRequest`

The stages of a request: the address, the socket, the connection, the writes and the response, each
with any outcome.

* `DoRequest`       the function after some number of writes;
* `Surfaces`        each failure comes back as its own code;
* `surfaces_iff`    the outcomes with which it does.
-/

set_option linter.unusedVariables false

namespace KitServer

/-! ## the texts of addresses -/

namespace Address

/-- `IPv4Address::insert` -/
def IPv4Address.insert (e : Endian) (s : IPv4Address) : Http.Str :=
  let addr := e.byteswapOnSmallEndian s.sin_addr
  Http.decimal ((addr >>> 24) &&& 0xff).toNat ++ Http.asc "."
    ++ Http.decimal ((addr >>> 16) &&& 0xff).toNat ++ Http.asc "."
    ++ Http.decimal ((addr >>> 8) &&& 0xff).toNat ++ Http.asc "."
    ++ Http.decimal (addr &&& 0xff).toNat
    ++ Http.asc ":" ++ Http.decimal (IPv4Address.getPort e s).toNat

namespace IPAddress

def toString (e : Endian) : IPAddress → Http.Str
  | .v4 s => IPv4Address.insert e s
  | .v6 s => IPv6Address.insert e s

def getFamily : IPAddress → BitVec 16
  | .v4 s => s.sin_family
  | .v6 s => s.sin6_family

end IPAddress
end Address

namespace Http.HttpConnection
open KitServer.Stream

/-! ## the function -/

/-- `HttpResult::Error` -/
inductive Error where
  | OK
  | INVALID_URL
  | INVALID_ADDR
  | INVALID_SOCK
  | CONNECT_FAIL
  | SEND_REQ_FAIL
  | RECV_RSP_TIMEOUT
  | POOL_GET_CONNECT_FAIL
  | POOL_INVALID_SOCK
deriving DecidableEq, Repr

structure HttpResult where
  result : Error
  response : Option HttpResponse
  error : Str

/-- what the stages meet; `writes i` is the result of the `i`-th `send` -/
structure Outcomes where
  /-- the level of the logger lets a debug line through -/
  debug : Bool
  getaddrinfo : Address.Resolver
  socket : Int32
  connect : Int32
  writes : Nat → Int32
  response : Option HttpResponse
  errno : Nat

/-- a socket before it has a descriptor -/
structure Sock where
  m_fd : Int32
  m_family : BitVec 16

/-- `Socket::CreateTCP`; the descriptor is made by `connect` -/
def CreateTCP (addr : Address.IPAddress) : Option Sock := some ⟨-1, addr.getFamily⟩

/-- `Socket::connect`, with the results of `socket` and of `connect` -/
def Sock.connect (sock : Sock) (addr : Address.IPAddress) (o : Outcomes) : Bool :=
  let m_fd := if sock.m_fd = -1 then o.socket else sock.m_fd
  if m_fd = -1 then false
  else if addr.getFamily ≠ sock.m_family then false
  else if o.connect < 0 then false
  else true

/-- where `DoRequest` is: a null pointer is followed, a write is awaited, or it has returned -/
inductive Run where
  | nullDeref
  | sending
  | done (r : HttpResult)

section
variable (e : Endian) (strerror : Nat → Str) (req : HttpRequest) (uri : Uri) (timeout_ms : UInt64)
  (o : Outcomes)

/-- `data.size()` -/
def requestLength : UInt64 :=
  let data := req.toString
  UInt64.ofNat data.length

/-- `sendRequest` after `n` writes -/
def sendRequest (n : Nat) : Phase UInt64 := writeFixSizeBuffer (requestLength req) o.writes n

def exchange (addr : Address.IPAddress) (n : Nat) : Run :=
  match sendRequest req o n with
  | .calling _ _ => .sending
  | .returned ret =>
    if ret < 0 then
      .done ⟨.SEND_REQ_FAIL, none, asc "send request fail, addr=" ++ addr.toString e
        ++ asc ", errno=" ++ decimal o.errno ++ asc ",is:" ++ strerror o.errno⟩
    else
      match o.response with
      | none =>
        .done ⟨.RECV_RSP_TIMEOUT, none, asc "recv response maybe timeout, addr=" ++ addr.toString e
          ++ asc ", timeout=" ++ decimal timeout_ms.toNat⟩
      | some rsp => .done ⟨.OK, some rsp, asc "OK"⟩

/-- after `n` writes -/
def DoRequest (n : Nat) : Run :=
  match uri.createAddress o.getaddrinfo e with
  | none =>
    -- the debug line prints `*addr` in front of the test for null
    if o.debug then .nullDeref
    else .done ⟨.INVALID_ADDR, none, asc "invalid addr=" ++ uri.host⟩
  | some addr =>
    match CreateTCP addr with
    | none => .done ⟨.INVALID_SOCK, none, asc "invalid sock addr=" ++ addr.toString e⟩
    | some sock =>
      if sock.connect addr o then exchange e strerror req timeout_ms o addr n
      else .done ⟨.CONNECT_FAIL, none, asc "invalid sock addr=" ++ addr.toString e⟩

/-! ## what is asked of it -/

/-- it returns this code and response -/
def Gives (code : Error) (response : Option HttpResponse) : Prop :=
  ∃ n r, DoRequest e strerror req uri timeout_ms o n = .done r ∧ r.result = code ∧
    r.response = response

/-- the code is the one of the first stage that fails -/
structure Surfaces : Prop where
  noAddr : uri.createAddress o.getaddrinfo e = none →
    Gives e strerror req uri timeout_ms o .INVALID_ADDR none
  noSock : uri.createAddress o.getaddrinfo e ≠ none → o.socket = -1 →
    Gives e strerror req uri timeout_ms o .INVALID_SOCK none
  noConnect : uri.createAddress o.getaddrinfo e ≠ none → o.socket ≠ -1 → o.connect < 0 →
    Gives e strerror req uri timeout_ms o .CONNECT_FAIL none
  noSend : uri.createAddress o.getaddrinfo e ≠ none → o.socket ≠ -1 → 0 ≤ o.connect →
    ¬ AllWritten (requestLength req) o.writes →
    Gives e strerror req uri timeout_ms o .SEND_REQ_FAIL none
  noResponse : uri.createAddress o.getaddrinfo e ≠ none → o.socket ≠ -1 → 0 ≤ o.connect →
    AllWritten (requestLength req) o.writes → o.response = none →
    Gives e strerror req uri timeout_ms o .RECV_RSP_TIMEOUT none
  received : uri.createAddress o.getaddrinfo e ≠ none → o.socket ≠ -1 → 0 ≤ o.connect →
    AllWritten (requestLength req) o.writes → ∀ rsp, o.response = some rsp →
    Gives e strerror req uri timeout_ms o .OK (some rsp)

/-- the writes whose outcome is seen: all succeed, and the length is no negative `int`; or the
length is one, and the loop ends behind a failure because the results add up to it -/
def Seen (len : UInt64) (results : Nat → Int32) : Prop :=
  (AllWritten len results ∧ 0 ≤ intOfSize len) ∨
    intOfSize len < 0 ∧ ∃ n, Reaches len results n ∧ ∃ j < n, results j < 0

/-- the outcomes with which every failure is seen -/
structure AllSeen : Prop where
  addr : uri.createAddress o.getaddrinfo e = none → o.debug = false
  sock : uri.createAddress o.getaddrinfo e ≠ none → o.socket ≠ -1
  writes : uri.createAddress o.getaddrinfo e ≠ none → 0 ≤ o.connect →
    Seen (requestLength req) o.writes

end

/-! ## the stages -/

section
variable {e : Endian} {strerror : Nat → Str} {req : HttpRequest} {uri : Uri} {timeout_ms : UInt64}
  {o : Outcomes} {addr : Address.IPAddress}

theorem connect_eq {sock : Sock} (h : CreateTCP addr = some sock) :
    sock.connect addr o = true ↔ o.socket ≠ -1 ∧ 0 ≤ o.connect := by
  cases h
  unfold Sock.connect
  simp only [ne_eq, not_true_eq_false, if_false]
  by_cases hsock : o.socket = -1
  · simp [hsock]
  · by_cases hconn : o.connect < 0
    · simp [hsock, hconn, Int32.not_le]
    · simp [hsock, hconn, Int32.not_lt.mp hconn]

theorem doRequest_none (h : uri.createAddress o.getaddrinfo e = none) (n : Nat) :
    DoRequest e strerror req uri timeout_ms o n = if o.debug then .nullDeref
      else .done ⟨.INVALID_ADDR, none, asc "invalid addr=" ++ uri.host⟩ := by
  rw [DoRequest, h]

theorem doRequest_some (h : uri.createAddress o.getaddrinfo e = some addr) (n : Nat) :
    DoRequest e strerror req uri timeout_ms o n
      = if o.socket ≠ -1 ∧ 0 ≤ o.connect then exchange e strerror req timeout_ms o addr n
        else .done ⟨.CONNECT_FAIL, none, asc "invalid sock addr=" ++ addr.toString e⟩ := by
  have hconn := connect_eq (o := o) (show CreateTCP addr = some ⟨-1, addr.getFamily⟩ from rfl)
  rw [DoRequest, h]
  show (if Sock.connect ⟨-1, addr.getFamily⟩ addr o = true then _ else _) = _
  by_cases hboth : o.socket ≠ -1 ∧ 0 ≤ o.connect
  · rw [if_pos hboth, if_pos (hconn.mpr hboth)]
  · rw [if_neg hboth, if_neg fun h => hboth (hconn.mp h)]

/-- what the function gives, it gives alone -/
theorem Gives.unique {code code' : Error} {response response' : Option HttpResponse}
    (h : Gives e strerror req uri timeout_ms o code response)
    (h' : Gives e strerror req uri timeout_ms o code' response') :
    code = code' ∧ response = response' := by
  obtain ⟨n, r, hr, rfl, rfl⟩ := h
  obtain ⟨m, r', hr', rfl, rfl⟩ := h'
  have heq : r = r' := by
    cases haddr : uri.createAddress o.getaddrinfo e with
    | none =>
      rw [doRequest_none haddr] at hr hr'
      exact Run.done.inj (hr.symm.trans hr')
    | some addr =>
      rw [doRequest_some haddr] at hr hr'
      split_ifs at hr hr' with hboth
      · rw [exchange] at hr hr'
        cases hn : sendRequest req o n with
        | calling place left =>
          rw [hn] at hr
          cases hr
        | returned v =>
          cases hm : sendRequest req o m with
          | calling place left =>
            rw [hm] at hr'
            cases hr'
          | returned w =>
            rw [hn] at hr
            rw [hm, ← returned_unique hn hm] at hr'
            exact Run.done.inj (hr.symm.trans hr')
      · exact Run.done.inj (hr.symm.trans hr')
  rw [heq]
  exact ⟨rfl, rfl⟩

/-- code and response behind the writes, of which the loop returns `v` -/
def answer (o : Outcomes) (v : Int32) : Error × Option HttpResponse :=
  if v < 0 then (.SEND_REQ_FAIL, none)
  else
    match o.response with
    | none => (.RECV_RSP_TIMEOUT, none)
    | some rsp => (.OK, some rsp)

theorem answer_neg {v : Int32} (h : v < 0) : answer o v = (.SEND_REQ_FAIL, none) := if_pos h

theorem answer_ne {v : Int32} (h : (answer o v).1 ≠ .SEND_REQ_FAIL) : 0 ≤ v := by
  by_contra hneg
  exact h (congrArg Prod.fst (answer_neg (Int32.not_le.mp hneg)))

theorem exchange_eq {n : Nat} {v : Int32} (h : sendRequest req o n = .returned v) :
    ∃ text, exchange e strerror req timeout_ms o addr n
      = .done ⟨(answer o v).1, (answer o v).2, text⟩ := by
  rw [exchange, h, answer]
  by_cases hneg : v < 0
  · simp only [if_pos hneg]
    exact ⟨_, rfl⟩
  · simp only [if_neg hneg]
    cases o.response with
    | none => exact ⟨_, rfl⟩
    | some rsp => exact ⟨_, rfl⟩

section
variable (haddr : uri.createAddress o.getaddrinfo e = some addr)
include haddr

theorem gives_fail (h : ¬ (o.socket ≠ -1 ∧ 0 ≤ o.connect)) :
    Gives e strerror req uri timeout_ms o .CONNECT_FAIL none := by
  refine ⟨0, ⟨.CONNECT_FAIL, none, asc "invalid sock addr=" ++ addr.toString e⟩, ?_, rfl, rfl⟩
  rw [doRequest_some haddr, if_neg h]

variable (hsock : o.socket ≠ -1) (hconn : 0 ≤ o.connect)
include hsock hconn

theorem gives_of_returned {n : Nat} {v : Int32} (h : sendRequest req o n = .returned v) :
    Gives e strerror req uri timeout_ms o (answer o v).1 (answer o v).2 := by
  have htext : ∃ text, exchange e strerror req timeout_ms o addr n
      = .done ⟨(answer o v).1, (answer o v).2, text⟩ := exchange_eq h
  obtain ⟨text, htext⟩ := htext
  refine ⟨n, ⟨(answer o v).1, (answer o v).2, text⟩, ?_, rfl, rfl⟩
  rw [doRequest_some haddr, if_pos ⟨hsock, hconn⟩, htext]

theorem returned_of_gives {code : Error} {response : Option HttpResponse}
    (h : Gives e strerror req uri timeout_ms o code response) :
    ∃ n v, sendRequest req o n = .returned v ∧ (answer o v).1 = code := by
  obtain ⟨n, r, hr, rfl, rfl⟩ := h
  rw [doRequest_some haddr, if_pos ⟨hsock, hconn⟩] at hr
  cases hn : sendRequest req o n with
  | calling place left =>
    rw [exchange, hn] at hr
    cases hr
  | returned v =>
    have htext : ∃ text, exchange e strerror req timeout_ms o addr n
        = .done ⟨(answer o v).1, (answer o v).2, text⟩ := exchange_eq hn
    obtain ⟨text, htext⟩ := htext
    rw [htext] at hr
    refine ⟨n, v, hn, ?_⟩
    rw [← Run.done.inj hr]

theorem gives_send {n : Nat} (hneg : intOfSize (requestLength req) < 0)
    (hreach : Reaches (requestLength req) o.writes n) :
    Gives e strerror req uri timeout_ms o .SEND_REQ_FAIL none := by
  have hgives : Gives e strerror req uri timeout_ms o (answer o (intOfSize (requestLength req))).1
      (answer o (intOfSize (requestLength req))).2 :=
    gives_of_returned haddr hsock hconn (returned_of_reaches hreach)
  rwa [answer_neg hneg] at hgives

theorem gives_answer {n : Nat} (hlen : 0 ≤ intOfSize (requestLength req))
    (hreach : Reaches (requestLength req) o.writes n) {code : Error}
    {response : Option HttpResponse} (h : answer o 0 = (code, response)) :
    Gives e strerror req uri timeout_ms o code response := by
  have hgives : Gives e strerror req uri timeout_ms o (answer o (intOfSize (requestLength req))).1
      (answer o (intOfSize (requestLength req))).2 :=
    gives_of_returned haddr hsock hconn (returned_of_reaches hreach)
  have hsame : answer o (intOfSize (requestLength req)) = answer o 0 := by
    rw [answer, if_neg (Int32.not_lt.mpr hlen)]
    rfl
  rwa [hsame, h] at hgives

theorem not_send {n : Nat} {code : Error} {response : Option HttpResponse}
    (h : Gives e strerror req uri timeout_ms o code response) (hcode : code ≠ .SEND_REQ_FAIL)
    (hreach : Reaches (requestLength req) o.writes n) : 0 ≤ intOfSize (requestLength req) := by
  obtain ⟨m, v, hv, rfl⟩ := returned_of_gives haddr hsock hconn h
  rw [← returned_unique hv (returned_of_reaches hreach)]
  exact answer_ne hcode

end

/-! ## the outcomes that are seen -/

section
variable (hbound : Bounded (writeFixSizeBuffer (requestLength req) o.writes) o.writes)
include hbound

/-- the writes, when the code says what became of them -/
theorem Surfaces.seen (h : Surfaces e strerror req uri timeout_ms o)
    (haddr : uri.createAddress o.getaddrinfo e = some addr) (hsock : o.socket ≠ -1)
    (hconn : 0 ≤ o.connect) : Seen (requestLength req) o.writes := by
  have hsome : uri.createAddress o.getaddrinfo e ≠ none := by
    rw [haddr]
    exact Option.some_ne_none addr
  by_cases hall : AllWritten (requestLength req) o.writes
  · obtain ⟨n, hreach⟩ := reaches_of_allWritten (follows_offset _) hbound hall
    refine .inl ⟨hall, ?_⟩
    cases hrsp : o.response with
    | none =>
      exact not_send haddr hsock hconn (h.noResponse hsome hsock hconn hall hrsp) (by decide) hreach
    | some rsp =>
      exact not_send haddr hsock hconn (h.received hsome hsock hconn hall rsp hrsp) (by decide)
        hreach
  · obtain ⟨n, v, hv, hcode⟩ :=
      returned_of_gives haddr hsock hconn (h.noSend hsome hsock hconn hall)
    have hneg : v < 0 := by
      by_contra hpos
      have hanswer : answer o v = answer o 0 := by
        rw [answer, if_neg hpos]
        rfl
      rw [hanswer, answer, if_neg (by decide)] at hcode
      cases hrsp : o.response with
      | none =>
        rw [hrsp] at hcode
        cases hcode
      | some rsp =>
        rw [hrsp] at hcode
        cases hcode
    obtain ⟨rfl, k, hreach⟩ := reaches_of_neg hneg hv
    exact .inr ⟨hneg, k, hreach, neg_of_not_allWritten hall hreach⟩

theorem Seen.reaches (h : Seen (requestLength req) o.writes)
    (hall : AllWritten (requestLength req) o.writes) :
    ∃ n, Reaches (requestLength req) o.writes n ∧ 0 ≤ intOfSize (requestLength req) := by
  rcases h with ⟨-, hlen⟩ | ⟨-, n, hreach, j, hj, hneg⟩
  · obtain ⟨n, hreach⟩ := reaches_of_allWritten (follows_offset _) hbound hall
    exact ⟨n, hreach, hlen⟩
  · have hpos := (pos_of_allWritten (follows_offset _) hbound hall hreach n (Nat.le_refl n)).1 j hj
    exact absurd hpos (Int32.not_lt.mpr (Int32.le_of_lt hneg))

/-- **Every failure comes back as its own code exactly with these outcomes: a failed lookup is not
logged, the socket is made, and the writes are seen.** -/
theorem surfaces_iff : Surfaces e strerror req uri timeout_ms o ↔ AllSeen e req uri o := by
  constructor
  · intro h
    have hsock : uri.createAddress o.getaddrinfo e ≠ none → o.socket ≠ -1 := by
      intro hsome hfd
      obtain ⟨addr, haddr⟩ := Option.ne_none_iff_exists'.mp hsome
      have hfail : Gives e strerror req uri timeout_ms o .CONNECT_FAIL none :=
        gives_fail haddr fun hboth => hboth.1 hfd
      exact absurd ((h.noSock hsome hfd).unique hfail).1 (by decide)
    refine ⟨fun hnone => ?_, hsock, fun hsome hconn => ?_⟩
    · obtain ⟨n, r, hr, -⟩ := h.noAddr hnone
      rw [doRequest_none hnone] at hr
      by_contra hdebug
      rw [if_pos (Bool.not_eq_false _ ▸ hdebug)] at hr
      cases hr
    · obtain ⟨addr, haddr⟩ := Option.ne_none_iff_exists'.mp hsome
      exact h.seen hbound haddr (hsock hsome) hconn
  · intro h
    refine ⟨fun hnone => ?_, fun hsome hfd => absurd hfd (h.sock hsome),
      fun hsome hsock hneg => ?_, fun hsome hsock hconn hall => ?_,
      fun hsome hsock hconn hall hrsp => ?_, fun hsome hsock hconn hall rsp hrsp => ?_⟩
    · refine ⟨0, ⟨.INVALID_ADDR, none, asc "invalid addr=" ++ uri.host⟩, ?_, rfl, rfl⟩
      rw [doRequest_none hnone, h.addr hnone]
      rfl
    · obtain ⟨addr, haddr⟩ := Option.ne_none_iff_exists'.mp hsome
      exact gives_fail haddr fun hboth => Int32.not_lt.mpr hboth.2 hneg
    · obtain ⟨addr, haddr⟩ := Option.ne_none_iff_exists'.mp hsome
      rcases h.writes hsome hconn with hseen | ⟨hneg, n, hreach, -⟩
      · exact absurd hseen.1 hall
      · exact gives_send haddr hsock hconn hneg hreach
    · obtain ⟨addr, haddr⟩ := Option.ne_none_iff_exists'.mp hsome
      obtain ⟨n, hreach, hlen⟩ := (h.writes hsome hconn).reaches hbound hall
      refine gives_answer haddr hsock hconn hlen hreach ?_
      rw [answer, if_neg (by decide), hrsp]
    · obtain ⟨addr, haddr⟩ := Option.ne_none_iff_exists'.mp hsome
      obtain ⟨n, hreach, hlen⟩ := (h.writes hsome hconn).reaches hbound hall
      refine gives_answer haddr hsock hconn hlen hreach ?_
      rw [answer, if_neg (by decide), hrsp]

end

end

/-- the name is not known, and the logger is at its first level, DEBUG -/
def unknownHost : Outcomes where
  debug := true
  getaddrinfo := fun _ _ _ => .error (-2)
  socket := 3
  connect := 0
  writes := fun _ => -1
  response := none
  errno := 0

theorem unknownHost_bounded (req : HttpRequest) :
    Bounded (writeFixSizeBuffer (requestLength req) unknownHost.writes) unknownHost.writes := by
  intro i place left _
  exact Int.le_trans (show (-1 : Int32).toInt ≤ 0 by decide) (Int.natCast_nonneg _)

theorem surfaces_iff_unknownHost :
    Surfaces .small (fun _ => []) HttpRequest.new Uri.new 1000 unknownHost
      ↔ AllSeen .small HttpRequest.new Uri.new unknownHost :=
  surfaces_iff (unknownHost_bounded HttpRequest.new)

/-- the address that was not found is logged -/
theorem unknownHost_logged : ¬ ∀ (e : Endian) (strerror : Nat → Str) (req : HttpRequest) (uri : Uri)
    (timeout_ms : UInt64) (o : Outcomes),
    Bounded (writeFixSizeBuffer (requestLength req) o.writes) o.writes →
    Surfaces e strerror req uri timeout_ms o := by
  intro h
  have hnone : Uri.new.createAddress unknownHost.getaddrinfo .small = none := rfl
  obtain ⟨n, r, hr, -⟩ := (h .small (fun _ => []) HttpRequest.new Uri.new 1000 unknownHost
    (unknownHost_bounded HttpRequest.new)).noAddr hnone
  rw [doRequest_none hnone] at hr
  cases hr

end Http.HttpConnection
end KitServer
