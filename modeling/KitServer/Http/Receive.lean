import KitServer.Http.ResponseParser
import KitServer.Lib.Loop

/-!
# `HttpSession::recvRequest` and `HttpConnection::recvResponse`

The stream of a peer is the list of the pieces in which its bytes arrive.  A `read` returns at most
as many bytes as it is asked for, and never more than an `int` can count; the end of the stream is a
`read` of no bytes.  A call yields an `Outcome`, what is left of the stream, and the size of the
body buffer it allocated (`alloc`).
-/

set_option linter.unusedVariables false

namespace KitServer
namespace Http

abbrev Stream := List Str

/-- the bytes that are still to come -/
def Stream.left (s : Stream) : Nat := (List.flatten s).length

/-- `Stream::read(buffer, n)` -/
def Stream.read (n : Nat) : Stream → Str × Stream
  | [] => ([], [])
  | seg :: rest =>
    let k := min n (2 ^ 31 - 1)
    if seg.length ≤ k then (seg, rest) else (seg.take k, seg.drop k :: rest)

inductive Outcome (M : Type) where
  | null
  | message (m : M)
  | fault (e : Fault)
deriving DecidableEq

structure Result (M : Type) where
  outcome : Outcome M
  rest : Stream
  alloc : Nat
deriving DecidableEq

def Outcome.map {M N : Type} (f : M → N) : Outcome M → Outcome N
  | .null => .null
  | .message m => .message (f m)
  | .fault e => .fault e

def Result.map {M N : Type} (f : M → N) (r : Result M) : Result N :=
  ⟨r.outcome.map f, r.rest, r.alloc⟩

/-! ## reading until the parser is finished -/

section
variable {P : Type}

structure Parse (P : Type) where
  parser : P
  data : Str
  stream : Stream

inductive ParseEnd (P : Type) where
  | null (rest : Stream)
  | fault (e : Fault) (rest : Stream)
  | finished (parser : P) (data : Str) (rest : Stream)

/-- the loop ends with a parser, held bytes and a stream of which `q` holds -/
def ParseEnd.finishes (q : P → Str → Stream → Bool) : ParseEnd P → Bool
  | .null _ => false
  | .fault _ _ => false
  | .finished parser data rest => q parser data rest

/-- the calls on a parser that the loops make -/
structure ParserOps (P : Type) where
  execute : (Nat → UInt8) → Str → P → Except Fault (P × Nat)
  hasError : P → Bool
  isFinished : P → Int

variable (ops : ParserOps P) (stale : Nat → Nat → UInt8) (buff_size : Nat)

/-- one round of the loop that reads behind the bytes in `data` and parses -/
def parseStep (s : Parse P) : ParseEnd P ⊕ Parse P :=
  let (bytes, stream) := s.stream.read (buff_size - s.data.length)
  if bytes.length = 0 then .inl (.null stream)
  else
    let data := s.data ++ bytes
    match ops.execute (stale stream.left) data s.parser with
    | .error e => .inl (.fault e stream)
    | .ok (parser, n) =>
      if ops.hasError parser then .inl (.null stream)
      else if ((data.length - n : Nat) : Int) = toInt32 buff_size then .inl (.null stream)
      else if ops.isFinished parser ≠ 0 then .inl (.finished parser (data.drop n) stream)
      else .inr ⟨parser, data.drop n, stream⟩

def parseLoop (s : Parse P) : ParseEnd P :=
  (loop (parseStep ops stale buff_size) (s.stream.left + 1) s).getD (.fault .noFuel s.stream)

end

/-! ## a body of known length -/

structure FixRead where
  left : Nat
  got : Str
  stream : Stream

/-- one round of `Stream::readFixSize`; the result says whether all bytes were read -/
def readFixSizeStep (s : FixRead) : (Bool × Str × Stream) ⊕ FixRead :=
  if s.left > 0 then
    let (bytes, stream) := s.stream.read s.left
    if bytes.length = 0 then .inl (false, s.got, stream)
    else .inr ⟨s.left - bytes.length, s.got ++ bytes, stream⟩
  else .inl (true, s.got, s.stream)

def readFixSize (len : Nat) (stream : Stream) : Bool × Str × Stream :=
  (loop readFixSizeStep (stream.left + 1) ⟨len, [], stream⟩).getD (false, [], stream)

/-- the body behind a head with `Content-Length`: `data` is what was read with the head -/
def recvBody (len : Int) (data : Str) (stream : Stream) : Result Str :=
  let offset := data.length
  let body := List.replicate len.toNat (0 : UInt8)
  let real_len := if len ≥ offset then offset else len.toNat
  let body := overwrite body 0 (data.take real_len)
  if len - offset > 0 then
    let (complete, got, rest) := readFixSize real_len stream
    -- `readFixSize` writes behind `body[real_len]`
    if real_len + got.length > len.toNat then ⟨.fault .outOfRange, rest, len.toNat⟩
    else if complete && real_len > 0 then ⟨.message (overwrite body real_len got), rest, len.toNat⟩
    else ⟨.null, rest, len.toNat⟩
  else ⟨.message body, stream, len.toNat⟩

/-! ## `HttpSession::recvRequest` -/

def requestOps (u : Ambient) : ParserOps Request.HttpRequestParser where
  execute := fun stale buffer s => Request.execute stale buffer u.uriRelaxed s
  hasError := Request.HttpRequestParser.hasError
  isFinished := Request.HttpRequestParser.isFinished

/-- the loop over the head of a request -/
def recvRequestHead (u : Ambient) (buff_size : Nat) (stream : Stream) :
    ParseEnd Request.HttpRequestParser :=
  parseLoop (requestOps u) u.stale buff_size ⟨.new u, [], stream⟩

def recvRequest (u : Ambient) (buff_size : Nat) (stream : Stream) : Result HttpRequest :=
  match recvRequestHead u buff_size stream with
  | .null rest => ⟨.null, rest, 0⟩
  | .fault e rest => ⟨.fault e, rest, 0⟩
  | .finished parser data rest =>
    let len := toInt64 (parser.getContentLength u)
    if len > 0 then
      (recvBody len data rest).map fun body => { parser.request with body := body }.init
    else ⟨.message parser.request.init, rest, 0⟩

/-! ## `HttpConnection::recvResponse` -/

def responseOps (chunck : Bool) : ParserOps Response.HttpResponseParser where
  execute := fun stale buffer s => Response.execute stale buffer chunck s
  hasError := Response.HttpResponseParser.hasError
  isFinished := Response.HttpResponseParser.isFinished

/-- the loop over the head of a response -/
def recvResponseHead (u : Ambient) (buff_size : Nat) (stream : Stream) :
    ParseEnd Response.HttpResponseParser :=
  parseLoop (responseOps false) u.stale buff_size ⟨.new, [], stream⟩

structure ChunkRest where
  left : Int
  body : Str
  stream : Stream

/-- one round of the loop that reads the rest of a chunk -/
def chunkRestStep (buff_size : Nat) (s : ChunkRest) : Result Str ⊕ ChunkRest :=
  if s.left > 0 then
    let n := if s.left > toInt32 buff_size then toInt32 buff_size else s.left
    if n < 0 then .inl ⟨.fault .outOfRange, s.stream, s.body.length⟩
    else
      let (bytes, stream) := s.stream.read n.toNat
      if bytes.length = 0 then .inl ⟨.null, stream, s.body.length⟩
      else .inr ⟨s.left - bytes.length, s.body ++ bytes, stream⟩
  else .inl ⟨.message s.body, s.stream, s.body.length⟩

def chunkRest (buff_size : Nat) (s : ChunkRest) : Result Str :=
  (loop (chunkRestStep buff_size) (s.stream.left + 1) s).getD ⟨.fault .noFuel, s.stream, 0⟩

structure Chunks where
  parser : Response.HttpResponseParser
  data : Str
  body : Str
  stream : Stream

/-- the part of a round behind the size line: `data` is what is left in the buffer -/
def chunkData (buff_size : Nat) (s : Chunks) : Result (Str × Str) :=
  let len : Int := s.data.length - 2
  let content_len := s.parser.contentLen
  if content_len ≤ len then
    if content_len < 0 then ⟨.fault .outOfRange, s.stream, s.body.length⟩
    else
      let n := content_len.toNat
      ⟨.message (s.body ++ s.data.take n, (s.data.take len.toNat).drop n), s.stream,
        s.body.length + n⟩
  else if len < 0 then ⟨.fault .outOfRange, s.stream, s.body.length⟩
  else
    let rest : ChunkRest := ⟨content_len - len, s.body ++ s.data.take len.toNat, s.stream⟩
    (chunkRest buff_size rest).map fun body => (body, [])

/-- one round of the loop over the chunks -/
def chunkStep (u : Ambient) (buff_size : Nat) (s : Chunks) : Result HttpResponse ⊕ Chunks :=
  match parseLoop (responseOps true) u.stale buff_size ⟨s.parser, s.data, s.stream⟩ with
  | .null rest => .inl ⟨.null, rest, s.body.length⟩
  | .fault e rest => .inl ⟨.fault e, rest, s.body.length⟩
  | .finished parser data rest =>
    match chunkData buff_size ⟨parser, data, s.body, rest⟩ with
    | ⟨.message (body, data), rest, alloc⟩ =>
      if parser.chunksDone then .inl ⟨.message { parser.response with body := body }, rest, alloc⟩
      else .inr ⟨parser, data, body, rest⟩
    | ⟨.null, rest, alloc⟩ => .inl ⟨.null, rest, alloc⟩
    | ⟨.fault e, rest, alloc⟩ => .inl ⟨.fault e, rest, alloc⟩

def recvChunks (u : Ambient) (buff_size : Nat) (s : Chunks) : Result HttpResponse :=
  (loop (chunkStep u buff_size) (s.stream.left + 1) s).getD ⟨.fault .noFuel, s.stream, 0⟩

def recvResponse (u : Ambient) (buff_size : Nat) (stream : Stream) : Result HttpResponse :=
  match recvResponseHead u buff_size stream with
  | .null rest => ⟨.null, rest, 0⟩
  | .fault e rest => ⟨.fault e, rest, 0⟩
  | .finished parser data rest =>
    if parser.chunked then recvChunks u buff_size ⟨parser, data, [], rest⟩
    else
      let len := toInt64 (parser.getContentLength u)
      if len > 0 then
        (recvBody len data rest).map fun body => { parser.response with body := body }
      else ⟨.message parser.response, rest, 0⟩

end Http
end KitServer
