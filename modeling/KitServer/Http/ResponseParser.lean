import KitServer.Http.RequestParser
import KitServer.Http.ResponseTable

/-!
# `HttpResponseParser`

The state of `httpclient_parser` (`httpclient_parser.rl`) together with the message and the error
code of `HttpResponseParser`.  The fields `status` and `close` of `httpclient_parser` are written
and never read, and are left out.
-/

set_option linter.unusedVariables false

namespace KitServer
namespace Http
namespace Response

structure HttpResponseParser where
  cs : Nat
  bodyStart : Nat
  contentLen : Int
  chunked : Bool
  chunksDone : Bool
  mark : Nat
  fieldStart : Nat
  fieldLen : Nat
  error : Nat
  response : HttpResponse

/-- `httpclient_parser_init` -/
def HttpResponseParser.initParser (s : HttpResponseParser) : HttpResponseParser :=
  { s with
    cs := start
    bodyStart := 0
    contentLen := -1
    chunked := false
    chunksDone := false
    mark := 0
    fieldLen := 0
    fieldStart := 0 }

def HttpResponseParser.new : HttpResponseParser :=
  HttpResponseParser.initParser ⟨0, 0, 0, false, false, 0, 0, 0, 0, HttpResponse.new⟩

/-! ## callbacks -/

def onResponseReasonPhrase (v : Str) (s : HttpResponseParser) : HttpResponseParser :=
  { s with response := { s.response with reason := v } }

def onResponseStatusCode (off : Str) (s : HttpResponseParser) : HttpResponseParser :=
  { s with response := { s.response with status := atoi off } }

def onResponseHttpVersion (off : Str) (length : Nat) (s : HttpResponseParser) :
    HttpResponseParser :=
  if strncmpEq length off (asc "HTTP/1.1") then
    { s with response := { s.response with version := 0x11 } }
  else if strncmpEq length off (asc "HTTP/1.0") then
    { s with response := { s.response with version := 0x10 } }
  else { s with error := Request.invalidVersion }

def onResponseHttpField (stale : Nat → UInt8) (buffer : Str) (field flen value vlen : Nat)
    (s : HttpResponseParser) : Except Fault HttpResponseParser :=
  if flen = 0 then .ok s
  else
    match chars stale buffer field flen with
    | .error e => .error e
    | .ok key =>
      match chars stale buffer value vlen with
      | .error e => .error e
      | .ok val => .ok { s with response := s.response.setHeader key val }

/-! ## execute -/

section
variable (stale : Nat → UInt8) (buffer : Str)

def act (fpc : Nat) : Act → HttpResponseParser → Except Fault HttpResponseParser
  | .mark, s => .ok { s with mark := fpc }
  | .startField, s => .ok { s with fieldStart := fpc }
  | .writeField, s => .ok { s with fieldLen := LEN s.fieldStart fpc }
  | .startValue, s => .ok { s with mark := fpc }
  | .writeContentLen, s => .ok { s with contentLen := toInt32 (strtol 10 (buffer.drop s.mark)) }
  | .writeConnectionClose, s => .ok s
  | .writeValue, s =>
    onResponseHttpField stale buffer s.fieldStart s.fieldLen s.mark (LEN s.mark fpc) s
  | .reasonPhrase, s =>
    match chars stale buffer s.mark (LEN s.mark fpc) with
    | .error e => .error e
    | .ok v => .ok (onResponseReasonPhrase v s)
  | .statusCode, s => .ok (onResponseStatusCode (buffer.drop s.mark) s)
  | .httpVersion, s => .ok (onResponseHttpVersion (buffer.drop s.mark) (LEN s.mark fpc) s)
  | .chunkSize, s =>
    let contentLen := toInt32 (strtol 16 (buffer.drop s.mark))
    .ok { s with chunked := true, contentLen := contentLen, chunksDone := contentLen ≤ 0 }
  | .transChunked, s => .ok { s with chunked := true }
  | .done, s => .ok { s with bodyStart := fpc + 1 }

def HttpResponseParser.rewind (s : HttpResponseParser) : HttpResponseParser :=
  { s with mark := 0, fieldLen := 0, fieldStart := 0 }

/-- the checks at the end of `httpclient_parser_execute`: `none` is the return value -1 -/
def checked (p : Nat) (s : HttpResponseParser) : Option (HttpResponseParser × Nat) :=
  if s.mark < buffer.length ∧ s.fieldLen ≤ buffer.length ∧ s.fieldStart < buffer.length then
    some (s, p)
  else none

/-- `HttpResponseParser::execute`: the parser and the number of bytes it is through with.  A -1
from the scanner becomes the length of a `memmove` behind the buffer. -/
def execute (chunck : Bool) (s : HttpResponseParser) : Except Fault (HttpResponseParser × Nat) :=
  let s := if chunck then s.initParser else s
  let checkedOr := fun p s => (checked buffer p s).elim (.error .outOfRange) .ok
  match scan trans (act stale buffer) s.cs 0 buffer s.rewind with
  | .more cs s => checkedOr buffer.length { s with cs := cs }
  | .stop cs p s => checkedOr p { s with cs := cs }
  | .bad p s => checkedOr p { s with cs := Response.error }
  | .fail e => .error e

end

def HttpResponseParser.hasError (s : HttpResponseParser) : Bool :=
  s.error ≠ 0 || s.cs = Response.error

def HttpResponseParser.isFinished (s : HttpResponseParser) : Int :=
  if s.cs = Response.error then -1 else if s.cs = firstFinal then 1 else 0

def HttpResponseParser.getContentLength (s : HttpResponseParser) (u : Ambient) : Nat :=
  s.response.headers.getAs u.lexical_cast.uint64 (asc "content-length") 0

end Response
end Http
end KitServer
