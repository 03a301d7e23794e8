import KitServer.Http.Dump
import KitServer.Http.RequestTable
import KitServer.Lib.Slice

/-!
# `HttpRequestParser`

The state of `http_parser` (`http11_parser.rl`) together with the message and the error code of
`HttpRequestParser`.  Offsets count from the start of the buffer of the current call.  A callback
gets a pointer into that buffer and a length.

Memory that the code does not initialise is a parameter (`Ambient`): `uri_relaxed` and `query_start`
of a new parser, and the bytes of the buffer behind the received ones (`stale n i` is the byte at
index `i` when `n` bytes of the stream are left to be read).  So is `boost::lexical_cast`.
-/

set_option linter.unusedVariables false

namespace KitServer
namespace Http

structure Ambient where
  uriRelaxed : Bool
  queryStart : Nat
  stale : Nat → Nat → UInt8
  lexical_cast : LexicalCast

/-- memory that happens to be zero -/
def Ambient.zero : Ambient := ⟨false, 0, fun _ _ => 0, .digits⟩

/-- what stops a call: an exception that is not caught, or undefined behaviour -/
inductive Fault where
  | lengthError
  | outOfRange
  | noFuel
deriving DecidableEq

/-- `LEN(off, fpc)`, a `size_t` -/
def LEN (off fpc : Nat) : Nat := if off ≤ fpc then fpc - off else 2 ^ 64 - (off - fpc)

/-- `std::string(buffer + off, len)` -/
def chars (stale : Nat → UInt8) (buffer : Str) (off len : Nat) : Except Fault Str :=
  if len < 2 ^ 63 then .ok ((List.range len).map fun i => buffer.getD (off + i) (stale (off + i)))
  else .error .lengthError

namespace Request

def invalidMethod : Nat := 1000
def invalidVersion : Nat := 1001

structure HttpRequestParser where
  cs : Nat
  bodyStart : Nat
  contentLen : Int
  mark : Nat
  fieldStart : Nat
  fieldLen : Nat
  queryStart : Nat
  xmlSent : Bool
  jsonSent : Bool
  error : Nat
  request : HttpRequest

/-- the constructor, with `http_parser_init` -/
def HttpRequestParser.new (u : Ambient) : HttpRequestParser where
  cs := start
  bodyStart := 0
  contentLen := 0
  mark := 0
  fieldStart := 0
  fieldLen := 0
  queryStart := u.queryStart
  xmlSent := false
  jsonSent := false
  error := 0
  request := HttpRequest.new

/-! ## callbacks -/

def onRequestMethod (off : Str) (s : HttpRequestParser) : HttpRequestParser :=
  match CharsToHttpMethod off with
  | .INVALID_METHOD => { s with error := invalidMethod }
  | method => { s with request := { s.request with method := method } }

def onRequestFragment (v : Str) (s : HttpRequestParser) : HttpRequestParser :=
  { s with request := { s.request with fragment := v } }

def onRequestPath (v : Str) (s : HttpRequestParser) : HttpRequestParser :=
  { s with request := { s.request with path := v } }

def onRequestQueryString (v : Str) (s : HttpRequestParser) : HttpRequestParser :=
  { s with request := { s.request with query := v } }

def onRequestHttpVersion (off : Str) (length : Nat) (s : HttpRequestParser) : HttpRequestParser :=
  if strncmpEq length off (asc "HTTP/1.1") then
    { s with request := { s.request with version := 0x11 } }
  else if strncmpEq length off (asc "HTTP/1.0") then
    { s with request := { s.request with version := 0x10 } }
  else { s with error := invalidVersion }

def onRequestHttpField (stale : Nat → UInt8) (buffer : Str) (field flen value vlen : Nat)
    (s : HttpRequestParser) : Except Fault HttpRequestParser :=
  if flen = 0 then .ok s
  else
    match chars stale buffer field flen with
    | .error e => .error e
    | .ok key =>
      match chars stale buffer value vlen with
      | .error e => .error e
      | .ok val => .ok { s with request := s.request.setHeader key val }

/-! ## execute -/

section
variable (stale : Nat → UInt8) (buffer : Str)

/-- a callback that gets a string -/
def withChars (off fpc : Nat) (cb : Str → HttpRequestParser → HttpRequestParser)
    (s : HttpRequestParser) : Except Fault HttpRequestParser :=
  match chars stale buffer off (LEN off fpc) with
  | .error e => .error e
  | .ok v => .ok (cb v s)

def act (fpc : Nat) : Act → HttpRequestParser → Except Fault HttpRequestParser
  | .mark, s => .ok { s with mark := fpc }
  | .startField, s => .ok { s with fieldStart := fpc }
  | .writeField, s => .ok { s with fieldLen := LEN s.fieldStart fpc }
  | .startValue, s => .ok { s with mark := fpc }
  | .writeValue, s =>
    onRequestHttpField stale buffer s.fieldStart s.fieldLen s.mark (LEN s.mark fpc) s
  | .requestMethod, s => .ok (onRequestMethod (buffer.drop s.mark) s)
  | .requestUri, s => .ok s
  | .fragment, s => withChars stale buffer s.mark fpc onRequestFragment s
  | .startQuery, s => .ok { s with queryStart := fpc }
  | .queryString, s => withChars stale buffer s.queryStart fpc onRequestQueryString s
  | .httpVersion, s => .ok (onRequestHttpVersion (buffer.drop s.mark) (LEN s.mark fpc) s)
  | .requestPath, s => withChars stale buffer s.mark fpc onRequestPath s
  | .done, s =>
    if s.xmlSent || s.jsonSent then
      .ok { s with bodyStart := s.mark, contentLen := fpc - s.mark + 1 }
    else .ok { s with bodyStart := fpc + 1 }
  | .xml, s => .ok { s with xmlSent := true }
  | .json, s => .ok { s with jsonSent := true }

/-- `parser->cs = cs` unless the parser is in the error state -/
def HttpRequestParser.setCs (cs : Nat) (s : HttpRequestParser) : HttpRequestParser :=
  if s.cs = Request.error then s else { s with cs := cs }

/-- what `http_parser_execute` sets back before it scans -/
def HttpRequestParser.rewind (s : HttpRequestParser) : HttpRequestParser :=
  { s with mark := 0, fieldLen := 0, fieldStart := 0 }

/-- `HttpRequestParser::execute`: the parser and the number of bytes it is through with -/
def execute (uri_relaxed : Bool) (s : HttpRequestParser) : Except Fault (HttpRequestParser × Nat) :=
  if buffer.length = 0 then .ok (s, 0)
  else
    match scan (trans uri_relaxed) (act stale buffer) s.cs 0 buffer s.rewind with
    | .more cs s => .ok (s.setCs cs, buffer.length)
    | .stop cs p s => .ok (s.setCs cs, p)
    | .bad p s => .ok (s.setCs Request.error, p)
    | .fail e => .error e

end

def HttpRequestParser.hasError (s : HttpRequestParser) : Bool := s.error ≠ 0 || s.cs = Request.error

def HttpRequestParser.isFinished (s : HttpRequestParser) : Int :=
  if s.cs = Request.error then -1 else if s.cs ≥ firstFinal then 1 else 0

def HttpRequestParser.getContentLength (s : HttpRequestParser) (u : Ambient) : Nat :=
  s.request.headers.getAs u.lexical_cast.uint64 (asc "content-length") 0

end Request
end Http
end KitServer
