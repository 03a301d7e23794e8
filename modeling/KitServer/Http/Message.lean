import Mathlib

/-!
# Requests and responses, and the C functions on strings that the parsers call

A string is a list of bytes.  A C string is read up to its first NUL or the end of the list.  A map
of header fields is the list of its entries in the order of `CaseInsensitiveLess`.
-/

set_option linter.unusedVariables false

namespace KitServer
namespace Http

abbrev Str := List UInt8

def asc (s : String) : Str := s.toList.map fun c => UInt8.ofNat c.toNat

/-! ## C strings and numbers -/

def tolower (c : UInt8) : UInt8 := if 65 ≤ c && c ≤ 90 then c + 32 else c

def isspace (c : UInt8) : Bool := (9 ≤ c && c ≤ 13) || c = 32

/-- `strncmp(a, b, n) == 0` -/
def strncmpEq : Nat → Str → Str → Bool
  | 0, _, _ => true
  | _ + 1, [], [] => true
  | _ + 1, [], y :: _ => y = 0
  | _ + 1, x :: _, [] => x = 0
  | n + 1, x :: xs, y :: ys => x = y && (x = 0 || strncmpEq n xs ys)

/-- the letters that `strcasecmp` compares -/
def caseFold (s : Str) : Str := (s.takeWhile (· ≠ 0)).map tolower

def lexLess : Str → Str → Bool
  | _, [] => false
  | [], _ :: _ => true
  | x :: xs, y :: ys => x < y || (x = y && lexLess xs ys)

theorem lexLess_irrefl (a : Str) : lexLess a a = false := by
  induction a with
  | nil => rfl
  | cons c a ih => simp [lexLess, ih]

def CaseInsensitiveLess (lhs rhs : Str) : Bool := lexLess (caseFold lhs) (caseFold rhs)

def strcasecmpEq (a b : Str) : Bool := caseFold a = caseFold b

def digit? (base : Nat) (c : UInt8) : Option Nat :=
  let n := c.toNat
  let d :=
    if 48 ≤ n ∧ n ≤ 57 then n - 48
    else if 65 ≤ n ∧ n ≤ 90 then n - 55
    else if 97 ≤ n ∧ n ≤ 122 then n - 87
    else base
  if d < base then some d else none

/-- the digits at the front of `s`, behind the number `acc` -/
def digitsFrom (base : Nat) : Nat → Str → Nat
  | acc, [] => acc
  | acc, c :: s =>
    match digit? base c with
    | some d => digitsFrom base (acc * base + d) s
    | none => acc

/-- `0x` in front of a hexadecimal digit -/
def skip0x (base : Nat) : Str → Str
  | 48 :: x :: c :: s =>
    if base = 16 && (x = 120 || x = 88) && (digit? 16 c).isSome then c :: s else 48 :: x :: c :: s
  | s => s

/-- `strtol(s, NULL, base)`: a `long`, clamped when the digits overflow -/
def strtol (base : Nat) (s : Str) : Int :=
  let s := s.dropWhile isspace
  let value := fun r => (digitsFrom base 0 (skip0x base r) : Int)
  match s with
  | 45 :: r => max (-(2 ^ 63)) (-(value r))
  | 43 :: r => min (2 ^ 63 - 1) (value r)
  | _ => min (2 ^ 63 - 1) (value s)

/-- the conversions to `int` and to `int64_t` -/
def toInt32 (v : Int) : Int := v.bmod (2 ^ 32)
def toInt64 (v : Nat) : Int := (v : Int).bmod (2 ^ 64)

def atoi (s : Str) : Int := toInt32 (strtol 10 s)

/-! ## header fields -/

abbrev MapType := List (Str × Str)

/-- `m[key] = val` -/
def MapType.set (key val : Str) : MapType → MapType
  | [] => [(key, val)]
  | (k, v) :: m =>
    if CaseInsensitiveLess k key then (k, v) :: MapType.set key val m
    else if CaseInsensitiveLess key k then (key, val) :: (k, v) :: m
    else (k, val) :: m

def MapType.find (m : MapType) (key : Str) : Option Str :=
  (List.find? (fun x => strcasecmpEq x.1 key) m).map Prod.snd

/-- `getAs`, where `lexical_cast` is `none` when it throws -/
def MapType.getAs {T : Type} (lexical_cast : Str → Option T) (m : MapType) (key : Str)
    (dflt : T) : T :=
  match m.find key with
  | none => dflt
  | some str =>
    match lexical_cast str with
    | some val => val
    | none => dflt

/-! ## methods, requests, responses -/

inductive HttpMethod where
  | DELETE
  | GET
  | HEAD
  | POST
  | PUT
  | CONNECT
  | OPTIONS
  | TRACE
  | COPY
  | LOCK
  | MKCOL
  | MOVE
  | PROPFIND
  | PROPPATCH
  | SEARCH
  | UNLOCK
  | BIND
  | REBIND
  | UNBIND
  | ACL
  | REPORT
  | MKACTIVITY
  | CHECKOUT
  | MERGE
  | MSEARCH
  | NOTIFY
  | SUBSCRIBE
  | UNSUBSCRIBE
  | PATCH
  | PURGE
  | MKCALENDAR
  | LINK
  | UNLINK
  | SOURCE
  | INVALID_METHOD
deriving DecidableEq

/-- `HTTP_METHOD_MAP` -/
def httpMethodMap : List (HttpMethod × Str) :=
  [(.DELETE, asc "DELETE"), (.GET, asc "GET"), (.HEAD, asc "HEAD"), (.POST, asc "POST"),
    (.PUT, asc "PUT"), (.CONNECT, asc "CONNECT"), (.OPTIONS, asc "OPTIONS"),
    (.TRACE, asc "TRACE"), (.COPY, asc "COPY"), (.LOCK, asc "LOCK"), (.MKCOL, asc "MKCOL"),
    (.MOVE, asc "MOVE"), (.PROPFIND, asc "PROPFIND"), (.PROPPATCH, asc "PROPPATCH"),
    (.SEARCH, asc "SEARCH"), (.UNLOCK, asc "UNLOCK"), (.BIND, asc "BIND"),
    (.REBIND, asc "REBIND"), (.UNBIND, asc "UNBIND"), (.ACL, asc "ACL"), (.REPORT, asc "REPORT"),
    (.MKACTIVITY, asc "MKACTIVITY"), (.CHECKOUT, asc "CHECKOUT"), (.MERGE, asc "MERGE"),
    (.MSEARCH, asc "M-SEARCH"), (.NOTIFY, asc "NOTIFY"), (.SUBSCRIBE, asc "SUBSCRIBE"),
    (.UNSUBSCRIBE, asc "UNSUBSCRIBE"), (.PATCH, asc "PATCH"), (.PURGE, asc "PURGE"),
    (.MKCALENDAR, asc "MKCALENDAR"), (.LINK, asc "LINK"), (.UNLINK, asc "UNLINK"),
    (.SOURCE, asc "SOURCE")]

/-- the first name that `method` starts with, whatever follows it -/
def CharsToHttpMethod (method : Str) : HttpMethod :=
  match httpMethodMap.find? fun x => x.2.isPrefixOf method with
  | some x => x.1
  | none => .INVALID_METHOD

structure HttpRequest where
  method : HttpMethod
  version : UInt8
  close : Bool
  path : Str
  query : Str
  fragment : Str
  body : Str
  headers : MapType
deriving DecidableEq

def HttpRequest.new : HttpRequest where
  method := .GET
  version := 0x11
  close := true
  path := [47]
  query := []
  fragment := []
  body := []
  headers := []

def HttpRequest.setHeader (key val : Str) (r : HttpRequest) : HttpRequest :=
  { r with headers := MapType.set key val r.headers }

def HttpRequest.getHeader (key dflt : Str) (r : HttpRequest) : Str :=
  (MapType.find r.headers key).getD dflt

def HttpRequest.init (r : HttpRequest) : HttpRequest :=
  let connection := r.getHeader (asc "connection") []
  if connection.length ≠ 0 then { r with close := !strcasecmpEq connection (asc "keep-alive") }
  else r

structure HttpResponse where
  status : Int
  version : UInt8
  close : Bool
  body : Str
  reason : Str
  headers : MapType
deriving DecidableEq

def HttpResponse.new : HttpResponse where
  status := 200
  version := 0x11
  close := true
  body := []
  reason := []
  headers := []

def HttpResponse.setHeader (key val : Str) (r : HttpResponse) : HttpResponse :=
  { r with headers := MapType.set key val r.headers }

end Http
end KitServer
