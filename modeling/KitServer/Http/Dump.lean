import KitServer.Http.Message

/-!
# `HttpRequest::dump` and `HttpResponse::dump`

What is written to the stream, and the names of the methods and of the states.

* `decimal`            a number as `operator<<` writes it;
* `HttpRequest.dump`, `HttpResponse.dump`;
* `digitsFrom_decimal` the digits give the number back.
-/

set_option linter.unusedVariables false

namespace KitServer
namespace Http

/-- `os << n` -/
def decimal (n : Nat) : Str := (Nat.toDigits 10 n).map fun c => UInt8.ofNat c.toNat

def crlf : Str := [13, 10]

def HttpMethodToString (method : HttpMethod) : Str :=
  match httpMethodMap.find? fun x => decide (x.1 = method) with
  | some x => x.2
  | none => asc "<unknown>"

/-- `HTTP_STATUS_MAP` -/
def httpStatusMap : List (Int × Str) :=
  [(100, asc "Continue"), (101, asc "Switching Protocols"), (102, asc "Processing"),
    (200, asc "OK"), (201, asc "Created"), (202, asc "Accepted"),
    (203, asc "Non-Authoritative Information"), (204, asc "No Content"),
    (205, asc "Reset Content"), (206, asc "Partial Content"), (207, asc "Multi-Status"),
    (208, asc "Already Reported"), (226, asc "IM Used"), (300, asc "Multiple Choices"),
    (301, asc "Moved Permanently"), (302, asc "Found"), (303, asc "See Other"),
    (304, asc "Not Modified"), (305, asc "Use Proxy"), (307, asc "Temporary Redirect"),
    (308, asc "Permanent Redirect"), (400, asc "Bad Request"), (401, asc "Unauthorized"),
    (402, asc "Payment Required"), (403, asc "Forbidden"), (404, asc "Not Found"),
    (405, asc "Method Not Allowed"), (406, asc "Not Acceptable"),
    (407, asc "Proxy Authentication Required"), (408, asc "Request Timeout"),
    (409, asc "Conflict"), (410, asc "Gone"), (411, asc "Length Required"),
    (412, asc "Precondition Failed"), (413, asc "Payload Too Large"), (414, asc "URI Too Long"),
    (415, asc "Unsupported Media Type"), (416, asc "Range Not Satisfiable"),
    (417, asc "Expectation Failed"), (421, asc "Misdirected Request"),
    (422, asc "Unprocessable Entity"), (423, asc "Locked"), (424, asc "Failed Dependency"),
    (426, asc "Upgrade Required"), (428, asc "Precondition Required"),
    (429, asc "Too Many Requests"), (431, asc "Request Header Fields Too Large"),
    (451, asc "Unavailable For Legal Reasons"), (500, asc "Internal Server Error"),
    (501, asc "Not Implemented"), (502, asc "Bad Gateway"), (503, asc "Service Unavailable"),
    (504, asc "Gateway Timeout"), (505, asc "HTTP Version Not Supported"),
    (506, asc "Variant Also Negotiates"), (507, asc "Insufficient Storage"),
    (508, asc "Loop Detected"), (510, asc "Not Extended"),
    (511, asc "Network Authentication Required")]

def HttpStatusToString (status : Int) : Str :=
  match httpStatusMap.find? fun x => decide (x.1 = status) with
  | some x => x.2
  | none => asc "<unknown>"

/-- ` HTTP/` and the two halves of the version -/
def versionString (version : UInt8) : Str :=
  asc "HTTP/" ++ decimal (version >>> 4).toNat ++ asc "." ++ decimal (version &&& 0x0F).toNat

/-- one field of the header, without its end -/
def fieldString (x : Str × Str) : Str := x.1 ++ asc ":" ++ x.2

/-- the loop over the map, which leaves `connection` out -/
def dumpHeaders (headers : MapType) : Str :=
  (headers.filter fun x => !strcasecmpEq x.1 (asc "connection")).flatMap fun x =>
    fieldString x ++ crlf

/-- the end of both messages: the length and the body -/
def dumpBody (body : Str) : Str :=
  if body.length ≠ 0 then asc "content-length: " ++ decimal body.length ++ crlf ++ crlf ++ body
  else crlf

def connectionString (close : Bool) : Str := if close then asc "close" else asc "keep-alive"

namespace HttpRequest

def startLine (r : HttpRequest) : Str :=
  HttpMethodToString r.method ++ asc " " ++ r.path
    ++ (if r.query.length ≠ 0 then asc "?" else []) ++ r.query
    ++ (if r.fragment.length ≠ 0 then asc "#" else []) ++ r.fragment
    ++ asc " " ++ versionString r.version

def dump (r : HttpRequest) : Str :=
  r.startLine ++ crlf ++ (asc "connection:" ++ connectionString r.close ++ crlf)
    ++ dumpHeaders r.headers ++ dumpBody r.body

def toString (r : HttpRequest) : Str := r.dump

end HttpRequest

namespace HttpResponse

/-- the status is written as a `uint32_t` -/
def startLine (r : HttpResponse) : Str :=
  versionString r.version ++ asc " " ++ decimal (r.status % 2 ^ 32).toNat ++ asc " "
    ++ (if r.reason.length ≠ 0 then r.reason else HttpStatusToString r.status)

def dump (r : HttpResponse) : Str :=
  r.startLine ++ crlf ++ dumpHeaders r.headers
    ++ (asc "connection: " ++ connectionString r.close ++ crlf) ++ dumpBody r.body

def toString (r : HttpResponse) : Str := r.dump

end HttpResponse

/-! ## the digits of a number -/

theorem digit?_ofNat {c : Char} (h : c.isDigit = true) :
    digit? 10 (UInt8.ofNat c.toNat) = some (c.toNat - 48) := by
  rw [Char.isDigit, Bool.and_eq_true, decide_eq_true_iff, decide_eq_true_iff] at h
  have hlo : 48 ≤ c.toNat := h.1
  have hhi : c.toNat ≤ 57 := h.2
  have hbyte : (UInt8.ofNat c.toNat).toNat = c.toNat :=
    Nat.mod_eq_of_lt (show c.toNat < 2 ^ 8 by omega)
  have hlt : c.toNat - 48 < 10 := by omega
  simp only [digit?, hbyte, hlo, hhi, and_self, if_true, if_pos hlt]

theorem digitsFrom_map (cs : List Char) (acc : Nat) (h : ∀ c ∈ cs, c.isDigit = true) :
    digitsFrom 10 acc (cs.map fun c => UInt8.ofNat c.toNat) = Nat.ofDigitChars 10 cs acc := by
  induction cs generalizing acc with
  | nil => rfl
  | cons c cs ih =>
    rw [List.map_cons, digitsFrom, digit?_ofNat (h c List.mem_cons_self)]
    show digitsFrom 10 (acc * 10 + (c.toNat - 48)) _ = _
    rw [ih _ fun d hd => h d (List.mem_cons_of_mem _ hd), Nat.ofDigitChars_cons, Nat.mul_comm]
    rfl

theorem digitsFrom_decimal (n : Nat) : digitsFrom 10 0 (decimal n) = n := by
  rw [decimal, digitsFrom_map _ _ fun c hc => Nat.isDigit_of_mem_toDigits (by omega) (by omega) hc,
    Nat.ofDigitChars_toDigits (by omega) (by omega)]

theorem decimal_digit {n : Nat} {c : UInt8} (h : c ∈ decimal n) : (digit? 10 c).isSome = true := by
  obtain ⟨d, hd, rfl⟩ := List.mem_map.mp h
  rw [digit?_ofNat (Nat.isDigit_of_mem_toDigits (by omega) (by omega) hd)]
  rfl

theorem decimal_ne_nil (n : Nat) : decimal n ≠ [] := by
  rw [decimal, Ne, List.map_eq_nil_iff]
  exact Nat.toDigits_ne_nil

/-! ## numbers that are read -/

/-- `boost::lexical_cast<uint64_t>`, `none` when it throws -/
structure LexicalCast where
  uint64 : Str → Option Nat
  lt : ∀ s v, uint64 s = some v → v < 2 ^ 64
  read_decimal : ∀ n < 2 ^ 64, uint64 (decimal n) = some n

/-- decimal digits, maybe behind a sign; behind a minus the number wraps -/
def digitsCast (s : Str) : Option Nat :=
  let number := fun r : Str =>
    if r ≠ [] && r.all (fun c => (digit? 10 c).isSome) && digitsFrom 10 0 r < 2 ^ 64 then
      some (digitsFrom 10 0 r)
    else none
  match s with
  | 45 :: r => (number r).map fun v => (2 ^ 64 - v) % 2 ^ 64
  | 43 :: r => number r
  | _ => number s

theorem digitsCast_lt {s : Str} {v : Nat} (h : digitsCast s = some v) : v < 2 ^ 64 := by
  have hnum : ∀ (r : Str) (w : Nat), (if (r ≠ [] && r.all (fun c => (digit? 10 c).isSome) &&
      digitsFrom 10 0 r < 2 ^ 64) = true then some (digitsFrom 10 0 r) else none) = some w →
      w < 2 ^ 64 := by
    intro r w hw
    split at hw
    · next hc =>
      cases hw
      simp only [Bool.and_eq_true, decide_eq_true_eq] at hc
      exact hc.2
    · cases hw
  unfold digitsCast at h
  split at h
  · rw [Option.map_eq_some_iff] at h
    obtain ⟨w, _, rfl⟩ := h
    exact Nat.mod_lt _ (by norm_num)
  · exact hnum _ _ h
  · exact hnum _ _ h

theorem digitsCast_decimal {n : Nat} (hn : n < 2 ^ 64) : digitsCast (decimal n) = some n := by
  obtain ⟨c, ds, hds⟩ := List.exists_cons_of_ne_nil (decimal_ne_nil n)
  have hc : (digit? 10 c).isSome = true := decimal_digit (n := n) (hds ▸ List.mem_cons_self)
  have hall : (decimal n).all (fun c => (digit? 10 c).isSome) = true :=
    List.all_eq_true.mpr fun c hc => decimal_digit hc
  unfold digitsCast
  dsimp only
  split
  · rename_i heq
    rw [hds] at heq
    obtain ⟨rfl, _⟩ := List.cons.inj heq
    exact absurd hc (by decide)
  · rename_i heq
    rw [hds] at heq
    obtain ⟨rfl, _⟩ := List.cons.inj heq
    exact absurd hc (by decide)
  · rw [digitsFrom_decimal, hall, decide_eq_true hn, decide_eq_true (decimal_ne_nil n)]
    rfl

def LexicalCast.digits : LexicalCast :=
  ⟨digitsCast, fun _ _ h => digitsCast_lt h, fun _ hn => digitsCast_decimal hn⟩

end Http
end KitServer
