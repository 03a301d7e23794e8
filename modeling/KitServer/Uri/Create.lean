import KitServer.Http.Message
import KitServer.Uri.Table

/-!
# `Uri`

The class of `uri.h` and the code of `uri.rl`: the actions of the parser with their one pointer
`mark`, `Uri::Create`, and the printer.  Pointers into the input are offsets, `NULL` is `none`.
-/

set_option linter.unusedVariables false

namespace KitServer
open Http (Str asc atoi)

structure Uri where
  scheme : Str
  userinfo : Str
  host : Str
  port : Int
  path : Str
  query : Str
  fragment : Str
deriving DecidableEq

namespace Uri

/-- what an action or the printer does when it leaves its memory: a string made from `NULL`, a
string of negative length, a read behind a literal -/
inductive Fault where
  | nullMark
  | lengthError
  | outOfBounds
deriving DecidableEq

def new : Uri where
  scheme := []
  userinfo := []
  host := []
  port := 0
  path := []
  query := []
  fragment := []

/-- the conversion to `int16_t` -/
def toInt16 (v : Int) : Int := v.bmod (2 ^ 16)

def setScheme (v : Str) (u : Uri) : Uri := { u with scheme := v }
def setUserinfo (v : Str) (u : Uri) : Uri := { u with userinfo := v }
def setHost (v : Str) (u : Uri) : Uri := { u with host := v }
def setPort (v : Int) (u : Uri) : Uri := { u with port := toInt16 v }
def setPath (v : Str) (u : Uri) : Uri := { u with path := v }
def setQuery (v : Str) (u : Uri) : Uri := { u with query := v }
def setFragment (v : Str) (u : Uri) : Uri := { u with fragment := v }

def getPort (u : Uri) : Int :=
  if u.port ≠ 0 then u.port
  else if u.scheme = asc "http" then 80
  else if u.scheme = asc "https" then 443
  else 0

def isDefaultPort (u : Uri) : Bool :=
  if u.port = 0 then true
  else if u.scheme = asc "http" then u.port = 80
  else if u.scheme = asc "https" then u.port = 443
  else false

/-! ## the printer -/

/-- `":" + std::string("" + m_port)`: the sum is a pointer that many bytes behind the start of the
literal, which has one byte -/
def portText (u : Uri) : Except Fault Str :=
  if u.isDefaultPort then .ok []
  else if u.port = 0 then .ok (asc ":")
  else .error .outOfBounds

def dump (u : Uri) : Except Fault Str :=
  match portText u with
  | .error e => .error e
  | .ok port =>
    .ok (u.scheme ++ asc "://" ++ u.userinfo ++ (if u.userinfo.length ≠ 0 then asc "@" else [])
      ++ u.host ++ port ++ (if u.path.length ≠ 0 then u.path else asc "/")
      ++ (if u.query.length ≠ 0 then asc "?" else []) ++ u.query
      ++ (if u.fragment.length ≠ 0 then asc "#" else []) ++ u.fragment)

def toString (u : Uri) : Except Fault Str := dump u

/-! ## the parser -/

structure Parse where
  mark : Option Nat
  uri : Uri
deriving DecidableEq

section
variable (u : Str)

/-- `std::string(mark, fpc - mark)` -/
def span (mark : Option Nat) (fpc : Nat) : Except Fault Str :=
  match mark with
  | none => .error .nullMark
  | some m => if m ≤ fpc then .ok ((u.drop m).take (fpc - m)) else .error .lengthError

/-- a string that goes to a field, behind which `mark` is `next` -/
def save (fpc : Nat) (set : Str → Uri → Uri) (next : Option Nat) (s : Parse) :
    Except Fault Parse :=
  match span u s.mark fpc with
  | .error e => .error e
  | .ok v => .ok ⟨next, set v s.uri⟩

def act (fpc : Nat) : Act → Parse → Except Fault Parse
  | .marku, s => .ok { s with mark := some fpc }
  | .markh, s => .ok { s with mark := some fpc }
  | .saveScheme, s => save u fpc setScheme none s
  | .savePort, s =>
    match s.mark with
    | none => .error .nullMark
    | some m => .ok ⟨none, if fpc ≠ m then setPort (atoi (u.drop m)) s.uri else s.uri⟩
  | .saveUserinfo, s =>
    if s.mark.isSome then save u fpc setUserinfo none s else .ok { s with mark := none }
  | .saveHost, s => if s.mark.isSome then save u fpc setHost s.mark s else .ok s
  | .savePath, s => save u fpc setPath none s
  | .saveQuery, s => save u fpc setQuery none s
  | .saveFragment, s => save u fpc setFragment none s

/-- behind the last byte: the actions of the final state, and what `Create` returns -/
def finish (cs : Nat) (s : Parse) : Except Fault (Option Uri) :=
  match runActs (act u u.length) (eofActs cs) s with
  | .error e => .error e
  | .ok s' =>
    .ok (if cs = error then none else if cs ≥ firstFinal then some s'.uri else none)

def outcome : Scan Parse Fault → Except Fault (Option Uri)
  | .more cs s => finish u cs s
  | .stop _ _ _ => .ok none
  | .bad _ _ => .ok none
  | .fail e => .error e

/-- `Uri::Create`; `none` is the null pointer -/
def Create : Except Fault (Option Uri) :=
  outcome u (scan trans (act u) start 0 u ⟨none, new⟩)

end

end Uri
end KitServer
