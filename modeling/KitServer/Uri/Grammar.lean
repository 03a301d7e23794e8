import KitServer.Uri.Create

/-!
# The grammar of URIs

The definitions of `uri.rl` under their names, and those of RFC 3986 (quoted at the top of the file)
that differ: `uri.rl` has exact counts in `IPv6address` where the RFC has upper bounds, the byte 2
in `dec_octet` where the RFC has the digit, and only the small `v` in `IPvFuture`.

-/

set_option linter.unusedVariables false

namespace KitServer

namespace Uri
open Regex

def one (c : Char) : Nat := byteRange c.toNat c.toNat
def chr (c : Char) : Regex := bytes (one c)

/-! ## `uri.rl` -/

namespace Rl

def alpha : Nat := byteRange 65 90 ||| byteRange 97 122
def digit : Nat := byteRange 48 57
def xdigit : Nat := byteRange 48 57 ||| byteRange 65 70 ||| byteRange 97 102

def subDelims : Nat :=
  one '!' ||| one '$' ||| one '&' ||| byteRange 39 39 ||| one '(' ||| one ')' ||| one '*' ||| one '+'
    ||| one ',' ||| one ';' ||| one '='
def unreserved : Nat := alpha ||| digit ||| one '-' ||| one '.' ||| one '_' ||| one '~'
def pctEncoded : Regex := chr '%' * (bytes xdigit * bytes xdigit)

def scheme : Regex :=
  bytes alpha * star (bytes (alpha ||| digit ||| one '+' ||| one '-' ||| one '.'))

def userinfo : Regex := star (bytes unreserved + pctEncoded + bytes subDelims + chr ':')

def decOctet : Regex :=
  bytes digit + bytes (byteRange 49 57) * bytes digit + chr '1' * times 2 (bytes digit)
    + bytes (byteRange 2 2) * (bytes (byteRange 48 52) * bytes digit)
    + chr '2' * (chr '5' * bytes (byteRange 48 53))
def ipv4address : Regex :=
  decOctet * (chr '.' * (decOctet * (chr '.' * (decOctet * (chr '.' * decOctet)))))
def h16 : Regex := oneTo 3 (bytes xdigit)
def ls32 : Regex := h16 * (chr ':' * h16) + ipv4address
/-- `h16 ":"` -/
def group : Regex := h16 * chr ':'
/-- `"::"` -/
def colons : Regex := chr ':' * chr ':'
def ipv6address : Regex :=
  times 6 group * ls32
    + colons * (times 5 group * ls32)
    + opt h16 * (colons * (times 4 group * ls32))
    + opt (times 1 group * h16) * (colons * (times 3 group * ls32))
    + opt (times 2 group * h16) * (colons * (times 2 group * ls32))
    + opt (times 3 group * h16) * (colons * (times 1 group * ls32))
    + opt (times 4 group * h16) * (colons * ls32)
    + opt (times 5 group * h16) * (colons * h16)
    + opt (times 6 group * h16) * colons
def ipvFuture : Regex :=
  chr 'v' * (plus (bytes xdigit) * (chr '.'
    * plus (bytes unreserved + bytes subDelims + chr ':')))
def ipLiteral : Regex := chr '[' * ((ipv6address + ipvFuture) * chr ']')
def regName : Regex := star (bytes unreserved + pctEncoded + bytes subDelims)
def host : Regex := ipLiteral + ipv4address + regName
def port : Regex := star (bytes digit)

/-- `any -- ascii` -/
def nonAscii : Nat := byteRange 128 255
def pchar : Regex :=
  bytes nonAscii + bytes unreserved + pctEncoded + bytes subDelims + chr ':' + chr '@'
def segment : Regex := star pchar
def pathAbempty : Regex := opt (chr '/' * segment) * star (chr '/' * segment)
def query : Regex := star (pchar + chr '/' + chr '?')
def fragment : Regex := star (pchar + chr '/' + chr '?')

end Rl

/-! ## RFC 3986 -/

namespace Rfc
open Rl (digit xdigit unreserved subDelims group colons h16 regName)

def decOctet : Regex :=
  bytes digit + bytes (byteRange 49 57) * bytes digit + chr '1' * times 2 (bytes digit)
    + chr '2' * (bytes (byteRange 48 52) * bytes digit)
    + chr '2' * (chr '5' * bytes (byteRange 48 53))
def ipv4address : Regex :=
  decOctet * (chr '.' * (decOctet * (chr '.' * (decOctet * (chr '.' * decOctet)))))
def ls32 : Regex := h16 * (chr ':' * h16) + ipv4address
def ipv6address : Regex :=
  times 6 group * ls32
    + colons * (times 5 group * ls32)
    + opt h16 * (colons * (times 4 group * ls32))
    + opt (upTo 1 group * h16) * (colons * (times 3 group * ls32))
    + opt (upTo 2 group * h16) * (colons * (times 2 group * ls32))
    + opt (upTo 3 group * h16) * (colons * (group * ls32))
    + opt (upTo 4 group * h16) * (colons * ls32)
    + opt (upTo 5 group * h16) * (colons * h16)
    + opt (upTo 6 group * h16) * colons
def ipvFuture : Regex :=
  bytes (one 'v' ||| one 'V') * (plus (bytes xdigit) * (chr '.'
    * plus (bytes unreserved + bytes subDelims + chr ':')))
def ipLiteral : Regex := chr '[' * ((ipv6address + ipvFuture) * chr ']')
def host : Regex := ipLiteral + ipv4address + regName

end Rfc

end Uri
end KitServer
