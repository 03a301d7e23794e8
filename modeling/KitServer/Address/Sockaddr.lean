import Mathlib
import KitServer.Lib.Bits
import KitServer.ByteArray.Store

/-!
# Socket addresses: the stored structures and the byte order of the port and of the address

* `Endian.byteswapOnSmallEndian`   from the host's byte order to the network's, and back;
* `SockaddrIn`, `SockaddrIn6`      what an `IPv4Address` and an `IPv6Address` keep;
* `CreateHostMask`, `CountBytes`   the mask of the host bits, and the number of set bits;
* `IPv4Address.broadcastAddress` … `IPv6Address.subnetMask`.

A shift by too much, a signed overflow and an index past `s6_addr` are a `Fault`.
-/

set_option linter.unusedVariables false

namespace KitServer

def bswap_16 (x : BitVec 16) : BitVec 16 := x.extractLsb' 0 8 ++ x.extractLsb' 8 8

def bswap_32 (x : BitVec 32) : BitVec 32 :=
  x.extractLsb' 0 8 ++ x.extractLsb' 8 8 ++ x.extractLsb' 16 8 ++ x.extractLsb' 24 8

/-- `byteswap`: the size of the type chooses between the two -/
class Byteswap (w : Nat) where
  byteswap : BitVec w → BitVec w

instance : Byteswap 16 := ⟨bswap_16⟩
instance : Byteswap 32 := ⟨bswap_32⟩

/-- the identity on a host that is big-endian -/
def Endian.byteswapOnSmallEndian {w : Nat} [Byteswap w] (host : Endian) (t : BitVec w) :
    BitVec w :=
  match host with
  | .small => Byteswap.byteswap t
  | .big => t

namespace Address

inductive Fault where
  | shiftTooFar
  | overflow
  | outOfBounds
deriving DecidableEq, Repr

def AF_INET : BitVec 16 := 2
def AF_INET6 : BitVec 16 := 10

structure SockaddrIn where
  sin_family : BitVec 16
  sin_port : BitVec 16
  sin_addr : BitVec 32
deriving DecidableEq, Repr

abbrev In6Addr := Vector (BitVec 8) 16

structure SockaddrIn6 where
  sin6_family : BitVec 16
  sin6_port : BitVec 16
  sin6_flowinfo : BitVec 32
  sin6_addr : In6Addr
  sin6_scope_id : BitVec 32
deriving DecidableEq, Repr

/-- `(1 << (sizeof(T) * 8 - bits)) - 1`, where the 1 is an `int` and the distance a `size_t` -/
def CreateHostMask (w bits : Nat) : Except Fault (BitVec w) :=
  let distance := (2 ^ 64 + w - bits) % 2 ^ 64
  if distance < 32 then
    -- 2^31 is no `int`: it comes back as the least one
    let shifted := ((2 : Int) ^ distance).bmod (2 ^ 32)
    if -2 ^ 31 ≤ shifted - 1 then .ok (BitVec.ofInt w (shifted - 1)) else .error .overflow
  else .error .shiftTooFar

def CountBytes {w : Nat} (val : BitVec w) : Nat := Bits.countLoop val 0

namespace In6Addr

/-- `s6_addr[i] = f(s6_addr[i])` -/
def modify (a : In6Addr) (i : Nat) (f : BitVec 8 → BitVec 8) : Except Fault In6Addr :=
  if h : i < 16 then .ok (a.set i (f a[i])) else .error .outOfBounds

/-- `for(size_t i = start; i < stop; ++i) s6_addr[i] = x` -/
def fill (a : In6Addr) (start stop : Nat) (x : BitVec 8) : Except Fault In6Addr :=
  (List.range' start (stop - start)).foldlM (fun a i => modify a i fun _ => x) a

def zero : In6Addr := Vector.replicate 16 0

end In6Addr

/-- an object of the class `IPv4Address` is its `m_sockaddr` -/
abbrev IPv4Address := SockaddrIn

namespace IPv4Address
variable (host : Endian)

/-- the constructor from an address and a port in the host's byte order -/
def new (address : BitVec 32) (port : BitVec 16) : IPv4Address where
  sin_family := AF_INET
  sin_port := host.byteswapOnSmallEndian port
  sin_addr := host.byteswapOnSmallEndian address

def broadcastAddress (s : IPv4Address) (len : Nat) : Except Fault (Option IPv4Address) := do
  if len > 32 then return none
  let mask ← CreateHostMask 32 len
  return some { s with sin_addr := s.sin_addr ||| host.byteswapOnSmallEndian mask }

def subnetAddress (s : IPv4Address) (len : Nat) : Except Fault (Option IPv4Address) := do
  if len > 32 then return none
  let mask ← CreateHostMask 32 len
  return some { s with sin_addr := s.sin_addr &&& ~~~ host.byteswapOnSmallEndian mask }

def subnetMask (len : Nat) : Except Fault (Option IPv4Address) := do
  if len > 32 then return none
  let mask ← CreateHostMask 32 len
  return some
    { sin_family := AF_INET, sin_port := 0, sin_addr := ~~~ host.byteswapOnSmallEndian mask }

def getPort (s : IPv4Address) : BitVec 16 := host.byteswapOnSmallEndian s.sin_port

def setPort (s : IPv4Address) (val : BitVec 16) : IPv4Address :=
  { s with sin_port := host.byteswapOnSmallEndian val }

end IPv4Address

/-- an object of the class `IPv6Address` is its `m_sockaddr` -/
abbrev IPv6Address := SockaddrIn6

namespace IPv6Address
variable (host : Endian)

def new : IPv6Address where
  sin6_family := AF_INET6
  sin6_port := 0
  sin6_flowinfo := 0
  sin6_addr := In6Addr.zero
  sin6_scope_id := 0

def broadcastAddress (s : IPv6Address) (len : Nat) : Except Fault (Option IPv6Address) := do
  if len > 128 then return none
  let mask ← CreateHostMask 8 (len % 8)
  let a ← In6Addr.modify s.sin6_addr (len / 8) (· ||| mask)
  let a ← In6Addr.fill a (len / 8 + 1) 16 0xff
  return some { s with sin6_addr := a }

def subnetAddress (s : IPv6Address) (len : Nat) : Except Fault (Option IPv6Address) := do
  if len > 128 then return none
  let mask ← CreateHostMask 8 (len % 8)
  let a ← In6Addr.modify s.sin6_addr (len / 8) (· &&& ~~~ mask)
  let a ← In6Addr.fill a (len / 8 + 1) 16 0
  return some { s with sin6_addr := a }

def subnetMask (len : Nat) : Except Fault (Option IPv6Address) := do
  if len > 128 then return none
  let mask ← CreateHostMask 8 (len % 8)
  let a ← In6Addr.modify In6Addr.zero (len / 8) fun _ => ~~~ mask
  let a ← In6Addr.fill a 0 (len / 8) 0xff
  return some { new with sin6_addr := a }

def getPort (s : IPv6Address) : BitVec 16 := host.byteswapOnSmallEndian s.sin6_port

def setPort (s : IPv6Address) (port : BitVec 16) : IPv6Address :=
  { s with sin6_port := host.byteswapOnSmallEndian port }

end IPv6Address

/-! ## The byte order -/

section
variable (host : Endian)

theorem bswap_16_bswap_16 (x : BitVec 16) : bswap_16 (bswap_16 x) = x := by
  apply BitVec.eq_of_getLsbD_eq
  intro i hi
  simp only [bswap_16, BitVec.getLsbD_append, BitVec.getLsbD_extractLsb']
  interval_cases i <;> simp

theorem byteswap_byteswap_16 (x : BitVec 16) :
    host.byteswapOnSmallEndian (host.byteswapOnSmallEndian x) = x := by
  cases host with
  | small => exact bswap_16_bswap_16 x
  | big => rfl

theorem getLsbD_bswap_32 (x : BitVec 32) (i : Nat) (hi : i < 32) :
    (bswap_32 x).getLsbD i = x.getLsbD (24 - i / 8 * 8 + i % 8) := by
  simp only [bswap_32, BitVec.getLsbD_append, BitVec.getLsbD_extractLsb']
  interval_cases i <;> simp

theorem bswap_32_bswap_32 (x : BitVec 32) : bswap_32 (bswap_32 x) = x := by
  apply BitVec.eq_of_getLsbD_eq
  intro i hi
  rw [getLsbD_bswap_32 _ i hi, getLsbD_bswap_32 _ _ (by omega)]
  congr 1
  omega

end
end Address
end KitServer
