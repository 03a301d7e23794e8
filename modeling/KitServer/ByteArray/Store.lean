import KitServer.Lib.Slice

/-!
# `ByteArray`: the memory of `bytearray.cpp`

A `ByteArray` is a chain of blocks (`Node`) of `m_baseSize` bytes each.  The chain from `m_root`
is the list `root` (its order is the `next` order), the pointer `m_cur` is the number of a block
of that list, or `none` for a null pointer.  Sizes are `Nat`: the whole memory is far below `2^64`
bytes, so no sum of sizes wraps, and the double division in `addCapacity` is the exact one.

`new char[n]` leaves the block uninitialised: `fill k i` stands for the byte that the `k`-th block
handed out by the allocator happens to hold at index `i`.

An operation is a function to `EStateM.Result`, so that the state at a throw is part of the
result.  Besides the exception of the code, following a null `m_cur` and a `memcpy` outside a
block are faults.
-/

set_option linter.unusedVariables false

namespace KitServer

/-- `KIT_SMALL_ENDIAN`, `KIT_BIG_ENDIAN` -/
inductive Endian where
  | small
  | big
deriving DecidableEq, Repr

/-- a block of memory; the code's `size` field is the number of its bytes -/
structure Node where
  ptr : List UInt8
deriving DecidableEq, Repr

def Node.size (nd : Node) : Nat := nd.ptr.length

structure ByteArray where
  baseSize : Nat
  position : Nat
  capacity : Nat
  size : Nat
  endian : Endian
  root : List Node
  cur : Option Nat
  /-- number of blocks taken from the allocator so far -/
  allocs : Nat
deriving DecidableEq, Repr

namespace ByteArray

/-- why an operation stops: the exception it throws, or undefined behaviour it runs into -/
inductive Fault where
  | outOfRange
  | nullCur
  | outOfBlock
  | outOfTemp
  | noFuel
deriving DecidableEq, Repr

abbrev Res (α : Type) := EStateM.Result Fault ByteArray α

section
variable (fill : Nat → Nat → UInt8)

/-- `new Node(size)` as the `k`-th allocation -/
def newNode (k size : Nat) : Node := ⟨(List.range size).map (fill k)⟩

/-- the constructor `ByteArray(base_size)` -/
def new (base_size : Nat) : ByteArray where
  baseSize := base_size
  position := 0
  capacity := base_size
  size := 0
  endian := .big
  root := [newNode fill 0 base_size]
  cur := some 0
  allocs := 1

def getReadSize (s : ByteArray) : Nat := s.size - s.position
def getRemainCapacity (s : ByteArray) : Nat := s.capacity - s.position

/-- `m_cur->size` -/
def nodeSize (s : ByteArray) (c : Nat) : Nat := (s.root.getD c ⟨[]⟩).size

/-- `m_cur->next` -/
def next (s : ByteArray) (c : Nat) : Option Nat :=
  if c + 1 < s.root.length then some (c + 1) else none

/-- `memcpy(m_cur->ptr + npos, bytes, n)` -/
def store (s : ByteArray) (c npos : Nat) (bytes : List UInt8) : Option ByteArray :=
  if npos + bytes.length ≤ s.nodeSize c then
    some { s with root := s.root.set c ⟨overwrite (s.root.getD c ⟨[]⟩).ptr npos bytes⟩ }
  else none

/-- `memcpy(buf, m_cur->ptr + npos, n)` -/
def load (s : ByteArray) (c npos n : Nat) : Option (List UInt8) :=
  if npos + n ≤ s.nodeSize c then some (slice (s.root.getD c ⟨[]⟩).ptr npos n) else none

def addCapacity (size : Nat) (s : ByteArray) : ByteArray :=
  if size = 0 then s
  else
    let remain_cap := s.getRemainCapacity
    if size ≤ remain_cap then s
    else
      -- `ceil(1.0 * size / m_baseSize)` new blocks behind the last one
      let count := (size - remain_cap + (s.baseSize - 1)) / s.baseSize
      let added := (List.range count).map fun i => newNode fill (s.allocs + i) s.baseSize
      { s with
        root := s.root ++ added
        capacity := s.capacity + count * s.baseSize
        allocs := s.allocs + count
        cur := if remain_cap = 0 then some s.root.length else s.cur }

/-- the loop of `write`: `buf` is what is still to be written (`buf + bpos`, `size` bytes) -/
def writeLoop : Nat → List UInt8 → Nat → Nat → ByteArray → Res Unit
  | 0, _, _, _, s => .error .noFuel s
  | fuel + 1, buf, npos, ncap, s =>
    if buf.length = 0 then .ok () s
    else match s.cur with
    | none => .error .nullCur s
    | some c =>
      if buf.length ≤ ncap then
        match s.store c npos buf with
        | none => .error .outOfBlock s
        | some s =>
          -- a block that is full now is left at once
          writeLoop fuel [] npos ncap
            { s with cur := if s.nodeSize c = npos + buf.length then s.next c else s.cur
                     position := s.position + buf.length }
      else
        match s.store c npos (buf.take ncap) with
        | none => .error .outOfBlock s
        | some s =>
          let s := { s with position := s.position + ncap, cur := s.next c }
          match s.cur with
          | none => .error .nullCur s
          | some c' => writeLoop fuel (buf.drop ncap) 0 (s.nodeSize c') s

def write (buf : List UInt8) (s : ByteArray) : Res Unit :=
  if buf.length = 0 then .ok () s
  else
    let s := s.addCapacity fill buf.length
    match s.cur with
    | none => .error .nullCur s
    | some c =>
      let npos := s.position % s.baseSize
      let ncap := s.nodeSize c - npos
      match writeLoop (s.root.length + 1) buf npos ncap s with
      | .ok _ s => .ok () { s with size := if s.position > s.size then s.position else s.size }
      | .error e s => .error e s

/-- the loop of `read`: `acc` is what is in the caller's buffer already -/
def readLoop : Nat → Nat → Nat → Nat → List UInt8 → ByteArray → Res (List UInt8)
  | 0, _, _, _, _, s => .error .noFuel s
  | fuel + 1, size, npos, ncap, acc, s =>
    if size = 0 then .ok acc s
    else match s.cur with
    | none => .error .nullCur s
    | some c =>
      if size ≤ ncap then
        match s.load c npos size with
        | none => .error .outOfBlock s
        | some bytes =>
          readLoop fuel 0 npos ncap (acc ++ bytes)
            { s with cur := if s.nodeSize c = npos + size then s.next c else s.cur
                     position := s.position + size }
      else
        match s.load c npos ncap with
        | none => .error .outOfBlock s
        | some bytes =>
          let s := { s with position := s.position + ncap, cur := s.next c }
          match s.cur with
          | none => .error .nullCur s
          | some c' => readLoop fuel (size - ncap) 0 (s.nodeSize c') (acc ++ bytes) s

def read (size : Nat) (s : ByteArray) : Res (List UInt8) :=
  if size > s.getReadSize then .error .outOfRange s
  else match s.cur with
  -- `m_cur->size` is read before the length is looked at
  | none => .error .nullCur s
  | some c =>
    let npos := s.position % s.baseSize
    readLoop (s.root.length + 1) size npos (s.nodeSize c - npos) [] s

/-- the loop of `setPosition` from block `c` on -/
def seekLoop : Nat → Nat → Nat → ByteArray → Res Unit
  | 0, _, _, s => .error .noFuel s
  | fuel + 1, val, c, s =>
    if s.nodeSize c ≤ val then
      match s.next c with
      | none => .error .nullCur { s with cur := none }
      | some c' => seekLoop fuel (val - s.nodeSize c) c' s
    else .ok () { s with cur := some c }

def setPosition (val : Nat) (s : ByteArray) : Res Unit :=
  if val > s.capacity then .error .outOfRange s
  else
    let s := { s with position := val, size := if val > s.size then val else s.size, cur := some 0 }
    seekLoop (s.root.length + 1) val 0 s

def clear (s : ByteArray) : ByteArray :=
  { s with position := 0, size := 0, capacity := s.baseSize, root := s.root.take 1, cur := some 0 }

def isSmallEndian (s : ByteArray) : Bool := s.endian = .small

def setSmallEndian (val : Bool) (s : ByteArray) : ByteArray :=
  { s with endian := if val then .small else .big }

end
end ByteArray
end KitServer
