import KitServer.ByteArray.Store
import KitServer.Lib.Digits
import KitServer.Lib.Zigzag

/-!
# The typed reads and writes of `bytearray.cpp`

A fixed-width value is stored as the bytes of the C++ object (`objBytes`), swapped first when
`m_endian` is not the byte order of the machine.  That order is the parameter `host`
(`KIT_BYTE_ORDER`).  A `float` or `double` stands for its bit pattern, so `writeFloat` and
`writeDouble` take the word that `memcpy` puts into `v`.  Signed arithmetic wraps.
-/

set_option linter.unusedVariables false

namespace KitServer

/-- a type whose objects are `width` bytes of memory -/
class Fixed (α : Type) where
  width : Nat
  bits : α → Nat
  ofBits : Nat → α
  width_pos : 0 < width
  bits_lt : ∀ v, bits v < 256 ^ width
  ofBits_bits : ∀ v, ofBits (bits v) = v
  bits_ofBits : ∀ n, n < 256 ^ width → bits (ofBits n) = n

instance : Fixed UInt8 where
  width := 1
  bits := UInt8.toNat
  ofBits := UInt8.ofNat
  width_pos := by decide
  bits_lt v := v.toNat_lt
  ofBits_bits v := UInt8.ofNat_toNat
  bits_ofBits n h := UInt8.toNat_ofNat_of_lt' h

instance : Fixed UInt16 where
  width := 2
  bits := UInt16.toNat
  ofBits := UInt16.ofNat
  width_pos := by decide
  bits_lt v := v.toNat_lt
  ofBits_bits v := UInt16.ofNat_toNat
  bits_ofBits n h := UInt16.toNat_ofNat_of_lt' h

instance : Fixed UInt32 where
  width := 4
  bits := UInt32.toNat
  ofBits := UInt32.ofNat
  width_pos := by decide
  bits_lt v := v.toNat_lt
  ofBits_bits v := UInt32.ofNat_toNat
  bits_ofBits n h := UInt32.toNat_ofNat_of_lt' h

instance : Fixed UInt64 where
  width := 8
  bits := UInt64.toNat
  ofBits := UInt64.ofNat
  width_pos := by decide
  bits_lt v := v.toNat_lt
  ofBits_bits v := UInt64.ofNat_toNat
  bits_ofBits n h := UInt64.toNat_ofNat_of_lt' h

/-- a type whose objects have the same bytes as those of `β`: the signed integers -/
@[reducible] def Fixed.sameAs {α : Type} (β : Type) [Fixed β] (enc : α → β) (dec : β → α)
    (h1 : ∀ v, dec (enc v) = v) (h2 : ∀ v, enc (dec v) = v) : Fixed α where
  width := Fixed.width β
  bits v := Fixed.bits (enc v)
  ofBits n := dec (Fixed.ofBits n)
  width_pos := show 0 < Fixed.width β from Fixed.width_pos
  bits_lt v := Fixed.bits_lt _
  ofBits_bits v := by rw [Fixed.ofBits_bits, h1]
  bits_ofBits n h := by rw [h2, Fixed.bits_ofBits n h]

instance : Fixed Int8 := .sameAs UInt8 Int8.toUInt8 UInt8.toInt8 (fun _ => rfl) (fun _ => rfl)
instance : Fixed Int16 := .sameAs UInt16 Int16.toUInt16 UInt16.toInt16 (fun _ => rfl) (fun _ => rfl)
instance : Fixed Int32 := .sameAs UInt32 Int32.toUInt32 UInt32.toInt32 (fun _ => rfl) (fun _ => rfl)
instance : Fixed Int64 := .sameAs UInt64 Int64.toUInt64 UInt64.toInt64 (fun _ => rfl) (fun _ => rfl)

/-- a `std::string`: its size is a `size_t` -/
structure StdString where
  bytes : List UInt8
  size_lt : bytes.length < 2 ^ 64

def StdString.size (value : StdString) : Nat := value.bytes.length

namespace ByteArray

abbrev Act (α : Type) := EStateM Fault ByteArray α

section
variable (fill : Nat → Nat → UInt8) (host : Endian)

/-! ## fixed width -/

/-- the bytes of an object in memory -/
def objBytes {α : Type} [Fixed α] (v : α) : List UInt8 :=
  match host with
  | .small => leBytes (Fixed.width α) (Fixed.bits v)
  | .big => (leBytes (Fixed.width α) (Fixed.bits v)).reverse

/-- the object that these bytes are copied into -/
def ofObj {α : Type} [Fixed α] (bs : List UInt8) : α :=
  match host with
  | .small => Fixed.ofBits (leValue bs)
  | .big => Fixed.ofBits (leValue bs.reverse)

def byteswap {α : Type} [Fixed α] (value : α) : α :=
  Fixed.ofBits (leValue (leBytes (Fixed.width α) (Fixed.bits value)).reverse)

def writeFixed {α : Type} [Fixed α] (value : α) : Act Unit := do
  let s ← get
  write fill (objBytes host (if s.endian ≠ host then byteswap value else value))

def writeFint8 (value : Int8) : Act Unit := write fill (objBytes host value)
def writeFuint8 (value : UInt8) : Act Unit := write fill (objBytes host value)
def writeFint16 (value : Int16) : Act Unit := writeFixed fill host value
def writeFuint16 (value : UInt16) : Act Unit := writeFixed fill host value
def writeFint32 (value : Int32) : Act Unit := writeFixed fill host value
def writeFuint32 (value : UInt32) : Act Unit := writeFixed fill host value
def writeFint64 (value : Int64) : Act Unit := writeFixed fill host value
def writeFuint64 (value : UInt64) : Act Unit := writeFixed fill host value

/-- `READ_XX(type)` -/
def readFixed (α : Type) [Fixed α] : Act α := do
  let bytes ← read (Fixed.width α)
  let s ← get
  let v : α := ofObj host bytes
  return if s.endian ≠ host then byteswap v else v

def readFint8 : Act Int8 := do return ofObj host (← read 1)
def readFuint8 : Act UInt8 := do return ofObj host (← read 1)
def readFint16 : Act Int16 := readFixed host Int16
def readFuint16 : Act UInt16 := readFixed host UInt16
def readFint32 : Act Int32 := readFixed host Int32
def readFuint32 : Act UInt32 := readFixed host UInt32
def readFint64 : Act Int64 := readFixed host Int64
def readFuint64 : Act UInt64 := readFixed host UInt64

/-! ## zigzag and base 128 -/

def EncodeZigzag32 (v : Int32) : UInt32 :=
  if v < 0 then (-v).toUInt32 * 2 - 1 else (v * 2).toUInt32

def EncodeZigzag64 (v : Int64) : UInt64 :=
  if v < 0 then (-v).toUInt64 * 2 - 1 else (v * 2).toUInt64

def DecodeZigzag32 (v : UInt32) : Int32 := ((v >>> 1) ^^^ -(v &&& 1)).toInt32

def DecodeZigzag64 (v : UInt64) : Int64 := ((v >>> 1) ^^^ -(v &&& 1)).toInt64

/-- the body of `writeUint32` and `writeUint64`; `room` is the size of `temp` -/
def writeVarint (room value : Nat) : Act Unit :=
  match varint room value with
  | none => throw .outOfTemp
  | some temp => write fill temp

def writeUint32 (value : UInt32) : Act Unit := writeVarint fill 5 value.toNat
def writeUint64 (value : UInt64) : Act Unit := writeVarint fill 10 value.toNat
def writeInt32 (value : Int32) : Act Unit := writeUint32 fill (EncodeZigzag32 value)
def writeInt64 (value : Int64) : Act Unit := writeUint64 fill (EncodeZigzag64 value)

/-- the loop of `readUint32` (`w = 32`) and `readUint64` (`w = 64`) from shift `i` on -/
def varintLoop (w : Nat) : Nat → Nat → Nat → Act Nat
  | 0, _, _ => throw .noFuel
  | fuel + 1, i, result =>
    if i < w then do
      let b ← readFuint8 host
      if b < 0x80 then return result ||| (b.toNat <<< i) % 2 ^ w
      else varintLoop w fuel (i + 7) (result ||| ((b &&& 0x7F).toNat <<< i) % 2 ^ w)
    else return result

def readUint32 : Act UInt32 := do return UInt32.ofNat (← varintLoop host 32 32 0 0)
def readUint64 : Act UInt64 := do return UInt64.ofNat (← varintLoop host 64 64 0 0)
def readInt32 : Act Int32 := do return DecodeZigzag32 (← readUint32 host)
def readInt64 : Act Int64 := do return DecodeZigzag64 (← readUint64 host)

/-! ## floating point and strings -/

def writeFloat (value : UInt32) : Act Unit := writeFuint32 fill host value
def writeDouble (value : UInt64) : Act Unit := writeFuint64 fill host value
def readFloat : Act UInt32 := readFuint32 host
def readDouble : Act UInt64 := readFuint64 host

def writeStringF16 (value : StdString) : Act Unit := do
  writeFuint16 fill host (UInt16.ofNat value.size)
  write fill value.bytes

def writeStringF32 (value : StdString) : Act Unit := do
  writeFuint32 fill host (UInt32.ofNat value.size)
  write fill value.bytes

def writeStringF64 (value : StdString) : Act Unit := do
  writeFuint64 fill host (UInt64.ofNat value.size)
  write fill value.bytes

def writeStringVint (value : StdString) : Act Unit := do
  writeUint64 fill (UInt64.ofNat value.size)
  write fill value.bytes

def readStringF16 : Act (List UInt8) := do
  let len ← readFuint16 host
  read len.toNat

def readStringF32 : Act (List UInt8) := do
  let len ← readFuint32 host
  read len.toNat

def readStringF64 : Act (List UInt8) := do
  let len ← readFuint64 host
  read len.toNat

def readStringVint : Act (List UInt8) := do
  let len ← readUint64 host
  read len.toNat

end
end ByteArray
end KitServer
