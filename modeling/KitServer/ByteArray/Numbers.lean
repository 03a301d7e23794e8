import KitServer.ByteArray.Codec

/-!
# Reading back a sequence of numbers

`NumOp` is a typed numeric write or a change of the byte order; `writeAll` performs a list of them
and `readAll` the matching reads, with the same changes of the byte order.

* `Number.coded`        the write and the read of one number agree on a code;
* `numbers_roundtrip`   reading from the start, in the byte order the writes started in, gives back
                        the numbers and leaves the cursor where the writes left it;
* `numbers_start_order`   the byte order at the start of the reads does matter.
-/

set_option linter.unusedVariables false

namespace KitServer
namespace ByteArray

inductive Number where
  | fint8 (v : Int8)
  | fuint8 (v : UInt8)
  | fint16 (v : Int16)
  | fuint16 (v : UInt16)
  | fint32 (v : Int32)
  | fuint32 (v : UInt32)
  | fint64 (v : Int64)
  | fuint64 (v : UInt64)
  | int32 (v : Int32)
  | uint32 (v : UInt32)
  | int64 (v : Int64)
  | uint64 (v : UInt64)
  | float (v : UInt32)
  | double (v : UInt64)
deriving DecidableEq

inductive NumOp where
  | num (x : Number)
  | setSmallEndian (val : Bool)

def values : List NumOp → List Number
  | [] => []
  | .num x :: ops => x :: values ops
  | .setSmallEndian _ :: ops => values ops

section
variable (fill : Nat → Nat → UInt8) (host : Endian)

def Number.write : Number → Act Unit
  | .fint8 v => writeFint8 fill host v
  | .fuint8 v => writeFuint8 fill host v
  | .fint16 v => writeFint16 fill host v
  | .fuint16 v => writeFuint16 fill host v
  | .fint32 v => writeFint32 fill host v
  | .fuint32 v => writeFuint32 fill host v
  | .fint64 v => writeFint64 fill host v
  | .fuint64 v => writeFuint64 fill host v
  | .int32 v => writeInt32 fill v
  | .uint32 v => writeUint32 fill v
  | .int64 v => writeInt64 fill v
  | .uint64 v => writeUint64 fill v
  | .float v => writeFloat fill host v
  | .double v => writeDouble fill host v

/-- the read of the type that `x` has -/
def Number.readType (x : Number) : Act Number :=
  match x with
  | .fint8 _ => do return .fint8 (← readFint8 host)
  | .fuint8 _ => do return .fuint8 (← readFuint8 host)
  | .fint16 _ => do return .fint16 (← readFint16 host)
  | .fuint16 _ => do return .fuint16 (← readFuint16 host)
  | .fint32 _ => do return .fint32 (← readFint32 host)
  | .fuint32 _ => do return .fuint32 (← readFuint32 host)
  | .fint64 _ => do return .fint64 (← readFint64 host)
  | .fuint64 _ => do return .fuint64 (← readFuint64 host)
  | .int32 _ => do return .int32 (← readInt32 host)
  | .uint32 _ => do return .uint32 (← readUint32 host)
  | .int64 _ => do return .int64 (← readInt64 host)
  | .uint64 _ => do return .uint64 (← readUint64 host)
  | .float _ => do return .float (← readFloat host)
  | .double _ => do return .double (← readDouble host)

def writeAll : List NumOp → Act Unit
  | [] => pure ()
  | .num x :: ops => do
    x.write fill host
    writeAll ops
  | .setSmallEndian val :: ops => do
    modify (setSmallEndian val)
    writeAll ops

def readAll : List NumOp → Act (List Number)
  | [] => pure []
  | .num x :: ops => do
    let y ← x.readType host
    let ys ← readAll ops
    return y :: ys
  | .setSmallEndian val :: ops => do
    modify (setSmallEndian val)
    readAll ops

/-! ## one number -/

theorem uint32_coded (e : Endian) (v : UInt32) :
    ∃ bs, Appends e (writeUint32 fill v) bs ∧ Reads e (readUint32 host) bs v := by
  obtain ⟨bs, hbs, _⟩ := varint_some 5 v.toNat (by decide) (lt_trans v.toNat_lt (by decide))
  exact ⟨bs, writeVarint_appends fill e hbs, readUint32_reads host e hbs⟩

theorem uint64_coded (e : Endian) (v : UInt64) :
    ∃ bs, Appends e (writeUint64 fill v) bs ∧ Reads e (readUint64 host) bs v := by
  obtain ⟨bs, hbs, _⟩ := varint_some 10 v.toNat (by decide) (lt_trans v.toNat_lt (by decide))
  exact ⟨bs, writeVarint_appends fill e hbs, readUint64_reads host e hbs⟩

theorem int32_coded (e : Endian) (v : Int32) :
    ∃ bs, Appends e (writeInt32 fill v) bs ∧ Reads e (readInt32 host) bs v := by
  obtain ⟨bs, hw, hr⟩ := uint32_coded fill host e (EncodeZigzag32 v)
  have h := hr.map DecodeZigzag32
  rw [DecodeZigzag32_Encode] at h
  exact ⟨bs, hw, h⟩

theorem int64_coded (e : Endian) (v : Int64) :
    ∃ bs, Appends e (writeInt64 fill v) bs ∧ Reads e (readInt64 host) bs v := by
  obtain ⟨bs, hw, hr⟩ := uint64_coded fill host e (EncodeZigzag64 v)
  have h := hr.map DecodeZigzag64
  rw [DecodeZigzag64_Encode] at h
  exact ⟨bs, hw, h⟩

theorem fixed_coded {α : Type} [Fixed α] (e : Endian) (v : α) :
    ∃ bs, Appends e (writeFixed fill host v) bs ∧ Reads e (readFixed host α) bs v :=
  ⟨_, writeFixed_appends fill host e v, readFixed_reads host e v⟩

theorem fint8_coded (e : Endian) (v : Int8) :
    ∃ bs, Appends e (writeFint8 fill host v) bs ∧ Reads e (readFint8 host) bs v :=
  ⟨_, write_appends fill e _, readFint8_reads host e v⟩

theorem fuint8_coded (e : Endian) (v : UInt8) :
    ∃ bs, Appends e (writeFuint8 fill host v) bs ∧ Reads e (readFuint8 host) bs v := by
  have h := write_appends fill e (objBytes host v)
  rw [objBytes_byte] at h
  exact ⟨_, by unfold writeFuint8; rw [objBytes_byte]; exact h, readFuint8_reads host e v⟩

theorem coded_map {α : Type} {e : Endian} {w : Act Unit} {m : Act α} {v : α}
    (h : ∃ bs, Appends e w bs ∧ Reads e m bs v) (f : α → Number) :
    ∃ bs, Appends e w bs ∧ Reads e (do return f (← m)) bs (f v) := by
  obtain ⟨bs, hw, hr⟩ := h
  exact ⟨bs, hw, hr.map f⟩

theorem Number.coded (e : Endian) (x : Number) :
    ∃ bs, Appends e (x.write fill host) bs ∧ Reads e (x.readType host) bs x := by
  cases x with
  | fint8 v => exact coded_map (fint8_coded fill host e v) _
  | fuint8 v => exact coded_map (fuint8_coded fill host e v) _
  | fint16 v => exact coded_map (fixed_coded fill host e v) _
  | fuint16 v => exact coded_map (fixed_coded fill host e v) _
  | fint32 v => exact coded_map (fixed_coded fill host e v) _
  | fuint32 v => exact coded_map (fixed_coded fill host e v) _
  | fint64 v => exact coded_map (fixed_coded fill host e v) _
  | fuint64 v => exact coded_map (fixed_coded fill host e v) _
  | int32 v => exact coded_map (int32_coded fill host e v) _
  | uint32 v => exact coded_map (uint32_coded fill host e v) _
  | int64 v => exact coded_map (int64_coded fill host e v) _
  | uint64 v => exact coded_map (uint64_coded fill host e v) _
  | float v => exact coded_map (fixed_coded fill host e v) _
  | double v => exact coded_map (fixed_coded fill host e v) _

/-! ## sequences -/

theorem AtEnd.setSmallEndian {s : ByteArray} (h : AtEnd s) (val : Bool) :
    AtEnd (s.setSmallEndian val) :=
  ⟨⟨⟨h.base, h.nodes, h.cap⟩, h.some_node, h.pos_le, h.size_le, h.cur_eq⟩, h.pos_eq, h.tight⟩

theorem Ahead.setSmallEndian {s : ByteArray} {bs : List UInt8} (h : Ahead s bs) (val : Bool) :
    Ahead (s.setSmallEndian val) bs :=
  ⟨⟨⟨h.base, h.nodes, h.cap⟩, h.some_node, h.pos_le, h.size_le, h.cur_eq⟩, h.room, h.here⟩

/-- the code of a whole sequence that starts in byte order `e` -/
theorem coded_all (ops : List NumOp) : ∀ e : Endian, ∃ bs : List UInt8,
    (∀ s, s.endian = e → AtEnd s → ∃ s', writeAll fill host ops s = .ok () s' ∧ AtEnd s' ∧
      s'.content = s.content ++ bs) ∧
    (∀ s rest, s.endian = e → Ahead s (bs ++ rest) → ∃ s',
      readAll host ops s = .ok (values ops) s' ∧ s'.position = s.position + bs.length) := by
  induction ops with
  | nil =>
    intro e
    exact ⟨[], fun s _ h => ⟨s, rfl, h, by simp⟩, fun s _ _ _ => ⟨s, rfl, rfl⟩⟩
  | cons op ops ih =>
    intro e
    cases op with
    | num x =>
      obtain ⟨bs, hw, hr⟩ := Number.coded fill host e x
      obtain ⟨bs', hws, hrs⟩ := ih e
      refine ⟨bs ++ bs', ?_, ?_⟩
      · intro s he h
        obtain ⟨s1, hw1, ha1, _, he1, hc1⟩ := hw s he h
        obtain ⟨s2, hw2, ha2, hc2⟩ := hws s1 he1 ha1
        exact ⟨s2, by rw [writeAll, bind_ok hw1, hw2], ha2, by rw [hc2, hc1, List.append_assoc]⟩
      · intro s rest he h
        rw [List.append_assoc] at h
        obtain ⟨s2, hr2, hp2⟩ := hrs (s.advance bs.length) rest he h.advance
        refine ⟨s2, ?_, ?_⟩
        · rw [readAll, bind_ok (hr s _ he h), bind_ok hr2]
          rfl
        · rw [hp2, List.length_append]
          exact Nat.add_assoc _ _ _
    | setSmallEndian val =>
      obtain ⟨bs, hws, hrs⟩ := ih (if val then .small else .big)
      refine ⟨bs, ?_, ?_⟩
      · intro s _ h
        exact hws (s.setSmallEndian val) rfl (h.setSmallEndian val)
      · intro s rest _ h
        exact hrs (s.setSmallEndian val) rest rfl (h.setSmallEndian val)

/-- **A sequence of typed writes is read back**, when the reads start in the byte order in which the
writes started. -/
theorem numbers_roundtrip (b : Nat) (hb : 1 ≤ b) (ops : List NumOp) :
    ∃ s1 s2 s3, writeAll fill host ops (new fill b) = .ok () s1 ∧ s1.setPosition 0 = .ok () s2 ∧
      readAll host ops (s2.setSmallEndian (new fill b).isSmallEndian) = .ok (values ops) s3 ∧
      s3.position = s1.position ∧
      (s1.isSmallEndian = (new fill b).isSmallEndian →
        s2.setSmallEndian (new fill b).isSmallEndian = s2) := by
  obtain ⟨bs, hws, hrs⟩ := coded_all fill host ops .big
  obtain ⟨s1, hw, ha, hc⟩ := hws _ rfl (new_atEnd fill b hb)
  obtain ⟨s2, hp, hp0, he2, _, hah⟩ := ahead_content ha.toInv
  have h0 : (new fill b).content = [] := slice_zero _ _
  rw [hc, h0, List.nil_append] at hah
  have hah' : Ahead (s2.setSmallEndian false) (bs ++ []) := by
    rw [List.append_nil]
    exact hah.setSmallEndian false
  obtain ⟨s3, hr, hp3⟩ := hrs _ [] rfl hah'
  refine ⟨s1, s2, s3, hw, hp, hr, ?_, ?_⟩
  · have hl : s1.content.length = s1.size :=
      slice_length _ _ _ (by rw [ha.toInv.cells_length, Nat.zero_add]; exact ha.size_le)
    rw [hc, h0, List.nil_append] at hl
    rw [hp3, hl, ← ha.pos_eq]
    show s2.position + s1.position = _
    rw [hp0, Nat.zero_add]
  · intro hs
    have hb2 : s2.endian = .big := by
      rw [he2]
      cases he : s1.endian with
      | small =>
        have h1 : s1.isSmallEndian = true := by unfold isSmallEndian; rw [he]; rfl
        rw [h1] at hs
        cases hs
      | big => rfl
    show ({ s2 with endian := .big } : ByteArray) = s2
    rw [← hb2]

end

/-- two numbers in different byte orders, over blocks of three bytes -/
theorem numbers_roundtrip_two :
    ∃ s1 s2 s3 : ByteArray,
      writeAll (fun _ _ => 0) .small [.num (.fuint16 1), .setSmallEndian true, .num (.int64 (-5))]
        (new (fun _ _ => 0) 3) = .ok () s1 ∧ s1.setPosition 0 = .ok () s2 ∧
      readAll .small [.num (.fuint16 1), .setSmallEndian true, .num (.int64 (-5))]
        (s2.setSmallEndian false) = .ok [.fuint16 1, .int64 (-5)] s3 := by
  obtain ⟨s1, s2, s3, hw, hp, hr, _⟩ := numbers_roundtrip (fun _ _ => 0) .small 3 (by decide)
    [.num (.fuint16 1), .setSmallEndian true, .num (.int64 (-5))]
  exact ⟨s1, s2, s3, hw, hp, hr⟩

/-- reads that start in the byte order the writes ended in return other numbers -/
theorem numbers_start_order :
    ¬ ∀ b, 1 ≤ b → ∀ ops : List NumOp, ∃ s1 s2 s3 : ByteArray,
      writeAll (fun _ _ => 0) .small ops (new (fun _ _ => 0) b) = .ok () s1 ∧
      s1.setPosition 0 = .ok () s2 ∧ readAll .small ops s2 = .ok (values ops) s3 ∧
      s3.position = s1.position := by
  intro h
  obtain ⟨s1, s2, s3, hw, hp, hr, _⟩ := h 4 (by decide) [.num (.fuint16 1), .setSmallEndian true]
  have hw' : writeAll (fun _ _ => 0) .small [.num (.fuint16 1), .setSmallEndian true]
      (new (fun _ _ => 0) 4) = .ok () ⟨4, 2, 4, 2, .small, [⟨[0, 1, 0, 0]⟩], some 0, 1⟩ := rfl
  rw [hw'] at hw
  cases hw
  have hp' : setPosition 0 ⟨4, 2, 4, 2, .small, [⟨[0, 1, 0, 0]⟩], some 0, 1⟩
      = .ok () ⟨4, 0, 4, 2, .small, [⟨[0, 1, 0, 0]⟩], some 0, 1⟩ := rfl
  rw [hp'] at hp
  cases hp
  have hr' : readAll .small [.num (.fuint16 1), .setSmallEndian true]
      ⟨4, 0, 4, 2, .small, [⟨[0, 1, 0, 0]⟩], some 0, 1⟩
      = .ok [.fuint16 256] ⟨4, 2, 4, 2, .small, [⟨[0, 1, 0, 0]⟩], some 0, 1⟩ := rfl
  rw [hr'] at hr
  cases hr

end ByteArray
end KitServer
