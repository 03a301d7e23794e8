import KitServer.ByteArray.Codec

/-!
# Reading back a sequence of strings

A string is written as its length, in one of four forms, and its bytes.  Reading an empty string
calls `read` with length zero, which looks at `m_cur` before it looks at the length: at the end of
the last block `m_cur` is null (`read_zero`).  A length of `2 ^ 32` or more does not fit the prefix
of `writeStringF32`.

* `readStrings_iff`       the reads from a state in which exactly the written strings are ahead;
* `strings_readBack_iff`  when the strings written to a fresh array are read back;
* `empty_string_at_block_end`   one empty string that fills its block.
-/

set_option linter.unusedVariables false

namespace KitServer
namespace ByteArray

inductive Form where
  | F16
  | F32
  | F64
  | Vint
deriving DecidableEq

section
variable (fill : Nat → Nat → UInt8) (host : Endian)

def writeString : Form → StdString → Act Unit
  | .F16, value => writeStringF16 fill host value
  | .F32, value => writeStringF32 fill host value
  | .F64, value => writeStringF64 fill host value
  | .Vint, value => writeStringVint fill value

def readString : Form → Act (List UInt8)
  | .F16 => readStringF16 host
  | .F32 => readStringF32 host
  | .F64 => readStringF64 host
  | .Vint => readStringVint host

def writeStrings : List (Form × StdString) → Act Unit
  | [] => pure ()
  | x :: l => do
    writeString fill host x.1 x.2
    writeStrings l

def readStrings : List Form → Act (List (List UInt8))
  | [] => pure []
  | f :: fs => do
    let value ← readString host f
    let values ← readStrings fs
    return value :: values

/-- the strings written to a fresh array are read back from its start -/
def ReadsBack (b : Nat) (l : List (Form × StdString)) : Prop :=
  ∃ s1 s2 s3, writeStrings fill host l (new fill b) = .ok () s1 ∧ s1.setPosition 0 = .ok () s2 ∧
    readStrings host (l.map Prod.fst) s2 = .ok (l.map fun x => x.2.bytes) s3

end

/-! ## one string -/

/-- the bytes of the length in front of a string -/
def lenCode (e : Endian) : Form → StdString → List UInt8
  | .F16, value => objBytes e (UInt16.ofNat value.size)
  | .F32, value => objBytes e (UInt32.ofNat value.size)
  | .F64, value => objBytes e (UInt64.ofNat value.size)
  | .Vint, value => (varint 10 value.size).getD []

def lenValue : Form → StdString → Nat
  | .F16, value => value.size % 2 ^ 16
  | .F32, value => value.size % 2 ^ 32
  | .F64, value => value.size
  | .Vint, value => value.size

/-- the number of bytes that the strings take, their lengths included -/
def encodedSize (l : List (Form × StdString)) : Nat :=
  (l.map fun x => (lenCode .big x.1 x.2).length + x.2.size).sum

def codes (e : Endian) : List (Form × StdString) → List UInt8
  | [] => []
  | x :: l => lenCode e x.1 x.2 ++ (x.2.bytes ++ codes e l)

theorem lenCode_vint (e : Endian) (value : StdString) :
    varint 10 value.size = some (lenCode e .Vint value) ∧ lenCode e .Vint value ≠ [] := by
  obtain ⟨bs, hbs, hne⟩ := varint_some 10 value.size (by decide)
    (lt_trans value.size_lt (by decide))
  have h : lenCode e .Vint value = bs := by
    show (varint 10 value.size).getD [] = bs
    rw [hbs]
    rfl
  rw [h]
  exact ⟨hbs, hne⟩

theorem lenCode_ne_nil (e : Endian) (f : Form) (value : StdString) : lenCode e f value ≠ [] := by
  cases f with
  | F16 => exact objBytes_ne_nil e _
  | F32 => exact objBytes_ne_nil e _
  | F64 => exact objBytes_ne_nil e _
  | Vint => exact (lenCode_vint e value).2

theorem lenCode_length (e e' : Endian) (f : Form) (value : StdString) :
    (lenCode e f value).length = (lenCode e' f value).length := by
  cases f with
  | F16 => exact (objBytes_length e _).trans (objBytes_length e' _).symm
  | F32 => exact (objBytes_length e _).trans (objBytes_length e' _).symm
  | F64 => exact (objBytes_length e _).trans (objBytes_length e' _).symm
  | Vint => rfl

theorem codes_length (e : Endian) (l : List (Form × StdString)) :
    (codes e l).length = encodedSize l := by
  induction l with
  | nil => rfl
  | cons x l ih =>
    show (lenCode e x.1 x.2 ++ (x.2.bytes ++ codes e l)).length
      = (lenCode .big x.1 x.2).length + x.2.size + encodedSize l
    rw [List.length_append, List.length_append, ih, lenCode_length e .big, Nat.add_assoc]
    rfl

theorem lenValue_eq {f : Form} {value : StdString} (h16 : f = .F16 → value.size < 2 ^ 16)
    (h32 : f = .F32 → value.size < 2 ^ 32) : lenValue f value = value.size := by
  cases f with
  | F16 => exact Nat.mod_eq_of_lt (h16 rfl)
  | F32 => exact Nat.mod_eq_of_lt (h32 rfl)
  | F64 => rfl
  | Vint => rfl

section
variable (fill : Nat → Nat → UInt8) (host : Endian)

theorem writeString_appends (e : Endian) (f : Form) (value : StdString) :
    Appends e (writeString fill host f value) (lenCode e f value ++ value.bytes) := by
  cases f with
  | F16 => exact (writeFixed_appends fill host e _).bind (write_appends fill e _)
  | F32 => exact (writeFixed_appends fill host e _).bind (write_appends fill e _)
  | F64 => exact (writeFixed_appends fill host e _).bind (write_appends fill e _)
  | Vint =>
    have h := (lenCode_vint e value).1
    have hs : (UInt64.ofNat value.size).toNat = value.size :=
      UInt64.toNat_ofNat_of_lt' value.size_lt
    rw [← hs] at h
    exact (writeVarint_appends fill e h).bind (write_appends fill e _)

theorem writeStrings_appends (e : Endian) (l : List (Form × StdString)) :
    Appends e (writeStrings fill host l) (codes e l) := by
  induction l with
  | nil =>
    intro s he h
    exact ⟨s, rfl, h, rfl, he, by rw [codes, List.append_nil]⟩
  | cons x l ih =>
    rw [codes, ← List.append_assoc]
    exact (writeString_appends fill host e x.1 x.2).bind ih

/-- a string is read as its length and then so many bytes -/
theorem readString_eq {e : Endian} {f : Form} {value : StdString} {s : ByteArray}
    {rest : List UInt8} (he : s.endian = e) (h : Ahead s (lenCode e f value ++ rest)) :
    readString host f s = (s.advance (lenCode e f value).length).read (lenValue f value) := by
  cases f with
  | F16 =>
    have h1 := readFixed_reads host e (UInt16.ofNat value.size) s rest he h
    have hs : (UInt16.ofNat value.size).toNat = value.size % 2 ^ 16 := UInt16.toNat_ofNat'
    have h2 := bind_read (g := UInt16.toNat) h1
    rw [hs] at h2
    exact h2
  | F32 =>
    have h1 := readFixed_reads host e (UInt32.ofNat value.size) s rest he h
    have hs : (UInt32.ofNat value.size).toNat = value.size % 2 ^ 32 := UInt32.toNat_ofNat'
    have h2 := bind_read (g := UInt32.toNat) h1
    rw [hs] at h2
    exact h2
  | F64 =>
    have h1 := readFixed_reads host e (UInt64.ofNat value.size) s rest he h
    have hs : (UInt64.ofNat value.size).toNat = value.size :=
      UInt64.toNat_ofNat_of_lt' value.size_lt
    have h2 := bind_read (g := UInt64.toNat) h1
    rw [hs] at h2
    exact h2
  | Vint =>
    have hs : (UInt64.ofNat value.size).toNat = value.size :=
      UInt64.toNat_ofNat_of_lt' value.size_lt
    have hc := (lenCode_vint e value).1
    rw [← hs] at hc
    have h2 := bind_read (g := UInt64.toNat) (readUint64_reads host e hc s rest he h)
    rw [hs] at h2
    exact h2

/-! ## reading no bytes, and reading `n` bytes -/

theorem read_zero {s : ByteArray} (h : Inv s) :
    s.read 0 = if s.position = s.capacity then .error .nullCur s else .ok [] s := by
  unfold ByteArray.read
  rw [if_neg (Nat.not_lt_zero _), h.cur_eq]
  unfold curAt
  by_cases hp : s.position = s.capacity
  · rw [if_pos hp, if_pos hp]
  · rw [if_neg hp, if_neg hp]
    rfl

theorem read_length {s s' : ByteArray} (h : Inv s) {n : Nat} {bs : List UInt8}
    (hr : s.read n = .ok bs s') : bs.length = n := by
  by_cases hn : s.size - s.position < n
  · rw [read_throws s n hn] at hr
    cases hr
  by_cases h0 : n = 0
  · subst h0
    rw [read_zero h] at hr
    by_cases hp : s.position = s.capacity
    · rw [if_pos hp] at hr
      cases hr
    · rw [if_neg hp] at hr
      cases hr
      rfl
  · rw [read_spec h n (by omega) (by omega)] at hr
    cases hr
    have := h.size_le
    exact slice_length _ _ _ (by rw [h.cells_length]; omega)

/-- when the string that is ahead is read back, and where that leaves the cursor -/
theorem readString_iff {e : Endian} {f : Form} {value : StdString} {s : ByteArray}
    {rest : List UInt8} (he : s.endian = e)
    (h : Ahead s (lenCode e f value ++ (value.bytes ++ rest)))
    (h16 : f = .F16 → value.size < 2 ^ 16) (s1 : ByteArray) :
    readString host f s = .ok value.bytes s1 ↔ (f = .F32 → value.size < 2 ^ 32) ∧
      ¬ (value.size = 0 ∧ s.position + (lenCode e f value).length = s.capacity) ∧
      s.advance ((lenCode e f value).length + value.size) = s1 := by
  rw [readString_eq host he h]
  have h1 := h.advance
  by_cases hfit : lenValue f value = value.size
  · have h32 : f = .F32 → value.size < 2 ^ 32 := by
      rintro rfl
      rw [← hfit]
      exact Nat.mod_lt _ (by decide)
    rw [hfit]
    by_cases hz : value.size = 0
    · have hb : value.bytes = [] := List.length_eq_zero_iff.mp hz
      rw [hz, read_zero h1.toInv, hb]
      show (if s.position + (lenCode e f value).length = s.capacity then _ else _) = _ ↔ _
      by_cases hp : s.position + (lenCode e f value).length = s.capacity
      · rw [if_pos hp]
        refine ⟨fun hr => ?_, fun hr => absurd ⟨rfl, hp⟩ hr.2.1⟩
        cases hr
      · rw [if_neg hp]
        refine ⟨fun hr => ⟨fun hf => by decide, fun hr => hp hr.2, ?_⟩, fun hr => ?_⟩
        · cases hr
          rfl
        · rw [← hr.2.2]
          rfl
    · have hr1 : (s.advance (lenCode e f value).length).read value.size
          = .ok value.bytes ((s.advance (lenCode e f value).length).advance value.size) :=
        h1.read fun h0 => hz (by show value.bytes.length = 0; rw [h0]; rfl)
      rw [hr1, advance_advance]
      refine ⟨fun hr => ⟨h32, fun h0 => hz h0.1, ?_⟩, fun hr => ?_⟩
      · cases hr
        rfl
      · rw [hr.2.2]
  · constructor
    · intro hr
      exact absurd (read_length h1.toInv hr).symm hfit
    · intro hr
      exact absurd (lenValue_eq h16 hr.1) hfit

/-! ## sequences -/

def EndsEmpty (l : List (Form × StdString)) : Prop := ∃ x, l.getLast? = some x ∧ x.2.size = 0

/-- no length is cut by the 32 bits of its prefix -/
def Fits32 (l : List (Form × StdString)) : Prop := ∀ x ∈ l, x.1 = .F32 → x.2.size < 2 ^ 32

theorem EndsEmpty.nil : ¬ EndsEmpty [] := by
  rintro ⟨x, hx, _⟩
  cases hx

theorem EndsEmpty.cons (x : Form × StdString) (l : List (Form × StdString)) :
    EndsEmpty (x :: l) ↔ EndsEmpty l ∨ (l = [] ∧ x.2.size = 0) := by
  cases l with
  | nil =>
    constructor
    · rintro ⟨y, hy, hy0⟩
      cases hy
      exact .inr ⟨rfl, hy0⟩
    · rintro (h | ⟨_, h0⟩)
      · exact absurd h EndsEmpty.nil
      · exact ⟨x, rfl, h0⟩
  | cons y l =>
    unfold EndsEmpty
    rw [List.getLast?_cons_cons]
    exact ⟨.inl, fun h => h.resolve_right fun hr => List.cons_ne_nil _ _ hr.1⟩

theorem Fits32.cons (x : Form × StdString) (l : List (Form × StdString)) :
    Fits32 (x :: l) ↔ (x.1 = .F32 → x.2.size < 2 ^ 32) ∧ Fits32 l :=
  List.forall_mem_cons

theorem codes_ne_nil (e : Endian) {l : List (Form × StdString)} (h : l ≠ []) : codes e l ≠ [] := by
  cases l with
  | nil => exact absurd rfl h
  | cons x l =>
    intro hc
    exact lenCode_ne_nil e x.1 x.2 (List.append_eq_nil_iff.mp hc).1

theorem readStrings_cons (s : ByteArray) (f : Form) (fs : List Form) (y : List UInt8)
    (ys : List (List UInt8)) :
    (∃ s', readStrings host (f :: fs) s = .ok (y :: ys) s') ↔
      ∃ s1, readString host f s = .ok y s1 ∧ ∃ s', readStrings host fs s1 = .ok ys s' := by
  constructor
  · rintro ⟨s', h⟩
    cases hy : readString host f s with
    | ok z s1 =>
      rw [readStrings, bind_ok hy] at h
      cases hr : readStrings host fs s1 with
      | ok zs s2 =>
        rw [bind_ok hr] at h
        cases h
        exact ⟨s1, rfl, _, hr⟩
      | error e s2 =>
        rw [bind_error hr] at h
        cases h
    | error e s1 =>
      rw [readStrings, bind_error hy] at h
      cases h
  · rintro ⟨s1, hy, s', hr⟩
    exact ⟨s', by rw [readStrings, bind_ok hy, bind_ok hr]; rfl⟩

theorem readStrings_iff (e : Endian) (l : List (Form × StdString)) : ∀ s : ByteArray,
    s.endian = e → Ahead s (codes e l) → s.position + (codes e l).length = s.size →
    (∀ x ∈ l, x.1 = .F16 → x.2.size < 2 ^ 16) →
    ((∃ s', readStrings host (l.map Prod.fst) s = .ok (l.map fun x => x.2.bytes) s') ↔
      Fits32 l ∧ ¬ (EndsEmpty l ∧ s.size = s.capacity)) := by
  induction l with
  | nil =>
    intro s _ _ _ _
    exact ⟨fun _ => ⟨fun x hx => absurd hx List.not_mem_nil, fun h => EndsEmpty.nil h.1⟩,
      fun _ => ⟨s, rfl⟩⟩
  | cons x l ih =>
    intro s he h hall h16
    obtain ⟨f, value⟩ := x
    have hlen : (codes e ((f, value) :: l)).length
        = (lenCode e f value).length + value.size + (codes e l).length := by
      show (lenCode e f value ++ (value.bytes ++ codes e l)).length = _
      rw [List.length_append, List.length_append, Nat.add_assoc]
      rfl
    rw [hlen] at hall
    have h1 : Ahead (s.advance ((lenCode e f value).length + value.size)) (codes e l) := by
      rw [← advance_advance]
      exact (show Ahead s (lenCode e f value ++ (value.bytes ++ codes e l)) from h).advance.advance
    have hih := ih (s.advance ((lenCode e f value).length + value.size)) he h1
      (by show s.position + (_ + _) + _ = s.size; omega)
      fun y hy => h16 y (List.mem_cons_of_mem _ hy)
    have hone := fun s1 => readString_iff host he h (h16 _ List.mem_cons_self) s1
    have hend : value.size = 0 → (s.position + (lenCode e f value).length = s.capacity ↔
        l = [] ∧ s.size = s.capacity) := by
      intro hz
      have hle := h.size_le
      constructor
      · intro hp
        by_cases hl : l = []
        · subst hl
          exact ⟨rfl, by rw [← hp, ← hall, hz]; rfl⟩
        · have hpos := List.length_pos_iff.mpr (codes_ne_nil e hl)
          omega
      · rintro ⟨rfl, hf⟩
        rw [← hf, ← hall, hz]
        rfl
    rw [List.map_cons, List.map_cons, readStrings_cons, EndsEmpty.cons, Fits32.cons]
    constructor
    · rintro ⟨s1, hs1, hr⟩
      obtain ⟨h32, hnull, rfl⟩ := (hone s1).mp hs1
      obtain ⟨hfit, hlast⟩ := hih.mp hr
      refine ⟨⟨h32, hfit⟩, ?_⟩
      rintro ⟨hends | ⟨hl, hz⟩, hf⟩
      · exact hlast ⟨hends, hf⟩
      · exact hnull ⟨hz, (hend hz).mpr ⟨hl, hf⟩⟩
    · rintro ⟨⟨h32, hfit⟩, hlast⟩
      refine ⟨_, (hone _).mpr ⟨h32, ?_, rfl⟩, hih.mpr ⟨hfit, fun hr => hlast ⟨.inl hr.1, hr.2⟩⟩⟩
      rintro ⟨hz, hp⟩
      obtain ⟨hl, hf⟩ := (hend hz).mp hp
      exact hlast ⟨.inr ⟨hl, hz⟩, hf⟩

theorem AtEnd.full_iff {s : ByteArray} (h : AtEnd s) (h0 : 1 ≤ s.size) :
    s.size = s.capacity ↔ s.baseSize ∣ s.size := by
  have hb := h.base
  have hle := h.size_le
  have hcap := h.cap
  constructor
  · intro he
    rw [he, hcap]
    exact Nat.dvd_mul_right _ _
  · intro hd
    rcases h.tight with ht | ht
    · exact Nat.le_antisymm hle (by rw [ht]; exact Nat.le_of_dvd h0 hd)
    · obtain ⟨k, hk⟩ := hd
      have h1 : s.baseSize * s.root.length < s.baseSize * (k + 1) := by
        rw [Nat.mul_succ]
        omega
      have h2 : s.root.length ≤ k := Nat.lt_succ_iff.mp (Nat.lt_of_mul_lt_mul_left h1)
      have h3 := Nat.mul_le_mul_left s.baseSize h2
      omega

/-- **Strings are read back from a fresh array** unless the last one is empty and ends its block, or
a length does not fit its prefix. -/
theorem strings_readBack_iff (b : Nat) (hb : 1 ≤ b) (l : List (Form × StdString))
    (h16 : ∀ x ∈ l, x.1 = .F16 → x.2.size < 2 ^ 16) :
    ReadsBack fill host b l ↔ Fits32 l ∧ ¬ (EndsEmpty l ∧ b ∣ encodedSize l) := by
  obtain ⟨s1, hw, ha, hbase, he, hc⟩ :=
    writeStrings_appends fill host .big l _ rfl (new_atEnd fill b hb)
  obtain ⟨s2, hp, hp0, he2, hcap2, hah⟩ := ahead_content ha.toInv
  have h0 : (new fill b).content = [] := slice_zero _ _
  rw [h0, List.nil_append] at hc
  rw [hc] at hah
  have hsize : s1.size = encodedSize l := by
    rw [← codes_length .big l, ← hc]
    exact (slice_length _ _ _ (by rw [ha.toInv.cells_length, Nat.zero_add]; exact ha.size_le)).symm
  have hsize2 : s2.size = s1.size := by
    rw [setPosition_spec ha.toInv 0 (by rw [ha.cap]; exact Nat.mul_pos ha.base ha.some_node)] at hp
    cases hp
    exact Nat.max_eq_left (Nat.zero_le _)
  have hiff := readStrings_iff host .big l s2 (he2.trans he) hah
    (by rw [hp0, Nat.zero_add, codes_length, hsize2, hsize]) h16
  have hfull : EndsEmpty l ∧ s2.size = s2.capacity ↔ EndsEmpty l ∧ b ∣ encodedSize l := by
    refine and_congr_right fun hends => ?_
    have hne : l ≠ [] := by
      rintro rfl
      exact EndsEmpty.nil hends
    have hpos : (codes .big l).length ≠ 0 :=
      fun hz => codes_ne_nil .big hne (List.length_eq_zero_iff.mp hz)
    rw [codes_length, ← hsize] at hpos
    rw [hsize2, hcap2, ha.full_iff (by omega), hsize, hbase]
    rfl
  rw [← hfull, ← hiff]
  constructor
  · rintro ⟨t1, t2, t3, ht1, ht2, ht3⟩
    rw [hw] at ht1
    cases ht1
    rw [hp] at ht2
    cases ht2
    exact ⟨t3, ht3⟩
  · rintro ⟨s3, h3⟩
    exact ⟨s1, s2, s3, hw, hp, h3⟩

end

/-- an empty string in the middle, and a last string that ends its block -/
theorem strings_readBack_three :
    ReadsBack (fun _ _ => 0) .small 4
      [(.F16, ⟨[104, 105], by decide⟩), (.F32, ⟨[], by decide⟩), (.Vint, ⟨[1, 2, 3], by decide⟩)] :=
  (strings_readBack_iff (fun _ _ => 0) .small 4 (by decide)
    [(.F16, ⟨[104, 105], by decide⟩), (.F32, ⟨[], by decide⟩), (.Vint, ⟨[1, 2, 3], by decide⟩)]
    (by decide)).mpr ⟨by unfold Fits32; decide, by
      rintro ⟨⟨x, hx, hx0⟩, _⟩
      cases hx
      exact absurd hx0 (by decide)⟩

/-- one empty string whose length fills the block: `readStringF16` follows a null `m_cur` -/
theorem empty_string_at_block_end :
    ¬ ∀ b, 1 ≤ b → ∀ l : List (Form × StdString), (∀ x ∈ l, x.1 = .F16 → x.2.size < 2 ^ 16) →
      ReadsBack (fun _ _ => 0) .small b l := by
  intro h
  obtain ⟨s1, s2, s3, hw, hp, hr⟩ := h 2 (by decide) [(.F16, ⟨[], by decide⟩)] (by decide)
  have hw' : writeStrings (fun _ _ => 0) .small [(.F16, ⟨[], by decide⟩)] (new (fun _ _ => 0) 2)
      = .ok () ⟨2, 2, 2, 2, .big, [⟨[0, 0]⟩], none, 1⟩ := rfl
  rw [hw'] at hw
  cases hw
  have hp' : setPosition 0 ⟨2, 2, 2, 2, .big, [⟨[0, 0]⟩], none, 1⟩
      = .ok () ⟨2, 0, 2, 2, .big, [⟨[0, 0]⟩], some 0, 1⟩ := rfl
  rw [hp'] at hp
  cases hp
  have hr' : readStrings .small [.F16] ⟨2, 0, 2, 2, .big, [⟨[0, 0]⟩], some 0, 1⟩
      = .error .nullCur ⟨2, 2, 2, 2, .big, [⟨[0, 0]⟩], none, 1⟩ := rfl
  rw [List.map_cons, List.map_nil, hr'] at hr
  cases hr

end ByteArray
end KitServer
