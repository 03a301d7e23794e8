import KitServer.ByteArray.Flat
import KitServer.ByteArray.Typed

/-!
# The codes of the typed values

`Appends e m bs`: in byte order `e` the write `m` puts exactly `bs` at the end of the content.
`Reads e m bs v`: wherever `bs` comes next, the read `m` returns `v` and moves the cursor behind
`bs`.  Both compose along `>>=`, so that each typed value needs one lemma for each side.

* `writeFixed_appends`, `readFixed_reads`     a fixed-width value is stored as the object of a machine
                                        of byte order `m_endian`, whatever the real one is;
* `writeVarint_appends`, `varintLoop_reads`   the base-128 code;
* `DecodeZigzag32_Encode`, `DecodeZigzag64_Encode`   zigzag on all words.
-/

set_option linter.unusedVariables false

namespace KitServer
namespace ByteArray

/-! ## sequencing -/

section
variable {α β : Type}

theorem bind_ok {m : Act α} {f : α → Act β} {s s' : ByteArray} {a : α} (h : m s = .ok a s') :
    (m >>= f) s = f a s' := by
  show EStateM.bind m f s = _
  rw [EStateM.bind, h]

theorem bind_error {m : Act α} {f : α → Act β} {s s' : ByteArray} {e : Fault}
    (h : m s = .error e s') : (m >>= f) s = .error e s' := by
  show EStateM.bind m f s = _
  rw [EStateM.bind, h]

theorem bind_read {m : Act α} {g : α → Nat} {s s' : ByteArray} {a : α} (h : m s = .ok a s') :
    (do let len ← m; read (g len) : Act (List UInt8)) s = s'.read (g a) :=
  bind_ok h

def Reads (e : Endian) (m : Act α) (bs : List UInt8) (v : α) : Prop :=
  ∀ (s : ByteArray) (rest : List UInt8), s.endian = e → Ahead s (bs ++ rest) →
    m s = .ok v (s.advance bs.length)

theorem Reads.pure (e : Endian) (v : α) : Reads e (pure v) [] v := by
  intro s rest he h
  rw [List.length_nil, advance_zero h.toInv]
  rfl

theorem Reads.read (e : Endian) {bs : List UInt8} (h0 : bs ≠ []) : Reads e (read bs.length) bs bs :=
  fun _ _ _ h => h.read h0

theorem Reads.bind {e : Endian} {m : Act α} {f : α → Act β} {bs bs' : List UInt8} {v : α} {w : β}
    (hm : Reads e m bs v) (hf : Reads e (f v) bs' w) : Reads e (m >>= f) (bs ++ bs') w := by
  intro s rest he h
  rw [List.append_assoc] at h
  rw [bind_ok (hm s _ he h), hf (s.advance bs.length) rest he h.advance, List.length_append,
    advance_advance]

theorem Reads.map {e : Endian} {m : Act α} {bs : List UInt8} {v : α} (hm : Reads e m bs v)
    (f : α → β) : Reads e (do return f (← m)) bs (f v) := by
  have h := Reads.bind (f := fun a => Pure.pure (f a)) hm (Reads.pure e (f v))
  rw [List.append_nil] at h
  exact h

end

section
variable (fill : Nat → Nat → UInt8) (host : Endian)

def Appends (e : Endian) (m : Act Unit) (bs : List UInt8) : Prop :=
  ∀ s : ByteArray, s.endian = e → AtEnd s → ∃ s', m s = .ok () s' ∧ AtEnd s' ∧
    s'.baseSize = s.baseSize ∧ s'.endian = e ∧ s'.content = s.content ++ bs

theorem write_appends (e : Endian) (bs : List UInt8) : Appends e (write fill bs) bs := by
  intro s he h
  obtain ⟨s', hw, ha, hb, he', hc⟩ := write_append fill h bs
  exact ⟨s', hw, ha, hb, he'.trans he, hc⟩

theorem Appends.bind {e : Endian} {m m' : Act Unit} {bs bs' : List UInt8} (h : Appends e m bs)
    (h' : Appends e m' bs') : Appends e (m >>= fun _ => m') (bs ++ bs') := by
  intro s he ha
  obtain ⟨s1, hw1, ha1, hb1, he1, hc1⟩ := h s he ha
  obtain ⟨s2, hw2, ha2, hb2, he2, hc2⟩ := h' s1 he1 ha1
  exact ⟨s2, by rw [bind_ok hw1, hw2], ha2, hb2.trans hb1, he2,
    by rw [hc2, hc1, List.append_assoc]⟩

/-! ## fixed width -/

section
variable {α : Type} [Fixed α]

theorem leBytes_byteswap (v : α) : leBytes (Fixed.width α) (Fixed.bits (byteswap v))
    = (leBytes (Fixed.width α) (Fixed.bits v)).reverse := by
  have hl : (leBytes (Fixed.width α) (Fixed.bits v)).reverse.length = Fixed.width α := by
    rw [List.length_reverse, leBytes_length]
  have hlt := leValue_lt (leBytes (Fixed.width α) (Fixed.bits v)).reverse
  rw [hl] at hlt
  unfold byteswap
  rw [Fixed.bits_ofBits _ hlt]
  have h := leBytes_leValue (leBytes (Fixed.width α) (Fixed.bits v)).reverse
  rw [hl] at h
  exact h

theorem byteswap_byteswap (v : α) : byteswap (byteswap v) = v := by
  conv_lhs => rw [byteswap]
  rw [leBytes_byteswap, List.reverse_reverse, leValue_leBytes _ _ (Fixed.bits_lt v),
    Fixed.ofBits_bits]

theorem objBytes_length (v : α) : (objBytes host v).length = Fixed.width α := by
  cases host with
  | small => exact leBytes_length _ _
  | big =>
    show (leBytes _ _).reverse.length = _
    rw [List.length_reverse, leBytes_length]

theorem objBytes_ne_nil (v : α) : objBytes host v ≠ [] := by
  apply List.ne_nil_of_length_pos
  rw [objBytes_length]
  exact Fixed.width_pos

theorem ofObj_objBytes (v : α) : ofObj host (objBytes host v) = v := by
  cases host with
  | small =>
    show Fixed.ofBits (leValue (leBytes _ _)) = v
    rw [leValue_leBytes _ _ (Fixed.bits_lt v), Fixed.ofBits_bits]
  | big =>
    show Fixed.ofBits (leValue (leBytes _ _).reverse.reverse) = v
    rw [List.reverse_reverse, leValue_leBytes _ _ (Fixed.bits_lt v), Fixed.ofBits_bits]

theorem objBytes_swapped (e : Endian) (v : α) :
    objBytes host (if e ≠ host then byteswap v else v) = objBytes e v := by
  by_cases h : e = host
  · rw [if_neg (by simpa using h), h]
  · rw [if_pos h]
    cases e with
    | small =>
      cases host with
      | small => exact absurd rfl h
      | big =>
        show (leBytes _ (Fixed.bits (byteswap v))).reverse = leBytes _ _
        rw [leBytes_byteswap, List.reverse_reverse]
    | big =>
      cases host with
      | small => exact leBytes_byteswap v
      | big => exact absurd rfl h

theorem ofObj_swapped (e : Endian) (v : α) :
    (if e ≠ host then byteswap (ofObj host (objBytes e v) : α) else ofObj host (objBytes e v))
      = v := by
  by_cases h : e = host
  · rw [if_neg (by simpa using h), h, ofObj_objBytes]
  · rw [if_pos h]
    have hs : (ofObj host (objBytes e v) : α) = byteswap v := by
      cases e with
      | small =>
        cases host with
        | small => exact absurd rfl h
        | big => rfl
      | big =>
        cases host with
        | small => rfl
        | big => exact absurd rfl h
    rw [hs, byteswap_byteswap]

theorem writeFixed_appends (e : Endian) (v : α) :
    Appends e (writeFixed fill host v) (objBytes e v) := by
  intro s he h
  have hw : writeFixed fill host v s
      = write fill (objBytes host (if s.endian ≠ host then byteswap v else v)) s := rfl
  rw [hw, he, objBytes_swapped]
  exact write_appends fill e _ s he h

theorem readFixed_reads (e : Endian) (v : α) : Reads e (readFixed host α) (objBytes e v) v := by
  intro s rest he h
  have hr := h.read (objBytes_ne_nil e v)
  rw [objBytes_length] at hr
  have h1 : readFixed host α s = .ok (if s.endian ≠ host then
      byteswap (ofObj host (objBytes e v) : α) else ofObj host (objBytes e v))
      (s.advance (Fixed.width α)) := by
    unfold readFixed
    rw [bind_ok hr]
    rfl
  rw [h1, he, ofObj_swapped, objBytes_length]

end

theorem objBytes_byte (b : UInt8) : objBytes host b = [b] := by
  cases host with
  | small =>
    show [UInt8.ofNat b.toNat] = [b]
    rw [UInt8.ofNat_toNat]
  | big =>
    show [UInt8.ofNat b.toNat] = [b]
    rw [UInt8.ofNat_toNat]

theorem readFuint8_reads (e : Endian) (b : UInt8) : Reads e (readFuint8 host) [b] b := by
  have h := (Reads.read e (List.cons_ne_nil b [])).map (fun bs => (ofObj host bs : UInt8))
  have hb : (ofObj host [b] : UInt8) = b := by
    rw [← objBytes_byte host b, ofObj_objBytes]
  rw [hb] at h
  exact h

theorem readFint8_reads (e : Endian) (v : Int8) :
    Reads e (readFint8 host) (objBytes host v) v := by
  have h := (Reads.read e (objBytes_ne_nil host v)).map (fun bs => (ofObj host bs : Int8))
  rw [ofObj_objBytes, objBytes_length] at h
  exact h

/-! ## base 128 -/

theorem writeVarint_appends (e : Endian) {room v : Nat} {bs : List UInt8}
    (h : varint room v = some bs) : Appends e (writeVarint fill room v) bs := by
  have hw : writeVarint fill room v = write fill bs := by unfold writeVarint; rw [h]
  rw [hw]
  exact write_appends fill e bs

theorem toNat_low (b : UInt8) : (b &&& 0x7F).toNat = b.toNat % 128 := by
  rw [UInt8.toNat_and]
  exact Nat.and_two_pow_sub_one_eq_mod b.toNat 7

/-- the loop on the code of `v`, with `result` read so far -/
theorem varintLoop_reads (e : Endian) (w fuel : Nat) : ∀ (room i result v : Nat) (bs : List UInt8),
    varint room v = some bs → i < w → w ≤ i + fuel → result < 2 ^ i → result + 2 ^ i * v < 2 ^ w →
    Reads e (varintLoop host w fuel i result) bs (result + 2 ^ i * v) := by
  induction fuel with
  | zero => intro room i result v bs _ hi hf; omega
  | succ fuel ih =>
    intro room i result v bs hv hi hf hr hlt
    have hpos := Nat.two_pow_pos i
    obtain ⟨b, r, rfl, hcase⟩ := varint_step hv
    have hunf : varintLoop host w (fuel + 1) i result = (do
        let b ← readFuint8 host
        if b < 0x80 then return result ||| (b.toNat <<< i) % 2 ^ w
        else varintLoop host w fuel (i + 7) (result ||| ((b &&& 0x7F).toNat <<< i) % 2 ^ w)) := by
      rw [varintLoop, if_pos hi]
    rw [hunf, ← List.singleton_append]
    refine (readFuint8_reads host e b).bind ?_
    rcases hcase with ⟨hb, rfl, rfl⟩ | ⟨hb, hq, hval, room', hr'⟩
    · have hb' : b < 0x80 := UInt8.lt_iff_toNat_lt.mpr hb
      have hsh : (b.toNat <<< i) % 2 ^ w = b.toNat <<< i := by
        rw [Nat.shiftLeft_eq, Nat.mul_comm]
        exact Nat.mod_eq_of_lt (by omega)
      rw [if_pos hb', hsh, or_shift _ _ _ hr]
      exact Reads.pure e _
    · have hb' : ¬ b < 0x80 := fun h => hb (UInt8.lt_iff_toNat_lt.mp h)
      have hbl := b.toNat_lt
      have hpw : 2 ^ (i + 7) = 2 ^ i * 128 := by rw [Nat.pow_add]
      have hmul : 2 ^ i * v = 2 ^ i * (b.toNat % 128) + 2 ^ (i + 7) * (v / 128) := by
        conv_lhs => rw [hval]
        rw [hpw, Nat.mul_add, Nat.mul_assoc]
      have hi7 : i + 7 < w := by
        rw [← Nat.pow_lt_pow_iff_right (show 1 < 2 by decide)]
        have := Nat.mul_le_mul_left (2 ^ (i + 7)) hq
        omega
      have hsh : ((b &&& 0x7F).toNat <<< i) % 2 ^ w = (b.toNat % 128) <<< i := by
        rw [toNat_low, Nat.shiftLeft_eq, Nat.mul_comm]
        exact Nat.mod_eq_of_lt (by omega)
      rw [if_neg hb', hsh, or_shift _ _ _ hr]
      have hlow : 2 ^ i * (b.toNat % 128) ≤ 2 ^ i * 127 := Nat.mul_le_mul_left _ (by omega)
      have hrec := ih room' (i + 7) (result + 2 ^ i * (b.toNat % 128)) (v / 128) r hr' hi7 (by omega)
        (by omega) (by omega)
      have hsum : result + 2 ^ i * (b.toNat % 128) + 2 ^ (i + 7) * (v / 128) = result + 2 ^ i * v := by
        omega
      rw [hsum] at hrec
      exact hrec

theorem readUint32_reads (e : Endian) {v : UInt32} {bs : List UInt8}
    (h : varint 5 v.toNat = some bs) : Reads e (readUint32 host) bs v := by
  have hl := varintLoop_reads host e 32 32 5 0 0 v.toNat bs h (by decide) (by decide) (by decide)
    (by simpa using v.toNat_lt)
  have hm := hl.map UInt32.ofNat
  rw [Nat.pow_zero, Nat.one_mul, Nat.zero_add, UInt32.ofNat_toNat] at hm
  exact hm

theorem readUint64_reads (e : Endian) {v : UInt64} {bs : List UInt8}
    (h : varint 10 v.toNat = some bs) : Reads e (readUint64 host) bs v := by
  have hl := varintLoop_reads host e 64 64 10 0 0 v.toNat bs h (by decide) (by decide) (by decide)
    (by simpa using v.toNat_lt)
  have hm := hl.map UInt64.ofNat
  rw [Nat.pow_zero, Nat.one_mul, Nat.zero_add, UInt64.ofNat_toNat] at hm
  exact hm

/-! ## zigzag -/

theorem EncodeZigzag32_toBitVec (v : Int32) : (EncodeZigzag32 v).toBitVec = zigzag v.toBitVec := by
  have hneg : v < 0 ↔ v.toBitVec.msb = true := by
    rw [Int32.lt_iff_toBitVec_slt, ← BitVec.slt_zero_eq_msb]
    rfl
  unfold EncodeZigzag32 zigzag
  by_cases h : v < 0
  · rw [if_pos h, if_pos (hneg.mp h)]
    rfl
  · rw [if_neg h, if_neg (mt hneg.mpr h)]
    rfl

theorem DecodeZigzag32_Encode (v : Int32) : DecodeZigzag32 (EncodeZigzag32 v) = v := by
  apply Int32.toBitVec_inj.mp
  have h : (DecodeZigzag32 (EncodeZigzag32 v)).toBitVec
      = unzigzag (EncodeZigzag32 v).toBitVec := rfl
  rw [h, EncodeZigzag32_toBitVec, unzigzag_zigzag (by decide)]

theorem EncodeZigzag64_toBitVec (v : Int64) : (EncodeZigzag64 v).toBitVec = zigzag v.toBitVec := by
  have hneg : v < 0 ↔ v.toBitVec.msb = true := by
    rw [Int64.lt_iff_toBitVec_slt, ← BitVec.slt_zero_eq_msb]
    rfl
  unfold EncodeZigzag64 zigzag
  by_cases h : v < 0
  · rw [if_pos h, if_pos (hneg.mp h)]
    rfl
  · rw [if_neg h, if_neg (mt hneg.mpr h)]
    rfl

theorem DecodeZigzag64_Encode (v : Int64) : DecodeZigzag64 (EncodeZigzag64 v) = v := by
  apply Int64.toBitVec_inj.mp
  have h : (DecodeZigzag64 (EncodeZigzag64 v)).toBitVec
      = unzigzag (EncodeZigzag64 v).toBitVec := rfl
  rw [h, EncodeZigzag64_toBitVec, unzigzag_zigzag (by decide)]

end
end ByteArray
end KitServer
