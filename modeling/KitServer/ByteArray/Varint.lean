import KitServer.ByteArray.Buffers
import KitServer.ByteArray.Numbers
import KitServer.Lib.Varint

/-!
# `writeUint32`, `readUint32` and their 64-bit siblings

`unread s` is what is still to be read.  The loop of the readers is `unvarint` on it, on whatever
bytes there are.

* `readFuint8_cons`, `readFuint8_nil`   one byte;
* `varintLoop_eq`       the loop, on arbitrary bytes;
* `varintLoop?_eq`      the loop with shifts that are only defined below the width of the word;
* `varint_codec`        the codes that are written, and what is read.
-/

set_option linter.unusedVariables false

namespace KitServer
namespace ByteArray

/-! ## the bytes that are still to be read -/

def unread (s : ByteArray) : List UInt8 := slice s.cells s.position (s.size - s.position)

theorem Inv.unread_length {s : ByteArray} (h : Inv s) : s.unread.length = s.size - s.position := by
  have hpos := h.pos_le
  have hsize := h.size_le
  exact slice_length _ _ _ (by rw [h.cells_length]; omega)

theorem Inv.ahead {s : ByteArray} (h : Inv s) : Ahead s s.unread :=
  ⟨h, h.unread_length.le, by rw [h.unread_length]; rfl⟩

theorem Inv.advance {s : ByteArray} (h : Inv s) {n : Nat} (hn : n ≤ s.unread.length) :
    Inv (s.advance n) := read_inv h n (by rw [← h.unread_length]; exact hn)

theorem unread_advance (s : ByteArray) (n : Nat) : (s.advance n).unread = s.unread.drop n := by
  show slice s.cells (s.position + n) (s.size - (s.position + n))
    = (slice s.cells s.position (s.size - s.position)).drop n
  rw [slice, slice, List.drop_take, List.drop_drop, Nat.sub_sub]

theorem advance_ne {s : ByteArray} {n : Nat} (hn : 0 < n) : s.advance n ≠ s := by
  intro h
  have hpos : s.position + n = s.position := congrArg ByteArray.position h
  omega

section
variable (host : Endian)

theorem readFuint8_cons {s : ByteArray} (h : Inv s) {b : UInt8} {bs : List UInt8}
    (hs : s.unread = b :: bs) : readFuint8 host s = .ok b (s.advance 1)
      ∧ Inv (s.advance 1) ∧ (s.advance 1).unread = bs := by
  have hahead := h.ahead
  rw [hs] at hahead
  refine ⟨readFuint8_reads host s.endian b s bs rfl hahead, h.advance ?_, ?_⟩
  · rw [hs]
    exact Nat.succ_le_succ (Nat.zero_le _)
  · rw [unread_advance, hs]
    rfl

theorem readFuint8_nil {s : ByteArray} (h : Inv s) (hs : s.unread = []) :
    readFuint8 host s = .error .outOfRange s := by
  have hlen := h.unread_length
  rw [hs] at hlen
  exact bind_error (read_throws s 1 (by rw [← hlen]; exact Nat.one_pos))

/-- **The loop reads what `unvarint` reads**, and stops behind the last byte when the bytes end. -/
theorem varintLoop_eq (w n : Nat) : ∀ (fuel i result : Nat) (s : ByteArray), Inv s →
    n = (w - i + 6) / 7 → n < fuel → result < 2 ^ i →
    varintLoop host w fuel i result s =
      match unvarint n s.unread with
      | some x => .ok (result + 2 ^ i * (x.1 % 2 ^ (w - i)))
          (s.advance (s.unread.length - x.2.length))
      | none => .error .outOfRange (s.advance s.unread.length) := by
  induction n with
  | zero =>
    intro fuel i result s h hn hf hr
    obtain ⟨fuel, rfl⟩ : ∃ m, fuel = m + 1 := ⟨fuel - 1, by omega⟩
    rw [varintLoop, if_neg (by omega), unvarint]
    dsimp only
    rw [Nat.zero_mod, Nat.mul_zero, Nat.add_zero, Nat.sub_self, advance_zero h]
    rfl
  | succ n ih =>
    intro fuel i result s h hn hf hr
    obtain ⟨fuel, rfl⟩ : ∃ m, fuel = m + 1 := ⟨fuel - 1, by omega⟩
    rw [varintLoop, if_pos (by omega)]
    cases hs : s.unread with
    | nil =>
      rw [bind_error (readFuint8_nil host h hs), unvarint, List.length_nil]
      dsimp only
      rw [advance_zero h]
    | cons b bs =>
      obtain ⟨hread, ht, hunread⟩ := readFuint8_cons host h hs
      have hword : i ≤ w := by omega
      rw [bind_ok hread, unvarint]
      by_cases hb : b.toNat < 128
      · have hb' : b < 0x80 := UInt8.lt_iff_toNat_lt.mpr hb
        rw [if_pos hb', if_pos hb, shiftLeft_mod hword, or_shift _ _ _ hr]
        dsimp only
        rw [List.length_cons, Nat.add_sub_cancel_left]
        rfl
      · have hb' : ¬ b < 0x80 := fun hlt => hb (UInt8.lt_iff_toNat_lt.mp hlt)
        have hdigit : (b &&& 0x7F).toNat < 128 := by
          rw [toNat_low]
          exact Nat.mod_lt _ (by decide)
        have hlow : (b &&& 0x7F).toNat % 2 ^ (w - i) ≤ 127 :=
          Nat.le_trans (Nat.mod_le _ _) (by omega)
        have hacc : result + 2 ^ i * ((b &&& 0x7F).toNat % 2 ^ (w - i)) < 2 ^ (i + 7) := by
          have hmul := Nat.mul_le_mul_left (2 ^ i) hlow
          rw [Nat.pow_add]
          omega
        rw [if_neg hb', if_neg hb, shiftLeft_mod hword, or_shift _ _ _ hr,
          ih fuel (i + 7) _ _ ht (by omega) (by omega) hacc, hunread]
        cases hrest : unvarint n bs with
        | none =>
          show EStateM.Result.error _ ((s.advance 1).advance bs.length) = .error _ _
          rw [advance_advance, List.length_cons, Nat.add_comm]
        | some x =>
          obtain ⟨code, hcode, _⟩ := unvarint_split hrest
          have hlen := congrArg List.length hcode
          rw [List.length_append] at hlen
          show EStateM.Result.ok _ ((s.advance 1).advance (bs.length - x.2.length)) = .ok _ _
          rw [advance_advance, List.length_cons, ← toNat_low, Nat.pow_add]
          dsimp only
          rw [show 1 + (bs.length - x.2.length) = bs.length + 1 - x.2.length by omega,
            low_digit _ _ _ hdigit, show w - i - 7 = w - (i + 7) by omega, Nat.mul_add,
            ← Nat.add_assoc, Nat.mul_assoc]

theorem readVarint_eq {α : Type} (f : Nat → α) (w n : Nat) (hn : n = (w + 6) / 7) (hw : n < w)
    {s : ByteArray} (h : Inv s) : (do return f (← varintLoop host w w 0 0) : Act α) s =
      match unvarint n s.unread with
      | some x => .ok (f (x.1 % 2 ^ w)) (s.advance (s.unread.length - x.2.length))
      | none => .error .outOfRange (s.advance s.unread.length) := by
  have hloop := varintLoop_eq host w n w 0 0 s h hn hw (by decide)
  cases hx : unvarint n s.unread with
  | none =>
    rw [hx] at hloop
    exact bind_error hloop
  | some x =>
    rw [hx] at hloop
    dsimp only at hloop
    rw [Nat.zero_add, Nat.pow_zero, Nat.one_mul, Nat.sub_zero] at hloop
    exact bind_ok hloop

/-! ## shifts -/

/-- `x << i` in a word of `w` bits, which is undefined when `i` is not below `w` -/
def shiftLeft? (w x i : Nat) : Option Nat := if i < w then some ((x <<< i) % 2 ^ w) else none

/-- the loop of the readers with these shifts: `none` when one of them is undefined -/
def varintLoop? (w : Nat) : Nat → Nat → Nat → Act (Option Nat)
  | 0, _, _ => throw .noFuel
  | fuel + 1, i, result =>
    if i < w then do
      let b ← readFuint8 host
      if b < 0x80 then return (shiftLeft? w b.toNat i).map (result ||| ·)
      else
        match shiftLeft? w (b &&& 0x7F).toNat i with
        | none => return none
        | some x => varintLoop? w fuel (i + 7) (result ||| x)
    else return some result

/-- **No shift is undefined.** -/
theorem varintLoop?_eq (w fuel : Nat) : ∀ i result : Nat,
    varintLoop? host w fuel i result = (do return some (← varintLoop host w fuel i result)) := by
  induction fuel with
  | zero =>
    intro i result
    rfl
  | succ fuel ih =>
    intro i result
    rw [varintLoop?, varintLoop]
    by_cases hi : i < w
    · have hdefined : ∀ x, shiftLeft? w x i = some ((x <<< i) % 2 ^ w) := fun x => if_pos hi
      rw [if_pos hi, if_pos hi, bind_assoc]
      refine bind_congr fun b => ?_
      rw [hdefined, hdefined]
      dsimp only
      by_cases hb : b < 0x80
      · rw [if_pos hb, if_pos hb]
        rfl
      · rw [if_neg hb, if_neg hb]
        exact ih _ _
    · rw [if_neg hi, if_neg hi]
      rfl

/-! ## the writers and the readers -/

/-- a writer and a reader of base-128 codes of at most `room` bytes, for words of `w` bits -/
structure VarintCodec {α : Type} [Fixed α] (room w : Nat) (write : α → Act Unit) (read : Act α)
    (s : ByteArray) : Prop where
  /-- the shortest code is written, whatever is at the position -/
  writes : ∀ v : α, ∃ code s', code.length ≤ room ∧ Codes code (Fixed.bits v)
    ∧ (∀ other, Codes other (Fixed.bits v) → code.length ≤ other.length)
    ∧ write v s = .ok () s' ∧ s'.position = s.position + code.length
    ∧ slice s'.cells s.position code.length = code
  /-- a code that fits is read back, whatever follows it -/
  readsBack : ∀ (v : α) (code rest : List UInt8), Codes code (Fixed.bits v) → code.length ≤ room →
    s.unread = code ++ rest → read s = .ok v (s.advance code.length)
  /-- arbitrary bytes -/
  reads : ∃ n, n ≤ room ∧ n ≤ s.unread.length
    ∧ ((∃ v, read s = .ok v (s.advance n)) ∨ read s = .error .outOfRange (s.advance n))
  /-- the loop of the reader is the one whose shifts are all below the width of the word -/
  shifts : varintLoop? host w w 0 0 = (do return some (← varintLoop host w w 0 0))

section
variable (fill : Nat → Nat → UInt8)

theorem writeVarint_shortest {s : ByteArray} (h : Inv s) {room v : Nat} (hroom : 1 ≤ room)
    (hv : v < 128 ^ room) : ∃ code s', code.length ≤ room ∧ Codes code v
      ∧ (∀ other, Codes other v → code.length ≤ other.length)
      ∧ writeVarint fill room v s = .ok () s' ∧ s'.position = s.position + code.length
      ∧ slice s'.cells s.position code.length = code := by
  obtain ⟨code, hcode, _⟩ := varint_some room v hroom hv
  obtain ⟨s', hwrite, _, _, _, hpos, _, _, _, more, hfit, hcells⟩ := write_spec fill h code
  refine ⟨code, s', varint_length hcode, varint_codes hcode,
    fun other ho => varint_shortest hcode ho, ?_, hpos, ?_⟩
  · unfold writeVarint
    rw [hcode]
    exact hwrite
  · rw [hcells]
    exact slice_overwrite _ _ _ hfit

theorem readVarint_codec {α : Type} [Fixed α] (f : Nat → α) (w n : Nat) (hn : n = (w + 6) / 7)
    (hw : n < w) (hbits : ∀ v : α, Fixed.bits v < 2 ^ w) (hf : ∀ v : α, f (Fixed.bits v) = v)
    {s : ByteArray} (h : Inv s) (write : α → Act Unit)
    (hwrites : ∀ v : α, ∃ code s', code.length ≤ n ∧ Codes code (Fixed.bits v)
      ∧ (∀ other, Codes other (Fixed.bits v) → code.length ≤ other.length)
      ∧ write v s = .ok () s' ∧ s'.position = s.position + code.length
      ∧ slice s'.cells s.position code.length = code) :
    VarintCodec host n w write (do return f (← varintLoop host w w 0 0)) s := by
  have hread := readVarint_eq host f w n hn hw h
  refine ⟨hwrites, fun v code rest hcode hlen hs => ?_, ?_, varintLoop?_eq host w w 0 0⟩
  · rw [hread, hs, unvarint_codes hcode n hlen]
    dsimp only
    rw [Nat.mod_eq_of_lt (hbits v), hf, List.length_append, Nat.add_sub_cancel]
  · rw [hread]
    cases hx : unvarint n s.unread with
    | none =>
      obtain ⟨hlen, _⟩ := (unvarint_eq_none n s.unread).mp hx
      exact ⟨_, hlen.le, Nat.le_refl _, .inr rfl⟩
    | some x =>
      obtain ⟨code, hcode, hlen⟩ := unvarint_split hx
      have hsum := congrArg List.length hcode
      rw [List.length_append] at hsum
      exact ⟨s.unread.length - x.2.length, by omega, Nat.sub_le _ _, .inl ⟨_, rfl⟩⟩

/-- **The writers write the shortest codes, and the readers read every code back and no byte behind
the last one that a code can have.** -/
theorem varint_codec (b : Nat) (hb : 1 ≤ b) (s : ByteArray) (hs : Reachable fill b s) :
    VarintCodec host 5 32 (writeUint32 fill) (readUint32 host) s
      ∧ VarintCodec host 10 64 (writeUint64 fill) (readUint64 host) s := by
  obtain ⟨h, _⟩ := hs.inv fill hb
  constructor
  · exact readVarint_codec host UInt32.ofNat 32 5 (by decide) (by decide) UInt32.toNat_lt
      (fun v => UInt32.ofNat_toNat) h _ fun v => writeVarint_shortest fill h (by decide)
        (Nat.lt_trans v.toNat_lt (by decide))
  · exact readVarint_codec host UInt64.ofNat 64 10 (by decide) (by decide) UInt64.toNat_lt
      (fun v => UInt64.ofNat_toNat) h _ fun v => writeVarint_shortest fill h (by decide)
        (Nat.lt_trans v.toNat_lt (by decide))

end
end

/-- the codecs on a fresh array -/
theorem varint_codec_new :
    VarintCodec .small 5 32 (writeUint32 fun _ _ => 0) (readUint32 .small) (new (fun _ _ => 0) 4)
      ∧ VarintCodec .small 10 64 (writeUint64 fun _ _ => 0) (readUint64 .small)
        (new (fun _ _ => 0) 4) :=
  varint_codec .small (fun _ _ => 0) 4 (by decide) _ .new

end ByteArray
end KitServer
