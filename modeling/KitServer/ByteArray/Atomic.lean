import KitServer.ByteArray.Strings
import KitServer.ByteArray.Varint

/-!
# What a typed read leaves behind when it throws

A read of a number of fixed width is one `read`, which throws before it does anything.  A base-128
code is read byte by byte, and a string behind its length, so that these reads may throw when a part
is read already.  `buf.resize(len)` stands in front of the `read` of a string: `len` is what
`allocated` says.  That a large `resize` may throw itself is left out: the `read` behind it would.

* `read_bind_inPlace`       one `read`;
* `readVarint_inPlace_iff`  a base-128 code: bytes that end inside of it are lost;
* `readLen_eq`              the length in front of a string, and the bytes behind it;
* `atomic_iff`              the contents on which a typed read changes nothing when it throws.
-/

set_option linter.unusedVariables false

namespace KitServer
namespace ByteArray

inductive TypedRead where
  | fint8
  | fuint8
  | fint16
  | fuint16
  | fint32
  | fuint32
  | fint64
  | fuint64
  | int32
  | uint32
  | int64
  | uint64
  | float
  | double
  | string (f : Form)

section
variable (host : Endian)

/-- the length in front of a string -/
def readLen : Form → Act Nat
  | .F16 => do return (← readFuint16 host).toNat
  | .F32 => do return (← readFuint32 host).toNat
  | .F64 => do return (← readFuint64 host).toNat
  | .Vint => do return (← readUint64 host).toNat

/-- the call, without the value that it returns -/
def TypedRead.run : TypedRead → Act Unit
  | .fint8 => discard (readFint8 host)
  | .fuint8 => discard (readFuint8 host)
  | .fint16 => discard (readFint16 host)
  | .fuint16 => discard (readFuint16 host)
  | .fint32 => discard (readFint32 host)
  | .fuint32 => discard (readFuint32 host)
  | .fint64 => discard (readFint64 host)
  | .fuint64 => discard (readFuint64 host)
  | .int32 => discard (readInt32 host)
  | .uint32 => discard (readUint32 host)
  | .int64 => discard (readInt64 host)
  | .uint64 => discard (readUint64 host)
  | .float => discard (readFloat host)
  | .double => discard (readDouble host)
  | .string f => discard (readString host f)

/-- the length of the string that the call allocates, if it comes to that -/
def TypedRead.allocated : TypedRead → ByteArray → Option Nat
  | .string f, s =>
    match readLen host f s with
    | .ok len _ => some len
    | .error _ _ => none
  | _, _ => none

/-- a call that throws has changed nothing and has allocated no more than there is to read -/
def Atomic (r : TypedRead) (s : ByteArray) : Prop :=
  ∀ s', r.run host s = .error .outOfRange s' →
    s' = s ∧ ∀ n, r.allocated host s = some n → n ≤ s.size - s.position

end

/-! ## the contents -/

/-- the bytes end inside of a base-128 code of at most `n` bytes, behind its first byte -/
def Truncated (n : Nat) (bs : List UInt8) : Prop :=
  bs ≠ [] ∧ bs.length < n ∧ ∀ b ∈ bs, 128 ≤ b.toNat

/-- a word in byte order `e` at the front, and the bytes behind it -/
def wordPrefix (α : Type) [Fixed α] (e : Endian) (bs : List UInt8) : Option (Nat × List UInt8) :=
  if Fixed.width α ≤ bs.length then
    some (Fixed.bits (ofObj e (bs.take (Fixed.width α)) : α), bs.drop (Fixed.width α))
  else none

/-- the length at the front, and the bytes behind it -/
def lenPrefix (e : Endian) : Form → List UInt8 → Option (Nat × List UInt8)
  | .F16, bs => wordPrefix UInt16 e bs
  | .F32, bs => wordPrefix UInt32 e bs
  | .F64, bs => wordPrefix UInt64 e bs
  | .Vint, bs => (unvarint 10 bs).map fun x => (x.1 % 2 ^ 64, x.2)

/-- no base-128 code is cut off, and no length says more than there is -/
def TypedRead.Whole (e : Endian) : TypedRead → List UInt8 → Prop
  | .int32, bs => ¬ Truncated 5 bs
  | .uint32, bs => ¬ Truncated 5 bs
  | .int64, bs => ¬ Truncated 10 bs
  | .uint64, bs => ¬ Truncated 10 bs
  | .string f, bs =>
    (f = .Vint → ¬ Truncated 10 bs) ∧ ∀ x, lenPrefix e f bs = some x → x.1 ≤ x.2.length
  | _, _ => True

/-! ## one part -/

section
variable {α β : Type}

/-- a call that throws has changed nothing -/
def InPlace (m : Act α) (s : ByteArray) : Prop := ∀ s', m s = .error .outOfRange s' → s' = s

theorem map_error {m : Act α} (g : α → β) {s s' : ByteArray} {e : Fault} :
    EStateM.map g m s = .error e s' ↔ m s = .error e s' := by
  rw [EStateM.map]
  cases m s with
  | ok a t => exact iff_of_false (by intro h; cases h) (by intro h; cases h)
  | error e' t =>
    constructor
    · intro h
      injection h with he hs
      rw [he, hs]
    · intro h
      injection h with he hs
      rw [he, hs]

theorem map_error_iff {m : Act α} {g : α → β} {s s' : ByteArray} {e : Fault} :
    (do return g (← m) : Act β) s = .error e s' ↔ m s = .error e s' := by
  rw [← map_error g]
  show EStateM.bind m (fun a => Pure.pure (g a)) s = _ ↔ _
  rw [EStateM.bind, EStateM.map]
  cases m s with
  | ok a t => rfl
  | error e' t => rfl

theorem discard_error_iff {m : Act α} {s s' : ByteArray} {e : Fault} :
    (discard m : Act Unit) s = .error e s' ↔ m s = .error e s' :=
  map_error _

theorem inPlace_map_iff {m : Act α} {g : α → β} {s : ByteArray} :
    InPlace (do return g (← m) : Act β) s ↔ InPlace m s := by
  unfold InPlace
  simp only [map_error_iff]

/-- **One `read`, and then nothing that fails.** -/
theorem read_bind_inPlace {n : Nat} (hn : 0 < n) {f : List UInt8 → Act β} {s : ByteArray}
    (h : Inv s) (hf : ∀ bs t, ∃ v t', f bs t = .ok v t') : InPlace (read n >>= f) s := by
  intro s' hs'
  by_cases hle : n ≤ s.size - s.position
  · obtain ⟨v, t', hv⟩ := hf (slice s.cells s.position n)
      (s.moved s.root (s.position + n) (s.curAt (s.position + n)))
    rw [bind_ok (read_spec h n hn hle), hv] at hs'
    cases hs'
  · rw [bind_error (read_throws s n (by omega))] at hs'
    cases hs'
    rfl

variable (host : Endian)

theorem readFixed_inPlace (α : Type) [Fixed α] {s : ByteArray} (h : Inv s) :
    InPlace (readFixed host α) s :=
  read_bind_inPlace Fixed.width_pos h fun bs t => ⟨_, t, rfl⟩

/-- **Bytes that end inside of a base-128 code are lost.** -/
theorem readVarint_inPlace_iff (f : Nat → α) (w n : Nat) (hn : n = (w + 6) / 7) (hw : n < w)
    {s : ByteArray} (h : Inv s) :
    InPlace (do return f (← varintLoop host w w 0 0) : Act α) s ↔ ¬ Truncated n s.unread := by
  unfold InPlace Truncated
  rw [readVarint_eq host f w n hn hw h]
  cases hx : unvarint n s.unread with
  | some x =>
    refine iff_of_true (fun s' hs' => by cases hs') ?_
    rintro ⟨_, hcut⟩
    rw [(unvarint_eq_none n _).mpr hcut] at hx
    cases hx
  | none =>
    have hcut := (unvarint_eq_none n _).mp hx
    dsimp only
    by_cases hnil : s.unread = []
    · rw [hnil, List.length_nil, advance_zero h]
      refine iff_of_true (fun s' hs' => ?_) (fun hall => hall.1 rfl)
      cases hs'
      rfl
    · exact iff_of_false (fun hall => advance_ne (List.length_pos_iff.mpr hnil) (hall _ rfl))
        (fun hall => hall ⟨hnil, hcut⟩)

/-! ## a length -/

theorem objBytes_ofObj [Fixed α] (e : Endian) {bs : List UInt8} (h : bs.length = Fixed.width α) :
    objBytes e (ofObj e bs : α) = bs := by
  have hlt : ∀ l : List UInt8, l.length = Fixed.width α → leValue l < 256 ^ Fixed.width α := by
    intro l hl
    rw [← hl]
    exact leValue_lt l
  have hback : ∀ l : List UInt8, l.length = Fixed.width α →
      leBytes (Fixed.width α) (leValue l) = l := by
    intro l hl
    rw [← hl]
    exact leBytes_leValue l
  cases e with
  | small =>
    show leBytes _ (Fixed.bits (Fixed.ofBits (leValue bs) : α)) = bs
    rw [Fixed.bits_ofBits _ (hlt bs h), hback bs h]
  | big =>
    have hrev : bs.reverse.length = Fixed.width α := by rw [List.length_reverse, h]
    show (leBytes _ (Fixed.bits (Fixed.ofBits (leValue bs.reverse) : α))).reverse = bs
    rw [Fixed.bits_ofBits _ (hlt _ hrev), hback _ hrev, List.reverse_reverse]

/-- what a length leaves to be read, or what is lost of it -/
def LenSpec (m : Act Nat) (s : ByteArray) (x : Option (Nat × List UInt8)) (lost : Nat) : Prop :=
  match x with
  | some x => ∃ n, 0 < n ∧ m s = .ok x.1 (s.advance n) ∧ n ≤ s.unread.length
    ∧ x.2 = s.unread.drop n
  | none => m s = .error .outOfRange (s.advance lost)

theorem readWord_spec (α : Type) [Fixed α] {s : ByteArray} (h : Inv s) :
    LenSpec (do return Fixed.bits (← readFixed host α)) s (wordPrefix α s.endian s.unread) 0 := by
  unfold wordPrefix
  by_cases hle : Fixed.width α ≤ s.unread.length
  · rw [if_pos hle]
    have htake : (s.unread.take (Fixed.width α)).length = Fixed.width α := by
      rw [List.length_take]
      omega
    have hahead := h.ahead
    rw [← List.take_append_drop (Fixed.width α) s.unread,
      ← objBytes_ofObj (α := α) s.endian htake] at hahead
    have hread := readFixed_reads host s.endian _ s _ rfl hahead
    rw [objBytes_length] at hread
    exact ⟨Fixed.width α, Fixed.width_pos, bind_ok hread, hle, rfl⟩
  · rw [if_neg hle]
    rw [h.unread_length] at hle
    have hthrow := read_throws s (Fixed.width α) (by omega)
    have hfixed : readFixed host α s = .error .outOfRange s := bind_error hthrow
    show (do return Fixed.bits (← readFixed host α) : Act Nat) s = _
    rw [bind_error hfixed, advance_zero h]

/-- **The length in front of a string.** -/
theorem readLen_eq (f : Form) {s : ByteArray} (h : Inv s) :
    LenSpec (readLen host f) s (lenPrefix s.endian f s.unread)
      (if f = .Vint then s.unread.length else 0) := by
  cases f with
  | F16 => exact readWord_spec host UInt16 h
  | F32 => exact readWord_spec host UInt32 h
  | F64 => exact readWord_spec host UInt64 h
  | Vint =>
    have hread := readVarint_eq host UInt64.ofNat 64 10 (by decide) (by decide) h
    rw [if_pos rfl, lenPrefix]
    cases hx : unvarint 10 s.unread with
    | none =>
      rw [hx] at hread
      exact bind_error hread
    | some x =>
      rw [hx] at hread
      have hpos := unvarint_pos (by decide) hx
      obtain ⟨code, hcode, _⟩ := unvarint_split hx
      refine ⟨s.unread.length - x.2.length, by omega, ?_, Nat.sub_le _ _, ?_⟩
      · have hok := bind_ok (f := fun a => Pure.pure a.toNat) hread
        rw [show readLen host .Vint s = _ from hok]
        show EStateM.Result.ok (UInt64.ofNat (x.1 % 2 ^ 64)).toNat _ = .ok (x.1 % 2 ^ 64) _
        have hlt : x.1 % 2 ^ 64 < 2 ^ 64 := Nat.mod_lt _ (by decide)
        rw [UInt64.toNat_ofNat_of_lt' hlt]
      · have hlen := congrArg List.length hcode
        rw [List.length_append] at hlen
        rw [show s.unread.length - x.2.length = code.length by omega]
        conv_rhs => rw [hcode]
        rw [List.drop_left]

end

/-! ## the typed reads -/

section
variable (host : Endian)

theorem bind_read_map {α : Type} (m : Act α) (g : α → Nat) (s : ByteArray) :
    (do let len ← m; read (g len) : Act (List UInt8)) s =
      match (do return g (← m) : Act Nat) s with
      | .ok len t => t.read len
      | .error e t => .error e t := by
  cases hm : m s with
  | ok a t =>
    rw [bind_read hm, bind_ok hm]
    rfl
  | error e t =>
    rw [bind_error (f := fun a => Pure.pure (g a)) hm]
    exact bind_error hm

theorem readString_len (f : Form) (s : ByteArray) : readString host f s =
    match readLen host f s with
    | .ok len t => t.read len
    | .error e t => .error e t := by
  cases f with
  | F16 => exact bind_read_map (readFuint16 host) UInt16.toNat s
  | F32 => exact bind_read_map (readFuint32 host) UInt32.toNat s
  | F64 => exact bind_read_map (readFuint64 host) UInt64.toNat s
  | Vint => exact bind_read_map (readUint64 host) UInt64.toNat s

theorem read_throws_iff {s s' : ByteArray} (h : Inv s) (n : Nat) :
    s.read n = .error .outOfRange s' ↔ s.unread.length < n ∧ s' = s := by
  rw [h.unread_length]
  by_cases hlt : s.size - s.position < n
  · rw [read_throws s n hlt]
    constructor
    · intro hs'
      cases hs'
      exact ⟨hlt, rfl⟩
    · rintro ⟨_, rfl⟩
      rfl
  · refine iff_of_false (fun hs' => ?_) (fun hall => hlt hall.1)
    by_cases hn : n = 0
    · subst hn
      rw [read_zero h] at hs'
      split at hs'
      · cases hs'
      · cases hs'
    · rw [read_spec h n (by omega) (by omega)] at hs'
      cases hs'

/-- **A string.** -/
theorem string_atomic_iff (f : Form) {s : ByteArray} (h : Inv s) :
    Atomic host (.string f) s ↔ (TypedRead.string f).Whole s.endian s.unread := by
  have hlen := readLen_eq host f h
  unfold Atomic TypedRead.Whole TypedRead.allocated TypedRead.run
  simp only [discard_error_iff, readString_len]
  cases hx : lenPrefix s.endian f s.unread with
  | none =>
    rw [hx] at hlen
    have hthrow : readLen host f s
        = .error .outOfRange (s.advance (if f = .Vint then s.unread.length else 0)) := hlen
    rw [hthrow]
    dsimp only
    by_cases hf : f = .Vint
    · subst hf
      rw [lenPrefix, Option.map_eq_none_iff] at hx
      rw [if_pos rfl]
      by_cases hnil : s.unread = []
      · rw [hnil, List.length_nil, advance_zero h]
        refine iff_of_true ?_ ⟨fun _ hall => hall.1 rfl, fun x hx => by cases hx⟩
        intro s' hs'
        cases hs'
        exact ⟨rfl, fun n hn => by cases hn⟩
      · refine iff_of_false (fun hall => ?_) (fun hall => hall.1 rfl ⟨hnil, ?_⟩)
        · exact advance_ne (List.length_pos_iff.mpr hnil) (hall _ rfl).1
        · exact (unvarint_eq_none _ _).mp hx
    · rw [if_neg hf, advance_zero h]
      refine iff_of_true ?_ ⟨fun hvint => absurd hvint hf, fun x hx => by cases hx⟩
      intro s' hs'
      cases hs'
      exact ⟨rfl, fun n hn => by cases hn⟩
  | some x =>
    rw [hx] at hlen
    obtain ⟨n, hn, hread, hle, hrest⟩ := hlen
    have hvint : f = .Vint → ¬ Truncated 10 s.unread := by
      rintro rfl ⟨_, hcut⟩
      rw [lenPrefix, (unvarint_eq_none _ _).mpr hcut] at hx
      cases hx
    have hall : (∀ y, some x = some y → y.1 ≤ y.2.length) ↔ x.1 ≤ x.2.length :=
      ⟨fun hle => hle x rfl, fun hle y hy => by cases hy; exact hle⟩
    rw [hread, hall]
    dsimp only
    simp only [read_throws_iff (h.advance hle), unread_advance, ← hrest]
    constructor
    · intro hatomic
      refine ⟨hvint, ?_⟩
      by_contra hgt
      exact advance_ne hn (hatomic _ ⟨Nat.not_le.mp hgt, rfl⟩).1
    · rintro ⟨_, hfits⟩ s' ⟨hgt, _⟩
      exact absurd hfits (Nat.not_le.mpr hgt)

theorem number_atomic_iff {α : Type} {m : Act α} {r : TypedRead} {s : ByteArray}
    (hrun : r.run host = discard m) (hnone : r.allocated host s = none) :
    Atomic host r s ↔ InPlace m s := by
  unfold Atomic InPlace
  rw [hrun, hnone]
  simp only [discard_error_iff]
  exact ⟨fun hall s' hs' => (hall s' hs').1, fun hall s' hs' => ⟨hall s' hs', fun n hn => by cases hn⟩⟩

variable (fill : Nat → Nat → UInt8)

/-- **A typed read that throws has changed nothing, and has allocated no more than there is to read,
exactly when the bytes do not end inside of a base-128 code and the length in front of a string does
not say more than there is behind it.** -/
theorem atomic_iff (b : Nat) (hb : 1 ≤ b) (s : ByteArray) (hs : Reachable fill b s)
    (r : TypedRead) : Atomic host r s ↔ r.Whole s.endian s.unread := by
  obtain ⟨h, _⟩ := hs.inv fill hb
  have hbyte : ∀ {α : Type} (f : List UInt8 → α), InPlace (do return f (← read 1)) s :=
    fun f => read_bind_inPlace Nat.one_pos h fun bs t => ⟨_, t, rfl⟩
  have hword : ∀ (α : Type) [Fixed α], InPlace (readFixed host α) s ↔ True :=
    fun α _ => iff_true_intro (readFixed_inPlace host α h)
  cases r with
  | fint8 => exact (number_atomic_iff host rfl rfl).trans (iff_of_true (hbyte _) trivial)
  | fuint8 => exact (number_atomic_iff host rfl rfl).trans (iff_of_true (hbyte _) trivial)
  | fint16 => exact (number_atomic_iff host rfl rfl).trans (hword Int16)
  | fuint16 => exact (number_atomic_iff host rfl rfl).trans (hword UInt16)
  | fint32 => exact (number_atomic_iff host rfl rfl).trans (hword Int32)
  | fuint32 => exact (number_atomic_iff host rfl rfl).trans (hword UInt32)
  | fint64 => exact (number_atomic_iff host rfl rfl).trans (hword Int64)
  | fuint64 => exact (number_atomic_iff host rfl rfl).trans (hword UInt64)
  | float => exact (number_atomic_iff host rfl rfl).trans (hword UInt32)
  | double => exact (number_atomic_iff host rfl rfl).trans (hword UInt64)
  | int32 =>
    exact (number_atomic_iff host rfl rfl).trans (inPlace_map_iff.trans
      (readVarint_inPlace_iff host _ 32 5 (by decide) (by decide) h))
  | uint32 =>
    exact (number_atomic_iff host rfl rfl).trans
      (readVarint_inPlace_iff host _ 32 5 (by decide) (by decide) h)
  | int64 =>
    exact (number_atomic_iff host rfl rfl).trans (inPlace_map_iff.trans
      (readVarint_inPlace_iff host _ 64 10 (by decide) (by decide) h))
  | uint64 =>
    exact (number_atomic_iff host rfl rfl).trans
      (readVarint_inPlace_iff host _ 64 10 (by decide) (by decide) h)
  | string f => exact string_atomic_iff host f h

end

/-- one byte of a base-128 code that goes on -/
def cutCode : ByteArray := ⟨4, 0, 4, 1, .big, [⟨[0x80, 0, 0, 0]⟩], some 0, 1⟩

theorem cutCode_reachable : Reachable (fun _ _ => 0) 4 cutCode := by
  have hwrite : (new (fun _ _ => 0) 4).exec (fun _ _ => 0) (.write [0x80])
      = (.done, ⟨4, 1, 4, 1, .big, [⟨[0x80, 0, 0, 0]⟩], some 0, 1⟩) := by rfl
  have hseek : exec (fun _ _ => 0) ⟨4, 1, 4, 1, .big, [⟨[0x80, 0, 0, 0]⟩], some 0, 1⟩
      (.setPosition 0) = (.done, cutCode) := by rfl
  exact .exec (.exec .new (show Op.ok _ (.write _) from trivial) hwrite)
    (show Op.ok _ (.setPosition 0) from show 0 < 4 by decide) hseek

/-- the code that is cut off there -/
theorem atomic_iff_cutCode : Atomic .small .uint32 cutCode ↔ ¬ Truncated 5 cutCode.unread :=
  atomic_iff .small (fun _ _ => 0) 4 (by decide) _ cutCode_reachable .uint32

/-- **The byte is lost when the code is read.** -/
theorem readUint32_loses : ¬ ∀ (host : Endian) (fill : Nat → Nat → UInt8) (b : Nat), 1 ≤ b →
    ∀ s, Reachable fill b s → ∀ r : TypedRead, Atomic host r s := by
  intro h
  have hatomic := h .small (fun _ _ => 0) 4 (by decide) _ cutCode_reachable .uint32
  have hrun : TypedRead.uint32.run .small cutCode
      = .error .outOfRange { cutCode with position := 1 } := by rfl
  have hpos := congrArg ByteArray.position (hatomic _ hrun).1
  cases hpos

end ByteArray
end KitServer
