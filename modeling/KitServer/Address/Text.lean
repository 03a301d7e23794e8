import Mathlib
import KitServer.Lib.Inet
import KitServer.Address.Masks
import KitServer.Http.Dump

/-!
# The text of an IPv6 address, printed and read

* `insert`, `CreateFromText`     the printer and the constructor from a text;
* `insertText_denotes`           the printed text stands for the eight groups;
* `insert_injective`             different addresses are printed differently;
* `reads_iff`                    the texts on which the constructor is right.
-/

set_option linter.unusedVariables false

namespace KitServer.Address
open Inet Http

namespace In6Addr

/-- `((uint16_t*)s6_addr)[i]` -/
def word (host : Endian) (a : In6Addr) (i : Nat) : BitVec 16 :=
  let first := a[2 * i]?.getD 0
  let second := a[2 * i + 1]?.getD 0
  match host with
  | .small => second ++ first
  | .big => first ++ second

/-- the bytes that are written from the front on -/
def store (a : In6Addr) (bs : List (BitVec 8)) : In6Addr :=
  Vector.ofFn fun i : Fin 16 => bs[i.val]?.getD (a.get i)

/-- group `i` of the address -/
def group (a : In6Addr) (i : Nat) : BitVec 16 := a[2 * i]?.getD 0 ++ a[2 * i + 1]?.getD 0

def groups (a : In6Addr) : List (BitVec 16) := (List.range 8).map (group a)

end In6Addr

/-- `inet_pton`: the result and the bytes it writes to the destination -/
def inet_pton (af : BitVec 16) (src : Str) : Int × List (BitVec 8) :=
  if af = AF_INET then
    match dotted src with
    | some bs => (1, bs)
    | none => (0, [])
  else if af = AF_INET6 then
    match expand src with
    | some vs => (1, vs.flatMap fun v => [v.extractLsb' 8 8, v.extractLsb' 0 8])
    | none => (0, [])
  else (-1, [])

namespace IPv6Address
variable (host : Endian)

/-- the first `:` of a `::`; the state is what is written so far and `used_zero8` -/
def insertMark (addr : Nat → BitVec 16) (s : Str × Bool) (i : Nat) : Str × Bool :=
  if i ≠ 0 ∧ addr (i - 1) = 0 ∧ s.2 = false then (s.1 ++ asc ":", true) else s

/-- a round of the loop in `insert` -/
def insertRound (addr : Nat → BitVec 16) (s : Str × Bool) (i : Nat) : Str × Bool :=
  if addr i = 0 ∧ s.2 = false then s
  else
    let s := insertMark addr s i
    ((if i ≠ 0 then s.1 ++ asc ":" else s.1)
      ++ lower 16 (host.byteswapOnSmallEndian (addr i)).toNat, s.2)

/-- what `insert` writes between the brackets -/
def insertText (a : In6Addr) : Str :=
  let addr := a.word host
  let s := (List.range 8).foldl (insertRound host addr) ([], false)
  if s.2 = false ∧ addr 7 = 0 then s.1 ++ asc "::" else s.1

def insert (s : IPv6Address) : Str :=
  asc "[" ++ insertText host s.sin6_addr ++ asc "]:" ++ decimal (s.getPort host).toNat

/-- the characters of `addr` are those in front of its terminating 0 -/
def CreateFromText (addr : Str) (port : BitVec 16) : Option IPv6Address :=
  let ret := { new with sin6_port := host.byteswapOnSmallEndian port }
  let (n, bs) := inet_pton AF_INET addr
  if n < 0 then none
  else if n = 0 then none
  else some { ret with sin6_addr := ret.sin6_addr.store bs }

end IPv6Address

/-! ## the groups -/

section
variable (host : Endian)

theorem bswap_16_append (x y : BitVec 8) : bswap_16 (x ++ y) = y ++ x := by
  apply BitVec.eq_of_getLsbD_eq
  intro i hi
  simp only [bswap_16, BitVec.getLsbD_append, BitVec.getLsbD_extractLsb']
  interval_cases i <;> simp

theorem byteswap_eq_zero (x : BitVec 16) : host.byteswapOnSmallEndian x = 0 ↔ x = 0 := by
  have hz : host.byteswapOnSmallEndian (0 : BitVec 16) = 0 := by
    cases host <;> rfl
  constructor
  · intro h
    rw [← byteswap_byteswap_16 host x, h, hz]
  · rintro rfl
    exact hz

theorem byteswap_word (a : In6Addr) (i : Nat) :
    host.byteswapOnSmallEndian (a.word host i) = a.group i := by
  cases host with
  | small => exact bswap_16_append _ _
  | big => rfl

theorem word_eq_zero (a : In6Addr) (i : Nat) : a.word host i = 0 ↔ a.group i = 0 := by
  rw [← byteswap_word host a i, byteswap_eq_zero]

end

theorem append_bytes_inj {x y x' y' : BitVec 8} (h : x ++ y = x' ++ y') : x = x' ∧ y = y' := by
  have hhigh := congrArg (fun v : BitVec 16 => v.extractLsb' 8 8) h
  have hlow := congrArg (fun v : BitVec 16 => v.extractLsb' 0 8) h
  simp only [BitVec.extractLsb'_append_eq_left, BitVec.extractLsb'_append_eq_right] at hhigh hlow
  exact ⟨hhigh, hlow⟩

theorem In6Addr.groups_injective {a b : In6Addr} (h : a.groups = b.groups) : a = b := by
  have hgroup : ∀ i < 8, a.group i = b.group i := by
    intro i hi
    have hget := congrArg (fun l : List (BitVec 16) => l[i]?) h
    simpa [In6Addr.groups, hi] using hget
  apply Vector.ext
  intro j hj
  obtain ⟨hfirst, hsecond⟩ := append_bytes_inj (hgroup (j / 2) (by omega))
  rcases Nat.mod_two_eq_zero_or_one j with hpar | hpar
  · rw [show 2 * (j / 2) = j by omega] at hfirst
    simpa [hj] using hfirst
  · rw [show 2 * (j / 2) + 1 = j by omega] at hsecond
    simpa [hj] using hsecond

/-! ## the loop of `insert` -/

section
variable (host : Endian) (addr : Nat → BitVec 16)

def token (host : Endian) (addr : Nat → BitVec 16) (i : Nat) : Str :=
  lower 16 (host.byteswapOnSmallEndian (addr i)).toNat

theorem insertRound_print (s : Str × Bool) (i : Nat) (h : ¬ (addr i = 0 ∧ s.2 = false)) :
    IPv6Address.insertRound host addr s i
      = ((if i ≠ 0 then (IPv6Address.insertMark addr s i).1 ++ asc ":"
          else (IPv6Address.insertMark addr s i).1) ++ token host addr i,
        (IPv6Address.insertMark addr s i).2) :=
  if_neg h

theorem rounds_front (n : Nat) (h : ∀ j < n, addr j ≠ 0) :
    (List.range n).foldl (IPv6Address.insertRound host addr) ([], false)
      = (join ((List.range n).map (token host addr)), false) := by
  induction n with
  | zero => rfl
  | succ n ih =>
    have hn : addr n ≠ 0 := h n (Nat.lt_succ_self n)
    have hmark : ∀ os : Str, IPv6Address.insertMark addr (os, false) n = (os, false) := by
      intro os
      refine if_neg fun hz => h (n - 1) (by omega) hz.2.1
    rw [List.range_succ, List.foldl_append, ih fun j hj => h j (by omega), List.map_append]
    show IPv6Address.insertRound host addr _ n = _
    rw [insertRound_print host addr _ n fun hz => hn hz.1, hmark]
    cases n with
    | zero => simp [join]
    | succ m =>
      rw [if_pos (Nat.succ_ne_zero m), List.range_succ_eq_map, List.map_cons, List.cons_append,
        join_cons_eq, join_cons_eq, List.flatMap_append]
      simp [asc]

theorem rounds_zeros (os : Str) (n : Nat) : ∀ p, (∀ j, p ≤ j → j < p + n → addr j = 0) →
    (List.range' p n).foldl (IPv6Address.insertRound host addr) (os, false) = (os, false) := by
  induction n with
  | zero => exact fun p h => rfl
  | succ n ih =>
    intro p h
    have hp : addr p = 0 := h p (Nat.le_refl p) (by omega)
    rw [List.range'_succ, List.foldl_cons, IPv6Address.insertRound, if_pos ⟨hp, rfl⟩]
    exact ih (p + 1) fun j hj hlt => h j (by omega) (by omega)

theorem rounds_back (n : Nat) : ∀ (os : Str) (p : Nat), 0 < p →
    (List.range' p n).foldl (IPv6Address.insertRound host addr) (os, true)
      = (os ++ ((List.range' p n).map (token host addr)).flatMap fun x => 58 :: x, true) := by
  induction n with
  | zero =>
    intro os p hp
    simp
  | succ n ih =>
    intro os p hp
    have hskip : ¬ (addr p = 0 ∧ true = false) := fun hz => by cases hz.2
    have hmark : ¬ (p ≠ 0 ∧ addr (p - 1) = 0 ∧ true = false) := fun hz => by cases hz.2.2
    have hround : IPv6Address.insertRound host addr (os, true) p
        = (os ++ 58 :: token host addr p, true) := by
      rw [insertRound_print host addr _ p hskip, IPv6Address.insertMark, if_neg hmark,
        if_pos (Nat.pos_iff_ne_zero.mp hp), List.append_assoc]
      rfl
    rw [List.range'_succ, List.foldl_cons, hround, ih _ (p + 1) (Nat.succ_pos p), List.map_cons,
      List.flatMap_cons, List.append_assoc]

theorem round_mark (os : Str) (p : Nat) (hp : 0 < p) (hprev : addr (p - 1) = 0)
    (hne : addr p ≠ 0) : IPv6Address.insertRound host addr (os, false) p
      = (os ++ 58 :: 58 :: token host addr p, true) := by
  have hp0 : p ≠ 0 := Nat.pos_iff_ne_zero.mp hp
  have hmark : IPv6Address.insertMark addr (os, false) p = (os ++ asc ":", true) :=
    if_pos ⟨hp0, hprev, rfl⟩
  rw [insertRound_print host addr _ p fun hz => hne hz.1, hmark, if_pos hp0, List.append_assoc,
    List.append_assoc]
  rfl

end

theorem exists_run {P : Nat → Prop} [DecidablePred P] {lo n : Nat} (h : lo ≤ n) :
    ∃ p, lo ≤ p ∧ p ≤ n ∧ (∀ j, lo ≤ j → j < p → P j) ∧ (p = n ∨ ¬ P p) := by
  induction n, h using Nat.le_induction with
  | base => exact ⟨lo, Nat.le_refl lo, Nat.le_refl lo, fun j h1 h2 => by omega, .inl rfl⟩
  | succ n hn ih =>
    obtain ⟨p, hlo, hp, hall, hend⟩ := ih
    by_cases hP : P p
    · have hpn : p = n := hend.resolve_right fun hnot => hnot hP
      subst hpn
      refine ⟨p + 1, by omega, Nat.le_refl _, fun j h1 h2 => ?_, .inl rfl⟩
      rcases Nat.lt_succ_iff_lt_or_eq.mp h2 with h2 | rfl
      · exact hall j h1 h2
      · exact hP
    · exact ⟨p, hlo, by omega, hall, .inr hP⟩

/-! ## the printed text -/

section
variable (host : Endian) (a : In6Addr)

theorem token_word : token host (a.word host) = fun i => lower 16 (a.group i).toNat := by
  funext i
  rw [token, byteswap_word]

theorem fields_tokens (l : List Nat) :
    fields (l.map (token host (a.word host))) = some (l.map a.group) := by
  rw [token_word, ← fields_lower (l.map a.group), List.map_map]
  rfl

theorem groups_parts {p q : Nat} (hpq : p ≤ q) (hq : q ≤ 8)
    (hzeros : ∀ j, p ≤ j → j < q → a.word host j = 0) :
    a.groups = (List.range p).map a.group ++ List.replicate (q - p) 0
      ++ (List.range' q (8 - q)).map a.group := by
  have hrange : List.range 8 = List.range p ++ List.range' p (q - p) ++ List.range' q (8 - q) := by
    have h1 : List.range p ++ List.range' p (q - p) = List.range' 0 q := by
      have happ := List.range'_append_1 (s := 0) (m := p) (n := q - p)
      rwa [Nat.zero_add, Nat.add_sub_cancel' hpq, ← List.range_eq_range'] at happ
    have happ := List.range'_append_1 (s := 0) (m := q) (n := 8 - q)
    rw [Nat.zero_add, Nat.add_sub_cancel' hq] at happ
    rw [h1, happ, List.range_eq_range']
  have hmid : (List.range' p (q - p)).map a.group = List.replicate (q - p) 0 := by
    refine List.eq_replicate_iff.mpr ⟨by simp, fun v hv => ?_⟩
    obtain ⟨j, hj, rfl⟩ := List.mem_map.mp hv
    obtain ⟨h1, h2⟩ := List.mem_range'_1.mp hj
    exact (word_eq_zero host a j).mp (hzeros j h1 (by omega))
  rw [In6Addr.groups, hrange, List.map_append, List.map_append, hmid]

theorem rounds_parts {p q : Nat} (hpq : p ≤ q) (hq : q ≤ 8)
    (hfront : ∀ j < p, a.word host j ≠ 0) (hzeros : ∀ j, p ≤ j → j < q → a.word host j = 0) :
    (List.range 8).foldl (IPv6Address.insertRound host (a.word host)) ([], false)
      = (List.range' q (8 - q)).foldl (IPv6Address.insertRound host (a.word host))
          (join ((List.range p).map (token host (a.word host))), false) := by
  have hrange : List.range 8 = List.range p ++ (List.range' p (q - p) ++ List.range' q (8 - q)) := by
    have h1 := List.range'_append_1 (s := p) (m := q - p) (n := 8 - q)
    rw [Nat.add_sub_cancel' hpq, show q - p + (8 - q) = 8 - p by omega] at h1
    have h2 := List.range'_append_1 (s := 0) (m := p) (n := 8 - p)
    rw [Nat.zero_add, Nat.add_sub_cancel' (by omega), ← List.range_eq_range'] at h2
    rw [h1, h2, List.range_eq_range']
  rw [hrange, List.foldl_append, List.foldl_append, rounds_front host _ p hfront,
    rounds_zeros host _ _ (q - p) p fun j h1 h2 => hzeros j h1 (by omega)]

/-- the printed text stands for the eight groups -/
theorem insertText_denotes : Denotes (IPv6Address.insertText host a) a.groups := by
  obtain ⟨p, -, hp, hfront, hend⟩ := exists_run (P := fun i => a.word host i ≠ 0) (Nat.zero_le 8)
  have hfront' : ∀ j < p, a.word host j ≠ 0 := fun j hj => hfront j (Nat.zero_le j) hj
  rcases Nat.lt_or_ge p 8 with hp8 | hp8
  · have hp0 : a.word host p = 0 := not_not.mp (hend.resolve_left (by omega))
    obtain ⟨q, hpq, hq, hzeros, hstop⟩ := exists_run (P := fun i => a.word host i = 0) hp
    have hlt : p < q := by
      rcases Nat.lt_or_ge p q with h | h
      · exact h
      · have hqp : q = p := by omega
        rw [hqp] at hstop
        exact absurd hp0 (hstop.resolve_left (Nat.ne_of_lt hp8))
    rw [groups_parts host a hpq hq hzeros]
    have hrounds := rounds_parts host a hpq hq hfront' hzeros
    have hcount : q - p = 8 - (((List.range p).map a.group).length
        + ((List.range' q (8 - q)).map a.group).length) := by
      rw [List.length_map, List.length_range, List.length_map, List.length_range']
      omega
    have hlen : ((List.range p).map a.group).length
        + ((List.range' q (8 - q)).map a.group).length < 8 := by
      rw [List.length_map, List.length_range, List.length_map, List.length_range']
      omega
    have htext : IPv6Address.insertText host a
        = join ((List.range p).map (token host (a.word host))) ++ 58 :: 58 ::
          join ((List.range' q (8 - q)).map (token host (a.word host))) := by
      rw [IPv6Address.insertText, hrounds]
      rcases Nat.lt_or_ge q 8 with hq8 | hq8
      · have hne : a.word host q ≠ 0 := hstop.resolve_left (by omega)
        have hcons : List.range' q (8 - q) = q :: List.range' (q + 1) (7 - q) := by
          rw [show 8 - q = 7 - q + 1 by omega, List.range'_succ]
        rw [hcons, List.foldl_cons,
          round_mark host _ _ q (by omega) (hzeros (q - 1) (by omega) (by omega)) hne,
          rounds_back host _ _ _ (q + 1) (Nat.succ_pos q), List.map_cons, join_cons_eq]
        simp
      · have hq8' : q = 8 := by omega
        subst hq8'
        have h7 : a.word host 7 = 0 := hzeros 7 (by omega) (by omega)
        exact if_pos ⟨rfl, h7⟩
    rw [hcount, htext]
    exact .compressed (fields_tokens host a _) (groups_of_fields (fields_tokens host a _)) hlen
  · have hp8' : p = 8 := by omega
    subst hp8'
    have h7 : a.word host 7 ≠ 0 := hfront' 7 (by decide)
    have htext : IPv6Address.insertText host a
        = join ((List.range 8).map (token host (a.word host))) := by
      rw [IPv6Address.insertText, rounds_front host _ 8 hfront']
      exact if_neg fun h => h7 h.2
    rw [htext]
    exact .full (groups_of_fields (fields_tokens host a _)) (by simp [In6Addr.groups])

example : IPv6Address.insertText .small
    #v[0x20, 0x01, 0x0d, 0xb8, 0, 0, 0, 0, 0, 1, 0, 0, 0, 0, 0, 0xa] = asc "2001:db8::1:0:0:a" := by
  decide +kernel

end

namespace IPv6Address
variable (host : Endian)

theorem insert_injective {s t : IPv6Address} (h : s.insert host = t.insert host) :
    s.sin6_addr = t.sin6_addr ∧ s.sin6_port = t.sin6_port := by
  have hs := insertText_denotes host s.sin6_addr
  have ht := insertText_denotes host t.sin6_addr
  have hinner : insertText host s.sin6_addr ++ 93 :: (58 :: decimal (s.getPort host).toNat)
      = insertText host t.sin6_addr ++ 93 :: (58 :: decimal (t.getPort host).toNat) := by
    rw [insert, insert, List.append_assoc, List.append_assoc, List.append_assoc,
      List.append_assoc] at h
    exact List.append_cancel_left h
  have hport93 : (93 : UInt8) ∉ 58 :: decimal (s.getPort host).toNat := by
    intro hc
    rcases List.mem_cons.mp hc with hc | hc
    · cases hc
    · exact absurd (decimal_digit hc) (by decide)
  obtain ⟨htext, -, hrest⟩ := (List.append_cons_inj_of_notMem hs.notMem hport93).mp hinner
  have hport : (s.getPort host).toNat = (t.getPort host).toNat := by
    rw [← digitsFrom_decimal (s.getPort host).toNat, (List.cons.inj hrest).2, digitsFrom_decimal]
  refine ⟨?_, ?_⟩
  · rw [htext] at hs
    exact In6Addr.groups_injective (hs.unique ht)
  · rw [← byteswap_byteswap_16 host s.sin6_port, ← byteswap_byteswap_16 host t.sin6_port]
    exact congrArg _ (BitVec.eq_of_toNat_eq hport)

/-- **Between `[` and `]:` and the port, `insert` writes a text of the eight groups that has `::`
once at most; and different addresses are printed differently.** -/
theorem insert_text (s : IPv6Address) :
    (∃ text, s.insert host = asc "[" ++ text ++ asc "]:" ++ decimal (s.getPort host).toNat ∧
      (∀ i j, DoubleAt text i → DoubleAt text j → i = j) ∧ Denotes text s.sin6_addr.groups) ∧
    ∀ t : IPv6Address, s.insert host = t.insert host →
      s.sin6_addr = t.sin6_addr ∧ s.sin6_port = t.sin6_port := by
  have hs := insertText_denotes host s.sin6_addr
  exact ⟨⟨_, rfl, fun i j hi hj => hs.once hi hj, hs⟩, fun t h => insert_injective host h⟩

/-! ## the constructor from a text -/

/-- the text is one of an IPv6 address -/
def IsText (text : Str) : Prop := ∃ vs, Denotes text vs

/-- the constructor reads `text` as what it stands for, or not at all, and gives back the address
that was printed -/
def Reads (text : Str) (port : BitVec 16) : Prop :=
  (∀ vs, Denotes text vs → ∃ a, CreateFromText host text port = some a ∧
    a.sin6_addr.groups = vs ∧ a.getPort host = port) ∧
  (¬ IsText text → CreateFromText host text port = none) ∧
  ∀ s : IPv6Address, insertText host s.sin6_addr = text →
    ∃ a, CreateFromText host text port = some a ∧ a.sin6_addr = s.sin6_addr

theorem CreateFromText_eq (text : Str) (port : BitVec 16) :
    CreateFromText host text port = (dotted text).map fun bs =>
      { new with
        sin6_port := host.byteswapOnSmallEndian port
        sin6_addr := new.sin6_addr.store bs } := by
  rw [CreateFromText, inet_pton, if_pos rfl]
  cases dotted text <;> rfl

theorem Reads.notText {text : Str} {port : BitVec 16} (h : Reads host text port) :
    ¬ IsText text := by
  rintro ⟨vs, hvs⟩
  obtain ⟨a, ha, -⟩ := h.1 vs hvs
  rw [CreateFromText_eq, hvs.dotted_eq_none] at ha
  cases ha

theorem reads_iff (text : Str) (port : BitVec 16) :
    Reads host text port ↔ ¬ IsText text ∧ dotted text = none := by
  constructor
  · intro hreads
    have hno := hreads.notText
    have hnone := hreads.2.1 hno
    rw [CreateFromText_eq] at hnone
    exact ⟨hno, Option.map_eq_none_iff.mp hnone⟩
  · rintro ⟨hno, hdot⟩
    have hnone : CreateFromText host text port = none := by
      rw [CreateFromText_eq, hdot]
      rfl
    refine ⟨fun vs hvs => absurd ⟨vs, hvs⟩ hno, fun _ => hnone, fun s hs => ?_⟩
    have htext := insertText_denotes host s.sin6_addr
    rw [hs] at htext
    exact absurd ⟨_, htext⟩ hno

/-- `::1` is refused -/
theorem loopback_refused : ¬ ∀ (host : Endian) (text : Str) (port : BitVec 16),
    Reads host text port := by
  intro h
  have htext : IsText (asc "::1") := ⟨[0, 0, 0, 0, 0, 0, 0, 1], by decide +kernel⟩
  exact (h .small (asc "::1") 80).notText .small htext

end IPv6Address
end KitServer.Address
