import KitServer.ByteArray.ReadBuf

/-!
# The `const` read of a `ByteArray`, and its texts

`read(buf, size, position)` copies bytes from a position of the caller's, but it starts in the
current node and clamps with the position of the array.  `toString` calls it with that position.

* `readAtLoop_reads`, `readAtLoop_crashes`   the loop, up to the end of the last node and over it;
* `readAt_iff`      the calls that copy the bytes at the position;
* `toHexLoop_eq`    the hexadecimal text as lines of 32 bytes;
* `unhex_codes`     and back;
* `texts`           `toString` and `toHexString`.
-/

set_option linter.unusedVariables false

namespace KitServer
namespace ByteArray

/-- the loop of the `const` `read`: `cur` is its own pointer, `acc` is what is in `buf` already -/
def readAtLoop : Nat → Nat → Nat → Nat → Option Nat → List UInt8 → ByteArray → Res (List UInt8)
  | 0, _, _, _, _, _, s => .error .noFuel s
  | fuel + 1, size, npos, ncap, cur, acc, s =>
    if size = 0 then .ok acc s
    else
      match cur with
      | none => .error .nullCur s
      | some c =>
        if ncap ≥ size then
          match s.load c npos size with
          | none => .error .outOfBlock s
          | some bytes =>
            readAtLoop fuel 0 npos ncap (if s.nodeSize c = npos + size then s.next c else some c)
              (acc ++ bytes) s
        else
          match s.load c npos ncap with
          | none => .error .outOfBlock s
          | some bytes =>
            -- `ncap = m_cur->size`
            match s.cur with
            | none => .error .nullCur s
            | some c0 => readAtLoop fuel (size - ncap) 0 (s.nodeSize c0) (s.next c) (acc ++ bytes) s

/-- `read(buf, size, position)`, which is `const` -/
def readAt (size position : Nat) (s : ByteArray) : Res (List UInt8) :=
  if size > s.getReadSize then .error .outOfRange s
  else
    match s.cur with
    | none => .error .nullCur s
    | some c =>
      let npos := position % s.baseSize
      readAtLoop (s.root.length + 2) size npos (s.nodeSize c - npos) (some c) [] s

def toString (s : ByteArray) : Res (List UInt8) :=
  let size := s.getReadSize
  if size = 0 then .ok [] s else s.readAt size s.position

/-- `setw(2)`, `setfill('0')` and `hex` in front of a number -/
def hexByte (c : UInt8) : List Char :=
  let digits := Nat.toDigits 16 c.toNat
  List.replicate (2 - digits.length) '0' ++ digits

/-- the loop of `toHexString` from byte `i` on -/
def toHexLoop : Nat → List UInt8 → List Char
  | _, [] => []
  | i, c :: cs =>
    (if i > 0 ∧ i % 32 = 0 then ['\n'] else []) ++ (hexByte c ++ [' ']) ++ toHexLoop (i + 1) cs

def toHexString (s : ByteArray) : Res (List Char) :=
  match s.toString with
  | .error e s => .error e s
  | .ok bytes s => .ok (toHexLoop 0 bytes) s

/-! ## the loop of `read` -/

/-- **Bytes up to the end of the last node.** -/
theorem readAtLoop_reads {s : ByteArray} (h : Shape s) {c0 : Nat} (hcur : s.cur = some c0)
    (hc0 : c0 < s.root.length) (fuel : Nat) : ∀ (n o c : Nat) (acc : List UInt8),
    c < s.root.length → o < s.baseSize → 0 < n → s.baseSize * c + o + n ≤ s.capacity →
    s.root.length - c + 1 < fuel →
    readAtLoop fuel n o (s.baseSize - o) (some c) acc s
      = .ok (acc ++ slice s.cells (s.baseSize * c + o) n) s := by
  induction fuel with
  | zero =>
    intro n o c acc _ _ _ _ hf
    omega
  | succ fuel ih =>
    intro n o c acc hc ho hn hfit hf
    unfold readAtLoop
    rw [if_neg (by omega)]
    by_cases hle : s.baseSize - o ≥ n
    · obtain ⟨k, rfl⟩ : ∃ k, fuel = k + 1 := ⟨fuel - 1, by omega⟩
      dsimp only
      rw [if_pos hle, h.load hc (show o + n ≤ s.baseSize by omega)]
      rfl
    · have hmul : s.baseSize * (c + 1) = s.baseSize * c + s.baseSize := Nat.mul_succ _ _
      have hc' : c + 1 < s.root.length := h.has_next hc (by omega) hfit
      have hrec := ih (n - (s.baseSize - o)) 0 (c + 1)
        (acc ++ slice s.cells (s.baseSize * c + o) (s.baseSize - o)) hc' h.base (by omega)
        (by omega) (by omega)
      have hsplit : slice s.cells (s.baseSize * c + o) n
          = slice s.cells (s.baseSize * c + o) (s.baseSize - o)
            ++ slice s.cells (s.baseSize * (c + 1) + 0) (n - (s.baseSize - o)) := by
        rw [show s.baseSize * (c + 1) + 0 = s.baseSize * c + o + (s.baseSize - o) by omega,
          ← slice_add, Nat.add_sub_cancel' (by omega)]
      dsimp only
      rw [if_neg hle, h.load hc (show o + (s.baseSize - o) ≤ s.baseSize by omega), hcur,
        Shape.next_eq hc', hsplit, ← List.append_assoc]
      dsimp only
      rw [h.nodeSize hc0]
      exact hrec

/-- **Bytes over the end of the last node.** -/
theorem readAtLoop_crashes {s : ByteArray} (h : Shape s) {c0 : Nat} (hcur : s.cur = some c0)
    (hc0 : c0 < s.root.length) (fuel : Nat) : ∀ (n o c : Nat) (acc : List UInt8),
    c < s.root.length → o < s.baseSize → s.capacity < s.baseSize * c + o + n →
    s.root.length - c + 1 < fuel →
    readAtLoop fuel n o (s.baseSize - o) (some c) acc s = .error .nullCur s := by
  induction fuel with
  | zero =>
    intro n o c acc _ _ _ hf
    omega
  | succ fuel ih =>
    intro n o c acc hc ho hover hf
    have hlast := h.lt_cap hc
    unfold readAtLoop
    rw [if_neg (by omega)]
    dsimp only
    rw [if_neg (by omega), h.load hc (show o + (s.baseSize - o) ≤ s.baseSize by omega), hcur]
    dsimp only
    rw [h.nodeSize hc0]
    by_cases hc' : c + 1 < s.root.length
    · have hmul : s.baseSize * (c + 1) = s.baseSize * c + s.baseSize := Nat.mul_succ _ _
      rw [Shape.next_eq hc']
      exact ih (n - (s.baseSize - o)) 0 (c + 1) _ hc' h.base (by omega) (by omega)
    · have hnext : s.next c = none := by
        unfold ByteArray.next
        rw [if_neg hc']
      obtain ⟨k, rfl⟩ : ∃ k, fuel = k + 1 := ⟨fuel - 1, by omega⟩
      rw [hnext, readAtLoop, if_neg (by omega)]

/-! ## the call -/

/-- where the call starts: at the offset of `p`, but in the current node -/
def startOf (s : ByteArray) (p : Nat) : Nat :=
  s.baseSize * (s.position / s.baseSize) + p % s.baseSize

theorem readAt_eq {s : ByteArray} (h : Inv s) {n p : Nat} (hn : 0 < n)
    (hle : n ≤ s.size - s.position) :
    s.readAt n p = if startOf s p + n ≤ s.capacity then .ok (slice s.cells (startOf s p) n) s
      else .error .nullCur s := by
  have hsize := h.size_le
  have hb := h.base
  obtain ⟨hcur, hblock, _, _⟩ := h.cur_block (by omega)
  have hoff : p % s.baseSize < s.baseSize := Nat.mod_lt _ hb
  have hf : s.root.length - s.position / s.baseSize + 1 < s.root.length + 2 :=
    Nat.lt_succ_of_le (Nat.succ_le_succ (Nat.sub_le _ _))
  have hguard : ¬ n > s.getReadSize := Nat.not_lt.mpr hle
  unfold readAt
  rw [if_neg hguard, hcur]
  dsimp only
  rw [h.toShape.nodeSize hblock]
  by_cases hfit : startOf s p + n ≤ s.capacity
  · rw [if_pos hfit]
    exact readAtLoop_reads h.toShape hcur hblock _ n _ _ [] hblock hoff hn hfit hf
  · rw [if_neg hfit]
    exact readAtLoop_crashes h.toShape hcur hblock _ n _ _ [] hblock hoff (Nat.not_le.mp hfit) hf

theorem startOf_same {s : ByteArray} {p : Nat} (h : p / s.baseSize = s.position / s.baseSize) :
    startOf s p = p := by
  unfold startOf
  rw [← h]
  exact Nat.div_add_mod _ _

/-- the bytes `[p, p + n)` are copied when they are in use, and `out_of_range` is thrown when they
are not -/
def CopiesAt (s : ByteArray) (n p : Nat) (r : Res (List UInt8)) : Prop :=
  if p + n ≤ s.size then r = .ok (slice s.cells p n) s else r = .error .outOfRange s

section
variable (fill : Nat → Nat → UInt8)

/-- **The bytes are copied, or the exception is thrown, exactly when the number of bytes behind the
position of the array says the same about `n`, and the bytes at the offset of `p` in the current
node are those at `p`.** -/
theorem readAt_iff (b : Nat) (hb : 1 ≤ b) (s : ByteArray) (hs : Reachable fill b s) (n p : Nat)
    (hn : 1 ≤ n) :
    CopiesAt s n p (s.readAt n p) ↔
      if p + n ≤ s.size then
        n ≤ s.size - s.position ∧ startOf s p + n ≤ s.capacity
          ∧ slice s.cells (startOf s p) n = slice s.cells p n
      else s.size - s.position < n := by
  obtain ⟨h, _⟩ := hs.inv fill hb
  unfold CopiesAt
  by_cases hle : n ≤ s.size - s.position
  · rw [readAt_eq h hn hle]
    by_cases hp : p + n ≤ s.size
    · rw [if_pos hp, if_pos hp]
      by_cases hfit : startOf s p + n ≤ s.capacity
      · rw [if_pos hfit]
        constructor
        · intro hres
          injection hres with hbytes _
          exact ⟨hle, hfit, hbytes⟩
        · rintro ⟨_, _, hbytes⟩
          rw [hbytes]
      · rw [if_neg hfit]
        exact iff_of_false (by intro hres; cases hres) (fun hall => hfit hall.2.1)
    · rw [if_neg hp, if_neg hp]
      refine iff_of_false ?_ (by omega)
      split
      · intro hres
        cases hres
      · intro hres
        cases hres
  · have hcall : s.readAt n p = .error .outOfRange s := by
      unfold readAt
      rw [if_pos (show n > s.getReadSize from Nat.not_le.mp hle)]
    rw [hcall]
    by_cases hp : p + n ≤ s.size
    · rw [if_pos hp, if_pos hp]
      exact iff_of_false (by intro hres; cases hres) (fun hall => hle hall.1)
    · rw [if_neg hp, if_neg hp]
      exact iff_of_true rfl (Nat.not_le.mp hle)

end

/-- two bytes of the current node -/
theorem readAt_iff_two :
    CopiesAt fullBlock 2 1 (fullBlock.readAt 2 1) ↔
      if 1 + 2 ≤ 4 then 2 ≤ 4 - 0 ∧ startOf fullBlock 1 + 2 ≤ 4
        ∧ slice fullBlock.cells (startOf fullBlock 1) 2 = slice fullBlock.cells 1 2
      else 4 - 0 < 2 :=
  readAt_iff (fun _ _ => 0) 4 (by decide) _ fullBlock_reachable 2 1 (by decide)

/-- **Behind the bytes that were written, none of them is copied.** -/
theorem readAt_behind : ¬ ∀ (fill : Nat → Nat → UInt8) (b : Nat), 1 ≤ b →
    ∀ s, Reachable fill b s → ∀ n p, 1 ≤ n → CopiesAt s n p (s.readAt n p) := by
  intro h
  have hcopies := h (fun _ _ => 0) 8 (by decide) _ halfBlock_reachable 4 0 (by decide)
  have hcall : halfBlock.readAt 4 0 = .error .outOfRange halfBlock := by rfl
  rw [hcall, CopiesAt, if_pos (by decide)] at hcopies
  cases hcopies

/-! ## the texts -/

theorem toString_eq {s : ByteArray} (h : Inv s) :
    s.toString = .ok (slice s.cells s.position (s.size - s.position)) s := by
  have hsize := h.size_le
  have hpos := h.pos_le
  unfold toString getReadSize
  dsimp only
  by_cases hzero : s.size - s.position = 0
  · rw [if_pos hzero, hzero, slice_zero]
  · rw [if_neg hzero, readAt_eq h (by omega) (Nat.le_refl _), startOf_same rfl,
      if_pos (by omega)]

def hexDigit (n : Nat) : Char := ['0', '1', '2', '3', '4', '5', '6', '7', '8', '9', 'a', 'b', 'c',
  'd', 'e', 'f'].getD n '0'

def hexCode (c : UInt8) : List Char := [hexDigit (c.toNat / 16), hexDigit (c.toNat % 16)]

theorem hexByte_eq (c : UInt8) : hexByte c = hexCode c := by
  have hall : ∀ n : Fin 256, hexByte (UInt8.ofNat n.val) = hexCode (UInt8.ofNat n.val) := by
    decide +kernel
  have hc := hall ⟨c.toNat, c.toNat_lt⟩
  rw [UInt8.ofNat_toNat] at hc
  exact hc

/-- the codes of some bytes, each followed by a blank -/
def hexLine (cs : List UInt8) : List Char := cs.flatMap fun c => hexCode c ++ [' ']

/-- the lines of a text: line `k` has the bytes from the `32 * k`-th on -/
def hexLines (bytes : List UInt8) : List (List Char) :=
  (List.range ((bytes.length + 31) / 32)).map fun k => hexLine (slice bytes (32 * k) 32)

theorem toHexLoop_append (a b : List UInt8) (i : Nat) :
    toHexLoop i (a ++ b) = toHexLoop i a ++ toHexLoop (i + a.length) b := by
  induction a generalizing i with
  | nil => rfl
  | cons c a ih =>
    rw [List.cons_append, toHexLoop, toHexLoop, ih, List.length_cons, Nat.add_right_comm,
      Nat.add_assoc]
    simp only [List.append_assoc]

theorem toHexLoop_inside (cs : List UInt8) : ∀ (k j : Nat), 0 < j → j + cs.length ≤ 32 →
    toHexLoop (32 * k + j) cs = hexLine cs := by
  induction cs with
  | nil =>
    intro k j _ _
    rfl
  | cons c cs ih =>
    intro k j hj hle
    rw [List.length_cons] at hle
    rw [toHexLoop, if_neg (by omega), hexByte_eq, Nat.add_assoc, ih k (j + 1) (by omega) (by omega)]
    rfl

theorem toHexLoop_line (k : Nat) (c : UInt8) (cs : List UInt8) (hle : cs.length < 32) :
    toHexLoop (32 * k) (c :: cs) = (if 0 < k then ['\n'] else []) ++ hexLine (c :: cs) := by
  have hbreak : (32 * k > 0 ∧ 32 * k % 32 = 0) ↔ 0 < k := by omega
  rw [toHexLoop, hexByte_eq, toHexLoop_inside cs k 1 (by decide) (by omega), List.append_assoc]
  simp only [hbreak]
  rfl

theorem hexLines_cons (c : UInt8) (cs : List UInt8) :
    hexLines (c :: cs) = hexLine ((c :: cs).take 32) :: hexLines ((c :: cs).drop 32) := by
  have hcount : ((c :: cs).length + 31) / 32 = (((c :: cs).drop 32).length + 31) / 32 + 1 := by
    rw [List.length_drop, List.length_cons]
    omega
  unfold hexLines
  rw [hcount, List.range_succ_eq_map, List.map_cons, List.map_map]
  congr 1
  refine List.map_congr_left fun k _ => ?_
  show hexLine (slice (c :: cs) (32 * (k + 1)) 32) = hexLine (slice ((c :: cs).drop 32) (32 * k) 32)
  rw [slice, slice, List.drop_drop, Nat.mul_succ, Nat.add_comm 32]

theorem hexLines_eq_nil {bytes : List UInt8} : hexLines bytes = [] ↔ bytes = [] := by
  cases bytes with
  | nil => exact iff_of_true rfl rfl
  | cons c cs =>
    rw [hexLines_cons]
    exact iff_of_false (List.cons_ne_nil _ _) (List.cons_ne_nil _ _)

theorem intercalate_cons (sep line : List Char) (lines : List (List Char)) :
    List.intercalate sep (line :: lines)
      = line ++ (if lines = [] then [] else sep ++ List.intercalate sep lines) := by
  cases lines with
  | nil => simp [List.intercalate]
  | cons next lines => simp [List.intercalate]

/-- **The text from byte `32 * k` on: its lines, with line breaks between them.** -/
theorem toHexLoop_eq (m : Nat) : ∀ (k : Nat) (bytes : List UInt8), bytes.length ≤ 32 * m →
    toHexLoop (32 * k) bytes = (if 0 < k ∧ bytes ≠ [] then ['\n'] else [])
      ++ List.intercalate ['\n'] (hexLines bytes) := by
  induction m with
  | zero =>
    intro k bytes hle
    obtain rfl : bytes = [] := List.length_eq_zero_iff.mp (by omega)
    rw [if_neg (by simp)]
    rfl
  | succ m ih =>
    intro k bytes hle
    cases bytes with
    | nil =>
      rw [if_neg (by simp)]
      rfl
    | cons c cs =>
      have htake : ((c :: cs).take 32).length ≤ 32 := List.length_take_le _ _
      have hdrop : ((c :: cs).drop 32).length = (c :: cs).length - 32 := List.length_drop
      have hfirst : toHexLoop (32 * k) ((c :: cs).take 32)
          = (if 0 < k then ['\n'] else []) ++ hexLine ((c :: cs).take 32) := by
        rw [List.take_succ_cons] at htake ⊢
        exact toHexLoop_line k c _ (by rw [List.length_cons] at htake; omega)
      have hrest : toHexLoop (32 * k + ((c :: cs).take 32).length) ((c :: cs).drop 32)
          = if hexLines ((c :: cs).drop 32) = [] then []
            else ['\n'] ++ List.intercalate ['\n'] (hexLines ((c :: cs).drop 32)) := by
        by_cases hnil : (c :: cs).drop 32 = []
        · rw [hnil, if_pos (hexLines_eq_nil.mpr rfl)]
          rfl
        · have hfull : ((c :: cs).take 32).length = 32 := by
            have := List.length_pos_iff.mpr hnil
            rw [List.length_take]
            omega
          rw [if_neg (mt hexLines_eq_nil.mp hnil), hfull,
            show 32 * k + 32 = 32 * (k + 1) by omega, ih (k + 1) _ (by omega),
            if_pos ⟨Nat.succ_pos k, hnil⟩]
      have hbreak : (0 < k ∧ c :: cs ≠ []) ↔ 0 < k :=
        ⟨fun h => h.1, fun h => ⟨h, List.cons_ne_nil _ _⟩⟩
      rw [hexLines_cons, intercalate_cons, ← hrest, ← List.append_assoc]
      simp only [hbreak]
      rw [← hfirst, ← toHexLoop_append, List.take_append_drop]

/-! ## reading the text back -/

def hexValue (c : Char) : Option Nat :=
  ['0', '1', '2', '3', '4', '5', '6', '7', '8', '9', 'a', 'b', 'c', 'd', 'e', 'f'].idxOf? c

def unhex : List Char → Option (List UInt8)
  | [] => some []
  | [_] => none
  | x :: y :: rest => do
    let high ← hexValue x
    let low ← hexValue y
    let bytes ← unhex rest
    return UInt8.ofNat (16 * high + low) :: bytes

/-- neither a blank nor a line break -/
def isDigit (c : Char) : Bool := c ≠ ' ' && c ≠ '\n'

theorem hexCode_spec (c : UInt8) : (hexCode c).filter isDigit = hexCode c
    ∧ hexValue (hexDigit (c.toNat / 16)) = some (c.toNat / 16)
    ∧ hexValue (hexDigit (c.toNat % 16)) = some (c.toNat % 16) := by
  have hdigit : ∀ n : Fin 16, isDigit (hexDigit n.val) = true
      ∧ hexValue (hexDigit n.val) = some n.val := by decide +kernel
  have hhigh := hdigit ⟨c.toNat / 16, by have := c.toNat_lt; omega⟩
  have hlow := hdigit ⟨c.toNat % 16, by omega⟩
  refine ⟨?_, hhigh.2, hlow.2⟩
  rw [hexCode, List.filter_cons_of_pos hhigh.1, List.filter_cons_of_pos hlow.1, List.filter_nil]

theorem filter_toHexLoop (bytes : List UInt8) (i : Nat) :
    (toHexLoop i bytes).filter isDigit = bytes.flatMap hexCode := by
  induction bytes generalizing i with
  | nil => rfl
  | cons c cs ih =>
    have hbreak : (if i > 0 ∧ i % 32 = 0 then ['\n'] else []).filter isDigit = [] := by
      split
      · decide
      · rfl
    have hblank : [' '].filter isDigit = [] := by decide
    rw [toHexLoop, List.filter_append, List.filter_append, List.filter_append, ih, hbreak, hblank,
      hexByte_eq, (hexCode_spec c).1, List.flatMap_cons, List.nil_append, List.append_nil]

theorem unhex_codes (bytes : List UInt8) : unhex (bytes.flatMap hexCode) = some bytes := by
  induction bytes with
  | nil => rfl
  | cons c cs ih =>
    obtain ⟨_, hhigh, hlow⟩ := hexCode_spec c
    rw [List.flatMap_cons, hexCode, List.cons_append, List.cons_append, List.nil_append, unhex,
      hhigh, hlow, ih]
    show some (UInt8.ofNat (16 * (c.toNat / 16) + c.toNat % 16) :: cs) = some (c :: cs)
    rw [Nat.div_add_mod, UInt8.ofNat_toNat]

section
variable (fill : Nat → Nat → UInt8)

/-- **The two texts are the bytes behind the position, as they are and in hexadecimal, and nothing
changes.** -/
theorem texts (b : Nat) (hb : 1 ≤ b) (s : ByteArray) (hs : Reachable fill b s) :
    ∃ bytes text, s.toString = .ok bytes s
      ∧ bytes = slice s.cells s.position (s.size - s.position)
      ∧ s.toHexString = .ok text s ∧ text = List.intercalate ['\n'] (hexLines bytes)
      ∧ unhex (text.filter isDigit) = some bytes := by
  obtain ⟨h, _⟩ := hs.inv fill hb
  refine ⟨_, toHexLoop 0 (slice s.cells s.position (s.size - s.position)), toString_eq h, rfl, ?_,
    ?_, ?_⟩
  · unfold toHexString
    rw [toString_eq h]
  · exact toHexLoop_eq _ 0 _ (Nat.le_mul_of_pos_left _ (by decide))
  · rw [filter_toHexLoop, unhex_codes]

end

/-- the texts of four bytes -/
theorem texts_four : ∃ bytes text, fullBlock.toString = .ok bytes fullBlock
    ∧ bytes = slice fullBlock.cells 0 4
    ∧ fullBlock.toHexString = .ok text fullBlock
    ∧ text = List.intercalate ['\n'] (hexLines bytes) ∧ unhex (text.filter isDigit) = some bytes :=
  texts (fun _ _ => 0) 4 (by decide) _ fullBlock_reachable

end ByteArray
end KitServer
