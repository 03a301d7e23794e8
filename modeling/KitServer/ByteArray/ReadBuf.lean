import KitServer.ByteArray.Buffers

/-!
# `getReadBuf`: the bytes of a `ByteArray` as `iovec`s

Both `getReadBuf`s cut bytes in use into `iovec`s, from the position of the array or from a position
of the caller's.  Their loop goes on to the next node when a node is used up, and looks into it
before it is known whether another byte is wanted.

* `readBufLoop_covers`, `readBufLoop_crashes`   the loop, up to a byte that has another one behind
                      it, and up to the end of the last node;
* `getReadBuf_iff`    the calls that hand out the bytes behind the position;
* `getReadBufAt_iff`  the calls that hand out the bytes behind a position of the caller's.
-/

set_option linter.unusedVariables false

namespace KitServer
namespace ByteArray

/-- the loop of the two `getReadBuf`s -/
def readBufLoop : Nat → Nat → Nat → Nat → Nat → List IoVec → ByteArray → Res (List IoVec)
  | 0, _, _, _, _, _, s => .error .noFuel s
  | fuel + 1, len, npos, ncap, cur, buffers, s =>
    if len = 0 then .ok buffers s
    else if ncap > len then readBufLoop fuel 0 npos ncap cur (buffers ++ [⟨cur, npos, len⟩]) s
    else
      -- `cur = cur->next; ncap = cur->size`, also when `len` is 0 now
      match s.next cur with
      | none => .error .nullCur s
      | some cur' =>
        readBufLoop fuel (len - ncap) 0 (s.nodeSize cur') cur' (buffers ++ [⟨cur, npos, ncap⟩]) s

/-- `getReadBuf(buffers, len)` -/
def getReadBuf (buffers : List IoVec) (len : Nat) (s : ByteArray) : Res (List IoVec × Nat) :=
  let len := if len > s.getReadSize then s.getReadSize else len
  if len = 0 then .ok (buffers, 0) s
  else
    match s.cur with
    | none => .error .nullCur s
    | some c =>
      let npos := s.position % s.baseSize
      match readBufLoop (s.root.length + 2) len npos (s.nodeSize c - npos) c buffers s with
      | .ok buffers s => .ok (buffers, len) s
      | .error e s => .error e s

/-- `count` nodes behind node `c`, `none` when a null pointer is reached -/
def walkNodes (s : ByteArray) : Nat → Nat → Option Nat
  | 0, c => some c
  | count + 1, c =>
    match s.next c with
    | none => none
    | some c' => walkNodes s count c'

/-- `getReadBuf(buffers, len, position)` -/
def getReadBufAt (buffers : List IoVec) (len position : Nat) (s : ByteArray) :
    Res (List IoVec × Nat) :=
  let len := if len > s.getReadSize then s.getReadSize else len
  if len = 0 then .ok (buffers, 0) s
  else
    let npos := position % s.baseSize
    match walkNodes s (position / s.baseSize) 0 with
    | none => .error .nullCur s
    | some c =>
      match readBufLoop (s.root.length + 2) len npos (s.nodeSize c - npos) c buffers s with
      | .ok buffers s => .ok (buffers, len) s
      | .error e s => .error e s

/-! ## the loop -/

/-- **Bytes with another byte behind them.** -/
theorem readBufLoop_covers {s : ByteArray} (h : Shape s) (fuel : Nat) :
    ∀ (len o c : Nat) (buffers : List IoVec), c < s.root.length → o < s.baseSize →
      s.baseSize * c + o + len < s.capacity → s.root.length - c + 1 < fuel →
      ∃ vs, readBufLoop fuel len o (s.baseSize - o) c buffers s = .ok (buffers ++ vs) s
        ∧ Covers s (s.baseSize * c + o) vs len := by
  induction fuel with
  | zero =>
    intro len o c buffers _ _ _ hf
    omega
  | succ fuel ih =>
    intro len o c buffers hc ho hfit hf
    unfold readBufLoop
    by_cases hlen : len = 0
    · rw [if_pos hlen]
      exact ⟨[], by rw [List.append_nil], hlen⟩
    rw [if_neg hlen]
    by_cases hlt : s.baseSize - o > len
    · obtain ⟨k, rfl⟩ : ∃ k, fuel = k + 1 := ⟨fuel - 1, by omega⟩
      refine ⟨[⟨c, o, len⟩], ?_, .last hc (by omega)⟩
      rw [if_pos hlt]
      rfl
    · have hmul : s.baseSize * (c + 1) = s.baseSize * c + s.baseSize := Nat.mul_succ _ _
      have hc' : c + 1 < s.root.length :=
        h.has_next (p := s.baseSize * c + o + len + 1) hc (by omega) hfit
      obtain ⟨vs, hvs, hcovers⟩ := ih (len - (s.baseSize - o)) 0 (c + 1)
        (buffers ++ [⟨c, o, s.baseSize - o⟩]) hc' h.base (by omega) (by omega)
      refine ⟨⟨c, o, s.baseSize - o⟩ :: vs, ?_, .rest hc ho.le (by omega) hcovers⟩
      rw [if_neg hlt, Shape.next_eq hc']
      show readBufLoop fuel _ 0 (s.nodeSize (c + 1)) (c + 1) _ s = _
      rw [h.nodeSize hc']
      rw [Nat.sub_zero, List.append_assoc] at hvs
      exact hvs

/-- **Bytes up to the end of the last node, or behind it.** -/
theorem readBufLoop_crashes {s : ByteArray} (h : Shape s) (fuel : Nat) :
    ∀ (len o c : Nat) (buffers : List IoVec), c < s.root.length → o < s.baseSize → 0 < len →
      s.capacity ≤ s.baseSize * c + o + len → s.root.length - c < fuel →
      readBufLoop fuel len o (s.baseSize - o) c buffers s = .error .nullCur s := by
  induction fuel with
  | zero =>
    intro len o c buffers _ _ _ _ hf
    omega
  | succ fuel ih =>
    intro len o c buffers hc ho hlen hend hf
    have hlast := h.lt_cap hc
    unfold readBufLoop
    rw [if_neg (by omega), if_neg (by omega)]
    by_cases hc' : c + 1 < s.root.length
    · have hlast' := h.lt_cap hc'
      have hmul : s.baseSize * (c + 1) = s.baseSize * c + s.baseSize := Nat.mul_succ _ _
      have hb := h.base
      rw [Shape.next_eq hc']
      show readBufLoop fuel _ 0 (s.nodeSize (c + 1)) (c + 1) _ s = _
      rw [h.nodeSize hc']
      exact ih _ 0 _ _ hc' hb (by omega) (by omega) (by omega)
    · rw [Shape.next_none hc']

theorem walkNodes_eq (s : ByteArray) (count : Nat) : ∀ c : Nat, c < s.root.length →
    walkNodes s count c = if c + count < s.root.length then some (c + count) else none := by
  induction count with
  | zero =>
    intro c hc
    rw [walkNodes, Nat.add_zero, if_pos hc]
  | succ count ih =>
    intro c hc
    by_cases hc' : c + 1 < s.root.length
    · rw [walkNodes, Shape.next_eq hc']
      show walkNodes s count (c + 1) = _
      rw [ih _ hc', Nat.add_right_comm, Nat.add_assoc c count 1]
    · rw [walkNodes, Shape.next_none hc', if_neg (by omega)]

/-! ## the calls -/

/-- the `k` bytes from position `p` on are handed out behind the caller's `iovec`s, and nothing
changes -/
def HandsOut (s : ByteArray) (buffers : List IoVec) (p k : Nat) (r : Res (List IoVec × Nat)) :
    Prop :=
  ∃ vs, r = .ok (buffers ++ vs, k) s
    ∧ (∀ v ∈ vs, v.block < s.root.length ∧ v.off + v.len ≤ s.nodeSize v.block)
    ∧ vs.flatMap (IoVec.positions s.baseSize) = List.range' p k
    ∧ vs.flatMap (IoVec.bytes s) = slice s.cells p k

theorem Covers.handsOut {s : ByteArray} (h : Shape s) {p k : Nat} {vs : List IoVec}
    (hc : Covers s p vs k) (buffers : List IoVec) :
    HandsOut s buffers p k (.ok (buffers ++ vs, k) s) :=
  ⟨vs, rfl, hc.inside h, hc.positions, hc.bytes h⟩

theorem HandsOut.none (s : ByteArray) (buffers : List IoVec) (p : Nat) :
    HandsOut s buffers p 0 (.ok (buffers, 0) s) := by
  refine ⟨[], by rw [List.append_nil], fun v hv => absurd hv List.not_mem_nil, rfl, ?_⟩
  rw [slice_zero]
  rfl

theorem clamp_eq (s : ByteArray) (len : Nat) :
    (if len > s.getReadSize then s.getReadSize else len) = min len (s.size - s.position) := by
  unfold getReadSize
  split <;> omega

theorem getReadBuf_eq {s : ByteArray} (h : Inv s) (buffers : List IoVec) (len : Nat)
    (hk : 0 < min len (s.size - s.position)) :
    s.getReadBuf buffers len =
      match readBufLoop (s.root.length + 2) (min len (s.size - s.position))
        (s.position % s.baseSize) (s.baseSize - s.position % s.baseSize)
        (s.position / s.baseSize) buffers s with
      | .ok buffers s' => .ok (buffers, min len (s.size - s.position)) s'
      | .error e s' => .error e s' := by
  have hle := h.size_le
  obtain ⟨hcur, hblock, _, _⟩ := h.cur_block (by omega)
  unfold getReadBuf
  rw [clamp_eq]
  dsimp only
  rw [if_neg (by omega), hcur]
  dsimp only
  rw [h.toShape.nodeSize hblock]

section
variable (fill : Nat → Nat → UInt8)

/-- **The bytes behind the position are handed out exactly when they do not end at the end of the
last node.** -/
theorem getReadBuf_iff (b : Nat) (hb : 1 ≤ b) (s : ByteArray) (hs : Reachable fill b s)
    (buffers : List IoVec) (len : Nat) :
    HandsOut s buffers s.position (min len (s.size - s.position)) (s.getReadBuf buffers len)
      ↔ min len (s.size - s.position) = 0
        ∨ s.position + min len (s.size - s.position) < s.capacity := by
  obtain ⟨h, _⟩ := hs.inv fill hb
  have hle := h.size_le
  by_cases hk : min len (s.size - s.position) = 0
  · have hcall : s.getReadBuf buffers len = .ok (buffers, 0) s := by
      unfold getReadBuf
      rw [clamp_eq, hk]
      rfl
    rw [hcall, hk]
    exact iff_of_true (.none s buffers _) (.inl rfl)
  · rw [getReadBuf_eq h buffers len (by omega)]
    obtain ⟨hblock, hoff, hsplit⟩ := h.toShape.place (p := s.position) (by omega)
    by_cases hend : s.position + min len (s.size - s.position) < s.capacity
    · obtain ⟨vs, hvs, hcovers⟩ := readBufLoop_covers h.toShape (s.root.length + 2)
        (min len (s.size - s.position)) (s.position % s.baseSize) (s.position / s.baseSize)
        buffers hblock hoff (by omega)
        (Nat.lt_succ_of_le (Nat.succ_le_succ (Nat.sub_le _ _)))
      rw [hsplit] at hcovers
      rw [hvs]
      exact iff_of_true (hcovers.handsOut h.toShape buffers) (.inr hend)
    · rw [readBufLoop_crashes h.toShape (s.root.length + 2) _ _ _ buffers hblock hoff (by omega)
        (by omega) (Nat.lt_succ_of_le (Nat.le_succ_of_le (Nat.sub_le _ _)))]
      refine iff_of_false ?_ (by omega)
      rintro ⟨vs, hvs, _⟩
      cases hvs

end

/-- four bytes in a block of four, and the cursor in front of them -/
def fullBlock : ByteArray := ⟨4, 0, 4, 4, .big, [⟨[1, 2, 3, 4]⟩], some 0, 1⟩

theorem fullBlock_reachable : Reachable (fun _ _ => 0) 4 fullBlock := by
  have hwrite : (new (fun _ _ => 0) 4).exec (fun _ _ => 0) (.write [1, 2, 3, 4])
      = (.done, ⟨4, 4, 4, 4, .big, [⟨[1, 2, 3, 4]⟩], none, 1⟩) := by rfl
  have hseek : exec (fun _ _ => 0) ⟨4, 4, 4, 4, .big, [⟨[1, 2, 3, 4]⟩], none, 1⟩ (.setPosition 0)
      = (.done, fullBlock) := by rfl
  exact .exec (.exec .new (show Op.ok _ (.write _) from trivial) hwrite)
    (show Op.ok _ (.setPosition 0) from show 0 < 4 by decide) hseek

/-- the three bytes in front of the last one -/
theorem getReadBuf_iff_three :
    HandsOut fullBlock [] 0 3 (fullBlock.getReadBuf [] 3) ↔ 3 = 0 ∨ 0 + 3 < 4 :=
  getReadBuf_iff (fun _ _ => 0) 4 (by decide) _ fullBlock_reachable [] 3

/-- **Four bytes of a block of four.** -/
theorem getReadBuf_full_block : ¬ ∀ (fill : Nat → Nat → UInt8) (b : Nat), 1 ≤ b →
    ∀ s, Reachable fill b s → ∀ buffers len,
    HandsOut s buffers s.position (min len (s.size - s.position)) (s.getReadBuf buffers len) := by
  intro h
  obtain ⟨vs, hvs, _⟩ := h (fun _ _ => 0) 4 (by decide) _ fullBlock_reachable [] 4
  have hcall : fullBlock.getReadBuf [] 4 = .error .nullCur fullBlock := by rfl
  rw [hcall] at hvs
  cases hvs

/-! ## a position of the caller's -/

theorem getReadBufAt_eq {s : ByteArray} (h : Inv s) (buffers : List IoVec) (len p : Nat)
    (hk : 0 < min len (s.size - s.position)) (hp : p < s.capacity) :
    s.getReadBufAt buffers len p =
      match readBufLoop (s.root.length + 2) (min len (s.size - s.position))
        (p % s.baseSize) (s.baseSize - p % s.baseSize) (p / s.baseSize) buffers s with
      | .ok buffers s' => .ok (buffers, min len (s.size - s.position)) s'
      | .error e s' => .error e s' := by
  obtain ⟨hblock, _, _⟩ := h.toShape.place hp
  have hsome := h.some_node
  unfold getReadBufAt
  rw [clamp_eq]
  dsimp only
  rw [if_neg (by omega), walkNodes_eq s _ 0 (by omega), Nat.zero_add, if_pos hblock]
  dsimp only
  rw [h.toShape.nodeSize hblock]

theorem getReadBufAt_end {s : ByteArray} (h : Inv s) (buffers : List IoVec) (len : Nat)
    (hk : 0 < min len (s.size - s.position)) :
    s.getReadBufAt buffers len s.capacity = .error .nullCur s := by
  have hsome := h.some_node
  have hdiv : s.capacity / s.baseSize = s.root.length := by
    rw [h.cap, Nat.mul_div_cancel_left _ h.base]
  unfold getReadBufAt
  rw [clamp_eq]
  dsimp only
  rw [if_neg (by omega), walkNodes_eq s _ 0 (by omega), hdiv, if_neg (by omega)]

section
variable (fill : Nat → Nat → UInt8)

/-- **The bytes behind `p` are handed out exactly when the number of bytes behind the position of
the array clamps `len` as the number of bytes behind `p` does, and they do not end at the end of the
last node.** -/
theorem getReadBufAt_iff (b : Nat) (hb : 1 ≤ b) (s : ByteArray) (hs : Reachable fill b s)
    (buffers : List IoVec) (len p : Nat) (hp : p ≤ s.size) :
    HandsOut s buffers p (min len (s.size - p)) (s.getReadBufAt buffers len p)
      ↔ min len (s.size - s.position) = min len (s.size - p)
        ∧ (min len (s.size - p) = 0 ∨ p + min len (s.size - p) < s.capacity) := by
  obtain ⟨h, _⟩ := hs.inv fill hb
  have hle := h.size_le
  by_cases hk : min len (s.size - s.position) = 0
  · have hcall : s.getReadBufAt buffers len p = .ok (buffers, 0) s := by
      unfold getReadBufAt
      rw [clamp_eq, hk]
      rfl
    rw [hcall, hk]
    constructor
    · rintro ⟨vs, hvs, _⟩
      injection hvs with hres _
      exact ⟨(Prod.mk.inj hres).2, .inl (Prod.mk.inj hres).2.symm⟩
    · rintro ⟨hzero, _⟩
      rw [← hzero]
      exact .none s buffers p
  by_cases hcap : p = s.capacity
  · rw [hcap, getReadBufAt_end h buffers len (by omega)]
    refine iff_of_false ?_ (by omega)
    rintro ⟨vs, hvs, _⟩
    cases hvs
  rw [getReadBufAt_eq h buffers len p (by omega) (by omega)]
  obtain ⟨hblock, hoff, hsplit⟩ := h.toShape.place (p := p) (by omega)
  by_cases hend : p + min len (s.size - s.position) < s.capacity
  · obtain ⟨vs, hvs, hcovers⟩ := readBufLoop_covers h.toShape (s.root.length + 2)
      (min len (s.size - s.position)) (p % s.baseSize) (p / s.baseSize) buffers hblock hoff
      (by omega) (Nat.lt_succ_of_le (Nat.succ_le_succ (Nat.sub_le _ _)))
    rw [hsplit] at hcovers
    rw [hvs]
    constructor
    · rintro ⟨vs', hvs', _⟩
      injection hvs' with hres _
      have hsame := (Prod.mk.inj hres).2
      exact ⟨hsame, .inr (by omega)⟩
    · rintro ⟨hsame, _⟩
      rw [← hsame]
      exact hcovers.handsOut h.toShape buffers
  · rw [readBufLoop_crashes h.toShape (s.root.length + 2) _ _ _ buffers hblock hoff (by omega)
      (by omega) (Nat.lt_succ_of_le (Nat.le_succ_of_le (Nat.sub_le _ _)))]
    refine iff_of_false ?_ (by omega)
    rintro ⟨vs, hvs, _⟩
    cases hvs

end

/-- the three bytes in front of the last one of `fullBlock` -/
theorem getReadBufAt_iff_three :
    HandsOut fullBlock [] 0 3 (fullBlock.getReadBufAt [] 3 0) ↔ 3 = 3 ∧ (3 = 0 ∨ 0 + 3 < 4) :=
  getReadBufAt_iff (fun _ _ => 0) 4 (by decide) _ fullBlock_reachable [] 3 0 (by decide)

/-- four bytes in a block of eight, and the cursor behind them -/
def halfBlock : ByteArray := ⟨8, 4, 8, 4, .big, [⟨[1, 2, 3, 4, 0, 0, 0, 0]⟩], some 0, 1⟩

theorem halfBlock_reachable : Reachable (fun _ _ => 0) 8 halfBlock := by
  have hwrite : (new (fun _ _ => 0) 8).exec (fun _ _ => 0) (.write [1, 2, 3, 4])
      = (.done, halfBlock) := by rfl
  exact .exec .new (show Op.ok _ (.write _) from trivial) hwrite

/-- **Behind the bytes that were written, none of them is handed out.** -/
theorem getReadBufAt_behind : ¬ ∀ (fill : Nat → Nat → UInt8) (b : Nat), 1 ≤ b →
    ∀ s, Reachable fill b s → ∀ buffers len p, p ≤ s.size →
    HandsOut s buffers p (min len (s.size - p)) (s.getReadBufAt buffers len p) := by
  intro h
  obtain ⟨vs, hvs, _⟩ := h (fun _ _ => 0) 8 (by decide) _ halfBlock_reachable [] 4 0 (by decide)
  have hcall : halfBlock.getReadBufAt [] 4 0 = .ok ([], 0) halfBlock := by rfl
  rw [hcall] at hvs
  injection hvs with hres _
  cases (Prod.mk.inj hres).2

end ByteArray
end KitServer
