import KitServer.ByteArray.Text

/-!
# A `ByteArray` written to a file, and read from it

`writeToFile` writes one piece of each node, from the current one on.  The pieces are kept as the
`iovec`s that `ofs.write` gets, so that it is seen which bytes are written; opening a file may
fail, and a file that is open is written and read without errors.

* `writeFileLoop_aligned`, `writeFileLoop_first`   the loop from the start of a node, and from
                     inside of one with enough bytes left;
* `writeFileLoop_blocks`   what is written of a node is written in one piece;
* `readFileLoop_appends`   the file behind the content, in chunks of `m_baseSize` bytes;
* `file_iff`         the arrays that a file takes over.
-/

set_option linter.unusedVariables false

namespace KitServer
namespace ByteArray

/-- the loop of `writeToFile`: `out` is what was written so far -/
def writeFileLoop : Nat → Int → Int → Option Nat → List IoVec → ByteArray → Res (List IoVec)
  | 0, _, _, _, _, s => .error .noFuel s
  | fuel + 1, remain_size, pos, cur, out, s =>
    if remain_size ≤ 0 then .ok out s
    else
      match cur with
      | none => .error .nullCur s
      | some c =>
        -- `diff` is an `int`
        let diff := (pos % s.baseSize).bmod (2 ^ 32)
        let len := (if remain_size > s.baseSize then (s.baseSize : Int) else remain_size) - diff
        if 0 < len ∧ (diff < 0 ∨ s.nodeSize c < diff + len) then .error .outOfBlock s
        else
          writeFileLoop fuel (remain_size - len) (pos + len) (s.next c)
            (out ++ [⟨c, diff.toNat, len.toNat⟩]) s

/-- `writeToFile`; `opened` is whether the file could be opened -/
def writeToFile (opened : Bool) (s : ByteArray) : Res (Bool × List IoVec) :=
  if !opened then .ok (false, []) s
  else
    match writeFileLoop (s.root.length + 2) s.getReadSize s.position s.cur [] s with
    | .ok out s => .ok (true, out) s
    | .error e s => .error e s

section
variable (fill : Nat → Nat → UInt8)

/-- the loop of `readFromFile`: `rest` is what is still in the file -/
def readFileLoop : Nat → List UInt8 → ByteArray → Res Unit
  | 0, _, s => .error .noFuel s
  | fuel + 1, rest, s =>
    match s.write fill (rest.take s.baseSize) with
    | .error e s => .error e s
    | .ok _ s =>
      -- the end of the file is met when there are fewer bytes than asked for
      if rest.length < s.baseSize then .ok () s else readFileLoop fuel (rest.drop s.baseSize) s

/-- `readFromFile`, of a file that holds the bytes `file` -/
def readFromFile (opened : Bool) (file : List UInt8) (s : ByteArray) : Res Bool :=
  if !opened then .ok false s
  else
    match readFileLoop fill (file.length + 1) file s with
    | .ok _ s => .ok true s
    | .error e s => .error e s

end

/-! ## the loop of `writeToFile` -/

theorem writeFileLoop_step {s : ByteArray} (h : Shape s) {c : Nat} (hc : c < s.root.length)
    (fuel R p l : Nat) (out : List IoVec) (hl : 0 < l) (hmin : l + p % s.baseSize = min R s.baseSize)
    (hint : p % s.baseSize < 2 ^ 31) :
    writeFileLoop (fuel + 1) R p (some c) out s
      = writeFileLoop fuel (R - l : Nat) (p + l : Nat) (s.next c)
        (out ++ [⟨c, p % s.baseSize, l⟩]) s := by
  have hdiff : (((p : Int) % (s.baseSize : Int)).bmod (2 ^ 32)) = ((p % s.baseSize : Nat) : Int) := by
    rw [← Int.natCast_emod]
    exact Int.bmod_eq_of_le (by omega) (by omega)
  have hlen : (if (R : Int) > (s.baseSize : Int) then (s.baseSize : Int) else (R : Int))
      - ((p % s.baseSize : Nat) : Int) = (l : Int) := by
    split <;> omega
  rw [writeFileLoop, if_neg (by omega)]
  dsimp only
  rw [hdiff, hlen, h.nodeSize hc, if_neg (by omega), Int.toNat_natCast, Int.toNat_natCast,
    show (R : Int) - (l : Int) = ((R - l : Nat) : Int) by omega,
    show (p : Int) + (l : Int) = ((p + l : Nat) : Int) by omega]

/-- **From the start of a node on, all of the bytes are written.** -/
theorem writeFileLoop_aligned {s : ByteArray} (h : Shape s) (fuel : Nat) :
    ∀ (R c : Nat) (cur : Option Nat) (out : List IoVec),
      (0 < R → cur = some c ∧ c < s.root.length) → s.baseSize * c + R ≤ s.capacity →
      s.root.length - c < fuel →
      ∃ vs, writeFileLoop fuel R (s.baseSize * c : Nat) cur out s = .ok (out ++ vs) s
        ∧ Covers s (s.baseSize * c) vs R := by
  induction fuel with
  | zero =>
    intro R c cur out _ _ hf
    omega
  | succ fuel ih =>
    intro R c cur out hcur hfit hf
    have hb := h.base
    by_cases hR : R = 0
    · subst hR
      refine ⟨[], ?_, rfl⟩
      unfold writeFileLoop
      rw [if_pos (by omega), List.append_nil]
    · obtain ⟨rfl, hc⟩ := hcur (by omega)
      have hmod : s.baseSize * c % s.baseSize = 0 := Nat.mul_mod_right _ _
      have hmul : s.baseSize * (c + 1) = s.baseSize * c + s.baseSize := Nat.mul_succ _ _
      rw [writeFileLoop_step h hc fuel R (s.baseSize * c) (min R s.baseSize) out (by omega)
        (by omega) (by omega), hmod]
      by_cases hlast : R ≤ s.baseSize
      · -- the last piece: what the pointer is set to does not matter
        rw [Nat.min_eq_left hlast, Nat.sub_self]
        obtain ⟨k, rfl⟩ : ∃ k, fuel = k + 1 := ⟨fuel - 1, by omega⟩
        refine ⟨[⟨c, 0, R⟩], ?_, .last hc (by omega)⟩
        unfold writeFileLoop
        rw [if_pos (by omega)]
      · rw [Nat.min_eq_right (by omega)]
        have hc' : c + 1 < s.root.length :=
          h.has_next (p := s.baseSize * c + R) hc (by omega) hfit
        obtain ⟨vs, hvs, hcovers⟩ := ih (R - s.baseSize) (c + 1) (some (c + 1))
          (out ++ [⟨c, 0, s.baseSize⟩]) (fun _ => ⟨rfl, hc'⟩) (by omega) (by omega)
        rw [Shape.next_eq hc', ← hmul, hvs, List.append_assoc]
        exact ⟨⟨c, 0, s.baseSize⟩ :: vs, rfl, .rest hc (Nat.zero_le _) (by omega) hcovers⟩

/-- **From inside of a node on, with at least as many bytes as a node has.** -/
theorem writeFileLoop_first {s : ByteArray} (h : Shape s) {c o R : Nat} (hc : c < s.root.length)
    (ho : o < s.baseSize) (hint : o < 2 ^ 31) (hR : s.baseSize ≤ R)
    (hfit : s.baseSize * c + o + R ≤ s.capacity) :
    ∃ vs, writeFileLoop (s.root.length + 2) R (s.baseSize * c + o : Nat) (some c) [] s = .ok vs s
      ∧ Covers s (s.baseSize * c + o) vs R := by
  have hmod : (s.baseSize * c + o) % s.baseSize = o := by
    rw [Nat.mul_add_mod, Nat.mod_eq_of_lt ho]
  have hmul : s.baseSize * (c + 1) = s.baseSize * c + s.baseSize := Nat.mul_succ _ _
  have hnext : 0 < R - (s.baseSize - o) → s.next c = some (c + 1) ∧ c + 1 < s.root.length := by
    intro hpos
    have hc' : c + 1 < s.root.length :=
      h.has_next (p := s.baseSize * c + o + R) hc (by omega) hfit
    exact ⟨Shape.next_eq hc', hc'⟩
  obtain ⟨vs, hvs, hcovers⟩ := writeFileLoop_aligned h (s.root.length + 1) (R - (s.baseSize - o))
    (c + 1) (s.next c) [⟨c, o, s.baseSize - o⟩] hnext (by omega) (by omega)
  have hend : s.baseSize * c + o + (s.baseSize - o) = s.baseSize * (c + 1) := by omega
  refine ⟨⟨c, o, s.baseSize - o⟩ :: vs, ?_, .rest hc ho.le (by omega) hcovers⟩
  rw [writeFileLoop_step h hc (s.root.length + 1) R _ (s.baseSize - o) [] (by omega)
    (by rw [hmod]; omega) (by rw [hmod]; exact hint), hmod, hend, List.nil_append, hvs]
  rfl

/-- the pieces are of the nodes from the current one on -/
theorem writeFileLoop_blocks (s : ByteArray) (fuel : Nat) :
    ∀ (remain_size pos : Int) (cur : Option Nat) (out res : List IoVec) (t : ByteArray),
      writeFileLoop fuel remain_size pos cur out s = .ok res t →
      ∃ vs, res = out ++ vs ∧ ∀ v ∈ vs, ∃ c, cur = some c ∧ c ≤ v.block := by
  induction fuel with
  | zero =>
    intro remain_size pos cur out res t hres
    cases hres
  | succ fuel ih =>
    intro remain_size pos cur out res t hres
    unfold writeFileLoop at hres
    by_cases hdone : remain_size ≤ 0
    · rw [if_pos hdone] at hres
      injection hres with hres _
      exact ⟨[], by rw [← hres, List.append_nil], fun v hv => absurd hv List.not_mem_nil⟩
    rw [if_neg hdone] at hres
    cases cur with
    | none => cases hres
    | some c =>
      dsimp only at hres
      generalize (pos % s.baseSize).bmod (2 ^ 32) = diff at hres
      generalize (if remain_size > s.baseSize then (s.baseSize : Int) else remain_size) - diff = len
        at hres
      by_cases hfault : 0 < len ∧ (diff < 0 ∨ s.nodeSize c < diff + len)
      · rw [if_pos hfault] at hres
        cases hres
      · rw [if_neg hfault] at hres
        obtain ⟨vs, rfl, hvs⟩ := ih _ _ _ _ _ _ hres
        refine ⟨_, List.append_assoc _ _ _, fun v hv => ⟨c, rfl, ?_⟩⟩
        rcases List.mem_append.mp hv with hv | hv
        · rw [List.mem_singleton.mp hv]
        · obtain ⟨c', hc', hle⟩ := hvs v hv
          unfold ByteArray.next at hc'
          split at hc'
          · injection hc' with hc'
            omega
          · cases hc'

/-! ## the loop of `readFromFile` -/

section
variable (fill : Nat → Nat → UInt8)

/-- **What is in the file comes behind the content.** -/
theorem readFileLoop_appends (fuel : Nat) : ∀ (rest : List UInt8) (s : ByteArray), AtEnd s →
    rest.length < fuel → ∃ t, readFileLoop fill fuel rest s = .ok () t ∧ AtEnd t
      ∧ t.content = s.content ++ rest := by
  induction fuel with
  | zero =>
    intro rest s _ hf
    omega
  | succ fuel ih =>
    intro rest s h hf
    have hb := h.base
    obtain ⟨t, hwrite, ht, hbase, _, hcontent⟩ := write_append fill h (rest.take s.baseSize)
    rw [readFileLoop, hwrite]
    dsimp only
    rw [hbase]
    by_cases hend : rest.length < s.baseSize
    · rw [List.take_of_length_le hend.le] at hcontent
      rw [if_pos hend]
      exact ⟨t, rfl, ht, hcontent⟩
    · have hdrop : (rest.drop s.baseSize).length = rest.length - s.baseSize := List.length_drop
      obtain ⟨u, hloop, hu, hcontent'⟩ := ih (rest.drop s.baseSize) t ht (by omega)
      refine ⟨u, ?_, hu, ?_⟩
      · rw [if_neg hend]
        exact hloop
      · rw [hcontent', hcontent, List.append_assoc, List.take_append_drop]

theorem readFromFile_new (b : Nat) (hb : 1 ≤ b) (file : List UInt8) :
    ∃ t u, (new fill b).readFromFile fill true file = .ok true t ∧ t.setPosition 0 = .ok () u
      ∧ u.toString = .ok file u := by
  obtain ⟨t, hloop, ht, hcontent⟩ := readFileLoop_appends fill (file.length + 1) file (new fill b)
    (new_atEnd fill b hb) (Nat.lt_succ_self _)
  obtain ⟨u, hseek, hpos, _, _, hu⟩ := ahead_content ht.toInv
  have hnew : (new fill b).content = [] := slice_zero _ _
  rw [hnew, List.nil_append] at hcontent
  rw [hcontent] at hu
  refine ⟨t, u, ?_, hseek, ?_⟩
  · rw [readFromFile, if_neg (by decide), hloop]
  · have hsize : u.size - u.position = file.length := by
      have hlen : t.content.length = t.size :=
        slice_length _ _ _ (by rw [ht.toInv.cells_length, Nat.zero_add]; exact ht.size_le)
      have h0 : 0 < t.capacity := by
        rw [ht.cap]
        exact Nat.mul_pos ht.base ht.some_node
      rw [setPosition_spec ht.toInv 0 h0] at hseek
      injection hseek with _ hseek
      rw [hcontent] at hlen
      rw [hpos, ← hseek]
      show max t.size 0 - 0 = _
      omega
    rw [toString_eq hu.toInv, hsize, hu.here]

end

/-! ## the files -/

/-- exactly the bytes behind the position are written, nothing changes, and every fresh array that
reads the file has them as its text -/
def Files (s : ByteArray) (r : Res (Bool × List IoVec)) : Prop :=
  ∃ out, r = .ok (true, out) s
    ∧ out.flatMap (IoVec.positions s.baseSize) = List.range' s.position (s.size - s.position)
    ∧ s.toString = .ok (out.flatMap (IoVec.bytes s)) s
    ∧ ∀ (fill : Nat → Nat → UInt8) (b : Nat), 1 ≤ b → ∃ t u,
      (new fill b).readFromFile fill true (out.flatMap (IoVec.bytes s)) = .ok true t
        ∧ t.setPosition 0 = .ok () u ∧ u.toString = .ok (out.flatMap (IoVec.bytes s)) u

theorem Covers.files {s : ByteArray} (h : Inv s) {out : List IoVec}
    (hc : Covers s s.position out (s.size - s.position)) : Files s (.ok (true, out) s) := by
  have hbytes := hc.bytes h.toShape
  refine ⟨out, rfl, hc.positions, ?_, fun fill b hb => ?_⟩
  · rw [toString_eq h, hbytes]
  · obtain ⟨t, u, hread, hseek, htext⟩ := readFromFile_new fill b hb (out.flatMap (IoVec.bytes s))
    exact ⟨t, u, hread, hseek, htext⟩

/-- the byte at the position, and the last one that is wanted of the current node, are written in
the first piece -/
theorem first_piece {base c diff len p R : Nat} {vs : List IoVec}
    (hp : base * c ≤ p ∧ p < base * c + base) (hR : 0 < R) (hvs : ∀ v ∈ vs, c + 1 ≤ v.block)
    (h : IoVec.positions base ⟨c, diff, len⟩ ++ vs.flatMap (IoVec.positions base)
      = List.range' p R) :
    0 < len ∧ base * c + diff = p ∧ min R (base * c + base - p) ≤ len := by
  have hmul : base * (c + 1) = base * c + base := Nat.mul_succ _ _
  have hfirst : ∀ i, p ≤ i → i < p + R → i < base * c + base →
      base * c + diff ≤ i ∧ i < base * c + diff + len := by
    intro i hlo hhi hnode
    have hmem : i ∈ List.range' p R := List.mem_range'_1.mpr ⟨hlo, hhi⟩
    rw [← h] at hmem
    rcases List.mem_append.mp hmem with hmem | hmem
    · exact List.mem_range'_1.mp hmem
    · obtain ⟨v, hv, hi⟩ := List.mem_flatMap.mp hmem
      have hblock := Nat.mul_le_mul_left base (hvs v hv)
      have hbehind := (List.mem_range'_1.mp hi).1
      omega
  obtain ⟨hlo, hhi⟩ := hfirst p (Nat.le_refl _) (by omega) hp.2
  have hstart : base * c + diff ∈ List.range' p R := by
    rw [← h]
    exact List.mem_append_left _ (List.mem_range'_1.mpr ⟨Nat.le_refl _, by dsimp only; omega⟩)
  have heq : base * c + diff = p := Nat.le_antisymm hlo (List.mem_range'_1.mp hstart).1
  have hlast := hfirst (p + min R (base * c + base - p) - 1) (by omega) (by omega) (by omega)
  exact ⟨by omega, heq, by omega⟩

theorem writeToFile_open (s : ByteArray) : s.writeToFile true =
    match writeFileLoop (s.root.length + 2) (s.size - s.position : Nat) s.position s.cur [] s with
    | .ok out s => .ok (true, out) s
    | .error e s => .error e s := rfl

theorem writeFileLoop_cons {s t : ByteArray} {fuel R p c : Nat} {res : List IoVec}
    (h : writeFileLoop (fuel + 1) R p (some c) [] s = .ok res t) (hR : 0 < R) :
    ∃ (diff len : Int) (rest : List IoVec), diff = ((p % s.baseSize : Nat) : Int).bmod (2 ^ 32)
      ∧ len = (min R s.baseSize : Nat) - diff ∧ (0 < len → 0 ≤ diff)
      ∧ res = ⟨c, diff.toNat, len.toNat⟩ :: rest ∧ ∀ v ∈ rest, c + 1 ≤ v.block := by
  unfold writeFileLoop at h
  rw [if_neg (by omega)] at h
  dsimp only at h
  have hmin : (if (R : Int) > (s.baseSize : Int) then (s.baseSize : Int) else (R : Int))
      = (min R s.baseSize : Nat) := by
    split <;> omega
  rw [hmin, ← Int.natCast_emod] at h
  generalize hdiff : (((p % s.baseSize : Nat) : Int)).bmod (2 ^ 32) = diff at h
  generalize hlen : ((min R s.baseSize : Nat) : Int) - diff = len at h
  by_cases hfault : 0 < len ∧ (diff < 0 ∨ s.nodeSize c < diff + len)
  · rw [if_pos hfault] at h
    cases h
  · rw [if_neg hfault] at h
    obtain ⟨rest, rfl, hrest⟩ := writeFileLoop_blocks s fuel _ _ _ _ _ _ h
    refine ⟨diff, len, rest, rfl, hlen.symm, by omega, rfl, fun v hv => ?_⟩
    obtain ⟨c', hc', hle⟩ := hrest v hv
    unfold ByteArray.next at hc'
    split at hc'
    · injection hc' with hc'
      omega
    · cases hc'

section
variable (fill : Nat → Nat → UInt8)

/-- **A file takes over exactly the bytes behind the position when there are none, or the position
is at the start of a node, or there are at least as many as a node has.** -/
theorem file_iff (b : Nat) (hb : 1 ≤ b) (s : ByteArray) (hs : Reachable fill b s) :
    Files s (s.writeToFile true) ↔
      s.size - s.position = 0
        ∨ s.position % b < 2 ^ 31 ∧ (s.position % b = 0 ∨ b ≤ s.size - s.position) := by
  obtain ⟨h, rfl⟩ := hs.inv fill hb
  have hle := h.size_le
  by_cases hR : s.size - s.position = 0
  · have hcall : s.writeToFile true = .ok (true, []) s := by
      unfold writeToFile getReadSize
      rw [if_neg (by decide), hR]
      rfl
    rw [hcall]
    exact iff_of_true (Covers.files h (show s.size - s.position = 0 from hR)) (.inl hR)
  obtain ⟨hcur, hblock, hoff, hsplit⟩ := h.cur_block (by omega)
  have hf : s.root.length - s.position / s.baseSize < s.root.length + 2 :=
    Nat.lt_succ_of_le (Nat.le_succ_of_le (Nat.sub_le _ _))
  rw [writeToFile_open]
  constructor
  · rintro ⟨out, hout, hpositions, _⟩
    obtain ⟨vs, hvs⟩ : ∃ vs, writeFileLoop (s.root.length + 2) (s.size - s.position : Nat)
        s.position s.cur [] s = .ok vs s := by
      generalize writeFileLoop _ _ _ _ _ _ = r at hout
      cases r with
      | error e t => cases hout
      | ok vs t =>
        injection hout with _ ht
        exact ⟨vs, by rw [ht]⟩
    rw [hvs] at hout
    injection hout with hres _
    obtain rfl : vs = out := (Prod.mk.inj hres).2
    rw [hcur] at hvs
    obtain ⟨diff, len, rest, hdiff, hlen, hfault, rfl, hrest⟩ := writeFileLoop_cons hvs (by omega)
    rw [List.flatMap_cons] at hpositions
    obtain ⟨hpos, hstart, hroom⟩ := first_piece (by omega) (by omega) hrest hpositions
    have hint : diff < 2 ^ 31 := by
      rw [hdiff]
      exact Int.bmod_lt (m := 2 ^ 32) (by decide)
    clear hdiff
    have hsame : diff = (s.position % s.baseSize : Nat) := by omega
    exact .inr ⟨by omega, by omega⟩
  · rintro (hzero | ⟨hint, hcond⟩)
    · exact absurd hzero hR
    obtain ⟨vs, hvs, hcovers⟩ : ∃ vs, writeFileLoop (s.root.length + 2) (s.size - s.position : Nat)
        s.position s.cur [] s = .ok vs s ∧ Covers s s.position vs (s.size - s.position) := by
      by_cases hstart : s.position % s.baseSize = 0
      · obtain ⟨vs, hvs, hcovers⟩ := writeFileLoop_aligned h.toShape (s.root.length + 2)
          (s.size - s.position) (s.position / s.baseSize) s.cur [] (fun _ => ⟨hcur, hblock⟩)
          (by omega) hf
        rw [hstart, Nat.add_zero] at hsplit
        rw [← hsplit] at hvs hcovers
        exact ⟨vs, hvs, hcovers⟩
      · obtain ⟨vs, hvs, hcovers⟩ := writeFileLoop_first h.toShape hblock hoff hint
          (show s.baseSize ≤ s.size - s.position by omega) (by omega)
        rw [← hsplit, ← hcur] at hvs
        rw [← hsplit] at hcovers
        exact ⟨vs, hvs, hcovers⟩
    rw [hvs]
    exact hcovers.files h

end

/-- the file of four bytes in a block of four -/
theorem file_iff_four : Files fullBlock (fullBlock.writeToFile true) ↔
    4 - 0 = 0 ∨ 0 % 4 < 2 ^ 31 ∧ (0 % 4 = 0 ∨ 4 ≤ 4 - 0) :=
  file_iff (fun _ _ => 0) 4 (by decide) _ fullBlock_reachable

/-- four bytes in a block of four, and the cursor behind the first one -/
def insideBlock : ByteArray := ⟨4, 1, 4, 4, .big, [⟨[1, 2, 3, 4]⟩], some 0, 1⟩

theorem insideBlock_reachable : Reachable (fun _ _ => 0) 4 insideBlock := by
  have hseek : fullBlock.exec (fun _ _ => 0) (.setPosition 1) = (.done, insideBlock) := by rfl
  exact .exec fullBlock_reachable (show Op.ok _ (.setPosition 1) from show 1 < 4 by decide) hseek

/-- **From inside of the only node, the loop goes on to a node that is not there.** -/
theorem writeToFile_inside : ¬ ∀ (fill : Nat → Nat → UInt8) (b : Nat), 1 ≤ b →
    ∀ s, Reachable fill b s → Files s (s.writeToFile true) := by
  intro h
  obtain ⟨out, hout, _⟩ := h (fun _ _ => 0) 4 (by decide) _ insideBlock_reachable
  have hcall : insideBlock.writeToFile true = .error .nullCur insideBlock := by rfl
  rw [hcall] at hout
  cases hout

end ByteArray
end KitServer
