import KitServer.ByteArray.Refine

/-!
# `getWriteBuf`: the room of a `ByteArray` as `iovec`s

`getWriteBuf` grows the array and cuts the room behind the position into `iovec`s, which somebody
else, such as the kernel in `recvmsg`, then stores bytes into.

* `Covers`              the `iovec`s of a part of the flat array;
* `scatter_spec`        storing into them is storing into the flat array;
* `Reachable`           the states of a `ByteArray` that is used through all of this;
* `getWriteBuf_covers`  the room, with no node that is not needed.
-/

set_option linter.unusedVariables false

namespace KitServer
namespace ByteArray

/-- `iov_base` is byte `off` of the block -/
structure IoVec where
  block : Nat
  off : Nat
  len : Nat

/-- the loop of `getWriteBuf` -/
def writeBufLoop : Nat → Nat → Nat → Nat → Nat → List IoVec → ByteArray → Res (List IoVec)
  | 0, _, _, _, _, _, s => .error .noFuel s
  | fuel + 1, len, npos, ncap, cur, buffers, s =>
    if len = 0 then .ok buffers s
    else if ncap ≥ len then writeBufLoop fuel 0 npos ncap cur (buffers ++ [⟨cur, npos, len⟩]) s
    else
      match s.next cur with
      | none => .error .nullCur s
      | some cur' =>
        writeBufLoop fuel (len - ncap) 0 (s.nodeSize cur') cur' (buffers ++ [⟨cur, npos, ncap⟩]) s

/-- `getWriteBuf`: the caller's list with the new `iovec`s behind it, and the length -/
def getWriteBuf (fill : Nat → Nat → UInt8) (buffers : List IoVec) (len : Nat) (s : ByteArray) :
    Res (List IoVec × Nat) :=
  if len = 0 then .ok (buffers, 0) s
  else
    let s := s.addCapacity fill len
    match s.cur with
    | none => .error .nullCur s
    | some c =>
      let npos := s.position % s.baseSize
      match writeBufLoop (s.root.length + 2) len npos (s.nodeSize c - npos) c buffers s with
      | .ok buffers s => .ok (buffers, len) s
      | .error e s => .error e s

/-- the bytes are stored in the `iovec`s, one after the other -/
def scatter : List IoVec → List UInt8 → ByteArray → Option ByteArray
  | [], _, s => some s
  | v :: vs, bs, s =>
    match s.store v.block v.off (bs.take v.len) with
    | none => none
    | some s => scatter vs (bs.drop v.len) s

/-- where the bytes of an `iovec` are in the flat array -/
def IoVec.positions (base : Nat) (v : IoVec) : List Nat :=
  List.range' (base * v.block + v.off) v.len

/-- the bytes of an `iovec` -/
def IoVec.bytes (s : ByteArray) (v : IoVec) : List UInt8 :=
  slice (s.root.getD v.block ⟨[]⟩).ptr v.off v.len

def IoVec.Apart (v w : IoVec) : Prop :=
  v.block ≠ w.block ∨ v.off + v.len ≤ w.off ∨ w.off + w.len ≤ v.off

/-! ## the `iovec`s -/

/-- the `iovec`s are the `n` bytes behind the position `p` of the flat array -/
def Covers (s : ByteArray) : Nat → List IoVec → Nat → Prop
  | _, [], n => n = 0
  | p, v :: vs, n =>
    v.block < s.root.length ∧ v.off + v.len ≤ s.baseSize ∧ s.baseSize * v.block + v.off = p
      ∧ v.len ≤ n ∧ Covers s (p + v.len) vs (n - v.len)

theorem Covers.last {s : ByteArray} {c o n : Nat} (hc : c < s.root.length)
    (hn : o + n ≤ s.baseSize) : Covers s (s.baseSize * c + o) [⟨c, o, n⟩] n :=
  ⟨hc, hn, rfl, Nat.le_refl _, Nat.sub_self _⟩

theorem Covers.rest {s : ByteArray} {c o n : Nat} {vs : List IoVec} (hc : c < s.root.length)
    (ho : o ≤ s.baseSize) (hn : s.baseSize - o ≤ n)
    (h : Covers s (s.baseSize * (c + 1)) vs (n - (s.baseSize - o))) :
    Covers s (s.baseSize * c + o) (⟨c, o, s.baseSize - o⟩ :: vs) n := by
  have hend : s.baseSize * c + o + (s.baseSize - o) = s.baseSize * (c + 1) := by
    rw [Nat.mul_succ]
    omega
  refine ⟨hc, by dsimp only; omega, rfl, hn, ?_⟩
  dsimp only
  rw [hend]
  exact h

/-- **The loop of `getWriteBuf` cuts the room behind byte `o` of block `c`.** -/
theorem writeBufLoop_spec {s : ByteArray} (h : Shape s) (fuel : Nat) :
    ∀ (len o c : Nat) (buffers : List IoVec), c < s.root.length → o < s.baseSize → 0 < len →
      s.baseSize * c + o + len ≤ s.capacity → s.root.length - c + 1 < fuel →
      ∃ vs, writeBufLoop fuel len o (s.baseSize - o) c buffers s = .ok (buffers ++ vs) s
        ∧ Covers s (s.baseSize * c + o) vs len := by
  induction fuel with
  | zero =>
    intro len o c buffers _ _ _ _ hf
    omega
  | succ fuel ih =>
    intro len o c buffers hc ho hlen hfit hf
    unfold writeBufLoop
    rw [if_neg (by omega)]
    by_cases hle : s.baseSize - o ≥ len
    · obtain ⟨k, rfl⟩ : ∃ k, fuel = k + 1 := ⟨fuel - 1, by omega⟩
      refine ⟨[⟨c, o, len⟩], ?_, .last hc (by omega)⟩
      rw [if_pos hle]
      rfl
    · have hmul : s.baseSize * (c + 1) = s.baseSize * c + s.baseSize := Nat.mul_succ _ _
      have hc' : c + 1 < s.root.length :=
        h.has_next (p := s.baseSize * c + o + len) hc (by omega) hfit
      obtain ⟨vs, hvs, hcovers⟩ := ih (len - (s.baseSize - o)) 0 (c + 1)
        (buffers ++ [⟨c, o, s.baseSize - o⟩]) hc' (by omega) (by omega) (by omega) (by omega)
      refine ⟨⟨c, o, s.baseSize - o⟩ :: vs, ?_, .rest hc ho.le (by omega) hcovers⟩
      rw [if_neg hle, Shape.next_eq hc']
      show writeBufLoop fuel _ 0 (s.nodeSize (c + 1)) (c + 1) _ s = _
      rw [h.nodeSize hc']
      rw [Nat.sub_zero, List.append_assoc] at hvs
      exact hvs

theorem Covers.positions {s : ByteArray} {p n : Nat} {vs : List IoVec} (h : Covers s p vs n) :
    vs.flatMap (IoVec.positions s.baseSize) = List.range' p n := by
  induction vs generalizing p n with
  | nil =>
    rw [show n = 0 from h]
    rfl
  | cons v vs ih =>
    obtain ⟨_, _, hp, hlen, hrest⟩ := h
    have hsplit := List.range'_append_1 (s := p) (m := v.len) (n := n - v.len)
    rw [Nat.add_sub_cancel' hlen] at hsplit
    rw [List.flatMap_cons, ih hrest, IoVec.positions, hp, hsplit]

theorem Covers.bytes {s : ByteArray} (h : Shape s) {p n : Nat} {vs : List IoVec}
    (hc : Covers s p vs n) : vs.flatMap (IoVec.bytes s) = slice s.cells p n := by
  induction vs generalizing p n with
  | nil =>
    rw [show n = 0 from hc, slice_zero]
    rfl
  | cons v vs ih =>
    obtain ⟨hblock, hoff, hp, hlen, hrest⟩ := hc
    have hload := h.load hblock hoff
    rw [ByteArray.load, if_pos (by rw [h.nodeSize hblock]; exact hoff), hp] at hload
    rw [List.flatMap_cons, ih hrest, IoVec.bytes, Option.some.inj hload, ← slice_add,
      Nat.add_sub_cancel' hlen]

theorem Covers.inside {s : ByteArray} (h : Shape s) {p n : Nat} {vs : List IoVec}
    (hc : Covers s p vs n) :
    ∀ v ∈ vs, v.block < s.root.length ∧ v.off + v.len ≤ s.nodeSize v.block := by
  induction vs generalizing p n with
  | nil =>
    intro v hv
    cases hv
  | cons w vs ih =>
    obtain ⟨hblock, hoff, _, _, hrest⟩ := hc
    intro v hv
    rcases List.mem_cons.mp hv with rfl | hv
    · exact ⟨hblock, by rw [h.nodeSize hblock]; exact hoff⟩
    · exact ih hrest v hv

theorem Covers.behind {s : ByteArray} {p n : Nat} {vs : List IoVec} (h : Covers s p vs n) :
    ∀ v ∈ vs, p ≤ s.baseSize * v.block + v.off := by
  induction vs generalizing p n with
  | nil =>
    intro v hv
    cases hv
  | cons w vs ih =>
    obtain ⟨_, _, hp, _, hrest⟩ := h
    intro v hv
    rcases List.mem_cons.mp hv with rfl | hv
    · exact hp.ge
    · exact Nat.le_trans (Nat.le_add_right _ _) (ih hrest v hv)

theorem Covers.apart {s : ByteArray} {p n : Nat} {vs : List IoVec} (h : Covers s p vs n) :
    vs.Pairwise IoVec.Apart := by
  induction vs generalizing p n with
  | nil => exact .nil
  | cons v vs ih =>
    obtain ⟨_, _, hp, _, hrest⟩ := h
    refine .cons (fun w hw => ?_) (ih hrest)
    have hle := hrest.behind w hw
    by_cases hblock : v.block = w.block
    · right
      left
      rw [← hblock] at hle
      omega
    · exact .inl hblock

theorem Covers.congr {s t : ByteArray} (hroot : t.root.length = s.root.length)
    (hbase : t.baseSize = s.baseSize) {p n : Nat} {vs : List IoVec} (h : Covers s p vs n) :
    Covers t p vs n := by
  induction vs generalizing p n with
  | nil => exact h
  | cons v vs ih =>
    obtain ⟨hblock, hoff, hp, hlen, hrest⟩ := h
    exact ⟨by omega, by omega, by rw [hbase]; exact hp, hlen, ih hrest⟩

/-- **The bytes that are stored in the `iovec`s are bytes of the flat array.** -/
theorem scatter_spec (vs : List IoVec) : ∀ (bs : List UInt8) (s : ByteArray) (p n : Nat),
    Shape s → Covers s p vs n → bs.length ≤ n → p + n ≤ s.capacity →
    ∃ r, scatter vs bs s = some { s with root := r } ∧ r.length = s.root.length
      ∧ (∀ nd ∈ r, nd.size = s.baseSize) ∧ flat r = overwrite s.cells p bs := by
  induction vs with
  | nil =>
    intro bs s p n h hn hbs hfit
    have hnil : bs = [] := List.length_eq_zero_iff.mp (by rw [Covers] at hn; omega)
    subst hnil
    exact ⟨s.root, rfl, rfl, h.nodes, (overwrite_nil _ _).symm⟩
  | cons v vs ih =>
    intro bs s p n h hcovers hbs hfit
    obtain ⟨hblock, hoff, hp, hlen, hrest⟩ := hcovers
    have htake : (bs.take v.len).length = min v.len bs.length := List.length_take
    obtain ⟨r, hstore, hr, hrsz, hflat⟩ := h.store hblock
      (show v.off + (bs.take v.len).length ≤ s.baseSize by omega)
    have hshape : Shape { s with root := r } := ⟨h.base, hrsz, by rw [hr]; exact h.cap⟩
    have hdrop : (bs.drop v.len).length = bs.length - v.len := List.length_drop
    obtain ⟨r', hscatter, hr', hrsz', hflat'⟩ := ih (bs.drop v.len) { s with root := r }
      (p + v.len) (n - v.len) hshape (hrest.congr (t := { s with root := r }) hr rfl) (by omega)
      (show p + v.len + (n - v.len) ≤ s.capacity by omega)
    refine ⟨r', ?_, hr'.trans hr, hrsz', ?_⟩
    · rw [scatter, hstore]
      exact hscatter
    · rw [hflat']
      show overwrite (flat r) (p + v.len) (bs.drop v.len) = _
      rw [hflat, hp]
      have hroom : p + (bs.take v.len).length ≤ s.cells.length := by
        rw [h.cells_length]
        omega
      by_cases hshort : bs.length ≤ v.len
      · rw [List.drop_of_length_le hshort, List.take_of_length_le hshort, overwrite_nil]
      · have hfull : (bs.take v.len).length = v.len := by omega
        conv_rhs => rw [← List.take_append_drop v.len bs, overwrite_append _ _ _ _ hroom, hfull]

/-! ## the states -/

section
variable (fill : Nat → Nat → UInt8)

/-- the states of a `ByteArray`: after operations of its own, changes of the byte order, and bytes
that were stored into the room that `getWriteBuf` hands out -/
inductive Reachable (b : Nat) : ByteArray → Prop where
  | new : Reachable b (new fill b)
  | exec {s s' : ByteArray} {op : Op} {out : Out} :
    Reachable b s → op.ok s → s.exec fill op = (out, s') → Reachable b s'
  | setSmallEndian {s : ByteArray} (val : Bool) : Reachable b s → Reachable b (s.setSmallEndian val)
  | filled {s t s' : ByteArray} {buffers iovs : List IoVec} {len n : Nat} {bs : List UInt8} :
    Reachable b s → s.getWriteBuf fill buffers len = .ok (buffers ++ iovs, n) t → bs.length ≤ n →
    scatter iovs bs t = some s' → Reachable b s'

theorem Inv.setSmallEndian {s : ByteArray} (h : Inv s) (val : Bool) : Inv (s.setSmallEndian val) :=
  ⟨⟨h.base, h.nodes, h.cap⟩, h.some_node, h.pos_le, h.size_le, h.cur_eq⟩

theorem getWriteBuf_eq {s : ByteArray} (h : Inv s) (buffers : List IoVec) {len : Nat}
    (hlen : 1 ≤ len) :
    ∃ vs, s.getWriteBuf fill buffers len = .ok (buffers ++ vs, len) (s.addCapacity fill len)
      ∧ Covers (s.addCapacity fill len) s.position vs len := by
  obtain ⟨hinv, hpos, _, _, _, hroom, _⟩ := addCapacity_inv fill h (show len ≠ 0 by omega)
  generalize ht : s.addCapacity fill len = t at hinv hpos hroom
  obtain ⟨hcur, hblock, hoff, hsplit⟩ := hinv.cur_block (by omega)
  obtain ⟨vs, hvs, hcovers⟩ := writeBufLoop_spec hinv.toShape (t.root.length + 2) len
    (t.position % t.baseSize) (t.position / t.baseSize) buffers hblock hoff (by omega) (by omega)
    (Nat.lt_succ_of_le (Nat.succ_le_succ (Nat.sub_le _ _)))
  rw [← hsplit, hpos] at hcovers
  refine ⟨vs, ?_, hcovers⟩
  unfold getWriteBuf
  rw [if_neg (by omega), ht]
  dsimp only
  rw [hcur]
  dsimp only
  rw [hinv.toShape.nodeSize hblock, hvs]

theorem getWriteBuf_scatter {s : ByteArray} (h : Inv s) (buffers : List IoVec) {len : Nat}
    (hlen : 1 ≤ len) {bs : List UInt8} (hbs : bs.length ≤ len) :
    ∃ vs r, s.getWriteBuf fill buffers len = .ok (buffers ++ vs, len) (s.addCapacity fill len)
      ∧ scatter vs bs (s.addCapacity fill len) = some { s.addCapacity fill len with root := r }
      ∧ Inv { s.addCapacity fill len with root := r }
      ∧ flat r = overwrite (s.addCapacity fill len).cells s.position bs := by
  obtain ⟨hinv, hpos, _, _, _, hroom, _⟩ := addCapacity_inv fill h (show len ≠ 0 by omega)
  obtain ⟨vs, hbuf, hcovers⟩ := getWriteBuf_eq fill h buffers hlen
  obtain ⟨r, hscatter, hr, hrsz, hflat⟩ := scatter_spec vs bs (s.addCapacity fill len) s.position
    len hinv.toShape hcovers hbs hroom
  exact ⟨vs, r, hbuf, hscatter, ⟨⟨hinv.base, hrsz, by rw [hr]; exact hinv.cap⟩,
    by rw [hr]; exact hinv.some_node, hinv.pos_le, hinv.size_le, hinv.cur_eq⟩, hflat⟩

/-- **Every reachable state satisfies the invariant.** -/
theorem Reachable.inv {b : Nat} (hb : 1 ≤ b) {s : ByteArray} (h : Reachable fill b s) :
    Inv s ∧ s.baseSize = b := by
  induction h with
  | new => exact ⟨new_inv fill b hb, rfl⟩
  | exec _ hop hexec ih =>
    obtain ⟨hinv, hbase, _⟩ := exec_step fill ih.1 hop hexec
    exact ⟨hinv, hbase.trans ih.2⟩
  | setSmallEndian val _ ih => exact ⟨ih.1.setSmallEndian val, ih.2⟩
  | @filled s t s' buffers iovs len n bs _ hbuf hbs hscatter ih =>
    obtain ⟨hinv, hbase⟩ := ih
    by_cases hlen : len = 0
    · subst hlen
      rw [getWriteBuf, if_pos rfl] at hbuf
      injection hbuf with hres ht
      obtain ⟨hiovs, rfl⟩ := Prod.mk.inj hres
      obtain rfl : iovs = [] := List.self_eq_append_right.mp hiovs
      cases hscatter
      rw [← ht]
      exact ⟨hinv, hbase⟩
    · obtain ⟨vs, r, hbuf', hscatter', hr, _⟩ := getWriteBuf_scatter fill hinv buffers
        (show 1 ≤ len by omega) (show bs.length ≤ len by
          obtain ⟨vs, hbuf', _⟩ := getWriteBuf_eq fill hinv buffers (show 1 ≤ len by omega)
          rw [hbuf'] at hbuf
          injection hbuf with hres _
          rw [(Prod.mk.inj hres).2]
          exact hbs)
      rw [hbuf'] at hbuf
      injection hbuf with hres ht
      obtain rfl : vs = iovs := List.append_cancel_left (Prod.mk.inj hres).1
      subst ht
      rw [hscatter'] at hscatter
      cases hscatter
      obtain ⟨_, _, _, hbase', _⟩ := addCapacity_inv fill hinv hlen
      exact ⟨hr, hbase'.trans hbase⟩

/-! ## the room -/

/-- what `getWriteBuf` has handed out, and what it has done to the array -/
structure Room (s : ByteArray) (len : Nat) (vs : List IoVec) (s' : ByteArray) : Prop where
  apart : vs.Pairwise IoVec.Apart
  inside : ∀ v ∈ vs, v.block < s'.root.length ∧ v.off + v.len ≤ s'.nodeSize v.block
  positions : vs.flatMap (IoVec.positions s'.baseSize) = List.range' s.position len
  position : s'.position = s.position
  size : s'.size = s.size
  base : s'.baseSize = s.baseSize
  enough : s.position + len ≤ s'.capacity
  /-- the old nodes are as they were, and there are as many new ones as it takes -/
  nodes : ∃ added : List Node, s'.root = s.root ++ added
    ∧ s'.capacity = s.capacity + added.length * s.baseSize
    ∧ ∀ k, s.position + len ≤ s.capacity + k * s.baseSize → added.length ≤ k

theorem addCapacity_least {s : ByteArray} (h : Inv s) (n : Nat) :
    ∃ added : List Node, (s.addCapacity fill n).root = s.root ++ added
      ∧ (s.addCapacity fill n).capacity = s.capacity + added.length * s.baseSize
      ∧ ∀ k, s.position + n ≤ s.capacity + k * s.baseSize → added.length ≤ k := by
  obtain ⟨added, hadd, _, _, htight, _⟩ := addCapacity_spec fill h n
  refine ⟨added, by rw [hadd], by rw [hadd], fun k hk => ?_⟩
  rcases htight with rfl | htight
  · exact Nat.zero_le k
  · have hmul : (k + 1) * s.baseSize = k * s.baseSize + s.baseSize := Nat.succ_mul _ _
    have hlt : added.length * s.baseSize < (k + 1) * s.baseSize := by omega
    exact Nat.le_of_lt_succ (Nat.lt_of_mul_lt_mul_right hlt)

/-- **The `iovec`s are exactly the storage behind the position, and nothing else changes.** -/
theorem getWriteBuf_covers (b : Nat) (hb : 1 ≤ b) (s : ByteArray) (hs : Reachable fill b s)
    (buffers : List IoVec) (len : Nat) (hlen : 1 ≤ len) :
    ∃ vs s', s.getWriteBuf fill buffers len = .ok (buffers ++ vs, len) s' ∧ Room s len vs s' := by
  obtain ⟨h, _⟩ := hs.inv fill hb
  obtain ⟨hinv, hpos, hsize, hbase, _, hroom, _⟩ := addCapacity_inv fill h (show len ≠ 0 by omega)
  obtain ⟨vs, hbuf, hcovers⟩ := getWriteBuf_eq fill h buffers hlen
  exact ⟨vs, _, hbuf, hcovers.apart, hcovers.inside hinv.toShape, hcovers.positions, hpos, hsize,
    hbase, hroom, addCapacity_least fill h len⟩

end

/-- room for five bytes, in blocks of four -/
theorem getWriteBuf_covers_five : ∃ vs s',
    (new (fun _ _ => 0) 4).getWriteBuf (fun _ _ => 0) [] 5 = .ok ([] ++ vs, 5) s'
      ∧ Room (new (fun _ _ => 0) 4) 5 vs s' :=
  getWriteBuf_covers (fun _ _ => 0) 4 (by decide) _ .new [] 5 (by decide)

end ByteArray
end KitServer
