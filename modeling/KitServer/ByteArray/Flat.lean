import KitServer.ByteArray.Store

/-!
# `ByteArray` is one flat array with a cursor

`cells s` is the concatenation of the blocks.  `Inv s` is what every operation keeps: all blocks
have `m_baseSize` bytes, `m_position ≤ m_size ≤ m_capacity`, and `m_cur` is the block of
`m_position`, null exactly at the end of the last block (`curAt`).

* `write_spec`, `read_spec`, `read_throws`, `setPosition_spec`, `clear_inv`   one lemma for each
                 operation, on the flat array;
* `write_append`   a write at the end of the content, and how much capacity it leaves unused;
* `Ahead.read`   a read of bytes that are known to lie at the position.
-/

set_option linter.unusedVariables false

namespace KitServer
namespace ByteArray

/-! ## the flat array -/

def flat (root : List Node) : List UInt8 := (root.map Node.ptr).flatten

def cells (s : ByteArray) : List UInt8 := flat s.root

/-- the block a position lies in: null at the end of the last block -/
def curAt (s : ByteArray) (p : Nat) : Option Nat :=
  if p = s.capacity then none else some (p / s.baseSize)

/-- blocks of one size that make up the capacity -/
structure Shape (s : ByteArray) : Prop where
  base : 1 ≤ s.baseSize
  nodes : ∀ nd ∈ s.root, nd.size = s.baseSize
  cap : s.capacity = s.baseSize * s.root.length

structure Inv (s : ByteArray) : Prop extends Shape s where
  some_node : 1 ≤ s.root.length
  pos_le : s.position ≤ s.size
  size_le : s.size ≤ s.capacity
  cur_eq : s.cur = s.curAt s.position

theorem flat_append (a b : List Node) : flat (a ++ b) = flat a ++ flat b := by
  simp [flat]

theorem flat_length (b : Nat) (root : List Node) (h : ∀ nd ∈ root, nd.size = b) :
    (flat root).length = b * root.length := by
  have hl : ∀ x ∈ root.map Node.ptr, x.length = b := by
    intro x hx
    obtain ⟨nd, hnd, rfl⟩ := List.mem_map.mp hx
    exact h nd hnd
  rw [flat, length_flatten_blocks b _ hl, List.length_map]

theorem Shape.cells_length {s : ByteArray} (h : Shape s) : s.cells.length = s.capacity := by
  rw [cells, flat_length _ _ h.nodes, h.cap]

theorem Shape.nodeSize {s : ByteArray} (h : Shape s) {c : Nat} (hc : c < s.root.length) :
    s.nodeSize c = s.baseSize := by
  show (s.root.getD c ⟨[]⟩).size = _
  rw [List.getD_eq_getElem _ _ hc]
  exact h.nodes _ (List.getElem_mem hc)

theorem Shape.lt_cap {s : ByteArray} (h : Shape s) {c : Nat} (hc : c < s.root.length) :
    s.baseSize * c + s.baseSize ≤ s.capacity := by
  have h1 := Nat.mul_le_mul_left s.baseSize (show c + 1 ≤ s.root.length from hc)
  rw [Nat.mul_succ] at h1
  rw [h.cap]
  exact h1

theorem Shape.curAt_mid {s : ByteArray} (h : Shape s) {c o : Nat} (hc : c < s.root.length)
    (ho : o < s.baseSize) : s.curAt (s.baseSize * c + o) = some c := by
  have h1 := h.lt_cap hc
  have h2 := h.base
  unfold curAt
  rw [if_neg (by omega), Nat.mul_add_div (by omega), Nat.div_eq_of_lt ho, Nat.add_zero]

theorem Shape.next_eq {s : ByteArray} {c : Nat} (hc : c + 1 < s.root.length) :
    s.next c = some (c + 1) := by
  unfold ByteArray.next
  rw [if_pos hc]

theorem Shape.next_none {s : ByteArray} {c : Nat} (hc : ¬ c + 1 < s.root.length) :
    s.next c = none := by
  unfold ByteArray.next
  rw [if_neg hc]

theorem Shape.place {s : ByteArray} (h : Shape s) {p : Nat} (hp : p < s.capacity) :
    p / s.baseSize < s.root.length ∧ p % s.baseSize < s.baseSize
      ∧ s.baseSize * (p / s.baseSize) + p % s.baseSize = p := by
  have hb := h.base
  refine ⟨?_, Nat.mod_lt _ (by omega), Nat.div_add_mod _ _⟩
  rw [Nat.div_lt_iff_lt_mul (by omega), Nat.mul_comm, ← h.cap]
  exact hp

theorem Shape.curAt_end {s : ByteArray} (h : Shape s) {c : Nat} (hc : c < s.root.length) :
    s.curAt (s.baseSize * (c + 1)) = s.next c := by
  by_cases hl : c + 1 < s.root.length
  · rw [Shape.next_eq hl]
    have := h.curAt_mid hl (show 0 < s.baseSize by have := h.base; omega)
    simpa using this
  · rw [Shape.next_none hl]
    have e : c + 1 = s.root.length := by omega
    unfold curAt
    rw [if_pos (by rw [h.cap, e])]

/-! ## one block -/

theorem Shape.store {s : ByteArray} (h : Shape s) {c o : Nat} {bs : List UInt8}
    (hc : c < s.root.length) (ho : o + bs.length ≤ s.baseSize) :
    ∃ r, s.store c o bs = some { s with root := r } ∧ r.length = s.root.length ∧
      (∀ nd ∈ r, nd.size = s.baseSize) ∧
      flat r = overwrite s.cells (s.baseSize * c + o) bs := by
  have hn : (s.root[c]).ptr.length = s.baseSize := h.nodes _ (List.getElem_mem hc)
  refine ⟨s.root.set c ⟨overwrite (s.root.getD c ⟨[]⟩).ptr o bs⟩, ?_, List.length_set, ?_, ?_⟩
  · unfold ByteArray.store
    rw [if_pos (by rw [h.nodeSize hc]; exact ho)]
  · intro nd hnd
    rcases List.mem_or_eq_of_mem_set hnd with h1 | rfl
    · exact h.nodes nd h1
    · show (overwrite _ _ _).length = _
      rw [List.getD_eq_getElem _ _ hc, overwrite_length _ _ _ (by omega), hn]
  · have hl : ∀ x ∈ s.root.map Node.ptr, x.length = s.baseSize := by
      intro x hx
      obtain ⟨nd, hnd, rfl⟩ := List.mem_map.mp hx
      exact h.nodes nd hnd
    have h1 := flatten_set_overwrite s.baseSize (s.root.map Node.ptr) hl c o bs
      (by rw [List.length_map]; exact hc) ho
    rw [List.getElem_map] at h1
    rw [flat, List.map_set, List.getD_eq_getElem _ _ hc]
    exact h1

theorem Shape.load {s : ByteArray} (h : Shape s) {c o n : Nat} (hc : c < s.root.length)
    (ho : o + n ≤ s.baseSize) :
    s.load c o n = some (slice s.cells (s.baseSize * c + o) n) := by
  have hl : ∀ x ∈ s.root.map Node.ptr, x.length = s.baseSize := by
    intro x hx
    obtain ⟨nd, hnd, rfl⟩ := List.mem_map.mp hx
    exact h.nodes nd hnd
  have h1 := slice_block s.baseSize (s.root.map Node.ptr) hl c o n
    (by rw [List.length_map]; exact hc) ho
  rw [List.getElem_map] at h1
  unfold ByteArray.load
  rw [if_pos (by rw [h.nodeSize hc]; exact ho), List.getD_eq_getElem _ _ hc, h1]
  rfl

/-! ## the loops of `write` and `read` -/

/-- `s` with other block contents, position and current block -/
def moved (s : ByteArray) (r : List Node) (p : Nat) (c : Option Nat) : ByteArray :=
  { s with root := r, position := p, cur := c }

theorem Shape.moved {s : ByteArray} (h : Shape s) {r : List Node} (hr : r.length = s.root.length)
    (hsz : ∀ nd ∈ r, nd.size = s.baseSize) (p : Nat) (c : Option Nat) : Shape (s.moved r p c) :=
  ⟨h.base, hsz, by show s.capacity = s.baseSize * r.length; rw [h.cap, hr]⟩

theorem next_moved (s : ByteArray) {r : List Node} (hr : r.length = s.root.length) (p : Nat)
    (c : Option Nat) (i : Nat) : (s.moved r p c).next i = s.next i := by
  show (if i + 1 < r.length then _ else _) = if i + 1 < s.root.length then _ else _
  rw [hr]

theorem Shape.has_next {s : ByteArray} (h : Shape s) {c p : Nat} (hc : c < s.root.length)
    (hp : s.baseSize * c + s.baseSize < p) (hfit : p ≤ s.capacity) : c + 1 < s.root.length := by
  by_contra hno
  have e : s.capacity = s.baseSize * (c + 1) := by rw [h.cap]; congr 1; omega
  rw [Nat.mul_succ] at e
  omega

theorem Shape.cur_after {s : ByteArray} (h : Shape s) {c o n : Nat} (hc : c < s.root.length)
    (hp : s.position = s.baseSize * c + o) (hle : o + n ≤ s.baseSize) :
    (if s.baseSize = o + n then s.next c else some c) = s.curAt (s.position + n) := by
  by_cases hend : s.baseSize = o + n
  · rw [if_pos hend, ← h.curAt_end hc, hp,
      show s.baseSize * (c + 1) = s.baseSize * c + o + n by rw [Nat.mul_succ]; omega]
  · rw [if_neg hend, hp, Nat.add_assoc, h.curAt_mid hc (by omega)]

theorem writeLoop_spec (fuel : Nat) : ∀ (buf : List UInt8) (o : Nat) (s : ByteArray) (c : Nat),
    Shape s → s.cur = some c → c < s.root.length → o < s.baseSize →
    s.position = s.baseSize * c + o → buf ≠ [] → s.position + buf.length ≤ s.capacity →
    s.root.length - c < fuel →
    ∃ r, writeLoop fuel buf o (s.baseSize - o) s
        = .ok () (s.moved r (s.position + buf.length) (s.curAt (s.position + buf.length))) ∧
      r.length = s.root.length ∧ (∀ nd ∈ r, nd.size = s.baseSize) ∧
      flat r = overwrite s.cells s.position buf := by
  induction fuel with
  | zero => intro buf o s c _ _ _ _ _ _ _ hf; omega
  | succ fuel ih =>
    intro buf o s c h hcur hc ho hp hne hfit hf
    have hb := h.base
    have hlen : buf.length ≠ 0 := by simpa using hne
    unfold writeLoop
    rw [if_neg hlen, hcur]
    by_cases hle : buf.length ≤ s.baseSize - o
    · obtain ⟨r, hst, hr, hsz, hfl⟩ := h.store hc (show o + buf.length ≤ s.baseSize by omega)
      obtain ⟨k, rfl⟩ : ∃ k, fuel = k + 1 := ⟨fuel - 1, by omega⟩
      refine ⟨r, ?_, hr, hsz, by rw [hp]; exact hfl⟩
      have hn : (s.moved r s.position s.cur).nodeSize c = s.baseSize :=
        (h.moved hr hsz _ _).nodeSize (show c < r.length by omega)
      have hcur' := h.cur_after (n := buf.length) hc hp (by omega)
      rw [← next_moved s hr s.position s.cur, ← hn, ← hcur] at hcur'
      simp only [if_pos hle, hst]
      rw [← hcur']
      rfl
    · have htk : (buf.take (s.baseSize - o)).length = s.baseSize - o := by
        rw [List.length_take]; omega
      obtain ⟨r, hst, hr, hsz, hfl⟩ := h.store hc
        (show o + (buf.take (s.baseSize - o)).length ≤ s.baseSize by omega)
      have hmul : s.baseSize * (c + 1) = s.baseSize * c + s.baseSize := Nat.mul_succ _ _
      have hc' : c + 1 < s.root.length := h.has_next hc (by omega) hfit
      have hnx : (s.moved r s.position s.cur).next c = some (c + 1) := by
        rw [next_moved s hr, Shape.next_eq hc']
      have hsh := h.moved hr hsz (s.position + (s.baseSize - o)) (some (c + 1))
      have hn : (s.moved r (s.position + (s.baseSize - o)) (some (c + 1))).nodeSize (c + 1)
          = s.baseSize := hsh.nodeSize (show c + 1 < r.length by omega)
      have hdl : (buf.drop (s.baseSize - o)).length = buf.length - (s.baseSize - o) :=
        List.length_drop
      obtain ⟨r', heq, hr', hsz', hfl'⟩ := ih (buf.drop (s.baseSize - o)) 0 _ (c + 1) hsh rfl
        (show c + 1 < r.length by omega) (show 0 < s.baseSize by omega)
        (show s.position + (s.baseSize - o) = s.baseSize * (c + 1) + 0 by omega)
        (List.ne_nil_of_length_pos (by omega))
        (show s.position + (s.baseSize - o) + _ ≤ s.capacity by omega)
        (show r.length - (c + 1) < fuel by omega)
      refine ⟨r', ?_, by rw [hr']; exact hr, hsz', ?_⟩
      · have e : s.position + (s.baseSize - o) + (buf.drop (s.baseSize - o)).length
            = s.position + buf.length := by omega
        have heq' : writeLoop fuel (buf.drop (s.baseSize - o)) 0 s.baseSize
            (s.moved r (s.position + (s.baseSize - o)) (some (c + 1)))
            = .ok () (s.moved r' (s.position + (s.baseSize - o) + (buf.drop (s.baseSize - o)).length)
              (s.curAt (s.position + (s.baseSize - o) + (buf.drop (s.baseSize - o)).length))) := heq
        rw [e] at heq'
        simp only [ByteArray.moved] at hnx
        simp only [if_neg hle, hst, ByteArray.moved, hnx]
        show writeLoop fuel _ 0 ((s.moved r (s.position + (s.baseSize - o)) (some (c + 1))).nodeSize
          (c + 1)) _ = _
        rw [hn]
        exact heq'
      · rw [hfl']
        show overwrite (flat r) (s.position + (s.baseSize - o)) _ = _
        rw [hfl, ← hp]
        conv_rhs => rw [← List.take_append_drop (s.baseSize - o) buf,
          overwrite_append _ _ _ _ (by rw [h.cells_length]; omega)]
        rw [htk]

theorem readLoop_spec (fuel : Nat) : ∀ (n o : Nat) (acc : List UInt8) (s : ByteArray) (c : Nat),
    Shape s → s.cur = some c → c < s.root.length → o < s.baseSize →
    s.position = s.baseSize * c + o → 0 < n → s.position + n ≤ s.capacity →
    s.root.length - c < fuel →
    readLoop fuel n o (s.baseSize - o) acc s
      = .ok (acc ++ slice s.cells s.position n)
          (s.moved s.root (s.position + n) (s.curAt (s.position + n))) := by
  induction fuel with
  | zero => intro n o acc s c _ _ _ _ _ _ _ hf; omega
  | succ fuel ih =>
    intro n o acc s c h hcur hc ho hp hn0 hfit hf
    have hb := h.base
    unfold readLoop
    rw [if_neg (by omega), hcur]
    by_cases hle : n ≤ s.baseSize - o
    · obtain ⟨k, rfl⟩ : ∃ k, fuel = k + 1 := ⟨fuel - 1, by omega⟩
      have hld := h.load hc (show o + n ≤ s.baseSize by omega)
      have hcur' := h.cur_after hc hp (show o + n ≤ s.baseSize by omega)
      rw [← h.nodeSize hc] at hcur'
      simp only [if_pos hle, hld, ← hp]
      rw [← hcur']
      rfl
    · have hld := h.load hc (show o + (s.baseSize - o) ≤ s.baseSize by omega)
      have hmul : s.baseSize * (c + 1) = s.baseSize * c + s.baseSize := Nat.mul_succ _ _
      have hc' : c + 1 < s.root.length := h.has_next hc (by omega) hfit
      have hnx : s.next c = some (c + 1) := Shape.next_eq hc'
      have hsh := h.moved rfl h.nodes (s.position + (s.baseSize - o)) (some (c + 1))
      have hn : (s.moved s.root (s.position + (s.baseSize - o)) (some (c + 1))).nodeSize (c + 1)
          = s.baseSize := hsh.nodeSize hc'
      have hrec := ih (n - (s.baseSize - o)) 0 (acc ++ slice s.cells s.position (s.baseSize - o))
        _ (c + 1) hsh rfl hc' (show 0 < s.baseSize by omega)
        (show s.position + (s.baseSize - o) = s.baseSize * (c + 1) + 0 by omega) (by omega)
        (show s.position + (s.baseSize - o) + (n - (s.baseSize - o)) ≤ s.capacity by omega)
        (show s.root.length - (c + 1) < fuel by omega)
      have e : s.position + (s.baseSize - o) + (n - (s.baseSize - o)) = s.position + n := by omega
      have hsl : slice s.cells s.position n = slice s.cells s.position (s.baseSize - o)
          ++ slice s.cells (s.position + (s.baseSize - o)) (n - (s.baseSize - o)) := by
        rw [← slice_add]
        congr 1
        omega
      have hrec' : readLoop fuel (n - (s.baseSize - o)) 0 s.baseSize
          (acc ++ slice s.cells s.position (s.baseSize - o))
          (s.moved s.root (s.position + (s.baseSize - o)) (some (c + 1)))
          = .ok (acc ++ slice s.cells s.position (s.baseSize - o)
              ++ slice s.cells (s.position + (s.baseSize - o)) (n - (s.baseSize - o)))
            (s.moved s.root (s.position + (s.baseSize - o) + (n - (s.baseSize - o)))
              (s.curAt (s.position + (s.baseSize - o) + (n - (s.baseSize - o))))) := hrec
      rw [e, List.append_assoc, ← hsl] at hrec'
      simp only [if_neg hle, hld, ← hp, hnx]
      show readLoop fuel _ 0 ((s.moved s.root (s.position + (s.baseSize - o)) (some (c + 1))).nodeSize
        (c + 1)) _ _ = _
      rw [hn]
      exact hrec'

/-! ## one lemma for each operation -/

theorem Inv.cells_length {s : ByteArray} (h : Inv s) : s.cells.length = s.capacity :=
  h.toShape.cells_length

theorem Inv.cur_block {s : ByteArray} (h : Inv s) (hp : s.position < s.capacity) :
    s.cur = some (s.position / s.baseSize) ∧ s.position / s.baseSize < s.root.length ∧
      s.position % s.baseSize < s.baseSize ∧
      s.position = s.baseSize * (s.position / s.baseSize) + s.position % s.baseSize := by
  obtain ⟨hblock, hoff, hsplit⟩ := h.toShape.place hp
  refine ⟨?_, hblock, hoff, hsplit.symm⟩
  rw [h.cur_eq]
  unfold curAt
  rw [if_neg (by omega)]

section
variable (fill : Nat → Nat → UInt8)

theorem newNode_size (k b : Nat) : (newNode fill k b).size = b := by
  simp [newNode, Node.size]

/-- what `addCapacity` leaves alone, and the room it makes -/
theorem addCapacity_spec {s : ByteArray} (h : Inv s) (n : Nat) :
    ∃ added : List Node, s.addCapacity fill n =
        { s with root := s.root ++ added, capacity := s.capacity + added.length * s.baseSize
                 allocs := s.allocs + added.length
                 cur := (s.addCapacity fill n).cur } ∧
      (∀ nd ∈ added, nd.size = s.baseSize) ∧
      s.position + n ≤ s.capacity + added.length * s.baseSize ∧
      (added = [] ∨ s.capacity + added.length * s.baseSize < s.position + n + s.baseSize) ∧
      (n ≠ 0 → (s.addCapacity fill n).cur = some (s.position / s.baseSize)) := by
  have hb := h.base
  have hle : s.position ≤ s.capacity := h.pos_le.trans h.size_le
  by_cases h0 : n = 0
  · refine ⟨[], ?_, by simp, by simp [h0, hle], .inl rfl, fun hn => absurd h0 hn⟩
    unfold addCapacity
    simp [h0]
  by_cases hroom : n ≤ s.getRemainCapacity
  · have hr : n ≤ s.capacity - s.position := hroom
    have he : s.addCapacity fill n = s := by
      unfold addCapacity
      rw [if_neg h0]
      simp only [if_pos hroom]
    refine ⟨[], ?_, by simp, by simp; omega, .inl rfl, fun _ => ?_⟩
    · rw [he]; simp
    · rw [he]
      exact (h.cur_block (by omega)).1
  · have hr : ¬ n ≤ s.capacity - s.position := hroom
    obtain ⟨k, hk⟩ : ∃ k, k = (n - s.getRemainCapacity + (s.baseSize - 1)) / s.baseSize := ⟨_, rfl⟩
    have he : s.addCapacity fill n = { s with
        root := s.root ++ (List.range k).map fun i => newNode fill (s.allocs + i) s.baseSize
        capacity := s.capacity + k * s.baseSize
        allocs := s.allocs + k
        cur := if s.getRemainCapacity = 0 then some s.root.length else s.cur } := by
      unfold addCapacity
      rw [if_neg h0]
      simp only [if_neg hroom, ← hk]
    have hr' : s.getRemainCapacity = s.capacity - s.position := rfl
    have h1 := Nat.div_add_mod (n - s.getRemainCapacity + (s.baseSize - 1)) s.baseSize
    have h2 := Nat.mod_lt (n - s.getRemainCapacity + (s.baseSize - 1))
      (show 0 < s.baseSize by omega)
    rw [← hk, Nat.mul_comm] at h1
    refine ⟨(List.range k).map fun i => newNode fill (s.allocs + i) s.baseSize, ?_, ?_, ?_, .inr ?_,
      fun _ => ?_⟩
    · rw [he, List.length_map, List.length_range]
    · intro nd hnd
      obtain ⟨i, _, rfl⟩ := List.mem_map.mp hnd
      exact newNode_size fill _ _
    · rw [List.length_map, List.length_range]
      omega
    · rw [List.length_map, List.length_range]
      omega
    · rw [he]
      show (if s.getRemainCapacity = 0 then some s.root.length else s.cur) = _
      by_cases hz : s.getRemainCapacity = 0
      · rw [if_pos hz, show s.position = s.baseSize * s.root.length by rw [← h.cap]; omega,
          Nat.mul_div_cancel_left _ (by omega)]
      · rw [if_neg hz]
        exact (h.cur_block (by omega)).1

/-- **The array with room for `n` bytes behind the position.** -/
theorem addCapacity_inv {s : ByteArray} (h : Inv s) {n : Nat} (hn : n ≠ 0) :
    Inv (s.addCapacity fill n) ∧ (s.addCapacity fill n).position = s.position
      ∧ (s.addCapacity fill n).size = s.size ∧ (s.addCapacity fill n).baseSize = s.baseSize
      ∧ (∃ more, (s.addCapacity fill n).cells = s.cells ++ more)
      ∧ s.position + n ≤ (s.addCapacity fill n).capacity
      ∧ s.capacity ≤ (s.addCapacity fill n).capacity
      ∧ ((s.addCapacity fill n).capacity = s.capacity
        ∨ (s.addCapacity fill n).capacity < s.position + n + s.baseSize) := by
  have hb := h.base
  obtain ⟨added, hadd, hsz, hroom, htight, hcur⟩ := addCapacity_spec fill h n
  have hcur := hcur hn
  generalize s.addCapacity fill n = t at hadd hcur
  have hroot : t.root = s.root ++ added := by rw [hadd]
  have hpos : t.position = s.position := by rw [hadd]
  have hsize : t.size = s.size := by rw [hadd]
  have hbase : t.baseSize = s.baseSize := by rw [hadd]
  have hcap : t.capacity = s.capacity + added.length * s.baseSize := by rw [hadd]
  have hcells : t.cells = s.cells ++ flat added := by rw [cells, hroot, flat_append, cells]
  refine ⟨⟨⟨by omega, ?_, ?_⟩, ?_, ?_, ?_, ?_⟩, hpos, hsize, hbase, ⟨_, hcells⟩, by omega, by omega,
    ?_⟩
  · intro nd hnd
    rw [hroot] at hnd
    rw [hbase]
    rcases List.mem_append.mp hnd with hold | hnew
    · exact h.nodes nd hold
    · exact hsz nd hnew
  · rw [hcap, hroot, hbase, List.length_append, h.cap, Nat.mul_add, Nat.mul_comm added.length]
  · have hsome := h.some_node
    rw [hroot, List.length_append]
    omega
  · rw [hpos, hsize]
    exact h.pos_le
  · rw [hsize, hcap]
    exact Nat.le_trans h.size_le (Nat.le_add_right _ _)
  · rw [hcur, curAt, hpos, hbase, if_neg (by omega)]
  · rcases htight with rfl | htight
    · left
      rw [hcap, List.length_nil, Nat.zero_mul, Nat.add_zero]
    · right
      rw [hcap]
      exact htight

theorem addCapacity_endian {s : ByteArray} (h : Inv s) (n : Nat) :
    (s.addCapacity fill n).endian = s.endian := by
  obtain ⟨added, hadd, _⟩ := addCapacity_spec fill h n
  rw [hadd]

/-- `write` puts its bytes at the position; the invariant, the old bytes and the byte order stay -/
theorem write_spec {s : ByteArray} (h : Inv s) (buf : List UInt8) :
    ∃ s', s.write fill buf = .ok () s' ∧ Inv s' ∧ s'.baseSize = s.baseSize ∧
      s'.endian = s.endian ∧ s'.position = s.position + buf.length ∧
      s'.size = max s.size (s.position + buf.length) ∧ s.capacity ≤ s'.capacity ∧
      (s'.capacity = s.capacity ∨ s'.capacity < s.position + buf.length + s.baseSize) ∧
      ∃ more, s.position + buf.length ≤ (s.cells ++ more).length ∧
        s'.cells = overwrite (s.cells ++ more) s.position buf := by
  by_cases h0 : buf = []
  · subst h0
    have h1 := h.pos_le
    have h2 := h.size_le
    refine ⟨s, rfl, h, rfl, rfl, rfl, ?_, le_refl _, .inl rfl, [], ?_, by simp⟩
    · simp only [List.length_nil, Nat.add_zero]
      omega
    · rw [List.append_nil, h.cells_length, List.length_nil]
      omega
  · have hlen : buf.length ≠ 0 := by simpa using h0
    have hendian := addCapacity_endian fill h buf.length
    obtain ⟨ht, hpos, hsize, hbase, ⟨more, hcells⟩, hroom, hle, htight⟩ :=
      addCapacity_inv fill h hlen
    generalize hadd : s.addCapacity fill buf.length = t at *
    obtain ⟨hcur, hlt, hoff, hsplit⟩ := ht.cur_block (by omega)
    obtain ⟨r, hw, hr, hrsz, hfl⟩ := writeLoop_spec (t.root.length + 1) buf
      (t.position % t.baseSize) t _ ht.toShape hcur hlt hoff hsplit h0 (by omega)
      (Nat.lt_succ_of_le (Nat.sub_le _ _))
    have hn := ht.toShape.nodeSize hlt
    refine ⟨{ t.moved r (t.position + buf.length) (t.curAt (t.position + buf.length)) with
        size := max s.size (s.position + buf.length) }, ?_, ?_, hbase, hendian,
        by show t.position + _ = _; rw [hpos], rfl, hle, htight, more, ?_, ?_⟩
    · unfold write
      rw [if_neg hlen]
      simp only [hadd, hcur, hn, hw]
      have e : (if t.position + buf.length > t.size then t.position + buf.length else t.size)
          = max s.size (s.position + buf.length) := by
        rw [hpos, hsize]
        split <;> omega
      rw [← e]
      rfl
    · have hsh := ht.toShape.moved hr hrsz (t.position + buf.length)
        (t.curAt (t.position + buf.length))
      have h1 := ht.size_le
      have h2 := ht.some_node
      exact ⟨⟨hsh.base, hsh.nodes, hsh.cap⟩, by show 1 ≤ r.length; omega,
        by show t.position + buf.length ≤ max s.size (s.position + buf.length); omega,
        by show max s.size (s.position + buf.length) ≤ t.capacity; omega, rfl⟩
    · rw [← hcells, ht.cells_length]
      exact hroom
    · show flat r = _
      rw [hfl, hpos, hcells]

theorem read_spec {s : ByteArray} (h : Inv s) (n : Nat) (h0 : 0 < n)
    (hn : n ≤ s.size - s.position) :
    s.read n = .ok (slice s.cells s.position n)
      (s.moved s.root (s.position + n) (s.curAt (s.position + n))) := by
  have hsl := h.size_le
  have hb := h.base
  obtain ⟨hcur, hlt, ho, hpos⟩ := h.cur_block (by omega)
  have hl := readLoop_spec (s.root.length + 1) n (s.position % s.baseSize) [] s _ h.toShape hcur hlt
    ho hpos h0 (by omega) (Nat.lt_succ_of_le (Nat.sub_le _ _))
  have hs := h.toShape.nodeSize hlt
  have hg : ¬ n > s.getReadSize := Nat.not_lt.mpr hn
  unfold read
  rw [if_neg hg]
  simp only [hcur, hs, hl, List.nil_append]

theorem read_inv {s : ByteArray} (h : Inv s) (n : Nat) (hn : n ≤ s.size - s.position) :
    Inv (s.moved s.root (s.position + n) (s.curAt (s.position + n))) :=
  ⟨h.toShape.moved rfl h.nodes _ _, h.some_node,
    by show s.position + n ≤ s.size; have := h.pos_le; omega, h.size_le, rfl⟩

theorem read_throws (s : ByteArray) (n : Nat) (hn : s.size - s.position < n) :
    s.read n = .error .outOfRange s := by
  have hg : n > s.getReadSize := hn
  unfold read
  rw [if_pos hg]

theorem seekLoop_spec (fuel : Nat) : ∀ (val c : Nat) (s : ByteArray), Shape s →
    c < s.root.length → s.baseSize * c + val < s.capacity → s.root.length - c < fuel →
    seekLoop fuel val c s = .ok () { s with cur := s.curAt (s.baseSize * c + val) } := by
  induction fuel with
  | zero => intro val c s _ _ _ hf; omega
  | succ fuel ih =>
    intro val c s h hc hv hf
    have hmul : s.baseSize * (c + 1) = s.baseSize * c + s.baseSize := Nat.mul_succ _ _
    unfold seekLoop
    rw [h.nodeSize hc]
    by_cases hle : s.baseSize ≤ val
    · have hc' : c + 1 < s.root.length := by
        by_contra hno
        have e : s.capacity = s.baseSize * (c + 1) := by rw [h.cap]; congr 1; omega
        omega
      rw [if_pos hle, Shape.next_eq hc']
      show seekLoop fuel (val - s.baseSize) (c + 1) s = _
      rw [ih _ _ s h hc' (by omega) (by omega),
        show s.baseSize * (c + 1) + (val - s.baseSize) = s.baseSize * c + val by omega]
    · rw [if_neg hle, h.curAt_mid hc (by omega)]

theorem setPosition_spec {s : ByteArray} (h : Inv s) (v : Nat) (hv : v < s.capacity) :
    s.setPosition v
      = .ok () { s with position := v, size := max s.size v, cur := s.curAt v } := by
  have h1 : (if v > s.size then v else s.size) = max s.size v := by split <;> omega
  have hs := h.some_node
  unfold setPosition
  rw [if_neg (by omega), h1]
  have hw := seekLoop_spec (s.root.length + 1) v 0
    { s with position := v, size := max s.size v, cur := some 0 } ⟨h.base, h.nodes, h.cap⟩
    (show 0 < s.root.length by omega) (show s.baseSize * 0 + v < s.capacity by omega)
    (show s.root.length - 0 < s.root.length + 1 by omega)
  rw [Nat.mul_zero, Nat.zero_add] at hw
  exact hw

theorem setPosition_inv {s : ByteArray} (h : Inv s) (v : Nat) (hv : v < s.capacity) :
    Inv { s with position := v, size := max s.size v, cur := s.curAt v } :=
  ⟨⟨h.base, h.nodes, h.cap⟩, h.some_node, Nat.le_max_right _ _,
    Nat.max_le.mpr ⟨h.size_le, hv.le⟩, rfl⟩

theorem clear_inv {s : ByteArray} (h : Inv s) : Inv s.clear := by
  have h1 := h.some_node
  have hb := h.base
  have hl : (s.root.take 1).length = 1 := by rw [List.length_take]; omega
  refine ⟨⟨hb, fun nd hnd => h.nodes nd (List.mem_of_mem_take hnd), ?_⟩, hl.ge, le_refl _,
    Nat.zero_le _, ?_⟩
  · show s.baseSize = s.baseSize * (s.root.take 1).length
    rw [hl, Nat.mul_one]
  · show some 0 = if 0 = s.baseSize then none else some (0 / s.baseSize)
    rw [if_neg (by omega), Nat.zero_div]

theorem new_inv (b : Nat) (hb : 1 ≤ b) : Inv (new fill b) := by
  refine ⟨⟨hb, ?_, (Nat.mul_one b).symm⟩, le_refl _, le_refl _, Nat.zero_le _, ?_⟩
  · intro nd hnd
    rw [List.mem_singleton.mp hnd]
    exact newNode_size fill _ _
  · show some 0 = if 0 = b then none else some (0 / b)
    rw [if_neg (by omega), Nat.zero_div]

/-! ## writing at the end -/

def content (s : ByteArray) : List UInt8 := slice s.cells 0 s.size

/-- the position is the end of the content, and there is no block that is not needed -/
structure AtEnd (s : ByteArray) : Prop extends Inv s where
  pos_eq : s.position = s.size
  tight : s.capacity = s.baseSize ∨ s.capacity < s.size + s.baseSize

theorem new_atEnd (b : Nat) (hb : 1 ≤ b) : AtEnd (new fill b) :=
  ⟨new_inv fill b hb, rfl, .inl rfl⟩

theorem write_append {s : ByteArray} (h : AtEnd s) (buf : List UInt8) :
    ∃ s', s.write fill buf = .ok () s' ∧ AtEnd s' ∧ s'.baseSize = s.baseSize ∧
      s'.endian = s.endian ∧ s'.content = s.content ++ buf := by
  obtain ⟨s', hw, hi, hb, he, hp, hsz, _, hcap, more, hroom, hc⟩ := write_spec fill h.toInv buf
  have hpe := h.pos_eq
  have hsz' : s'.size = s.size + buf.length := by omega
  refine ⟨s', hw, ⟨hi, by omega, ?_⟩, hb, he, ?_⟩
  · rcases hcap with hcap | hcap
    · rcases h.tight with ht | ht
      · exact .inl (by omega)
      · exact .inr (by omega)
    · exact .inr (by omega)
  · have h1 : slice s'.cells 0 s.size = s.content := by
      apply slice_congr
      intro i _ hi'
      rw [hc, getElem?_overwrite _ _ _ _ hroom (by omega)]
      apply List.getElem?_append_left
      rw [h.toInv.cells_length]
      exact lt_of_lt_of_le (show i < s.size by omega) h.size_le
    have h2 : slice s'.cells s.size buf.length = buf := by
      rw [hc, ← hpe]
      exact slice_overwrite _ _ _ hroom
    show slice s'.cells 0 s'.size = _
    rw [hsz', slice_add, Nat.zero_add, h1, h2]

/-! ## reading what is known to come -/

/-- the next bytes at the position are `bs` -/
structure Ahead (s : ByteArray) (bs : List UInt8) : Prop extends Inv s where
  room : bs.length ≤ s.size - s.position
  here : slice s.cells s.position bs.length = bs

/-- `s` with the cursor `n` bytes further -/
def advance (s : ByteArray) (n : Nat) : ByteArray :=
  s.moved s.root (s.position + n) (s.curAt (s.position + n))

theorem advance_zero {s : ByteArray} (h : Inv s) : s.advance 0 = s := by
  show ({ s with cur := s.curAt s.position } : ByteArray) = s
  rw [← h.cur_eq]

theorem advance_advance (s : ByteArray) (m n : Nat) :
    (s.advance m).advance n = s.advance (m + n) := by
  have e : s.position + m + n = s.position + (m + n) := Nat.add_assoc _ _ _
  show s.moved s.root (s.position + m + n) (s.curAt (s.position + m + n)) = _
  rw [e]
  rfl

theorem Ahead.split {s : ByteArray} {bs rest : List UInt8} (h : Ahead s (bs ++ rest)) :
    slice s.cells s.position bs.length = bs ∧
      slice s.cells (s.position + bs.length) rest.length = rest := by
  have h1 := h.here
  rw [List.length_append, slice_add] at h1
  have hr := h.room
  have h2 := h.size_le
  rw [List.length_append] at hr
  have hl : (slice s.cells s.position bs.length).length = bs.length :=
    slice_length _ _ _ (by rw [h.toInv.cells_length]; have := h.pos_le; omega)
  exact List.append_inj h1 hl

theorem Ahead.read {s : ByteArray} {bs rest : List UInt8} (h : Ahead s (bs ++ rest))
    (h0 : bs ≠ []) : s.read bs.length = .ok bs (s.advance bs.length) := by
  have hr := h.room
  rw [List.length_append] at hr
  rw [read_spec h.toInv _ (List.length_pos_iff.mpr h0) (by omega), h.split.1]
  rfl

theorem Ahead.advance {s : ByteArray} {bs rest : List UInt8} (h : Ahead s (bs ++ rest)) :
    Ahead (s.advance bs.length) rest := by
  have hr := h.room
  rw [List.length_append] at hr
  refine ⟨read_inv h.toInv _ (by omega), ?_, h.split.2⟩
  show rest.length ≤ s.size - (s.position + bs.length)
  omega

theorem ahead_content {s : ByteArray} (h : Inv s) :
    ∃ s', s.setPosition 0 = .ok () s' ∧ s'.position = 0 ∧ s'.endian = s.endian ∧
      s'.capacity = s.capacity ∧ Ahead s' s.content := by
  have h0 : 0 < s.capacity := by
    rw [h.cap]
    exact Nat.mul_pos h.base h.some_node
  have hl : s.content.length = s.size :=
    slice_length _ _ _ (by rw [h.cells_length, Nat.zero_add]; exact h.size_le)
  refine ⟨_, setPosition_spec h 0 h0, rfl, rfl, rfl, setPosition_inv h 0 h0, ?_, ?_⟩
  · show s.content.length ≤ max s.size 0 - 0
    omega
  · rw [hl]
    rfl

end
end ByteArray
end KitServer
