import KitServer.ByteArray.Buffers

/-!
# `SocketStream::read` into a `ByteArray`

The room behind the position is handed to `recvmsg` as a list of `iovec`s, and the position is
then set behind the bytes that came.

* `recvmsg`         what the kernel does with the `iovec`s of `getWriteBuf`;
* `socketRead_iff`  the calls after which the bytes are in the array.

One call of `recvmsg` moves fewer than `2 ^ 31` bytes, so its result is not cut to an `int`.
-/

set_option linter.unusedVariables false

namespace KitServer
namespace ByteArray

/-- what comes from the peer: an error, or bytes -/
inductive Received where
  | error
  | bytes (bs : List UInt8)

def recvmsg (buffers : List IoVec) (received : Received) (s : ByteArray) :
    Option (Int × ByteArray) :=
  match received with
  | .error => some (-1, s)
  | .bytes bs => (scatter buffers bs s).map fun s => ((bs.length : Int), s)

/-- `setPosition` behind the bytes that came -/
def moveBehind (ret : Int) (s : ByteArray) : Res Int :=
  if ret > 0 then
    match s.setPosition (s.position + ret.toNat) with
    | .error e s => .error e s
    | .ok _ s => .ok ret s
  else .ok ret s

/-- `SocketStream::read` into a `ByteArray` -/
def socketRead (fill : Nat → Nat → UInt8) (isConnected : Bool) (len : Nat) (received : Received)
    (s : ByteArray) : Res Int :=
  if !isConnected then .ok (-1) s
  else
    match getWriteBuf fill [] len s with
    | .error e s => .error e s
    | .ok (iovs, _) s =>
      match recvmsg iovs received s with
      | none => .error .outOfBlock s
      | some (ret, s) => moveBehind ret s

theorem seekLoop_capacity (fuel : Nat) : ∀ (val c : Nat) (s : ByteArray), Shape s →
    c < s.root.length → s.baseSize * c + val = s.capacity → s.root.length - c < fuel →
    seekLoop fuel val c s = .error .nullCur { s with cur := none } := by
  induction fuel with
  | zero =>
    intro val c s _ _ _ hf
    omega
  | succ fuel ih =>
    intro val c s h hc hv hf
    have hlt := h.lt_cap hc
    have hmul : s.baseSize * (c + 1) = s.baseSize * c + s.baseSize := Nat.mul_succ _ _
    unfold seekLoop
    rw [h.nodeSize hc, if_pos (by omega)]
    by_cases hc' : c + 1 < s.root.length
    · have hnext : s.next c = some (c + 1) := by
        unfold ByteArray.next
        rw [if_pos hc']
      rw [hnext]
      exact ih _ _ s h hc' (by omega) (by omega)
    · have hnext : s.next c = none := by
        unfold ByteArray.next
        rw [if_neg hc']
      rw [hnext]

/-! ## the call -/

section
variable (fill : Nat → Nat → UInt8)

/-- the calls after which a `ByteArray` is as it is: operations of its own, and reads from
sockets -/
inductive Reached (b : Nat) : ByteArray → Prop where
  | new : Reached b (new fill b)
  | exec {s s' : ByteArray} {op : Op} {out : Out} :
    Reached b s → op.ok s → s.exec fill op = (out, s') → Reached b s'
  | socketRead {s s' : ByteArray} (isConnected : Bool) (len : Nat) (received : Received) (ret : Int) :
    Reached b s → (∀ bs, received = .bytes bs → bs.length ≤ len) →
    s.socketRead fill isConnected len received = .ok ret s' → Reached b s'

/-- the bytes are behind the old position, the others are as they were, and the position is behind
them -/
def Receives (s : ByteArray) (bs : List UInt8) (r : Res Int) : Prop :=
  ∃ s', r = .ok (bs.length : Int) s'
    ∧ slice s'.cells s.position bs.length = bs
    ∧ (∀ i, i < s.size → i < s.position ∨ s.position + bs.length ≤ i → s'.cells[i]? = s.cells[i]?)
    ∧ s'.position = s.position + bs.length
    ∧ s'.size = max s.size s'.position
    ∧ s'.cur = if s'.position = s'.capacity then none else some (s'.position / s'.baseSize)

theorem socketRead_bytes {s : ByteArray} (h : Inv s) {len : Nat} (hlen : 1 ≤ len)
    {bs : List UInt8} (hbs : bs.length ≤ len) :
    ∃ t, Inv t ∧ t.position = s.position ∧ t.size = s.size ∧ t.baseSize = s.baseSize
      ∧ t.capacity = (s.addCapacity fill len).capacity
      ∧ t.cells = overwrite (s.addCapacity fill len).cells s.position bs
      ∧ s.socketRead fill true len (.bytes bs) = moveBehind bs.length t := by
  obtain ⟨_, hpos, hsize, hbase, _⟩ := addCapacity_inv fill h (show len ≠ 0 by omega)
  obtain ⟨vs, r, hbuf, hscatter, hr, hflat⟩ := getWriteBuf_scatter fill h [] hlen hbs
  refine ⟨_, hr, hpos, hsize, hbase, rfl, hflat, ?_⟩
  unfold socketRead
  rw [if_neg (by decide), hbuf]
  dsimp only
  rw [recvmsg, List.nil_append, hscatter]
  rfl

theorem setPosition_capacity {s : ByteArray} (h : Inv s) :
    ∃ t, s.setPosition s.capacity = .error .nullCur t := by
  have hs := h.some_node
  unfold setPosition
  rw [if_neg (Nat.lt_irrefl _)]
  exact ⟨_, seekLoop_capacity (s.root.length + 1) s.capacity 0 _ ⟨h.base, h.nodes, h.cap⟩
    (show 0 < s.root.length by omega) (show s.baseSize * 0 + s.capacity = s.capacity by omega)
    (show s.root.length - 0 < s.root.length + 1 by omega)⟩

theorem socketRead_receives {s : ByteArray} (h : Inv s) {len : Nat} (hlen : 1 ≤ len)
    {bs : List UInt8} (hpos : 1 ≤ bs.length) (hbs : bs.length ≤ len)
    (hend : s.position + bs.length ≠ (s.addCapacity fill len).capacity) :
    Receives s bs (s.socketRead fill true len (.bytes bs))
      ∧ ∀ ret s', s.socketRead fill true len (.bytes bs) = .ok ret s' → Inv s'
        ∧ s'.baseSize = s.baseSize := by
  obtain ⟨hgrown, _, _, _, ⟨more, hmore⟩, hroom, _⟩ :=
    addCapacity_inv fill h (show len ≠ 0 by omega)
  obtain ⟨t, ht, htpos, htsize, htbase, htcap, htcells, hcall⟩ := socketRead_bytes fill h hlen hbs
  have hlt : s.position + bs.length < t.capacity := by omega
  rw [moveBehind, if_pos (by omega), htpos, Int.toNat_natCast, setPosition_spec ht _ hlt] at hcall
  have hfit : s.position + bs.length ≤ (s.cells ++ more).length := by
    rw [← hmore, hgrown.cells_length]
    omega
  rw [hcall]
  refine ⟨⟨_, rfl, ?_, ?_, rfl, ?_, rfl⟩, ?_⟩
  · show slice t.cells s.position bs.length = bs
    rw [htcells, hmore]
    exact slice_overwrite _ _ _ hfit
  · intro i hi hout
    show t.cells[i]? = s.cells[i]?
    rw [htcells, hmore, getElem?_overwrite _ _ _ _ hfit hout]
    refine List.getElem?_append_left ?_
    rw [h.cells_length]
    exact Nat.lt_of_lt_of_le hi h.size_le
  · show max t.size _ = max s.size _
    rw [htsize]
  · rintro ret s' ⟨⟩
    exact ⟨setPosition_inv ht _ hlt, htbase⟩

theorem socketRead_crashes {s : ByteArray} (h : Inv s) {len : Nat} (hlen : 1 ≤ len)
    {bs : List UInt8} (hpos : 1 ≤ bs.length) (hbs : bs.length ≤ len)
    (hend : s.position + bs.length = (s.addCapacity fill len).capacity) :
    ∃ t, s.socketRead fill true len (.bytes bs) = .error .nullCur t := by
  obtain ⟨t, ht, htpos, _, _, htcap, _, hcall⟩ := socketRead_bytes fill h hlen hbs
  obtain ⟨t', ht'⟩ := setPosition_capacity ht
  rw [moveBehind, if_pos (by omega), htpos, Int.toNat_natCast, hend, ← htcap, ht'] at hcall
  exact ⟨t', hcall⟩

/-- **Every read from a socket that returns keeps the invariant.** -/
theorem socketRead_inv {s s' : ByteArray} (h : Inv s) (isConnected : Bool) (len : Nat)
    (received : Received) (ret : Int) (hbs : ∀ bs, received = .bytes bs → bs.length ≤ len)
    (hcall : s.socketRead fill isConnected len received = .ok ret s') :
    Inv s' ∧ s'.baseSize = s.baseSize := by
  cases isConnected with
  | false =>
    cases hcall
    exact ⟨h, rfl⟩
  | true =>
    by_cases hlen : len = 0
    · subst hlen
      cases received with
      | error =>
        cases hcall
        exact ⟨h, rfl⟩
      | bytes bs =>
        obtain rfl : bs = [] := List.length_eq_zero_iff.mp (Nat.le_zero.mp (hbs bs rfl))
        cases hcall
        exact ⟨h, rfl⟩
    cases received with
    | error =>
      obtain ⟨vs, _, hbuf, _⟩ := getWriteBuf_scatter fill h [] (show 1 ≤ len by omega)
        (show ([] : List UInt8).length ≤ len from Nat.zero_le _)
      obtain ⟨hgrown, _, _, hbase, _⟩ := addCapacity_inv fill h hlen
      rw [socketRead, if_neg (by decide), hbuf] at hcall
      cases hcall
      exact ⟨hgrown, hbase⟩
    | bytes bs =>
      have hle := hbs bs rfl
      by_cases hnil : bs = []
      · obtain ⟨t, ht, _, _, hbase, _, _, ht'⟩ := socketRead_bytes fill h (by omega) hle
        subst hnil
        rw [ht'] at hcall
        cases hcall
        exact ⟨ht, hbase⟩
      · have hpos : 1 ≤ bs.length := List.length_pos_iff.mpr hnil
        by_cases hend : s.position + bs.length = (s.addCapacity fill len).capacity
        · obtain ⟨t, ht⟩ := socketRead_crashes fill h (by omega) hpos hle hend
          rw [ht] at hcall
          cases hcall
        · exact (socketRead_receives fill h (by omega) hpos hle hend).2 ret s' hcall

theorem Reached.inv {b : Nat} (hb : 1 ≤ b) {s : ByteArray} (h : Reached fill b s) :
    Inv s ∧ s.baseSize = b := by
  induction h with
  | new => exact ⟨new_inv fill b hb, rfl⟩
  | exec _ hop hexec ih =>
    obtain ⟨hinv, hbase, _⟩ := exec_step fill ih.1 hop hexec
    exact ⟨hinv, hbase.trans ih.2⟩
  | socketRead isConnected len received ret _ hbs hcall ih =>
    obtain ⟨hinv, hbase⟩ := socketRead_inv fill ih.1 isConnected len received ret hbs hcall
    exact ⟨hinv, hbase.trans ih.2⟩

theorem end_iff {s : ByteArray} (h : Inv s) {len n : Nat} (hlen : 1 ≤ len) (hn : n ≤ len) :
    s.position + n = (s.addCapacity fill len).capacity
      ↔ n = len ∧ s.capacity ≤ s.position + len ∧ s.baseSize ∣ s.position + len := by
  obtain ⟨hgrown, _, _, hbase, _, hroom, hle, htight⟩ :=
    addCapacity_inv fill h (show len ≠ 0 by omega)
  have hcap := hgrown.cap
  rw [hbase] at hcap
  constructor
  · intro hend
    refine ⟨by omega, by omega, ?_⟩
    have hfull : s.position + len = (s.addCapacity fill len).capacity := by omega
    rw [hfull, hcap]
    exact Nat.dvd_mul_right _ _
  · rintro ⟨rfl, hcapacity, k, hk⟩
    rcases htight with hsame | htight
    · omega
    · rw [hk, hcap] at htight hroom ⊢
      have hbounds : k ≤ (s.addCapacity fill n).root.length
          ∧ (s.addCapacity fill n).root.length < k + 1 := by
        refine ⟨Nat.le_of_mul_le_mul_left hroom h.base, ?_⟩
        refine Nat.lt_of_mul_lt_mul_left (a := s.baseSize) ?_
        rw [Nat.mul_succ]
        exact htight
      have heq : k = (s.addCapacity fill n).root.length := by omega
      rw [heq]

/-- **A read from a socket puts the bytes into the array exactly when they do not end at the end of
the last block.** -/
theorem socketRead_iff (b : Nat) (hb : 1 ≤ b) (s : ByteArray) (hs : Reached fill b s) (len : Nat)
    (bs : List UInt8) (hpos : 1 ≤ bs.length) (hbs : bs.length ≤ len) :
    Receives s bs (s.socketRead fill true len (.bytes bs))
      ↔ ¬ (bs.length = len ∧ s.capacity ≤ s.position + len ∧ b ∣ s.position + len) := by
  obtain ⟨h, hbase⟩ := hs.inv fill hb
  rw [← hbase, ← end_iff fill h (by omega) hbs]
  constructor
  · rintro ⟨s', hs', _⟩ hend
    obtain ⟨t, ht⟩ := socketRead_crashes fill h (by omega) hpos hbs hend
    rw [ht] at hs'
    cases hs'
  · exact fun hend => (socketRead_receives fill h (by omega) hpos hbs hend).1

end

/-- three bytes into a block of four -/
theorem socketRead_iff_three :
    Receives (new (fun _ _ => 0) 4) [1, 2, 3]
        ((new (fun _ _ => 0) 4).socketRead (fun _ _ => 0) true 4 (.bytes [1, 2, 3]))
      ↔ ¬ ([1, 2, 3].length = 4 ∧ (new (fun _ _ => 0) 4).capacity
          ≤ (new (fun _ _ => 0) 4).position + 4 ∧ 4 ∣ (new (fun _ _ => 0) 4).position + 4) :=
  socketRead_iff (fun _ _ => 0) 4 (by decide) _ .new 4 [1, 2, 3] (by decide) (by decide)

/-- **Four bytes into a block of four.** -/
theorem full_block_crashes : ¬ ∀ (fill : Nat → Nat → UInt8) (b : Nat), 1 ≤ b →
    ∀ s, Reached fill b s → ∀ len bs, 1 ≤ bs.length → bs.length ≤ len →
    Receives s bs (s.socketRead fill true len (.bytes bs)) := by
  intro h
  obtain ⟨s', hs', _⟩ := h (fun _ _ => 0) 4 (by decide) _ .new 4 [1, 2, 3, 4] (by decide) (by decide)
  obtain ⟨t, ht⟩ : ∃ t, (new (fun _ _ => 0) 4).socketRead (fun _ _ => 0) true 4
      (.bytes [1, 2, 3, 4]) = .error .nullCur t := ⟨_, rfl⟩
  rw [ht] at hs'
  cases hs'

end ByteArray
end KitServer
