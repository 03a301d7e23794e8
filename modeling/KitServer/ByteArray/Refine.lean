import KitServer.ByteArray.Flat

/-!
# Runs of a `ByteArray` are runs of a flat array

`Flat` says what the component is for: one array of `m_capacity` bytes, a position and the number
of bytes in use.  `Flat.Step` is one operation on it; how far a `write` extends the array, and what
the new bytes hold, is left open.  `Run` is a finite run of the operations of `bytearray.cpp`.

* `exec_refines`   one operation is a step of the flat array (and no fault);
* `run_refines`    a run from a fresh array is a run of the flat array, and ends in a state that
                   satisfies the invariant.
-/

set_option linter.unusedVariables false

namespace KitServer
namespace ByteArray

/-! ## the flat array -/

structure Flat where
  cells : List UInt8
  position : Nat
  size : Nat

inductive Op where
  | write (buf : List UInt8)
  | read (n : Nat)
  | setPosition (v : Nat)
  | clear

/-- what an operation hands back to its caller -/
inductive Out where
  | done
  | bytes (bs : List UInt8)
  | threw (e : Fault)

/-- one operation on the flat array; `b` is the number of bytes that survive a `clear` -/
def Flat.Step (b : Nat) (f : Flat) : Op → Out → Flat → Prop
  | .write buf, out, f' => out = .done ∧ f'.position = f.position + buf.length ∧
      f'.size = max f.size f'.position ∧ f.cells.length ≤ f'.cells.length ∧
      slice f'.cells f.position buf.length = buf ∧
      ∀ i, i < f.cells.length → i < f.position ∨ f.position + buf.length ≤ i →
        f'.cells[i]? = f.cells[i]?
  | .read n, out, f' =>
      if n ≤ f.size - f.position then
        out = .bytes (slice f.cells f.position n) ∧ f' = { f with position := f.position + n }
      else out = .threw .outOfRange ∧ f' = f
  | .setPosition v, out, f' => out = .done ∧ f' = { f with position := v, size := max f.size v }
  | .clear, out, f' => out = .done ∧ f' = ⟨f.cells.take b, 0, 0⟩

inductive Flat.Run (b : Nat) : Flat → List Op → List Out → Flat → Prop where
  | nil (f : Flat) : Flat.Run b f [] [] f
  | cons {f f' f'' : Flat} {op : Op} {out : Out} {ops : List Op} {outs : List Out} :
      f.Step b op out f' → Flat.Run b f' ops outs f'' → Flat.Run b f (op :: ops) (out :: outs) f''

/-! ## runs of the code -/

def toOut {α : Type} (f : α → Out) : Res α → Out × ByteArray
  | .ok a s => (f a, s)
  | .error e s => (.threw e, s)

section
variable (fill : Nat → Nat → UInt8)

def exec (s : ByteArray) : Op → Out × ByteArray
  | .write buf => toOut (fun _ => .done) (s.write fill buf)
  | .read n => toOut .bytes (s.read n)
  | .setPosition v => toOut (fun _ => .done) (s.setPosition v)
  | .clear => (.done, s.clear)

/-- the calls a run consists of: reads of at least one byte, positions inside the capacity -/
def Op.ok (s : ByteArray) : Op → Prop
  | .write _ => True
  | .read n => 1 ≤ n
  | .setPosition v => v < s.capacity
  | .clear => True

inductive Run : ByteArray → List Op → List Out → ByteArray → Prop where
  | nil (s : ByteArray) : Run s [] [] s
  | cons {s s' s'' : ByteArray} {op : Op} {out : Out} {ops : List Op} {outs : List Out} :
      op.ok s → s.exec fill op = (out, s') → Run s' ops outs s'' → Run s (op :: ops) (out :: outs) s''

/-- the flat array a `ByteArray` stands for -/
def abs (s : ByteArray) : Flat := ⟨s.cells, s.position, s.size⟩

/-! ## every operation is a step of the flat array -/

theorem cells_clear {s : ByteArray} (h : Inv s) : s.clear.cells = s.cells.take s.baseSize := by
  have hl : ∀ x ∈ s.root.map Node.ptr, x.length = s.baseSize := by
    intro x hx
    obtain ⟨nd, hnd, rfl⟩ := List.mem_map.mp hx
    exact h.nodes nd hnd
  have h1 := take_flatten_blocks s.baseSize _ hl 1
  rw [Nat.mul_one] at h1
  show flat (s.root.take 1) = (flat s.root).take s.baseSize
  rw [flat, flat, h1, List.map_take]

theorem write_step {s : ByteArray} (h : Inv s) (buf : List UInt8) :
    ∃ out s', s.exec fill (.write buf) = (out, s') ∧ Inv s' ∧ s'.baseSize = s.baseSize ∧
      (abs s).Step s.baseSize (.write buf) out (abs s') := by
  obtain ⟨s', hw, hi, hb, _, hp, hsz, hcap, _, more, hroom, hc⟩ := write_spec fill h buf
  refine ⟨.done, s', by simp only [exec, hw, toOut], hi, hb, rfl, hp, ?_, ?_, ?_, ?_⟩
  · show s'.size = max s.size s'.position
    rw [hsz, hp]
  · show s.cells.length ≤ s'.cells.length
    rw [h.cells_length, hi.cells_length]
    exact hcap
  · show slice s'.cells s.position buf.length = buf
    rw [hc]
    exact slice_overwrite _ _ _ hroom
  · intro i hi' ho
    show s'.cells[i]? = s.cells[i]?
    rw [hc, getElem?_overwrite _ _ _ _ hroom ho]
    exact List.getElem?_append_left hi'

theorem read_step {s : ByteArray} (h : Inv s) (n : Nat) (h0 : 1 ≤ n) :
    ∃ out s', s.exec fill (.read n) = (out, s') ∧ Inv s' ∧ s'.baseSize = s.baseSize ∧
      (abs s).Step s.baseSize (.read n) out (abs s') := by
  by_cases hn : n ≤ s.size - s.position
  · refine ⟨.bytes (slice s.cells s.position n),
      s.moved s.root (s.position + n) (s.curAt (s.position + n)),
      by simp only [exec, read_spec h n h0 hn, toOut], read_inv h n hn, rfl, ?_⟩
    show if n ≤ s.size - s.position then _ else _
    rw [if_pos hn]
    exact ⟨rfl, rfl⟩
  · refine ⟨.threw .outOfRange, s, by simp only [exec, read_throws s n (by omega), toOut], h, rfl,
      ?_⟩
    show if n ≤ s.size - s.position then _ else _
    rw [if_neg hn]
    exact ⟨rfl, rfl⟩

/-- **Every operation on a `ByteArray` is a step of the flat array it stands for.** -/
theorem exec_refines {s : ByteArray} (h : Inv s) (op : Op) (hop : op.ok s) :
    ∃ out s', s.exec fill op = (out, s') ∧ Inv s' ∧ s'.baseSize = s.baseSize ∧
      (abs s).Step s.baseSize op out (abs s') := by
  cases op with
  | write buf => exact write_step fill h buf
  | read n => exact read_step fill h n hop
  | setPosition v =>
    exact ⟨.done, { s with position := v, size := max s.size v, cur := s.curAt v },
      by simp only [exec, setPosition_spec h v hop, toOut], setPosition_inv h v hop, rfl, rfl, rfl⟩
  | clear =>
    refine ⟨_, _, rfl, clear_inv h, rfl, rfl, ?_⟩
    show Flat.mk s.clear.cells 0 0 = _
    rw [cells_clear h]
    rfl

theorem exec_step {s s' : ByteArray} {op : Op} {out : Out} (h : Inv s) (hop : op.ok s)
    (hexec : s.exec fill op = (out, s')) :
    Inv s' ∧ s'.baseSize = s.baseSize ∧ (abs s).Step s.baseSize op out (abs s') := by
  obtain ⟨out', t, ht, hstep⟩ := exec_refines fill h op hop
  rw [hexec] at ht
  cases ht
  exact hstep

theorem Run.refines {s s' : ByteArray} {ops : List Op} {outs : List Out}
    (hr : Run fill s ops outs s') (h : Inv s) :
    Inv s' ∧ s'.baseSize = s.baseSize ∧ Flat.Run s.baseSize (abs s) ops outs (abs s') := by
  induction hr with
  | nil s => exact ⟨h, rfl, .nil _⟩
  | cons hop hex _ ih =>
    obtain ⟨hi, hb, hstep⟩ := exec_step fill h hop hex
    obtain ⟨hi2, hb2, hrun⟩ := ih hi
    rw [hb] at hrun
    exact ⟨hi2, hb2.trans hb, .cons hstep hrun⟩

/-- **A `ByteArray` refines one flat array with a cursor**, over every run from a fresh array:
the run is a run of the flat array, the state it ends in satisfies the invariant, and the next
operation of the run is again a step. -/
theorem run_refines (b : Nat) (hb : 1 ≤ b) (ops : List Op) (outs : List Out) (s : ByteArray)
    (hr : Run fill (new fill b) ops outs s) :
    Flat.Run b (abs (new fill b)) ops outs (abs s) ∧
    (s.position ≤ s.size ∧ s.size ≤ s.capacity ∧ s.capacity = b * s.root.length ∧
      (∀ nd ∈ s.root, nd.size = b) ∧
      s.cur = if s.position = s.capacity then none else some (s.position / b)) ∧
    ∀ op, op.ok s → ∃ out s', s.exec fill op = (out, s') ∧ (abs s).Step b op out (abs s') ∧
      (out = .threw .outOfRange → s' = s) := by
  obtain ⟨hi, hbase, hrun⟩ := hr.refines fill (new_inv fill b hb)
  have hbase : s.baseSize = b := hbase
  refine ⟨hrun, ⟨hi.pos_le, hi.size_le, ?_, ?_, ?_⟩, ?_⟩
  · rw [hi.cap, hbase]
  · intro nd hnd
    rw [hi.nodes nd hnd, hbase]
  · rw [hi.cur_eq, curAt, hbase]
  · intro op hop
    obtain ⟨out, s', hex, _, _, hstep⟩ := exec_refines fill hi op hop
    rw [hbase] at hstep
    refine ⟨out, s', hex, hstep, ?_⟩
    rintro rfl
    cases op with
    | write buf => exact absurd hstep.1 (by simp)
    | read n =>
      by_cases hn : n ≤ s.size - s.position
      · rw [exec, read_spec hi n hop hn] at hex
        cases (Prod.mk.inj hex).1
      · rw [exec, read_throws s n (by omega)] at hex
        exact (Prod.mk.inj hex).2.symm
    | setPosition v => exact absurd hstep.1 (by simp)
    | clear => exact absurd hstep.1 (by simp)

end

/-- a run over a block boundary, with blocks of four bytes -/
theorem run_refines_five_bytes :
    Flat.Run 4 (abs (new (fun _ _ => 0) 4)) [.write [1, 2, 3, 4, 5], .setPosition 3, .read 2]
      [.done, .done, .bytes [4, 5]] ⟨[1, 2, 3, 4, 5, 0, 0, 0], 5, 5⟩ := by
  have h := run_refines (fun _ _ => 0) 4 (by decide)
    [.write [1, 2, 3, 4, 5], .setPosition 3, .read 2] [.done, .done, .bytes [4, 5]]
    ⟨4, 5, 8, 5, .big, [⟨[1, 2, 3, 4]⟩, ⟨[5, 0, 0, 0]⟩], some 1, 2⟩
    (.cons trivial rfl (.cons (show (3 : Nat) < 8 by decide) rfl
      (.cons (show (1 : Nat) ≤ 2 by decide) rfl (.nil _))))
  exact h.1

end ByteArray
end KitServer
