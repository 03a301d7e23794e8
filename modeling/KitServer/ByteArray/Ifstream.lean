import KitServer.ByteArray.File

/-!
# `readFromFile` on a stream that can fail

`File` reads a file without errors.  Here the buffer of the stream may deliver fewer bytes than
there are, or throw, at any call; the stream keeps its three bits.

* `Ifstream.read`      one call of `read`, and what `gcount` tells then;
* `readFromStream`     the loop, which looks at `eofbit` only;
* `Healthy`            no call fails in front of the end;
* `readFromStream_file`   on such a stream it is the `readFromFile` of `File`;
* `stream_iff`         the streams on which the loop ends and is right.
-/

set_option linter.unusedVariables false

namespace KitServer
namespace ByteArray

/-! ## the code -/

/-- what the buffer of the stream does when it is asked for bytes: at most `count` of them come, and
it may throw behind them -/
structure Sgetn where
  count : Nat
  throws : Bool

/-- `rest` is what is still in the file, `calls` how often the buffer was asked -/
structure Ifstream where
  rest : List UInt8
  calls : Nat
  eofbit : Bool
  failbit : Bool
  badbit : Bool

namespace Ifstream

def opened (file : List UInt8) : Ifstream := ⟨file, 0, false, false, false⟩

def good (st : Ifstream) : Bool := !(st.eofbit || st.failbit || st.badbit)

/-- `read` of `n` bytes; the second component is what `gcount` counts -/
def read (buffer : Nat → Sgetn) (n : Nat) (st : Ifstream) : Ifstream × List UInt8 :=
  if st.good then
    let r := buffer st.calls
    let got := st.rest.take (min r.count n)
    let next := { st with rest := st.rest.drop got.length, calls := st.calls + 1 }
    if r.throws then ({ next with badbit := true }, got)
    else if got.length < n then ({ next with eofbit := true, failbit := true }, got)
    else (next, got)
  else ({ st with failbit := true }, [])

end Ifstream

section
variable (fill : Nat → Nat → UInt8) (buffer : Nat → Sgetn)

/-- the loop `while(!ifs.eof())`; there is no result when it still runs -/
def streamLoop : Nat → Ifstream → ByteArray → Option (Res Unit)
  | 0, _, _ => none
  | fuel + 1, st, s =>
    if st.eofbit then some (.ok () s)
    else
      let r := st.read buffer s.baseSize
      match s.write fill r.2 with
      | .error e s => some (.error e s)
      | .ok _ s => streamLoop fuel r.1 s

/-- `readFromFile`, of a file that holds the bytes `file` -/
def readFromStream (opened : Bool) (file : List UInt8) (fuel : Nat) (s : ByteArray) :
    Option (Res Bool) :=
  if !opened then some (.ok false s)
  else
    match streamLoop fill buffer fuel (.opened file) s with
    | some (.ok _ s) => some (.ok true s)
    | some (.error e s) => some (.error e s)
    | none => none

end

/-! ## one call of `read` -/

/-- the stream while no bit is set -/
def Ifstream.at (rest : List UInt8) (calls : Nat) : Ifstream := ⟨rest, calls, false, false, false⟩

section
variable (buffer : Nat → Sgetn) (n : Nat) (rest : List UInt8) (k : Nat)

/-- the bytes that the call `k` of the buffer delivers -/
def delivered : List UInt8 := rest.take (min (buffer k).count n)

theorem read_at : (Ifstream.at rest k).read buffer n =
    if (buffer k).throws then
      (⟨rest.drop (delivered buffer n rest k).length, k + 1, false, false, true⟩,
        delivered buffer n rest k)
    else if (delivered buffer n rest k).length < n then
      (⟨rest.drop (delivered buffer n rest k).length, k + 1, true, true, false⟩,
        delivered buffer n rest k)
    else
      (.at (rest.drop (delivered buffer n rest k).length) (k + 1), delivered buffer n rest k) := rfl

theorem delivered_length :
    (delivered buffer n rest k).length = min (min (buffer k).count n) rest.length :=
  List.length_take

/-- no call of the buffer throws up to the one that meets the end, and each of them delivers what is
asked for, as far as there is so much -/
def Healthy : Prop :=
  ∀ i, i ≤ rest.length / n →
    (buffer (k + i)).throws = false ∧ min n (rest.length - i * n) ≤ (buffer (k + i)).count

/-- the first call, and the calls behind it -/
theorem healthy_cons (hn : 1 ≤ n) : Healthy buffer n rest k ↔
    ((buffer k).throws = false ∧ min n rest.length ≤ (buffer k).count) ∧
      (n ≤ rest.length → Healthy buffer n (rest.drop n) (k + 1)) := by
  have hdiv (hle : n ≤ rest.length) : rest.length / n = (rest.length - n) / n + 1 := by
    rw [Nat.div_eq_sub_div hn hle]
  constructor
  · intro h
    refine ⟨?_, fun hle i hi => ?_⟩
    · have hfirst := h 0 (Nat.zero_le _)
      rw [Nat.zero_mul, Nat.sub_zero, Nat.add_zero] at hfirst
      exact hfirst
    · rw [List.length_drop] at hi ⊢
      have hnext := h (i + 1) (by rw [hdiv hle]; omega)
      have hmul : (i + 1) * n = i * n + n := Nat.succ_mul _ _
      rw [show k + (i + 1) = k + 1 + i by omega] at hnext
      exact ⟨hnext.1, by rw [hmul] at hnext; omega⟩
  · rintro ⟨hfirst, hrest⟩ i hi
    cases i with
    | zero =>
      rw [Nat.zero_mul, Nat.sub_zero, Nat.add_zero]
      exact hfirst
    | succ i =>
      have hle : n ≤ rest.length := by
        by_contra hlt
        rw [Nat.div_eq_of_lt (by omega)] at hi
        omega
      rw [hdiv hle] at hi
      have hnext := hrest hle i (by rw [List.length_drop]; omega)
      have hmul : (i + 1) * n = i * n + n := Nat.succ_mul _ _
      rw [List.length_drop, show k + 1 + i = k + (i + 1) by omega] at hnext
      exact ⟨hnext.1, by rw [hmul]; omega⟩

end

/-! ## the loop -/

section
variable (fill : Nat → Nat → UInt8) (buffer : Nat → Sgetn)

/-- **A stream that failed without `eofbit`** is read for ever. -/
theorem streamLoop_dead (fuel : Nat) (st : Ifstream) (s : ByteArray) (heof : st.eofbit = false)
    (hbad : st.badbit = true) : streamLoop fill buffer fuel st s = none := by
  induction fuel generalizing st with
  | zero => rfl
  | succ fuel ih =>
    have hread : st.read buffer s.baseSize = ({ st with failbit := true }, []) := by
      rw [Ifstream.read, Ifstream.good, hbad, Bool.or_true]
      rfl
    have hwrite : s.write fill [] = .ok () s := rfl
    rw [streamLoop, if_neg (by rw [heof]; decide), hread]
    dsimp only
    rw [hwrite]
    exact ih { st with failbit := true } heof hbad

theorem streamLoop_at (fuel : Nat) (rest : List UInt8) (k : Nat) {s t : ByteArray}
    (hwrite : s.write fill (delivered buffer s.baseSize rest k) = .ok () t) :
    streamLoop fill buffer (fuel + 1) (.at rest k) s =
      streamLoop fill buffer fuel ((Ifstream.at rest k).read buffer s.baseSize).1 t := by
  have hgot : ((Ifstream.at rest k).read buffer s.baseSize).2
      = delivered buffer s.baseSize rest k := by
    rw [read_at]
    split_ifs <;> rfl
  rw [streamLoop, if_neg (show ¬ (Ifstream.at rest k).eofbit = true by simp [Ifstream.at])]
  dsimp only
  rw [hgot, hwrite]

/-- **Without a failure** the loop is that of a file without errors. -/
theorem streamLoop_healthy (fuel : Nat) : ∀ (rest : List UInt8) (k : Nat) (s : ByteArray), Inv s →
    rest.length < fuel → Healthy buffer s.baseSize rest k →
    streamLoop fill buffer (fuel + 1) (.at rest k) s = some (readFileLoop fill fuel rest s) := by
  induction fuel with
  | zero =>
    intro rest k s _ hf
    omega
  | succ fuel ih =>
    intro rest k s h hf hhealthy
    have hb := h.base
    obtain ⟨⟨hthrows, hcount⟩, hnext⟩ := (healthy_cons buffer _ rest k hb).mp hhealthy
    have hlen := delivered_length buffer s.baseSize rest k
    have hgot : delivered buffer s.baseSize rest k = rest.take s.baseSize := by
      rw [delivered, List.take_eq_take_iff]
      omega
    obtain ⟨t, hwrite, ht, hbase, _⟩ := write_spec fill h (rest.take s.baseSize)
    rw [streamLoop_at fill buffer (fuel + 1) rest k (hgot ▸ hwrite), read_at, hthrows,
      if_neg (by decide), readFileLoop, hwrite]
    dsimp only
    rw [hbase]
    by_cases hend : rest.length < s.baseSize
    · rw [if_pos (by omega), if_pos hend, streamLoop, if_pos rfl]
    · have hdrop : (rest.drop s.baseSize).length = rest.length - s.baseSize := List.length_drop
      rw [if_neg (by omega), if_neg hend, hgot, List.length_take_of_le (by omega)]
      exact ih _ _ t ht (by omega) (hbase ▸ hnext (by omega))

/-- **With a failure** the loop never ends, or it ends in front of the end of the file. -/
theorem streamLoop_failing (rest : List UInt8) (k : Nat) (s : ByteArray) (h : Inv s)
    (hfail : ¬ Healthy buffer s.baseSize rest k) :
    (∀ fuel, streamLoop fill buffer fuel (.at rest k) s = none) ∨
      ∃ t, t.position < s.position + rest.length ∧
        ∀ fuel r, streamLoop fill buffer fuel (.at rest k) s = some r → r = .ok () t := by
  induction hm : rest.length using Nat.strong_induction_on generalizing rest k s with
  | _ m ih =>
    have hb := h.base
    have hlen := delivered_length buffer s.baseSize rest k
    obtain ⟨t, hwrite, ht, hbase, _, hpos, _⟩ :=
      write_spec fill h (delivered buffer s.baseSize rest k)
    have hround := fun fuel => streamLoop_at fill buffer fuel rest k hwrite
    simp only [read_at] at hround
    by_cases hthrows : (buffer k).throws = true
    · -- `badbit` alone: no round sets `eofbit` any more
      left
      intro fuel
      cases fuel with
      | zero => rfl
      | succ fuel =>
        rw [hround fuel, if_pos hthrows]
        exact streamLoop_dead fill buffer fuel _ t rfl rfl
    · simp only [if_neg hthrows] at hround
      by_cases hshort : (buffer k).count < min s.baseSize rest.length
      · -- fewer bytes than there are: the end is reported too early
        right
        refine ⟨t, by omega, fun fuel r hr => ?_⟩
        cases fuel with
        | zero => cases hr
        | succ fuel =>
          rw [hround fuel, if_pos (by omega)] at hr
          cases fuel with
          | zero => cases hr
          | succ fuel => exact (Option.some.inj hr).symm
      · have hle : s.baseSize ≤ rest.length := by
          by_contra hlt
          refine hfail ((healthy_cons buffer _ rest k hb).mpr ⟨⟨?_, by omega⟩, fun hle => ?_⟩)
          · exact Bool.eq_false_iff.mpr hthrows
          · exact absurd hle hlt
        have hnext : ¬ Healthy buffer t.baseSize (rest.drop s.baseSize) (k + 1) := by
          intro hnext
          rw [hbase] at hnext
          refine hfail ((healthy_cons buffer _ rest k hb).mpr ⟨⟨?_, by omega⟩, fun _ => hnext⟩)
          exact Bool.eq_false_iff.mpr hthrows
        have hfull : (delivered buffer s.baseSize rest k).length = s.baseSize := by omega
        simp only [hfull, lt_irrefl, if_false] at hround
        have hdrop : (rest.drop s.baseSize).length = rest.length - s.baseSize := List.length_drop
        rcases ih _ (by omega) _ (k + 1) t ht hnext rfl with hnone | ⟨u, hu, hsome⟩
        · left
          intro fuel
          cases fuel with
          | zero => rfl
          | succ fuel => rw [hround fuel, hnone fuel]
        · right
          refine ⟨u, by omega, fun fuel r hr => ?_⟩
          cases fuel with
          | zero => cases hr
          | succ fuel =>
            rw [hround fuel] at hr
            exact hsome fuel r hr

end

/-! ## the whole file, appended in order -/

theorem Flat.Step.write_append {b : Nat} {f f' f'' : Flat} {xs ys : List UInt8}
    (h : f.Step b (.write xs) .done f') (h' : f'.Step b (.write ys) .done f'') :
    f.Step b (.write (xs ++ ys)) .done f'' := by
  obtain ⟨_, hpos, hsize, hlen, hslice, hframe⟩ := h
  obtain ⟨_, hpos', hsize', hlen', hslice', hframe'⟩ := h'
  have hin (i : Nat) (hlo : f.position ≤ i) (hhi : i < f.position + xs.length) :
      i < f'.cells.length := by
    have hl := congrArg List.length hslice
    rw [slice, List.length_take, List.length_drop] at hl
    omega
  have hkept : slice f''.cells f.position xs.length = xs := by
    refine (slice_congr _ _ _ _ fun i hlo hhi => ?_).trans hslice
    exact hframe' i (hin i hlo hhi) (.inl (by omega))
  have hboth : (xs ++ ys).length = xs.length + ys.length := List.length_append
  refine ⟨rfl, by omega, by omega, by omega, ?_, fun i hi hout => ?_⟩
  · rw [hboth, slice_add, hkept, ← hpos, hslice']
  · rw [hframe' i (by omega) (by omega), hframe i hi (by omega)]

/-- what a loop without errors does to the flat array -/
theorem readFileLoop_writes (fill : Nat → Nat → UInt8) (fuel : Nat) : ∀ (rest : List UInt8)
    (s : ByteArray), Inv s → rest.length < fuel →
    ∃ t, readFileLoop fill fuel rest s = .ok () t ∧
      (abs s).Step s.baseSize (.write rest) .done (abs t) := by
  induction fuel with
  | zero =>
    intro rest s _ hf
    omega
  | succ fuel ih =>
    intro rest s h hf
    have hb := h.base
    obtain ⟨t, hwrite, ht, hbase, _⟩ := write_spec fill h (rest.take s.baseSize)
    obtain ⟨out, t', hexec, _, _, hstep⟩ := write_step fill h (rest.take s.baseSize)
    obtain ⟨rfl, rfl⟩ : out = .done ∧ t' = t := by
      rw [exec, hwrite] at hexec
      injection hexec with h1 h2
      exact ⟨h1.symm, h2.symm⟩
    rw [readFileLoop, hwrite]
    dsimp only
    rw [hbase]
    by_cases hend : rest.length < s.baseSize
    · rw [List.take_of_length_le hend.le] at hstep
      rw [if_pos hend]
      exact ⟨t', rfl, hstep⟩
    · have hdrop : (rest.drop s.baseSize).length = rest.length - s.baseSize := List.length_drop
      obtain ⟨u, hloop, hrest⟩ := ih (rest.drop s.baseSize) t' ht (by omega)
      rw [hbase] at hrest
      have hboth := hstep.write_append hrest
      rw [List.take_append_drop] at hboth
      rw [if_neg hend]
      exact ⟨u, hloop, hboth⟩

/-! ## the call -/

section
variable (fill : Nat → Nat → UInt8) (buffer : Nat → Sgetn) (file : List UInt8)

theorem readFromStream_open (fuel : Nat) (s : ByteArray) :
    readFromStream fill buffer true file fuel s =
      match streamLoop fill buffer fuel (.at file 0) s with
      | some (.ok _ s) => some (.ok true s)
      | some (.error e s) => some (.error e s)
      | none => none := rfl

theorem readFromStream_true (fuel : Nat) (s t : ByteArray) :
    readFromStream fill buffer true file fuel s = some (.ok true t) ↔
      streamLoop fill buffer fuel (.at file 0) s = some (.ok () t) := by
  rw [readFromStream_open]
  cases streamLoop fill buffer fuel (.at file 0) s with
  | none => simp
  | some r =>
    cases r with
    | error e u => simp
    | ok _ u => simp

theorem readFromStream_none (fuel : Nat) (s : ByteArray) :
    readFromStream fill buffer true file fuel s = none ↔
      streamLoop fill buffer fuel (.at file 0) s = none := by
  rw [readFromStream_open]
  cases streamLoop fill buffer fuel (.at file 0) s with
  | none => simp
  | some r => cases r <;> simp

/-- **On a healthy stream** the call is that of `File`. -/
theorem readFromStream_file {s : ByteArray} (h : Inv s)
    (hhealthy : Healthy buffer s.baseSize file 0) :
    readFromStream fill buffer true file (file.length + 2) s =
      some (s.readFromFile fill true file) := by
  rw [readFromStream_open, streamLoop_healthy fill buffer (file.length + 1) file 0 s h
    (Nat.lt_succ_self _) hhealthy, readFromFile, if_neg (by decide)]
  cases readFileLoop fill (file.length + 1) file s <;> rfl

theorem streamLoop_more (more fuel : Nat) (st : Ifstream) (s : ByteArray) (r : Res Unit)
    (h : streamLoop fill buffer fuel st s = some r) :
    streamLoop fill buffer (fuel + more) st s = some r := by
  induction fuel generalizing st s with
  | zero => cases h
  | succ fuel ih =>
    rw [Nat.add_right_comm, streamLoop]
    rw [streamLoop] at h
    by_cases heof : st.eofbit = true
    · rw [if_pos heof] at h ⊢
      exact h
    · rw [if_neg heof] at h ⊢
      dsimp only at h ⊢
      cases hwrite : s.write fill (st.read buffer s.baseSize).2 with
      | error e t =>
        rw [hwrite] at h
        exact h
      | ok _ t =>
        rw [hwrite] at h
        exact ih _ _ h

/-- the call returns, and it returns true only with the whole file written at the position -/
def ReadsAll (s : ByteArray) : Prop :=
  (∃ fuel, readFromStream fill buffer true file fuel s ≠ none) ∧
    ∀ fuel t, readFromStream fill buffer true file fuel s = some (.ok true t) →
      (abs s).Step s.baseSize (.write file) .done (abs t)

/-- **The loop ends and is right exactly on the streams without a failure.** -/
theorem stream_iff (b : Nat) (hb : 1 ≤ b) (s : ByteArray) (hs : Reachable fill b s) :
    ReadsAll fill buffer file s ↔ Healthy buffer b file 0 := by
  obtain ⟨h, rfl⟩ := hs.inv fill hb
  constructor
  · rintro ⟨⟨fuel, hends⟩, hright⟩
    by_contra hfail
    rw [ne_eq, readFromStream_none] at hends
    rcases streamLoop_failing fill buffer file 0 s h hfail with hnone | ⟨t, ht, hsome⟩
    · exact hends (hnone fuel)
    · obtain ⟨r, hloop⟩ := Option.ne_none_iff_exists'.mp hends
      have hstep := hright fuel t
        ((readFromStream_true fill buffer file fuel s t).mpr (hsome fuel r hloop ▸ hloop))
      have hpos : t.position = s.position + file.length := hstep.2.1
      omega
  · intro hhealthy
    obtain ⟨t, hfile, hstep⟩ := readFileLoop_writes fill (file.length + 1) file s h
      (Nat.lt_succ_self _)
    have hloop := streamLoop_healthy fill buffer (file.length + 1) file 0 s h
      (Nat.lt_succ_self _) hhealthy
    rw [hfile] at hloop
    refine ⟨⟨file.length + 2, ?_⟩, fun fuel u hu => ?_⟩
    · rw [ne_eq, readFromStream_none, hloop]
      exact Option.some_ne_none _
    · -- both calls are one that may run longer than either
      rw [readFromStream_true] at hu
      have h1 := streamLoop_more fill buffer (file.length + 2) fuel _ s _ hu
      have h2 := streamLoop_more fill buffer fuel (file.length + 2) _ s _ hloop
      rw [Nat.add_comm, h1] at h2
      injection h2 with h2
      injection h2 with _ hsame
      rw [hsame]
      exact hstep

end

/-- an empty file, and a block of four bytes -/
theorem stream_iff_four :
    ReadsAll (fun _ _ => 0) (fun _ => ⟨4, false⟩) [7] (new (fun _ _ => 0) 4) ↔
      Healthy (fun _ => ⟨4, false⟩) 4 [7] 0 :=
  stream_iff (fun _ _ => 0) (fun _ => ⟨4, false⟩) [7] 4 (by decide) _ .new

/-- **The name of a directory**: it can be opened, and every read of it fails. -/
theorem stream_directory : ¬ ∀ (fill : Nat → Nat → UInt8) (buffer : Nat → Sgetn)
    (file : List UInt8) (b : Nat), 1 ≤ b → ∀ s, Reachable fill b s → ReadsAll fill buffer file s := by
  intro h
  obtain ⟨⟨fuel, hends⟩, _⟩ := h (fun _ _ => 0) (fun _ => ⟨0, true⟩) [] 4 (by decide) _ .new
  rw [ne_eq, readFromStream_none] at hends
  apply hends
  cases fuel with
  | zero => rfl
  | succ fuel => exact streamLoop_dead _ _ fuel ⟨[], 1, false, false, true⟩ _ rfl rfl

end ByteArray
end KitServer
