import KitServer.Http.Receive

/-!
# What the receiving loops take from a stream

* `Stream.read_append`   a read takes bytes from the front of the stream and keeps the others;
* `readFixSize_spec`     `readFixSize` yields the next bytes, or all that is left, and
  `readFixSize_takes`    it yields what its reads take;
* `parseStep_next`       what a round of the parsing loop does when the loop goes on, and
  `parseStep_finished`   when the parser is finished;
* `parseLoop_ends`       the loop comes to an end, in a state that its rounds reach;
* `finished_inv`         what the parser keeps from call to call holds when it is finished;
* `finished_append`      the loop loses no byte behind the head.
-/

set_option linter.unusedVariables false

namespace KitServer
namespace Http

/-! ## one read -/

namespace Stream

/-- no piece is empty: a read of no bytes is the end of the stream -/
def Live (s : Stream) : Prop := [] ∉ s

instance (s : Stream) : Decidable s.Live := inferInstanceAs (Decidable ([] ∉ s))

theorem read_append (n : Nat) (s : Stream) :
    (s.read n).1 ++ List.flatten (s.read n).2 = List.flatten s := by
  cases s with
  | nil => rfl
  | cons seg rest =>
    simp only [Stream.read]
    by_cases h : seg.length ≤ min n (2 ^ 31 - 1)
    · simp only [if_pos h, List.flatten_cons]
    · simp only [if_neg h, List.flatten_cons]
      rw [← List.append_assoc, List.take_append_drop]

theorem length_read_le (n : Nat) (s : Stream) : (s.read n).1.length ≤ n := by
  cases s with
  | nil => exact Nat.zero_le n
  | cons seg rest =>
    simp only [Stream.read]
    by_cases h : seg.length ≤ min n (2 ^ 31 - 1)
    · simp only [if_pos h]
      omega
    · simp only [if_neg h, List.length_take]
      omega

theorem left_read (n : Nat) (s : Stream) : (s.read n).1.length + (s.read n).2.left = s.left := by
  have h := congrArg List.length (read_append n s)
  rw [List.length_append] at h
  exact h

theorem Live.read {s : Stream} (hs : s.Live) (n : Nat) : (s.read n).2.Live := by
  cases s with
  | nil => exact hs
  | cons seg rest =>
    simp only [Stream.read]
    have hrest : [] ∉ rest := fun h => hs (List.mem_cons_of_mem _ h)
    by_cases h : seg.length ≤ min n (2 ^ 31 - 1)
    · simp only [if_pos h]
      exact hrest
    · simp only [if_neg h]
      intro hmem
      rcases List.mem_cons.mp hmem with hnil | hin
      · have hlen := congrArg List.length hnil
        rw [List.length_drop, List.length_nil] at hlen
        omega
      · exact hrest hin

theorem Live.read_nil {s : Stream} (hs : s.Live) {n : Nat} (hn : 0 < n)
    (h : (s.read n).1.length = 0) : List.flatten s = [] := by
  cases s with
  | nil => rfl
  | cons seg rest =>
    have hseg : seg ≠ [] := fun he => hs (he ▸ List.mem_cons_self)
    have hpos := List.length_pos_iff.mpr hseg
    simp only [Stream.read] at h
    by_cases hk : seg.length ≤ min n (2 ^ 31 - 1)
    · simp only [if_pos hk] at h
      omega
    · simp only [if_neg hk, List.length_take] at h
      omega

end Stream

/-! ## several reads -/

namespace Stream

theorem read_whole {n : Nat} {seg : Str} (hn : seg.length ≤ n) (h31 : seg.length < 2 ^ 31)
    (rest : Stream) : Stream.read n (seg :: rest) = (seg, rest) := by
  simp only [Stream.read]
  exact if_pos (by omega)

theorem read_lt {n : Nat} {s s' : Stream} {a : Str} (h : s.read n = (a, s')) :
    a.length < 2 ^ 31 := by
  cases s with
  | nil =>
    cases h
    decide
  | cons seg rest =>
    simp only [Stream.read] at h
    split at h
    · next hle =>
      cases h
      omega
    · cases h
      rw [List.length_take]
      omega

/-- reads of at most `n` bytes each, and the stream behind them -/
inductive Reads (n : Nat) : Stream → List Str → Stream → Prop
  | done (s : Stream) : Reads n s [] s
  | read {s s' t : Stream} {a : Str} {as : List Str} (h : s.read n = (a, s')) (hne : a ≠ [])
    (ht : Reads n s' as t) : Reads n s (a :: as) t

/-- reads that ask for what is missing of `n` bytes, until none is -/
inductive Takes : Nat → Stream → Str → Stream → Prop
  | done (s : Stream) : Takes 0 s [] s
  | read {n : Nat} {s s' t : Stream} {a bs : Str} (hn : 0 < n) (h : s.read n = (a, s'))
    (hne : a ≠ []) (ht : Takes (n - a.length) s' bs t) : Takes n s (a ++ bs) t

theorem Reads.append {n : Nat} {s t : Stream} {as : List Str} (h : Reads n s as t) :
    List.flatten s = List.flatten as ++ List.flatten t := by
  induction h with
  | done s => rfl
  | @read s s' t a as hread _ _ ih =>
    have happ := read_append n s
    rw [hread] at happ
    rw [← happ, ih, List.flatten_cons, List.append_assoc]

theorem Takes.append {n : Nat} {s t : Stream} {bs : Str} (h : Takes n s bs t) :
    List.flatten s = bs ++ List.flatten t := by
  induction h with
  | done s => rfl
  | @read n s s' t a bs _ hread _ _ ih =>
    have happ := read_append n s
    rw [hread] at happ
    rw [← happ, ih, List.append_assoc]

theorem Takes.of_zero {s t : Stream} {bs : Str} (h : Takes 0 s bs t) : t = s := by
  cases h with
  | done => rfl
  | read hn => exact absurd hn (Nat.lt_irrefl 0)

theorem Reads.whole {n : Nat} (tail : Stream) (segs : List Str)
    (h : ∀ a ∈ segs, a ≠ [] ∧ a.length ≤ n ∧ a.length < 2 ^ 31) : Reads n (segs ++ tail) segs tail := by
  induction segs with
  | nil => exact .done tail
  | cons a segs ih =>
    obtain ⟨hne, hle, h31⟩ := h a List.mem_cons_self
    exact .read (read_whole hle h31 (segs ++ tail)) hne
      (ih fun b hb => h b (List.mem_cons_of_mem a hb))

end Stream

/-! ## `readFixSize` -/

/-- the bytes read so far and the bytes to come are those of the stream -/
structure FixRead.Inv (n : Nat) (all : Str) (s : FixRead) : Prop where
  length : s.got.length + s.left = n
  bytes : s.got ++ List.flatten s.stream = all
  live : s.stream.Live

theorem readFixSizeStep_next {n : Nat} {all : Str} {s s' : FixRead} (hs : s.Inv n all)
    (h : readFixSizeStep s = .inr s') : s'.Inv n all ∧ s'.stream.left < s.stream.left := by
  rw [readFixSizeStep] at h
  by_cases hleft : s.left > 0
  · rw [if_pos hleft] at h
    by_cases hnil : (s.stream.read s.left).1.length = 0
    · simp only [hnil, if_true] at h
      cases h
    · simp only [hnil, if_false] at h
      cases h
      have hle := Stream.length_read_le s.left s.stream
      have hlen := hs.length
      have hall := Stream.left_read s.left s.stream
      refine ⟨⟨?_, ?_, hs.live.read _⟩, ?_⟩
      · show (s.got ++ _).length + (s.left - _) = n
        rw [List.length_append]
        omega
      · show (s.got ++ _) ++ _ = all
        rw [List.append_assoc, Stream.read_append, hs.bytes]
      · show (s.stream.read s.left).2.left < s.stream.left
        omega
  · rw [if_neg hleft] at h
    cases h

theorem readFixSizeStep_done {n : Nat} {all : Str} {s : FixRead} {b : Bool × Str × Stream}
    (hs : s.Inv n all) (h : readFixSizeStep s = .inl b) :
    b.2.1 ++ List.flatten b.2.2 = all ∧ b.2.2.Live ∧
      (b.1 = true ∧ b.2.1.length = n ∨
        b.1 = false ∧ b.2.1.length < n ∧ List.flatten b.2.2 = []) := by
  rw [readFixSizeStep] at h
  have hlen := hs.length
  by_cases hleft : s.left > 0
  · rw [if_pos hleft] at h
    by_cases hnil : (s.stream.read s.left).1.length = 0
    · simp only [hnil, if_true] at h
      cases h
      have hflat := hs.live.read_nil hleft hnil
      have happ := Stream.read_append s.left s.stream
      rw [List.length_eq_zero_iff.mp hnil, List.nil_append] at happ
      refine ⟨?_, hs.live.read _, Or.inr ⟨rfl, ?_, happ.trans hflat⟩⟩
      · show s.got ++ List.flatten (s.stream.read s.left).2 = all
        rw [happ, hs.bytes]
      · show s.got.length < n
        omega
    · simp only [hnil, if_false] at h
      cases h
  · rw [if_neg hleft] at h
    cases h
    refine ⟨hs.bytes, hs.live, Or.inl ⟨rfl, ?_⟩⟩
    show s.got.length = n
    omega

/-- **`readFixSize` yields the next `n` bytes, or fails with all that is left.** -/
theorem readFixSize_spec (n : Nat) {stream : Stream} (hl : stream.Live) :
    ∃ (got : Str) (rest : Stream), got ++ List.flatten rest = List.flatten stream ∧ rest.Live ∧
      (readFixSize n stream = (true, got, rest) ∧ got.length = n ∨
        readFixSize n stream = (false, got, rest) ∧ got.length < n ∧ List.flatten rest = []) := by
  have hinv : FixRead.Inv n (List.flatten stream) ⟨n, [], stream⟩ :=
    ⟨Nat.zero_add n, List.nil_append _, hl⟩
  obtain ⟨b, hb⟩ : ∃ b, loop readFixSizeStep (stream.left + 1) ⟨n, [], stream⟩ = some b := by
    refine loop_total (I := FixRead.Inv n (List.flatten stream)) (fun s => s.stream.left)
      (fun s s' hs h => readFixSizeStep_next hs h) _ _ hinv ?_
    exact Nat.lt_succ_self _
  obtain ⟨hbytes, hlive, hcase⟩ :=
    loop_inv (fun s s' hs h => (readFixSizeStep_next hs h).1)
      (fun s b hs h => readFixSizeStep_done hs h) _ _ b hinv hb
  obtain ⟨ok, got, rest⟩ := b
  refine ⟨got, rest, hbytes, hlive, ?_⟩
  have heq : readFixSize n stream = (ok, got, rest) := by
    rw [readFixSize, hb, Option.getD_some]
  rcases hcase with ⟨hok, hlen⟩ | ⟨hok, hlen, hend⟩
  · cases hok
    exact Or.inl ⟨heq, hlen⟩
  · cases hok
    exact Or.inr ⟨heq, hlen, hend⟩

theorem loop_takes {n : Nat} {s t : Stream} {bs : Str} (h : s.Takes n bs t) :
    ∀ (got : Str) (m : Nat), s.left < m →
      loop readFixSizeStep m ⟨n, got, s⟩ = some (true, got ++ bs, t) := by
  induction h with
  | done s =>
    intro got m hm
    obtain ⟨k, rfl⟩ : ∃ k, m = k + 1 := ⟨m - 1, by omega⟩
    rw [List.append_nil]
    exact loop_done rfl k
  | @read n s s' t a bs hn hread hne _ ih =>
    intro got m hm
    obtain ⟨k, rfl⟩ : ∃ k, m = k + 1 := ⟨m - 1, by omega⟩
    have hstep : readFixSizeStep ⟨n, got, s⟩ = .inr ⟨n - a.length, got ++ a, s'⟩ := by
      have hlen : a.length ≠ 0 := fun h0 => hne (List.length_eq_zero_iff.mp h0)
      simp only [readFixSizeStep, hn, if_true, hread, hlen, if_false]
    have hall := Stream.left_read n s
    have hpos := List.length_pos_iff.mpr hne
    rw [hread] at hall
    dsimp only at hall
    rw [loop_next hstep, ih (got ++ a) k (by omega), List.append_assoc]

theorem readFixSize_takes {n : Nat} {s t : Stream} {bs : Str} (h : s.Takes n bs t) :
    readFixSize n s = (true, bs, t) := by
  rw [readFixSize, loop_takes h [] (s.left + 1) (Nat.lt_succ_self _)]
  rfl

/-! ## the parsing loop -/

section
variable {P : Type} (ops : ParserOps P) (stale : Nat → Nat → UInt8) (buff_size : Nat)

/-- in the state `s` a read yields `bytes`, and the parser is through with `n` bytes of the buffer
and has no error -/
structure Round (s : Parse P) (bytes : Str) (rest : Stream) (parser : P) (n : Nat) : Prop where
  read : s.stream.read (buff_size - s.data.length) = (bytes, rest)
  nonempty : bytes ≠ []
  execute : ops.execute (stale rest.left) (s.data ++ bytes) s.parser = .ok (parser, n)
  noError : ops.hasError parser = false
  room : (((s.data ++ bytes).length - n : Nat) : Int) ≠ toInt32 buff_size

variable {ops stale buff_size} {s : Parse P} {bytes : Str} {rest : Stream} {parser : P} {n : Nat}

theorem Round.step (h : Round ops stale buff_size s bytes rest parser n) :
    parseStep ops stale buff_size s =
      if ops.isFinished parser ≠ 0 then .inl (.finished parser ((s.data ++ bytes).drop n) rest)
      else .inr ⟨parser, (s.data ++ bytes).drop n, rest⟩ := by
  have hlen : bytes.length ≠ 0 := fun h0 => h.nonempty (List.length_eq_zero_iff.mp h0)
  simp only [parseStep, h.read, h.execute, h.noError, hlen, h.room, if_false, Bool.false_eq_true]

theorem parseStep_cases (s : Parse P) :
    (∃ bytes rest, s.stream.read (buff_size - s.data.length) = (bytes, rest) ∧
      (parseStep ops stale buff_size s = .inl (.null rest) ∨
        ∃ e, ops.execute (stale rest.left) (s.data ++ bytes) s.parser = .error e ∧ bytes ≠ [] ∧
          parseStep ops stale buff_size s = .inl (.fault e rest))) ∨
      ∃ bytes rest parser n, Round ops stale buff_size s bytes rest parser n := by
  obtain ⟨bytes, rest, hread⟩ :
      ∃ bytes rest, s.stream.read (buff_size - s.data.length) = (bytes, rest) := ⟨_, _, rfl⟩
  by_cases hnil : bytes.length = 0
  · refine Or.inl ⟨bytes, rest, hread, Or.inl ?_⟩
    simp only [parseStep, hread, hnil, if_true]
  have hne : bytes ≠ [] := fun h0 => hnil (List.length_eq_zero_iff.mpr h0)
  cases hex : ops.execute (stale rest.left) (s.data ++ bytes) s.parser with
  | error e =>
    refine Or.inl ⟨bytes, rest, hread, Or.inr ⟨e, hex, hne, ?_⟩⟩
    simp only [parseStep, hread, hnil, hex, if_false]
  | ok r =>
    obtain ⟨parser, n⟩ := r
    by_cases herr : ops.hasError parser = true
    · refine Or.inl ⟨bytes, rest, hread, Or.inl ?_⟩
      simp only [parseStep, hread, hnil, hex, herr, if_false, if_true]
    by_cases hroom : (((s.data ++ bytes).length - n : Nat) : Int) = toInt32 buff_size
    · refine Or.inl ⟨bytes, rest, hread, Or.inl ?_⟩
      simp only [parseStep, hread, hnil, hex, herr, hroom, if_false, if_true]
      simp
    · exact Or.inr ⟨bytes, rest, parser, n, hread, hne, hex, by simpa using herr, hroom⟩

theorem parseStep_next {s' : Parse P} (h : parseStep ops stale buff_size s = .inr s') :
    ∃ bytes rest parser n, Round ops stale buff_size s bytes rest parser n ∧
      ops.isFinished parser = 0 ∧ s' = ⟨parser, (s.data ++ bytes).drop n, rest⟩ := by
  rcases parseStep_cases s with
    ⟨bytes, rest, _, hnull | ⟨e, _, _, hfault⟩⟩ | ⟨bytes, rest, parser, n, hround⟩
  · rw [hnull] at h
    cases h
  · rw [hfault] at h
    cases h
  · rw [hround.step] at h
    by_cases hfin : ops.isFinished parser ≠ 0
    · rw [if_pos hfin] at h
      cases h
    · rw [if_neg hfin] at h
      cases h
      exact ⟨bytes, rest, parser, n, hround, not_not.mp hfin, rfl⟩

theorem parseStep_finished {data : Str}
    (h : parseStep ops stale buff_size s = .inl (.finished parser data rest)) :
    ∃ bytes n, Round ops stale buff_size s bytes rest parser n ∧ ops.isFinished parser ≠ 0 ∧
      data = (s.data ++ bytes).drop n := by
  rcases parseStep_cases s with
    ⟨bytes, rest', _, hnull | ⟨e, _, _, hfault⟩⟩ | ⟨bytes, rest', parser', n, hround⟩
  · rw [hnull] at h
    cases h
  · rw [hfault] at h
    cases h
  · rw [hround.step] at h
    by_cases hfin : ops.isFinished parser' ≠ 0
    · rw [if_pos hfin] at h
      cases h
      exact ⟨bytes, n, hround, hfin, rfl⟩
    · rw [if_neg hfin] at h
      cases h

theorem parseStep_fault {e : Fault}
    (h : parseStep ops stale buff_size s = .inl (.fault e rest)) :
    ∃ bytes, s.stream.read (buff_size - s.data.length) = (bytes, rest) ∧ bytes ≠ [] ∧
      ops.execute (stale rest.left) (s.data ++ bytes) s.parser = .error e := by
  rcases parseStep_cases s with
    ⟨bytes, rest', hread, hnull | ⟨e', hex, hne, hfault⟩⟩ | ⟨bytes, rest', parser', n, hround⟩
  · rw [hnull] at h
    cases h
  · rw [hfault] at h
    cases h
    exact ⟨bytes, hread, hne, hex⟩
  · rw [hround.step] at h
    by_cases hfin : ops.isFinished parser' ≠ 0
    · rw [if_pos hfin] at h
      cases h
    · rw [if_neg hfin] at h
      cases h

theorem Round.left_lt (h : Round ops stale buff_size s bytes rest parser n) :
    rest.left < s.stream.left := by
  have hall := Stream.left_read (buff_size - s.data.length) s.stream
  have hpos := List.length_pos_iff.mpr h.nonempty
  rw [h.read] at hall
  dsimp only at hall
  omega

theorem Round.suffix (h : Round ops stale buff_size s bytes rest parser n) :
    (s.data ++ bytes).drop n ++ List.flatten rest <:+ s.data ++ List.flatten s.stream := by
  have hall := Stream.read_append (buff_size - s.data.length) s.stream
  rw [h.read] at hall
  rw [← hall, ← List.append_assoc]
  refine ⟨(s.data ++ bytes).take n, ?_⟩
  rw [← List.append_assoc, List.take_append_drop]

theorem Round.live (h : Round ops stale buff_size s bytes rest parser n) (hl : s.stream.Live) :
    rest.Live := by
  have hlive := hl.read (buff_size - s.data.length)
  rw [h.read] at hlive
  exact hlive

theorem Round.length_le (h : Round ops stale buff_size s bytes rest parser n)
    (hd : s.data.length ≤ buff_size) : (s.data ++ bytes).length ≤ buff_size := by
  have hle := Stream.length_read_le (buff_size - s.data.length) s.stream
  rw [h.read] at hle
  rw [List.length_append]
  dsimp only at hle
  omega

theorem finishes_iff {q : P → Str → Stream → Bool} (e : ParseEnd P) :
    e.finishes q = true ↔
      ∃ parser data rest, e = .finished parser data rest ∧ q parser data rest = true := by
  constructor
  · intro h
    cases e with
    | null rest => cases h
    | fault e rest => cases h
    | finished parser data rest => exact ⟨parser, data, rest, rfl, h⟩
  · rintro ⟨parser, data, rest, rfl, h⟩
    exact h

theorem parseLoop_ends (ops : ParserOps P) (stale : Nat → Nat → UInt8) (buff_size : Nat)
    (s : Parse P) : ∃ s', Rounds (parseStep ops stale buff_size) s s' ∧
      parseStep ops stale buff_size s' = .inl (parseLoop ops stale buff_size s) := by
  obtain ⟨b, hb⟩ : ∃ b, loop (parseStep ops stale buff_size) (s.stream.left + 1) s = some b := by
    refine loop_total (I := fun _ => True) (fun s => s.stream.left) ?_ _ s trivial
      (Nat.lt_succ_self _)
    intro s s' _ h
    obtain ⟨bytes, rest, parser, n, hround, _, rfl⟩ := parseStep_next h
    exact ⟨trivial, hround.left_lt⟩
  obtain ⟨s', hs', hb'⟩ := loop_rounds _ s hb
  refine ⟨s', hs', ?_⟩
  rw [hb', parseLoop, hb, Option.getD_some]

theorem parseLoop_of_done {e : ParseEnd P} (h : parseStep ops stale buff_size s = .inl e) :
    parseLoop ops stale buff_size s = e := by
  rw [parseLoop, loop_done h, Option.getD_some]

theorem parseLoop_of_next {s' : Parse P} (h : parseStep ops stale buff_size s = .inr s') :
    parseLoop ops stale buff_size s = parseLoop ops stale buff_size s' := by
  obtain ⟨e, he, hlast⟩ := parseLoop_ends ops stale buff_size s'
  obtain ⟨e₁, he₁, hlast₁⟩ := parseLoop_ends ops stale buff_size s
  have htail : Rounds (parseStep ops stale buff_size) s e := Relation.ReflTransGen.head h he
  rw [(Rounds.toLast htail he₁ hlast₁).eq_of_done hlast, hlast] at hlast₁
  exact (Sum.inl.inj hlast₁).symm

theorem finished_inv {I : P → Prop}
    (hex : ∀ f buffer p p' n, I p → ops.execute f buffer p = .ok (p', n) → I p') {data : Str}
    (hs : I s.parser) (h : parseLoop ops stale buff_size s = .finished parser data rest) :
    I parser := by
  obtain ⟨s', hs', hlast⟩ := parseLoop_ends ops stale buff_size s
  have hkeep : I s'.parser := by
    refine hs'.inv (I := fun t => I t.parser) ?_ hs
    intro t t' ht hst
    obtain ⟨bytes, rest, parser, n, hround, _, rfl⟩ := parseStep_next hst
    exact hex _ _ _ _ _ ht hround.execute
  rw [h] at hlast
  obtain ⟨bytes, n, hround, _, _⟩ := parseStep_finished hlast
  exact hex _ _ _ _ _ hkeep hround.execute

/-- what the rounds keep: the bytes held and to come are the end of the stream -/
structure Parse.Keeps (s s' : Parse P) : Prop where
  suffix : s'.data ++ List.flatten s'.stream <:+ s.data ++ List.flatten s.stream
  live : s.stream.Live → s'.stream.Live

theorem Parse.Keeps.rounds {s s' : Parse P} (h : Rounds (parseStep ops stale buff_size) s s') :
    s.Keeps s' := by
  refine h.inv (I := fun t => s.Keeps t) ?_ ⟨List.suffix_rfl, id⟩
  intro t t' ht hst
  obtain ⟨bytes, rest, parser, n, hround, _, rfl⟩ := parseStep_next hst
  exact ⟨hround.suffix.trans ht.suffix, fun hl => hround.live (ht.live hl)⟩

theorem rounds_data_le {s' : Parse P} (h : Rounds (parseStep ops stale buff_size) s s')
    (hd : s.data.length ≤ buff_size) : s'.data.length ≤ buff_size := by
  refine h.inv (I := fun t => t.data.length ≤ buff_size) ?_ hd
  intro t t' ht hst
  obtain ⟨bytes, rest, parser, n, hround, _, rfl⟩ := parseStep_next hst
  have hle := hround.length_le ht
  show ((t.data ++ bytes).drop n).length ≤ buff_size
  rw [List.length_drop]
  omega

theorem finished_data_le {data : Str}
    (h : parseLoop ops stale buff_size s = .finished parser data rest)
    (hd : s.data.length ≤ buff_size) : data.length ≤ buff_size := by
  obtain ⟨s', hs', hlast⟩ := parseLoop_ends ops stale buff_size s
  rw [h] at hlast
  obtain ⟨bytes, n, hround, _, rfl⟩ := parseStep_finished hlast
  have hle := hround.length_le (rounds_data_le hs' hd)
  rw [List.length_drop]
  omega

theorem finished_left_lt {data : Str}
    (h : parseLoop ops stale buff_size s = .finished parser data rest) :
    rest.left < s.stream.left := by
  obtain ⟨s', hs', hlast⟩ := parseLoop_ends ops stale buff_size s
  have hle : s'.stream.left ≤ s.stream.left := by
    refine hs'.inv (I := fun t => t.stream.left ≤ s.stream.left) ?_ (Nat.le_refl _)
    intro t t' ht hst
    obtain ⟨bytes, rest, parser, n, hround, _, rfl⟩ := parseStep_next hst
    exact Nat.le_trans (Nat.le_of_lt hround.left_lt) ht
  rw [h] at hlast
  obtain ⟨bytes, n, hround, _, _⟩ := parseStep_finished hlast
  exact Nat.lt_of_lt_of_le hround.left_lt hle

/-- **No byte behind a head is lost: it is in the buffer or in the stream.** -/
theorem finished_append {data : Str}
    (h : parseLoop ops stale buff_size s = .finished parser data rest) :
    data ++ List.flatten rest <:+ s.data ++ List.flatten s.stream ∧
      (s.stream.Live → rest.Live) := by
  obtain ⟨s', hs', hlast⟩ := parseLoop_ends ops stale buff_size s
  rw [h] at hlast
  obtain ⟨bytes, n, hround, _, rfl⟩ := parseStep_finished hlast
  have hkeeps := Parse.Keeps.rounds hs'
  exact ⟨hround.suffix.trans hkeeps.suffix, fun hl => hround.live (hkeeps.live hl)⟩

end

end Http
end KitServer
