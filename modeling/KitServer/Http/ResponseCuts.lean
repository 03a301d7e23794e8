import KitServer.Http.ChunkSafety

/-!
# The head of a chunked response in several reads

`httpclient_parser_execute` sets its offsets back in every call, so a field that is cut is lost or
wrong.  Its state goes on from call to call, and so does what it has seen of `Transfer-Encoding`.

* `Accepts`            the bytes lead to the end of a head behind a `Transfer-Encoding: chunked`;
* `scan_sees`          the scan of the parser beside the one that only looks for that field;
* `Stream.behind`      the buffer and the stream behind the read that ends the head;
* `head_behind`        the head is taken from every stream whose first read has the version.
-/

set_option linter.unusedVariables false

namespace KitServer
namespace Http

/-- the bytes behind the next `n` and the stream, when the `n` bytes have been read; `fuel` bounds
the number of reads -/
def Stream.behind (buff_size : Nat) : Nat → Nat → Stream → Str × Stream
  | 0, _, s => ([], s)
  | fuel + 1, n, s =>
    let (a, rest) := s.read buff_size
    if n ≤ a.length then (a.drop n, rest) else Stream.behind buff_size fuel (n - a.length) rest

namespace Response

/-! ## a field is seen -/

/-- a scan that only looks for `Transfer-Encoding: chunked` -/
def seesChunked : Nat → Act → Bool → Except Fault Bool
  | _, .transChunked, _ => .ok true
  | _, _, b => .ok b

/-- the bytes lead from the state `cs` to the end of a head, and to its end only with the last one;
`b` is whether the field was seen in front of them -/
def Accepts (cs : Nat) (b : Bool) (w : Str) : Prop :=
  ∃ o, scan trans seesChunked cs o w b = .stop firstFinal (o + w.length) true

/-- a head that the grammar takes, with `Transfer-Encoding: chunked` and a version that is known -/
structure ChunkedHead where
  text : Str
  version : asc "HTTP/1.1 " <+: text ∨ asc "HTTP/1.0 " <+: text
  accepted : Accepts start false text

/-- the states behind the version -/
def Inner (cs : Nat) : Prop := cs = 3 ∨ 16 ≤ cs ∧ cs < firstFinal

instance (cs : Nat) : Decidable (Inner cs) :=
  inferInstanceAs (Decidable (cs = 3 ∨ 16 ≤ cs ∧ cs < firstFinal))

/-- what a transition from such a state does -/
structure InnerFacts (cs : Nat) (t : Trans Act) : Prop where
  stays : Inner cs → t.brk = false → Inner t.target
  acts : Inner cs → .httpVersion ∉ t.acts ∧ .chunkSize ∉ t.acts

instance (cs : Nat) (t : Trans Act) : Decidable (InnerFacts cs t) :=
  decidable_of_iff
    ((Inner cs → t.brk = false → Inner t.target) ∧
      (Inner cs → .httpVersion ∉ t.acts ∧ .chunkSize ∉ t.acts))
    ⟨fun h => ⟨h.1, h.2⟩, fun h => ⟨h.1, h.2⟩⟩

def innerOk (cs : Nat) (r : Range) : Bool := decide (InnerFacts cs (r.jump.trans tr))

theorem rows_inner : (rows.zipIdx.all fun x => x.1.all (innerOk x.2)) = true := by
  decide +kernel

theorem inner_facts {cs : Nat} {c : UInt8} {t : Trans Act} (h : trans cs c = some t) :
    InnerFacts cs t := by
  obtain ⟨r, hr, _, _, rfl⟩ := tableTrans_all rows_inner h
  exact of_decide_eq_true hr

section
variable {cs o : Nat} {b : Bool} {a w : Str}

theorem Accepts.ne_nil (h : Accepts cs b w) : w ≠ [] := by
  rintro rfl
  obtain ⟨o, h⟩ := h
  cases h

theorem Accepts.part (h : Accepts cs b (a ++ w)) (hw : w ≠ []) :
    ∃ o cs' b', scan trans seesChunked cs o a b = .more cs' b' ∧ Accepts cs' b' w := by
  obtain ⟨o, h⟩ := h
  rw [scan_append] at h
  cases ha : scan trans seesChunked cs o a b with
  | more cs' b' =>
    rw [ha] at h
    dsimp only at h
    refine ⟨o, cs', b', ha, o + a.length, ?_⟩
    rw [h, List.length_append, Nat.add_assoc]
  | stop cs' q b' =>
    rw [ha] at h
    have hq := (run_of_stop _ _ a cs o b ha).2.2.1
    have hpos := List.length_pos_iff.mpr hw
    injection h with _ hlen _
    rw [List.length_append] at hlen
    omega
  | bad q b' =>
    rw [ha] at h
    cases h
  | fail e =>
    rw [ha] at h
    cases h

theorem Accepts.extra (h : Accepts cs b w) (e : Str) :
    ∃ o, scan trans seesChunked cs o (w ++ e) b = .stop firstFinal (o + w.length) true := by
  obtain ⟨o, h⟩ := h
  refine ⟨o, ?_⟩
  rw [scan_append, h]

end

/-! ## two scans side by side -/

/-- the parser has no error, and knows whether the field was seen -/
structure Sees (b : Bool) (p : Nat) (s : HttpResponseParser) : Prop where
  error : s.error = 0
  chunked : s.chunked = b
  below : Below p s

section
variable {f : Nat → UInt8} {buffer : Str} {p : Nat}

theorem act_sees {a : Act} {s s' : HttpResponseParser} (hv : a ≠ .httpVersion) (hc : a ≠ .chunkSize)
    (h : act f buffer p a s = .ok s') (o : Nat) :
    s'.error = s.error ∧ seesChunked o a s.chunked = .ok s'.chunked := by
  cases a <;> simp only [act] at h
  case httpVersion => exact absurd rfl hv
  case chunkSize => exact absurd rfl hc
  case writeValue =>
    obtain rfl | ⟨key, val, rfl⟩ := onResponseHttpField_ok h
    · exact ⟨rfl, rfl⟩
    · exact ⟨rfl, rfl⟩
  case reasonPhrase =>
    split at h
    · cases h
    · cases h
      exact ⟨rfl, rfl⟩
  all_goals
    cases h
    exact ⟨rfl, rfl⟩

theorem runActs_sees (hp : p < 2 ^ 63) (o : Nat) (as : List Act) :
    ∀ s : HttpResponseParser, .httpVersion ∉ as ∧ .chunkSize ∉ as → Offsets p s →
      ∃ s', runActs (act f buffer p) as s = .ok s' ∧ s'.error = s.error ∧
        runActs (seesChunked o) as s.chunked = .ok s'.chunked ∧ Offsets p s' := by
  induction as with
  | nil => intro s _ hs; exact ⟨s, rfl, rfl, rfl, hs⟩
  | cons a as ih =>
    rintro s ⟨hv, hc⟩ hs
    obtain ⟨s₁, hact, hs₁⟩ := act_offsets (f := f) (a := a) hp hs
    obtain ⟨herr, hsee⟩ := act_sees (fun h => hv (h ▸ List.mem_cons_self))
      (fun h => hc (h ▸ List.mem_cons_self)) hact o
    obtain ⟨s₂, hrun, herr₂, hsee₂, hs₂⟩ := ih s₁
      ⟨fun h => hv (List.mem_cons_of_mem a h), fun h => hc (List.mem_cons_of_mem a h)⟩ hs₁
    refine ⟨s₂, ?_, herr₂.trans herr, ?_, hs₂⟩
    · rw [runActs, hact]
      exact hrun
    · rw [runActs, hsee]
      exact hsee₂

/-- **The parser behind the version** ends where the scan for the field ends. -/
theorem scan_sees (hlen : buffer.length < 2 ^ 63) (bs : Str) :
    ∀ (cs o p : Nat) (b : Bool) (s : HttpResponseParser), Inner cs → Sees b p s →
      p + bs.length ≤ buffer.length →
      (∀ cs' b', scan trans seesChunked cs o bs b = .more cs' b' →
        ∃ s', scan trans (act f buffer) cs p bs s = .more cs' s' ∧ Inner cs' ∧
          Sees b' (p + bs.length) s') ∧
      ∀ cs' k b', scan trans seesChunked cs o bs b = .stop cs' (o + k) b' →
        ∃ s', scan trans (act f buffer) cs p bs s = .stop cs' (p + k) s' ∧ Sees b' (p + k) s' := by
  induction bs with
  | nil =>
    intro cs o p b s hcs hs _
    refine ⟨fun cs' b' h => ?_, fun cs' k b' h => (by cases h)⟩
    cases h
    exact ⟨s, rfl, hcs, hs⟩
  | cons c bs ih =>
    intro cs o p b s hcs hs hle
    rw [List.length_cons] at hle
    cases ht : trans cs c with
    | none =>
      rw [scan_bad ht]
      exact ⟨fun cs' b' h => (by cases h), fun cs' k b' h => (by cases h)⟩
    | some t =>
      have hfacts := inner_facts ht
      have hoff : Offsets p s :=
        ⟨by have := hs.below.1; omega, by have := hs.below.2.1; omega, hs.below.2.2⟩
      obtain ⟨s₁, hrun, herr, hsee, hs₁⟩ :=
        runActs_sees (f := f) (by omega) o t.acts s (hfacts.acts hcs) hoff
      have hs' : Sees s₁.chunked (p + 1) s₁ :=
        ⟨herr.trans hs.error, rfl, .inl (Nat.lt_succ_of_le hs₁.mark),
          .inl (Nat.lt_succ_of_le hs₁.fieldStart), Nat.le_succ_of_le hs₁.fieldLen⟩
      rw [hs.chunked] at hsee
      rw [scan_ok ht hsee, scan_ok ht hrun]
      by_cases hb : t.brk = true
      · rw [if_pos hb, if_pos hb]
        refine ⟨fun cs' b' h => (by cases h), fun cs' k b' h => ?_⟩
        injection h with hcs' hk hb'
        obtain rfl : k = 1 := by omega
        rw [hcs', ← hb']
        exact ⟨s₁, rfl, hs'⟩
      · rw [if_neg hb, if_neg hb]
        obtain ⟨hmore, hstop⟩ := ih t.target (o + 1) (p + 1) s₁.chunked s₁
          (hfacts.stays hcs (by simpa using hb)) hs' (by omega)
        refine ⟨fun cs' b' h => ?_, fun cs' k b' h => ?_⟩
        · obtain ⟨s', hscan, hcs', hs'⟩ := hmore cs' b' h
          rw [List.length_cons, Nat.add_comm bs.length, ← Nat.add_assoc]
          exact ⟨s', hscan, hcs', hs'⟩
        · have hk : 0 < k := by
            have := (run_of_stop _ _ bs _ _ _ h).2.1
            omega
          obtain ⟨j, rfl⟩ : ∃ j, k = 1 + j := ⟨k - 1, by omega⟩
          rw [← Nat.add_assoc] at h ⊢
          exact hstop cs' j b' h

end

/-! ## one call of `execute` -/

section
variable {f : Nat → UInt8} {a e w : Str} {b : Bool} {s s₁ : HttpResponseParser} {cs p : Nat}

/-- a call whose scan is, from the position `p` on, a scan behind the version -/
structure Enters (f : Nat → UInt8) (a : Str) (s : HttpResponseParser) (cs p : Nat) (e : Str)
    (s₁ : HttpResponseParser) : Prop where
  scan : scan trans (act f a) s.cs 0 a s.rewind = scan trans (act f a) cs p e s₁
  inner : Inner cs
  error : s₁.error = 0
  below : Below p s₁
  length : p + e.length = a.length
  lt : a.length < 2 ^ 63

theorem Enters.sees (h : Enters f a s cs p e s₁) : Sees s₁.chunked p s₁ := ⟨h.error, rfl, h.below⟩

/-- what is to come of a head: with the parser behind the version, or in front of the space behind
it -/
def Ready (s : HttpResponseParser) (w : Str) : Prop :=
  s.error = 0 ∧ (Inner s.cs ∧ Accepts s.cs s.chunked w ∨
    s.cs = 15 ∧ s.chunked = false ∧ ∃ w', w = 32 :: w' ∧ Accepts 16 false w')

/-- a state in which the head is neither refused nor complete -/
def Going (cs : Nat) : Prop := cs ≠ Response.error ∧ cs ≠ firstFinal

theorem Inner.going (h : Inner cs) : Going cs := by
  rcases h with rfl | ⟨hle, hlt⟩
  · exact ⟨by decide, by decide⟩
  · refine ⟨?_, Nat.ne_of_lt hlt⟩
    rintro rfl
    exact absurd hle (by decide)

theorem Ready.going (h : Ready s w) : Going s.cs := by
  rcases h.2 with ⟨hcs, _⟩ | ⟨hcs, _⟩
  · exact hcs.going
  · rw [hcs]
    exact ⟨by decide, by decide⟩

theorem Enters.part (h : Enters f a s cs p e s₁) (hacc : Accepts cs s₁.chunked (e ++ w))
    (hw : w ≠ []) (ha : a ≠ []) :
    ∃ s', execute f a false s = .ok (s', a.length) ∧ Ready s' w := by
  obtain ⟨o, cs', b', hsee, hrest⟩ := hacc.part hw
  obtain ⟨s', hscan, hcs', hs'⟩ := (scan_sees (f := f) h.lt e cs o p s₁.chunked s₁ h.inner h.sees
    (Nat.le_of_eq h.length)).1 cs' b' hsee
  refine ⟨{ s' with cs := cs' }, ?_, hs'.error, .inl ⟨hcs', ?_⟩⟩
  · rw [h.length] at hs'
    have hbelow : Below a.length { s' with cs := cs' } := hs'.below
    rw [execute]
    simp only [Bool.false_eq_true, if_false, h.scan, hscan]
    rw [hbelow.checked ha (Nat.le_refl _)]
    rfl
  · show Accepts cs' s'.chunked w
    rw [hs'.chunked]
    exact hrest

theorem Enters.whole (h : Enters f a s cs p (w ++ e) s₁) (hacc : Accepts cs s₁.chunked w)
    (ha : a ≠ []) :
    ∃ s', execute f a false s = .ok (s', p + w.length) ∧ s'.cs = firstFinal ∧ s'.error = 0 ∧
      s'.chunked = true := by
  obtain ⟨o, hsee⟩ := hacc.extra e
  obtain ⟨s', hscan, hs'⟩ := (scan_sees (f := f) h.lt (w ++ e) cs o p s₁.chunked s₁ h.inner h.sees
    (Nat.le_of_eq h.length)).2 firstFinal w.length true hsee
  refine ⟨{ s' with cs := firstFinal }, ?_, rfl, hs'.error, hs'.chunked⟩
  have hbelow : Below (p + w.length) { s' with cs := firstFinal } := hs'.below
  have hle : p + w.length ≤ a.length := by
    rw [← h.length, List.length_append]
    omega
  rw [execute]
  simp only [Bool.false_eq_true, if_false, h.scan, hscan]
  rw [hbelow.checked ha hle]
  rfl

end

/-! ## the version -/

section
variable {f : Nat → UInt8} {a v r : Str} {s : HttpResponseParser}

/-- a version that the parser knows -/
def Known (v : Str) : Prop := v = asc "HTTP/1.1" ∨ v = asc "HTTP/1.0"

theorem ChunkedHead.split (h : ChunkedHead) :
    ∃ v r, Known v ∧ h.text = v ++ 32 :: r ∧ Accepts 16 false r := by
  have hrest : ∀ v r, Known v → h.text = v ++ 32 :: r → Accepts 16 false r := by
    intro v r hv htext
    have hacc := h.accepted
    have hr : r ≠ [] := by
      rintro rfl
      obtain ⟨o, hscan⟩ := hacc
      rw [htext] at hscan
      rcases hv with rfl | rfl <;> cases hscan
    rw [htext, ← List.singleton_append, ← List.append_assoc] at hacc
    obtain ⟨o, cs', b', hscan, hacc⟩ := hacc.part hr
    rcases hv with rfl | rfl
    · cases hscan
      exact hacc
    · cases hscan
      exact hacc
  rcases h.version with ⟨r, hr⟩ | ⟨r, hr⟩
  · exact ⟨_, r, .inl rfl, hr.symm, hrest _ r (.inl rfl) hr.symm⟩
  · exact ⟨_, r, .inr rfl, hr.symm, hrest _ r (.inr rfl) hr.symm⟩

theorem Known.length (h : Known v) : v.length = 8 := by
  rcases h with rfl | rfl <;> rfl

theorem onResponseHttpVersion_known (off : Str) (length : Nat) (s : HttpResponseParser)
    (h : length = 0 ∨ length = 8 ∧ ∃ v t, Known v ∧ off = v ++ t) :
    ∃ version, onResponseHttpVersion off length s =
      { s with response := { s.response with version := version } } := by
  rcases h with rfl | ⟨rfl, v, t, rfl | rfl, rfl⟩
  · exact ⟨0x11, rfl⟩
  · exact ⟨0x11, rfl⟩
  · exact ⟨0x10, rfl⟩

theorem scan_known (hv : Known v) (buffer : Str) (s : HttpResponseParser) :
    scan trans (act f buffer) start 0 (v ++ r) s
      = scan trans (act f buffer) 15 8 r { s with mark := 0 } := by
  rcases hv with rfl | rfl
  · rfl
  · rfl

theorem scan_space (f : Nat → UInt8) (buffer r : Str) {p : Nat} {s : HttpResponseParser}
    (h : LEN s.mark p = 0 ∨ LEN s.mark p = 8 ∧ ∃ v t, Known v ∧ buffer.drop s.mark = v ++ t) :
    ∃ version, scan trans (act f buffer) 15 p (32 :: r) s = scan trans (act f buffer) 16 (p + 1) r
      { s with response := { s.response with version := version } } := by
  obtain ⟨version, hver⟩ := onResponseHttpVersion_known (buffer.drop s.mark) (LEN s.mark p) s h
  have htrans : trans 15 32 = some ⟨[.httpVersion], 16, false⟩ := by decide
  have hrun : runActs (act f buffer p) [.httpVersion] s =
      .ok { s with response := { s.response with version := version } } :=
    congrArg Except.ok hver
  refine ⟨version, ?_⟩
  rw [scan_ok htrans hrun, if_neg Bool.false_ne_true]

theorem enters_inner (f : Nat → UInt8) (hcs : Inner s.cs) (herr : s.error = 0)
    (hlen : a.length < 2 ^ 63) : Enters f a s s.cs 0 a s.rewind :=
  ⟨rfl, hcs, herr, ⟨.inr rfl, .inr rfl, Nat.le_refl 0⟩, Nat.zero_add _, hlen⟩

theorem enters_space (f : Nat → UInt8) (hcs : s.cs = 15) (herr : s.error = 0)
    (hlen : (32 :: r).length < 2 ^ 63) :
    ∃ s₁, Enters f (32 :: r) s 16 1 r s₁ ∧ s₁.chunked = s.chunked := by
  obtain ⟨version, hscan⟩ := scan_space f (32 :: r) r (p := 0) (s := s.rewind) (.inl rfl)
  rw [← hcs] at hscan
  refine ⟨_, ⟨hscan, by decide, herr, ?_, Nat.add_comm _ _, hlen⟩, rfl⟩
  exact ⟨.inr rfl, .inr rfl, Nat.zero_le 1⟩

theorem enters_start (f : Nat → UInt8) (hv : Known v) (hlen : (v ++ 32 :: r).length < 2 ^ 63) :
    ∃ s₁, Enters f (v ++ 32 :: r) .new 16 9 r s₁ ∧ s₁.chunked = false := by
  have hstart := scan_known (r := 32 :: r) hv (f := f) (v ++ 32 :: r) HttpResponseParser.new.rewind
  obtain ⟨version, hscan⟩ := scan_space f (v ++ 32 :: r) r (p := 8)
    (s := { HttpResponseParser.new.rewind with mark := 0 }) (.inr ⟨rfl, v, 32 :: r, hv, rfl⟩)
  refine ⟨_, ⟨hstart.trans hscan, by decide, rfl, ?_, ?_, hlen⟩, rfl⟩
  · exact ⟨.inr rfl, .inr rfl, Nat.zero_le 9⟩
  · rw [List.length_append, List.length_cons, hv.length]
    omega

theorem execute_version (f : Nat → UInt8) (hv : Known v) :
    ∃ s', execute f v false .new = .ok (s', v.length) ∧ s'.cs = 15 ∧ s'.error = 0 ∧
      s'.chunked = false := by
  have hscan := scan_known (r := []) hv (f := f) v HttpResponseParser.new.rewind
  rw [List.append_nil] at hscan
  have hne : v ≠ [] := by
    rintro rfl
    exact absurd hv.length (by decide)
  refine ⟨{ HttpResponseParser.new.rewind with mark := 0, cs := 15 }, ?_, rfl, rfl, rfl⟩
  have hbelow : Below 0 { HttpResponseParser.new.rewind with mark := 0, cs := 15 } :=
    ⟨.inr rfl, .inr rfl, Nat.le_refl 0⟩
  rw [execute]
  simp only [Bool.false_eq_true, if_false]
  rw [show HttpResponseParser.new.cs = start from rfl, hscan]
  show (checked v v.length { HttpResponseParser.new.rewind with mark := 0, cs := 15 }).elim _ _ = _
  rw [hbelow.checked hne (Nat.zero_le _)]
  rfl

end

/-! ## the loop over the reads -/

section
variable {f : Nat → UInt8} {a e r v w : Str} {s : HttpResponseParser}

theorem Ready.ne_nil (h : Ready s w) : w ≠ [] := by
  rcases h.2 with ⟨_, hacc⟩ | ⟨_, _, w', rfl, _⟩
  · exact hacc.ne_nil
  · exact List.cons_ne_nil _ _

theorem Ready.whole (h : Ready s w) (f : Nat → UInt8) (hlen : (w ++ e).length < 2 ^ 63) :
    ∃ s', execute f (w ++ e) false s = .ok (s', w.length) ∧ s'.cs = firstFinal ∧ s'.error = 0 ∧
      s'.chunked = true := by
  have hne : w ++ e ≠ [] := List.append_ne_nil_of_left_ne_nil h.ne_nil e
  obtain ⟨herr, ⟨hcs, hacc⟩ | ⟨hcs, hch, w', rfl, hacc⟩⟩ := h
  · obtain ⟨s', hex, hs'⟩ := (enters_inner f hcs herr hlen).whole hacc hne
    rw [Nat.zero_add] at hex
    exact ⟨s', hex, hs'⟩
  · obtain ⟨s₁, hent, hs₁⟩ := enters_space f hcs herr hlen
    rw [hch] at hs₁
    rw [← hs₁] at hacc
    obtain ⟨s', hex, hs'⟩ := hent.whole hacc hne
    rw [Nat.add_comm] at hex
    exact ⟨s', hex, hs'⟩

theorem Ready.part (h : Ready s (a ++ w)) (f : Nat → UInt8) (ha : a ≠ []) (hw : w ≠ [])
    (hlen : a.length < 2 ^ 63) :
    ∃ s', execute f a false s = .ok (s', a.length) ∧ Ready s' w := by
  obtain ⟨herr, ⟨hcs, hacc⟩ | ⟨hcs, hch, w', hspace, hacc⟩⟩ := h
  · exact (enters_inner f hcs herr hlen).part hacc hw ha
  · obtain ⟨c, r, rfl⟩ := List.exists_cons_of_ne_nil ha
    obtain ⟨rfl, rfl⟩ := List.cons.inj hspace
    obtain ⟨s₁, hent, hs₁⟩ := enters_space f hcs herr hlen
    rw [hch] at hs₁
    rw [← hs₁] at hacc
    exact hent.part hacc hw ha

theorem start_whole (f : Nat → UInt8) (hv : Known v) (hacc : Accepts 16 false r)
    (hlen : (v ++ 32 :: r ++ e).length < 2 ^ 63) :
    ∃ s', execute f (v ++ 32 :: r ++ e) false .new = .ok (s', (v ++ 32 :: r).length) ∧
      s'.cs = firstFinal ∧ s'.error = 0 ∧ s'.chunked = true := by
  rw [List.append_assoc, List.cons_append] at hlen ⊢
  obtain ⟨s₁, hent, hs₁⟩ := enters_start (r := r ++ e) f hv hlen
  rw [← hs₁] at hacc
  obtain ⟨s', hex, hs'⟩ :=
    hent.whole hacc (List.append_ne_nil_of_right_ne_nil v (List.cons_ne_nil _ _))
  refine ⟨s', hex.trans ?_, hs'⟩
  rw [List.length_append, List.length_cons, hv.length, Nat.add_comm r.length, ← Nat.add_assoc]

theorem start_part (f : Nat → UInt8) (hv : Known v) (hacc : Accepts 16 false r)
    (haw : v ++ 32 :: r = a ++ w) (ha : 8 ≤ a.length) (hw : w ≠ []) (hlen : a.length < 2 ^ 63) :
    ∃ s', execute f a false .new = .ok (s', a.length) ∧ Ready s' w := by
  obtain ⟨t, ht⟩ : v <+: a := by
    refine List.prefix_of_prefix_length_le (List.prefix_append v (32 :: r)) ?_ ?_
    · rw [haw]
      exact List.prefix_append a w
    · rw [hv.length]
      exact ha
  subst ht
  rw [List.append_assoc] at haw
  have hrest := List.append_cancel_left haw
  cases t with
  | nil =>
    obtain ⟨s', hex, hcs, herr, hch⟩ := execute_version f hv
    rw [List.append_nil]
    exact ⟨s', hex, herr, .inr ⟨hcs, hch, r, hrest.symm, hacc⟩⟩
  | cons c t =>
    obtain ⟨rfl, rfl⟩ := List.cons.inj hrest
    obtain ⟨s₁, hent, hs₁⟩ := enters_start f hv hlen
    rw [← hs₁] at hacc
    exact hent.part hacc hw (List.append_ne_nil_of_right_ne_nil v (List.cons_ne_nil _ _))

end

section
variable {u : Ambient} {buff_size : Nat} {stream rest : Stream} {a : Str}
  {s s' : HttpResponseParser}

theorem isFinished_going (h : Going s.cs) : s.isFinished = 0 := by
  rw [HttpResponseParser.isFinished, if_neg h.1, if_neg h.2]

theorem hasError_going (h : Going s.cs) (herr : s.error = 0) : s.hasError = false := by
  rw [HttpResponseParser.hasError, herr, decide_eq_false h.1]
  rfl

theorem read_loop_done (hb : buff_size < 2 ^ 31) {held : Str} (hheld : held.length ≤ buff_size)
    (hread : stream.read (buff_size - held.length) = (a, rest)) (ha : a ≠ []) {n : Nat}
    (hn : 0 < n) (chunck : Bool)
    (hex : execute (u.stale rest.left) (held ++ a) chunck s = .ok (s', n))
    (hcs : s'.cs = firstFinal) (herr : s'.error = 0) :
    parseLoop (responseOps chunck) u.stale buff_size ⟨s, held, stream⟩
      = .finished s' ((held ++ a).drop n) rest := by
  have hle := Stream.length_read_le (buff_size - held.length) stream
  have hpos := List.length_pos_iff.mpr ha
  rw [hread] at hle
  dsimp only at hle
  have hround : Round (responseOps chunck) u.stale buff_size ⟨s, held, stream⟩ a rest s' n := by
    refine ⟨hread, ha, hex, ?_, ?_⟩
    · show s'.hasError = false
      rw [HttpResponseParser.hasError, herr, hcs]
      rfl
    · show (((held ++ a).length - n : Nat) : Int) ≠ _
      rw [toInt32_of_lt hb, List.length_append]
      omega
  have hfin : (responseOps chunck).isFinished s' = 1 := by
    show s'.isFinished = 1
    rw [HttpResponseParser.isFinished, hcs]
    rfl
  refine parseLoop_of_done (hround.step.trans ?_)
  rw [hfin, if_pos (by decide)]

theorem read_loop_unread {held : Str} (chunck : Bool)
    (hread : stream.read (buff_size - held.length) = ([], rest)) :
    parseLoop (responseOps chunck) u.stale buff_size ⟨s, held, stream⟩ = .null rest := by
  refine parseLoop_of_done ?_
  rw [parseStep]
  simp only [hread, List.length_nil, if_true]

theorem read_loop_refused {held : Str} {chunck : Bool} {n : Nat}
    (hread : stream.read (buff_size - held.length) = (a, rest)) (ha : a ≠ [])
    (hex : execute (u.stale rest.left) (held ++ a) chunck s = .ok (s', n))
    (herr : s'.hasError = true) :
    parseLoop (responseOps chunck) u.stale buff_size ⟨s, held, stream⟩ = .null rest := by
  have hne : ¬ a.length = 0 := fun h0 => ha (List.length_eq_zero_iff.mp h0)
  have hop : (responseOps chunck).execute (u.stale rest.left) (held ++ a) s = .ok (s', n) := hex
  have hopErr : (responseOps chunck).hasError s' = true := herr
  refine parseLoop_of_done ?_
  rw [parseStep]
  simp only [hread, if_neg hne, hop, hopErr, if_true]

theorem read_loop_next (hb : 0 < buff_size ∧ buff_size < 2 ^ 31)
    (hread : stream.read buff_size = (a, rest)) (ha : a ≠ [])
    (hex : execute (u.stale rest.left) a false s = .ok (s', a.length)) (hgo : Going s'.cs)
    (herr : s'.error = 0) :
    parseLoop (responseOps false) u.stale buff_size ⟨s, [], stream⟩
      = parseLoop (responseOps false) u.stale buff_size ⟨s', [], rest⟩ := by
  have hround : Round (responseOps false) u.stale buff_size ⟨s, [], stream⟩ a rest s' a.length := by
    refine ⟨hread, ha, hex, hasError_going hgo herr, ?_⟩
    show ((a.length - a.length : Nat) : Int) ≠ _
    rw [toInt32_of_lt hb.2]
    omega
  have hzero : (responseOps false).isFinished s' = 0 := isFinished_going hgo
  refine parseLoop_of_next (hround.step.trans ?_)
  rw [hzero, if_neg (by decide)]
  show Sum.inr (Parse.mk _ (a.drop a.length) rest) = _
  rw [List.drop_length]

theorem read_cases (hlive : stream.Live) (hpos : 0 < buff_size) {w : Str} (hw : w ≠ [])
    (hpre : w <+: List.flatten stream) (hread : stream.read buff_size = (a, rest)) :
    a ≠ [] ∧ rest.Live ∧ ((∃ e, a = w ++ e ∧ w.length ≤ a.length) ∨
      ∃ w', w = a ++ w' ∧ w' ≠ [] ∧ ¬ w.length ≤ a.length ∧ w' <+: List.flatten rest) := by
  have happ := Stream.read_append buff_size stream
  have hrest := hlive.read buff_size
  rw [hread] at happ hrest
  dsimp only at happ hrest
  refine ⟨?_, hrest, ?_⟩
  · rintro rfl
    have hnil := hlive.read_nil hpos (by rw [hread]; rfl)
    rw [hnil] at hpre
    exact hw (List.prefix_nil.mp hpre)
  · rw [← happ] at hpre
    by_cases hle : w.length ≤ a.length
    · obtain ⟨e, he⟩ := List.prefix_of_prefix_length_le hpre (List.prefix_append a _) hle
      exact .inl ⟨e, he.symm, hle⟩
    · obtain ⟨w', rfl⟩ := List.prefix_of_prefix_length_le (List.prefix_append a _) hpre (by omega)
      refine .inr ⟨w', rfl, ?_, hle, (List.prefix_append_right_inj a).mp hpre⟩
      rintro rfl
      rw [List.append_nil] at hle
      omega

/-- the rest of a head is taken from a stream -/
theorem ready_behind (hb : 0 < buff_size ∧ buff_size < 2 ^ 31) (fuel : Nat) :
    ∀ (w : Str) (stream : Stream) (s : HttpResponseParser), w.length ≤ fuel → Ready s w →
      stream.Live → w <+: List.flatten stream →
      ∃ p, parseLoop (responseOps false) u.stale buff_size ⟨s, [], stream⟩
          = .finished p (stream.behind buff_size fuel w.length).1
            (stream.behind buff_size fuel w.length).2 ∧ p.chunked = true ∧ p.error = 0 := by
  induction fuel with
  | zero =>
    intro w stream s hw hready
    exact absurd (List.length_eq_zero_iff.mp (Nat.le_zero.mp hw)) hready.ne_nil
  | succ fuel ih =>
    intro w stream s hw hready hlive hpre
    obtain ⟨a, rest, hread⟩ : ∃ a rest, stream.read buff_size = (a, rest) := ⟨_, _, rfl⟩
    have h31 := Stream.read_lt hread
    rw [Stream.behind]
    simp only [hread]
    obtain ⟨hne, hrest, ⟨e, rfl, hle⟩ | ⟨w', rfl, hw', hle, hpre'⟩⟩ :=
      read_cases hlive hb.1 hready.ne_nil hpre hread
    · obtain ⟨s', hex, hcs, herr, hch⟩ := hready.whole (e := e) (u.stale rest.left) (by omega)
      rw [if_pos hle]
      have hread₀ : stream.read (buff_size - ([] : Str).length) = (w ++ e, rest) := hread
      refine ⟨s', ?_, hch, herr⟩
      exact read_loop_done hb.2 (Nat.zero_le _) hread₀ hne (List.length_pos_iff.mpr hready.ne_nil)
        false hex hcs herr
    · obtain ⟨s', hex, hready'⟩ := hready.part (u.stale rest.left) hne hw' (by omega)
      have hpos := List.length_pos_iff.mpr hne
      rw [List.length_append] at hw
      rw [if_neg hle, read_loop_next hb hread hne hex hready'.going hready'.1, List.length_append,
        Nat.add_sub_cancel_left]
      exact ih w' rest s' (by omega) hready' hrest hpre'

/-- **The head is taken from every stream whose first read has the version.** -/
theorem head_behind (hb : buff_size < 2 ^ 31) (h : ChunkedHead) (hlive : stream.Live)
    (hpre : h.text <+: List.flatten stream) (hversion : 8 ≤ (stream.read buff_size).1.length) :
    ∃ p, recvResponseHead u buff_size stream
        = .finished p (stream.behind buff_size h.text.length h.text.length).1
          (stream.behind buff_size h.text.length h.text.length).2 ∧
        p.chunked = true ∧ p.error = 0 := by
  obtain ⟨v, r, hv, htext, hacc⟩ := h.split
  obtain ⟨a, rest, hread⟩ : ∃ a rest, stream.read buff_size = (a, rest) := ⟨_, _, rfl⟩
  have h31 := Stream.read_lt hread
  have hle := Stream.length_read_le buff_size stream
  rw [hread] at hversion hle
  dsimp only at hversion hle
  have hb0 : 0 < buff_size ∧ buff_size < 2 ^ 31 := ⟨by omega, hb⟩
  have htextne : h.text ≠ [] := by
    rw [htext]
    exact List.append_ne_nil_of_right_ne_nil v (List.cons_ne_nil _ _)
  obtain ⟨fuel, hfuel⟩ : ∃ fuel, h.text.length = fuel + 1 :=
    ⟨h.text.length - 1, by have := List.length_pos_iff.mpr htextne; omega⟩
  rw [hfuel, Stream.behind, ← hfuel]
  simp only [hread]
  obtain ⟨hne, hrest, ⟨e, he, hlen⟩ | ⟨w', hw, hw', hlen, hpre'⟩⟩ :=
    read_cases hlive hb0.1 htextne hpre hread
  · rw [htext] at he
    rw [he] at h31
    obtain ⟨s', hex, hcs, herr, hch⟩ := start_whole (e := e) (u.stale rest.left) hv hacc (by omega)
    rw [← he, ← htext] at hex
    rw [if_pos hlen]
    have hread₀ : stream.read (buff_size - ([] : Str).length) = (a, rest) := hread
    refine ⟨s', ?_, hch, herr⟩
    exact read_loop_done hb (Nat.zero_le _) hread₀ hne (by omega) false hex hcs herr
  · obtain ⟨s', hex, hready⟩ :=
      start_part (u.stale rest.left) hv hacc (htext.symm.trans hw) hversion hw' (by omega)
    rw [if_neg hlen, recvResponseHead, read_loop_next hb0 hread hne hex hready.going hready.1]
    have hw'len : h.text.length - a.length = w'.length := by
      rw [hw, List.length_append, Nat.add_sub_cancel_left]
    rw [hw'len]
    exact ready_behind hb0 fuel w' rest s' (by omega) hready hrest hpre'

end

end Response
end Http
end KitServer
