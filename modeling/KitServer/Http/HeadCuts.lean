import KitServer.Http.FixedBody
import KitServer.Http.RequestScan

/-!
# A request head that comes in several reads

`http_parser_execute` sets its offsets back to zero in every call.  A head that comes in one read is
compared with the same head cut into pieces.

* `cleanCuts`          no piece ends where an offset into it is still to be read;
* `head_pieces`        then the pieces are parsed as the whole head is;
* `recvRequest_cuts`   and `recvRequest` returns the same request;
* `method_cut`         a cut within the method.
-/

set_option linter.unusedVariables false

namespace KitServer
namespace Http
namespace Request

/-- no piece but the last ends where an offset into it is still to be read; `cs` is the state in
front of the first piece -/
def cleanCuts (rel : Bool) : Nat → List Str → Bool
  | _, [] => true
  | _, [_] => true
  | cs, a :: b :: rest =>
    match run (trans rel) cs a with
    | none => false
    | some cs' =>
      ([Reg.mark, .fieldStart, .name, .queryStart].all fun r =>
        !live (trans rel) reads writes r cs' (List.flatten (b :: rest))) &&
        cleanCuts rel cs' (b :: rest)

theorem cleanCuts_cons {rel : Bool} {cs : Nat} {a b : Str} {rest : List Str}
    (h : cleanCuts rel cs (a :: b :: rest) = true) :
    ∃ cs', run (trans rel) cs a = some cs' ∧
      (∀ r, live (trans rel) reads writes r cs' (List.flatten (b :: rest)) = false) ∧
      cleanCuts rel cs' (b :: rest) = true := by
  rw [cleanCuts] at h
  cases hrun : run (trans rel) cs a with
  | none =>
    rw [hrun] at h
    cases h
  | some cs' =>
    rw [hrun] at h
    simp only [Bool.and_eq_true, List.all_eq_true] at h
    obtain ⟨hall, hclean⟩ := h
    refine ⟨cs', rfl, fun r => ?_, hclean⟩
    have hr := hall r (by cases r <;> simp)
    simpa using hr

/-- a state in which the head is neither refused nor complete -/
def Going (cs : Nat) : Prop := cs ≠ Request.error ∧ cs < firstFinal

theorem going_start : Going start := ⟨by decide, by decide⟩

theorem going_run {rel : Bool} {cs cs' : Nat} {bs : Str} (h : Going cs)
    (hrun : run (trans rel) cs bs = some cs') : Going cs' :=
  run_inv (I := Going) (fun _ _ _ ht hb => (table_facts ht).1.going hb) bs cs cs' h hrun

section
variable {f : Nat → UInt8} {buffer bs : Str} {rel : Bool} {cs p cs' q : Nat}
  {s s' : HttpRequestParser}

theorem final_stop (h : scan (trans rel) (act f buffer) cs p bs s = .stop cs' q s') :
    firstFinal ≤ cs' := by
  obtain ⟨_, _, _, cs₁, c, t, ht, hb, rfl⟩ := run_of_stop _ _ bs cs p s h
  exact (table_facts ht).1.final hb

theorem noError_stop (h : scan (trans rel) (act f buffer) cs p bs s = .stop cs' q s')
    (herr : s'.error = 0) : s.error = 0 := by
  by_contra hne
  have hkeep := scan_inv (trans rel) (act f buffer) (I := fun t => t.error ≠ 0)
    (fun p a t t' ht hact => (act_keeps hact).2.2 ht) bs cs p s hne
  rw [h] at hkeep
  exact hkeep herr

theorem scan_cs (f : Nat → UInt8) (buffer bs : Str) (rel : Bool) (cs p : Nat)
    (s : HttpRequestParser) :
    (scan (trans rel) (act f buffer) cs p bs s).Ends fun t => t.cs = s.cs :=
  scan_inv (trans rel) (act f buffer) (I := fun t => t.cs = s.cs)
    (fun p a t t' ht hact => (act_keeps hact).2.1.trans ht) bs cs p s rfl

end

/-! ## one call of `execute` -/

section
variable {f : Nat → UInt8} {buffer : Str} {rel : Bool} {s t : HttpRequestParser} {cs q : Nat}

theorem setCs_of_ends {r : Scan HttpRequestParser Fault} (hcs : s.cs ≠ Request.error)
    (h : r.Ends fun t => t.cs = s.cs) : r.Ends fun t => ∀ cs, t.setCs cs = { t with cs := cs } := by
  have hset : ∀ t : HttpRequestParser, t.cs = s.cs → ∀ cs, t.setCs cs = { t with cs := cs } := by
    intro t ht cs
    rw [HttpRequestParser.setCs, if_neg (ht ▸ hcs)]
  cases r with
  | more cs t => exact hset t h
  | stop cs q t => exact hset t h
  | bad q t => exact hset t h
  | fail e => trivial

theorem execute_more (hne : buffer ≠ []) (hcs : s.cs ≠ Request.error)
    (h : scan (trans rel) (act f buffer) s.cs 0 buffer s.rewind = .more cs t) :
    execute f buffer rel s = .ok ({ t with cs := cs }, buffer.length) := by
  have hset := setCs_of_ends (s := s) hcs (scan_cs f buffer buffer rel s.cs 0 s.rewind)
  rw [h] at hset
  rw [execute, if_neg (by simpa using hne), h]
  dsimp only
  rw [hset]

theorem execute_stop (hne : buffer ≠ []) (hcs : s.cs ≠ Request.error)
    (h : scan (trans rel) (act f buffer) s.cs 0 buffer s.rewind = .stop cs q t) :
    execute f buffer rel s = .ok ({ t with cs := cs }, q) := by
  have hset := setCs_of_ends (s := s) hcs (scan_cs f buffer buffer rel s.cs 0 s.rewind)
  rw [h] at hset
  rw [execute, if_neg (by simpa using hne), h]
  dsimp only
  rw [hset]

theorem execute_bad (hne : buffer ≠ []) (hcs : s.cs ≠ Request.error)
    (h : scan (trans rel) (act f buffer) s.cs 0 buffer s.rewind = .bad q t) :
    execute f buffer rel s = .ok ({ t with cs := Request.error }, q) := by
  have hset := setCs_of_ends (s := s) hcs (scan_cs f buffer buffer rel s.cs 0 s.rewind)
  rw [h] at hset
  rw [execute, if_neg (by simpa using hne), h]
  dsimp only
  rw [hset]

end

theorem hasError_eq_false {s : HttpRequestParser} (herr : s.error = 0) (hcs : s.cs ≠ Request.error) :
    s.hasError = false := by
  simp [HttpRequestParser.hasError, herr, hcs]

theorem isFinished_going {s : HttpRequestParser} (h : Going s.cs) : s.isFinished = 0 := by
  rw [HttpRequestParser.isFinished, if_neg h.1, if_neg (Nat.not_le.mpr h.2)]

theorem isFinished_final {s : HttpRequestParser} (h : firstFinal ≤ s.cs) : s.isFinished = 1 := by
  have hne : s.cs ≠ Request.error := fun h0 => by
    rw [h0] at h
    exact absurd h (by decide)
  rw [HttpRequestParser.isFinished, if_neg hne, if_pos h]

/-! ## the loop over the pieces -/

section
variable {u : Ambient} {buff_size : Nat} {f : Nat → UInt8} {held : Str} {cs' : Nat}
  {s' : HttpRequestParser}

/-- a piece that ends behind the head -/
theorem last_piece (hheld : (held.length : Int) ≠ toInt32 buff_size) (herr : s'.error = 0)
    {stream tail : Stream} {before a : Str} {s t : HttpRequestParser} {q : Nat}
    (hread : stream.read buff_size = (a, tail)) (hne : a ≠ []) (hgo : Going t.cs)
    (hR : Follows before.length
      (fun r => live (trans u.uriRelaxed) reads writes r t.cs a) 0 s t.rewind)
    (hscan : scan (trans u.uriRelaxed) (act f (before ++ a)) t.cs before.length a s
      = .stop cs' q s')
    (hdrop : (before ++ a).drop q = held) :
    ∃ parser, parseLoop (requestOps u) u.stale buff_size ⟨t, [], stream⟩
        = .finished parser held tail ∧ parser.request = s'.request := by
  have h31 := Stream.read_lt hread
  obtain ⟨_, hlt, _, _⟩ := run_of_stop _ _ a t.cs before.length s hscan
  obtain ⟨q', rfl⟩ : ∃ q', q = before.length + q' := ⟨q - before.length, by omega⟩
  have hfinal := final_stop hscan
  rw [← List.append_nil (before ++ a)] at hscan
  have hR₀ : Follows before.length
      (fun r => live (trans u.uriRelaxed) reads writes r t.cs (a ++ [])) 0 s t.rewind := by
    rw [List.append_nil]
    exact hR
  obtain ⟨t', hscan', hR'⟩ : ∃ t', scan (trans u.uriRelaxed) (act (u.stale tail.left) a) t.cs 0 a
      t.rewind = .stop cs' q' t' ∧ Follows before.length (fun _ => false) q' s' t' := by
    rcases scan_request f (u.stale tail.left) (by omega) hR₀ with
      ⟨_, _, _, hboth, _⟩ | ⟨cs₂, q₂, s₂, t₂, hboth, hscan₂, hR₂⟩ | ⟨_, _, _, hboth, _⟩
    · rw [hscan] at hboth
      cases hboth
    · rw [hscan] at hboth
      injection hboth with hcs hq hs
      obtain rfl : q' = q₂ := by omega
      rw [hcs, hs]
      exact ⟨t₂, hscan₂, hR₂⟩
    · rw [hscan] at hboth
      cases hboth
  have hdata : a.drop q' = held := by
    rw [← hdrop, ← List.drop_drop, List.drop_left]
  have hex : execute (u.stale tail.left) a u.uriRelaxed t = .ok ({ t' with cs := cs' }, q') :=
    execute_stop hne hgo.1 hscan'
  have hround : Round (requestOps u) u.stale buff_size ⟨t, [], stream⟩ a tail
      { t' with cs := cs' } q' := by
    refine ⟨hread, hne, hex, ?_, ?_⟩
    · refine hasError_eq_false (hR'.error.trans herr) ?_
      intro h0
      have h0' : cs' = 0 := h0
      rw [h0'] at hfinal
      exact absurd hfinal (by decide)
    · show ((a.length - q' : Nat) : Int) ≠ _
      rw [← List.length_drop, hdata]
      exact hheld
  refine ⟨{ t' with cs := cs' }, ?_, hR'.request⟩
  refine parseLoop_of_done (hround.step.trans ?_)
  have hfin : (requestOps u).isFinished { t' with cs := cs' } = 1 := isFinished_final hfinal
  rw [hfin, if_pos (by decide)]
  show Sum.inl (ParseEnd.finished _ (a.drop q') tail) = _
  rw [hdata]

/-- a piece that ends within the head -/
theorem inner_piece (hb0 : toInt32 buff_size ≠ 0) {stream tail : Stream} {before a : Str}
    {s t s₁ : HttpRequestParser} {rest : Str} {cs₁ : Nat}
    (hread : stream.read buff_size = (a, tail)) (hne : a ≠ []) (hgo : Going t.cs)
    (hR : Follows before.length
      (fun r => live (trans u.uriRelaxed) reads writes r t.cs (a ++ rest)) 0 s t.rewind)
    (hscan : scan (trans u.uriRelaxed) (act f (before ++ a ++ rest)) t.cs before.length a s
      = .more cs₁ s₁)
    (herr : s₁.error = 0) :
    ∃ t' : HttpRequestParser, parseLoop (requestOps u) u.stale buff_size ⟨t, [], stream⟩
        = parseLoop (requestOps u) u.stale buff_size ⟨{ t' with cs := cs₁ }, [], tail⟩ ∧
      t'.request = s₁.request ∧ t'.error = s₁.error := by
  have h31 := Stream.read_lt hread
  obtain ⟨t', hscan', hR'⟩ : ∃ t', scan (trans u.uriRelaxed) (act (u.stale tail.left) a) t.cs 0 a
      t.rewind = .more cs₁ t' ∧ Follows before.length
        (fun r => live (trans u.uriRelaxed) reads writes r cs₁ rest) a.length s₁ t' := by
    rcases scan_request f (u.stale tail.left) (by omega) hR with
      ⟨cs₂, s₂, t₂, hboth, hscan₂, hR₂⟩ | ⟨_, _, _, _, hboth, _⟩ | ⟨_, _, _, hboth, _⟩
    · rw [hscan] at hboth
      injection hboth with hcs hs
      rw [hcs, hs]
      exact ⟨t₂, hscan₂, hR₂⟩
    · rw [hscan] at hboth
      cases hboth
    · rw [hscan] at hboth
      cases hboth
  have hgo₁ : Going cs₁ := going_run hgo (run_of_more _ _ a t.cs before.length s hscan)
  have hex : execute (u.stale tail.left) a u.uriRelaxed t = .ok ({ t' with cs := cs₁ }, a.length) :=
    execute_more hne hgo.1 hscan'
  have hround : Round (requestOps u) u.stale buff_size ⟨t, [], stream⟩ a tail
      { t' with cs := cs₁ } a.length := by
    refine ⟨hread, hne, hex, ?_, ?_⟩
    · exact hasError_eq_false (hR'.error.trans herr) hgo₁.1
    · show ((a.length - a.length : Nat) : Int) ≠ _
      rw [Nat.sub_self]
      exact hb0.symm
  refine ⟨t', ?_, hR'.request, hR'.error⟩
  refine parseLoop_of_next (hround.step.trans ?_)
  have hfin : (requestOps u).isFinished { t' with cs := cs₁ } = 0 := isFinished_going hgo₁
  rw [hfin, if_neg (by decide)]
  show Sum.inr (Parse.mk _ (a.drop a.length) tail) = _
  rw [List.drop_length]

/-- the pieces of a head from a clean cut on -/
theorem pieces_from (hb0 : toInt32 buff_size ≠ 0) (hheld : (held.length : Int) ≠ toInt32 buff_size)
    (herr : s'.error = 0) {tail : Stream} (segs : List Str) :
    ∀ (stream : Stream) (before : Str) (s t : HttpRequestParser) (q : Nat), segs ≠ [] →
      stream.Reads buff_size segs tail → Going t.cs →
      cleanCuts u.uriRelaxed t.cs segs = true →
      Follows before.length
        (fun r => live (trans u.uriRelaxed) reads writes r t.cs (List.flatten segs)) 0 s t.rewind →
      scan (trans u.uriRelaxed) (act f (before ++ List.flatten segs)) t.cs before.length
        (List.flatten segs) s = .stop cs' q s' →
      (before ++ List.flatten segs).drop q = held →
      ∃ parser, parseLoop (requestOps u) u.stale buff_size ⟨t, [], stream⟩
          = .finished parser held tail ∧ parser.request = s'.request := by
  induction segs with
  | nil => intro _ _ _ _ _ h; exact absurd rfl h
  | cons a rest ih =>
    intro stream before s t q _ hsegs hgo hcut hR hscan hdrop
    obtain @⟨_⟩ | @⟨_, stream', _, _, _, hread, hne, hsegs⟩ := hsegs
    cases rest with
    | nil =>
      rw [List.flatten_cons, List.flatten_nil, List.append_nil] at hR hscan hdrop
      obtain @⟨_⟩ := hsegs
      exact last_piece hheld herr hread hne hgo hR hscan hdrop
    | cons b rest =>
      obtain ⟨cs₁, hrun, hdead, hcut₁⟩ := cleanCuts_cons hcut
      rw [List.flatten_cons] at hR
      rw [List.flatten_cons, ← List.append_assoc, scan_append] at hscan
      rw [List.flatten_cons, ← List.append_assoc] at hdrop
      cases hpart : scan (trans u.uriRelaxed) (act f (before ++ a ++ List.flatten (b :: rest)))
          t.cs before.length a s with
      | more cs₂ s₁ =>
        have hcs : cs₂ = cs₁ := by
          have h := run_of_more _ _ a t.cs before.length s hpart
          rw [hrun] at h
          cases h
          rfl
        subst hcs
        rw [hpart] at hscan
        dsimp only at hscan
        obtain ⟨t', hloop, hreq, herr'⟩ :=
          inner_piece hb0 hread hne hgo hR hpart (noError_stop hscan herr)
        have hgo₂ : Going cs₂ := going_run hgo hrun
        have hlen : before.length + a.length = (before ++ a).length := List.length_append.symm
        rw [hlen] at hscan
        have hR₂ : Follows (before ++ a).length (fun r => live (trans u.uriRelaxed) reads writes r
            cs₂ (List.flatten (b :: rest))) 0 s₁ ({ t' with cs := cs₂ } : HttpRequestParser).rewind := by
          refine ⟨hreq, herr', ?_, ?_, ?_, ?_⟩
          · intro h
            rw [hdead] at h
            cases h
          · intro h
            rw [hdead] at h
            cases h
          · intro h
            rw [hdead] at h
            cases h
          · intro h
            rw [hdead] at h
            cases h
        obtain ⟨parser, hparse, hpreq⟩ := ih stream' (before ++ a) s₁ { t' with cs := cs₂ } q
          (List.cons_ne_nil b rest) hsegs hgo₂ hcut₁ hR₂ hscan hdrop
        exact ⟨parser, hloop.trans hparse, hpreq⟩
      | stop cs₂ q₂ s₁ =>
        have h := (run_of_stop _ _ a t.cs before.length s hpart).1
        rw [hrun] at h
        cases h
      | bad q₂ s₁ =>
        rw [hpart] at hscan
        cases hscan
      | fail e =>
        rw [hpart] at hscan
        cases hscan

end

/-! ## the head in one read -/

/-- what a call of the parser has done when the parser is finished -/
theorem execute_finished {f : Nat → UInt8} {w : Str} {rel : Bool} {s p : HttpRequestParser} {n : Nat}
    (hgo : Going s.cs) (hex : execute f w rel s = .ok (p, n)) (hno : p.hasError = false)
    (hfin : p.isFinished ≠ 0) :
    w ≠ [] ∧ ∃ cs' s', scan (trans rel) (act f w) s.cs 0 w s.rewind = .stop cs' n s' ∧
      s'.error = 0 ∧ p.request = s'.request := by
  have hne : w ≠ [] := by
    rintro rfl
    obtain ⟨rfl, _⟩ := Prod.mk.inj (Except.ok.inj hex)
    exact hfin (isFinished_going hgo)
  have hcs : s.cs ≠ Request.error := hgo.1
  refine ⟨hne, ?_⟩
  cases hscan : scan (trans rel) (act f w) s.cs 0 w s.rewind with
  | more cs t =>
    have hp := Except.ok.inj ((execute_more hne hcs hscan).symm.trans hex)
    obtain ⟨rfl, _⟩ := Prod.mk.inj hp
    have hgo' : Going cs := going_run hgo (run_of_more _ _ w s.cs 0 _ hscan)
    exact absurd (isFinished_going (s := { t with cs := cs }) hgo') hfin
  | stop cs q t =>
    have hp := Except.ok.inj ((execute_stop hne hcs hscan).symm.trans hex)
    obtain ⟨rfl, rfl⟩ := Prod.mk.inj hp
    refine ⟨cs, t, rfl, ?_, rfl⟩
    by_contra herr
    simp [HttpRequestParser.hasError, herr] at hno
  | bad q t =>
    have hp := Except.ok.inj ((execute_bad hne hcs hscan).symm.trans hex)
    obtain ⟨rfl, _⟩ := Prod.mk.inj hp
    simp [HttpRequestParser.hasError] at hno
  | fail e =>
    rw [execute, if_neg (by simpa using hne), hscan] at hex
    cases hex

/-- what is known of a head that is accepted in one read -/
theorem one_read {u : Ambient} {buff_size : Nat} {w held : Str} {parser : HttpRequestParser}
    (hw : w.length ≤ buff_size) (h31 : w.length < 2 ^ 31)
    (h : recvRequestHead u buff_size [w] = .finished parser held []) :
    w ≠ [] ∧ (held.length : Int) ≠ toInt32 buff_size ∧
      ∃ cs' q s', scan (trans u.uriRelaxed) (act (u.stale 0) w) start 0 w
          (HttpRequestParser.new u).rewind = .stop cs' q s' ∧
        s'.error = 0 ∧ w.drop q = held ∧ parser.request = s'.request := by
  have hread : Stream.read (buff_size - ([] : Str).length) [w] = (w, []) :=
    Stream.read_whole hw h31 []
  have hcases := @parseStep_cases _ (requestOps u) u.stale buff_size ⟨.new u, [], [w]⟩
  rcases hcases with ⟨bytes, rest, _, hnull | ⟨e, _, _, hfault⟩⟩ | ⟨bytes, rest, p, n, hround⟩
  · rw [recvRequestHead, parseLoop_of_done hnull] at h
    cases h
  · rw [recvRequestHead, parseLoop_of_done hfault] at h
    cases h
  have hbytes := hround.read
  rw [hread] at hbytes
  obtain ⟨rfl, rfl⟩ : w = bytes ∧ ([] : Stream) = rest := Prod.mk.inj hbytes
  by_cases hfin : (requestOps u).isFinished p ≠ 0
  swap
  · have hnext := hround.step
    rw [if_neg hfin] at hnext
    rw [recvRequestHead, parseLoop_of_next hnext, parseLoop_of_done (e := .null []) rfl] at h
    cases h
  have hdone := hround.step
  rw [if_pos hfin] at hdone
  rw [recvRequestHead, parseLoop_of_done hdone] at h
  injection h with hp hheld _
  subst hp
  rw [List.nil_append] at hheld
  have hroom : ((w.length - n : Nat) : Int) ≠ toInt32 buff_size := hround.room
  rw [← List.length_drop, hheld] at hroom
  obtain ⟨hne, cs', s', hscan, herr, hreq⟩ :=
    execute_finished going_start hround.execute hround.noError hfin
  exact ⟨hne, hroom, cs', n, s', hscan, herr, hheld, hreq⟩

theorem follows_start (u : Ambient) (w : Str) :
    Follows 0 (fun r => live (trans u.uriRelaxed) reads writes r start w) 0
      (HttpRequestParser.new u).rewind (HttpRequestParser.new u).rewind := by
  refine ⟨rfl, rfl, fun _ => ⟨rfl, Nat.le_refl 0⟩, fun _ => ⟨rfl, Nat.le_refl 0⟩,
    fun _ => ⟨rfl, rfl, Nat.le_refl 0⟩, fun hquery => ?_⟩
  have := live_queryStart hquery
  exact absurd this (by decide)

theorem head_reads {u : Ambient} {buff_size : Nat} {f : Nat → UInt8} {w held : Str} {cs' q : Nat}
    {s' : HttpRequestParser} (hb0 : toInt32 buff_size ≠ 0)
    (hheld : (held.length : Int) ≠ toInt32 buff_size) (herr : s'.error = 0)
    (hscan : scan (trans u.uriRelaxed) (act f w) start 0 w (HttpRequestParser.new u).rewind
      = .stop cs' q s')
    (hdrop : w.drop q = held) {segs : List Str} (hsegs : List.flatten segs = w)
    (hcut : cleanCuts u.uriRelaxed start segs = true) {stream tail : Stream}
    (hreads : stream.Reads buff_size segs tail) :
    ∃ parser, recvRequestHead u buff_size stream = .finished parser held tail ∧
      parser.request = s'.request := by
  subst hsegs
  have hsegsne : segs ≠ [] := by
    rintro rfl
    cases hscan
  exact pieces_from hb0 hheld herr segs stream [] _ (.new u) q hsegsne hreads going_start hcut
    (follows_start u _) hscan hdrop

/-- **A head in pieces is parsed as the head in one read, when every piece but the last ends at a
clean cut.** -/
theorem head_pieces {u : Ambient} {buff_size : Nat} {w held : Str} {parser : HttpRequestParser}
    (hb0 : toInt32 buff_size ≠ 0) (hw : w.length ≤ buff_size) (h31 : w.length < 2 ^ 31)
    (hone : recvRequestHead u buff_size [w] = .finished parser held []) {segs : List Str}
    (hsegs : List.flatten segs = w) (hne : [] ∉ segs)
    (hcut : cleanCuts u.uriRelaxed start segs = true) (tail : Stream) :
    ∃ parser', recvRequestHead u buff_size (segs ++ tail) = .finished parser' held tail ∧
      parser'.request = parser.request := by
  obtain ⟨_, hheld, cs', q, s', hscan, herr, hdrop, hreq⟩ := one_read hw h31 hone
  have hpiece : ∀ a ∈ segs, a ≠ [] ∧ a.length ≤ buff_size ∧ a.length < 2 ^ 31 := by
    intro a ha
    have hle : a.length ≤ (List.flatten segs).length :=
      (List.sublist_flatten_of_mem ha).length_le
    rw [hsegs] at hle
    exact ⟨fun h => hne (h ▸ ha), by omega, by omega⟩
  obtain ⟨parser', hparse, hreq'⟩ :=
    head_reads hb0 hheld herr hscan hdrop hsegs hcut (.whole tail segs hpiece)
  exact ⟨parser', hparse, hreq'.trans hreq.symm⟩

end Request

/-! ## the receiving function -/

/-- **A head without a body gives the same request in one read and in pieces, when every piece but
the last ends at a clean cut.** -/
theorem recvRequest_cuts {u : Ambient} {buff_size : Nat} {w : Str}
    {parser : Request.HttpRequestParser} (hw : w.length ≤ buff_size) (h31 : w.length < 2 ^ 31)
    (hone : recvRequestHead u buff_size [w] = .finished parser [] [])
    (hbody : parser.getContentLength u = 0) {segs : List Str} (hsegs : List.flatten segs = w)
    (hne : [] ∉ segs) (hcut : Request.cleanCuts u.uriRelaxed Request.start segs = true) :
    ∃ m, (recvRequest u buff_size [w]).outcome = .message m ∧
      (recvRequest u buff_size segs).outcome = .message m := by
  have hb0 : toInt32 buff_size ≠ 0 := by
    have h := (Request.one_read hw h31 hone).2.1
    exact fun h0 => h h0.symm
  obtain ⟨parser', hparse, hreq⟩ := Request.head_pieces hb0 hw h31 hone hsegs hne hcut []
  rw [List.append_nil] at hparse
  have hbody' : parser'.getContentLength u = 0 := by
    rw [Request.HttpRequestParser.getContentLength, hreq]
    exact hbody
  refine ⟨parser.request.init, ?_, ?_⟩
  · rw [recvRequest_body hone, hbody, if_neg (by decide)]
  · rw [recvRequest_body hparse, hbody', if_neg (by decide), hreq]

/-- a head in three pieces -/
theorem three_pieces : ∃ m,
    (recvRequest .zero 4096 [asc "GET / HTTP/1.1\r\nA: b\r\n\r\n"]).outcome = .message m ∧
      (recvRequest .zero 4096
        [asc "GET ", asc "/ HTTP/1.1\r\n", asc "A: b\r\n\r\n"]).outcome = .message m := by
  have hhead : (recvRequestHead .zero 4096 [asc "GET / HTTP/1.1\r\nA: b\r\n\r\n"]).finishes
      (fun parser held rest => parser.getContentLength .zero = 0 && held = [] && rest = []) = true := by
    decide +kernel
  obtain ⟨parser, held, rest, hone, hq⟩ := (finishes_iff _).mp hhead
  simp only [Bool.and_eq_true, decide_eq_true_eq] at hq
  obtain ⟨⟨hbody, rfl⟩, rfl⟩ := hq
  exact recvRequest_cuts (by decide +kernel) (by decide +kernel) hone hbody (by decide +kernel)
    (by decide +kernel) (by decide +kernel)

/-- a cut within the method -/
theorem method_cut : ¬ ∀ (u : Ambient) (buff_size : Nat) (w : Str)
    (parser : Request.HttpRequestParser), w.length ≤ buff_size → w.length < 2 ^ 31 →
    recvRequestHead u buff_size [w] = .finished parser [] [] → parser.getContentLength u = 0 →
    ∀ segs : List Str, List.flatten segs = w → [] ∉ segs →
      ∃ m, (recvRequest u buff_size [w]).outcome = .message m ∧
        (recvRequest u buff_size segs).outcome = .message m := by
  intro h
  have hhead : (recvRequestHead .zero 4096 [asc "GET / HTTP/1.1\r\n\r\n"]).finishes
      (fun parser held rest => parser.getContentLength .zero = 0 && held = [] && rest = []) = true := by
    decide +kernel
  have hnull : (recvRequest .zero 4096 [asc "GE", asc "T / HTTP/1.1\r\n\r\n"]).outcome
      = .null := by
    decide +kernel
  obtain ⟨parser, held, rest, hone, hq⟩ := (finishes_iff _).mp hhead
  simp only [Bool.and_eq_true, decide_eq_true_eq] at hq
  obtain ⟨⟨hbody, rfl⟩, rfl⟩ := hq
  obtain ⟨m, _, hm⟩ := h .zero 4096 _ parser (by decide +kernel) (by decide +kernel) hone hbody
    [asc "GE", asc "T / HTTP/1.1\r\n\r\n"] (by decide +kernel) (by decide +kernel)
  rw [hnull] at hm
  cases hm

end Http
end KitServer
