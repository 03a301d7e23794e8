import KitServer.Http.ResponseCuts

/-!
# The version of a response in several reads

The callback for the version gets the bytes from the offset 0 of the last buffer on.  Of a version
that is cut these are its last bytes, which are no version that the parser knows; behind a read
that ends with the version they are none, and `strncmp` over no bytes finds no difference.

* `VersionRead`        the version is in one read, or a read ends right behind it;
* `execute_cut`        the call that reads behind a version that is cut;
* `head_read`          the head is taken when the version is read, and refused when it is not.
-/

set_option linter.unusedVariables false

namespace KitServer
namespace Http

/-- the version is in one read, or a read ends right behind it -/
def VersionRead (buff_size : Nat) (stream : Stream) : Prop :=
  8 ≤ (stream.read buff_size).1.length ∨ (stream.behind buff_size 8 8).1 = []

instance (buff_size : Nat) (stream : Stream) : Decidable (VersionRead buff_size stream) :=
  inferInstanceAs (Decidable (_ ∨ _))

namespace Response

/-! ## within the version -/

section
variable {f : Nat → UInt8} {buffer a r v w : Str} {k p : Nat} {c : UInt8}
  {s s' : HttpResponseParser}

theorem trans_version (hv : Known v) (hk : 1 ≤ k) (h : v.drop k = c :: w) :
    trans (7 + k) c = some ⟨[], 8 + k, false⟩ := by
  have hk8 : k < 8 := by
    have hlen := congrArg List.length h
    rw [List.length_drop, hv.length, List.length_cons] at hlen
    omega
  rcases hv with rfl | rfl
  · interval_cases k <;> cases h <;> decide
  · interval_cases k <;> cases h <;> decide

theorem scan_version (hv : Known v) (a : Str) : ∀ (k p : Nat) (r : Str) (s : HttpResponseParser),
    1 ≤ k → a <+: v.drop k → scan trans (act f buffer) (7 + k) p (a ++ r) s
      = scan trans (act f buffer) (7 + k + a.length) (p + a.length) r s := by
  induction a with
  | nil => intro k p r s _ _; rfl
  | cons c a ih =>
    rintro k p r s hk ⟨w, hw⟩
    have htail : a <+: v.drop (k + 1) := by
      rw [← List.tail_drop, ← hw]
      exact ⟨w, rfl⟩
    rw [List.cons_append, scan_ok (trans_version hv hk hw.symm) rfl, if_neg Bool.false_ne_true]
    dsimp only
    rw [show 8 + k = 7 + (k + 1) by omega, ih (k + 1) (p + 1) r s (by omega) htail,
      List.length_cons]
    congr 1 <;> omega

theorem execute_within (hv : Known v) (hk : 1 ≤ k) (ha : a <+: v.drop k) (hne : a ≠ [])
    (f : Nat → UInt8) (hcs : s.cs = 7 + k) :
    ∃ s', execute f a false s = .ok (s', a.length) ∧ s'.cs = 7 + k + a.length ∧
      s'.error = s.error ∧ s'.chunked = s.chunked := by
  have hscan := @scan_version f a v hv a k 0 [] s.rewind hk ha
  rw [List.append_nil] at hscan
  refine ⟨{ s.rewind with cs := 7 + k + a.length }, ?_, rfl, rfl, rfl⟩
  have hbelow : Below 0 { s.rewind with cs := 7 + k + a.length } :=
    ⟨.inr rfl, .inr rfl, Nat.le_refl 0⟩
  rw [execute]
  simp only [Bool.false_eq_true, if_false, hcs, hscan]
  show (checked a a.length { s.rewind with cs := 7 + k + a.length }).elim _ _ = _
  rw [hbelow.checked hne (Nat.zero_le _)]
  rfl

/-- a first read that ends within the version -/
theorem execute_first (hv : Known v) (ha : a <+: v) (hne : a ≠ []) (f : Nat → UInt8) :
    ∃ s', execute f a false .new = .ok (s', a.length) ∧ s'.cs = 7 + a.length ∧ s'.error = 0 ∧
      s'.chunked = false := by
  obtain ⟨c, a, rfl⟩ := List.exists_cons_of_ne_nil hne
  obtain ⟨w, hw⟩ := ha
  have hc : c = 72 := by
    rcases hv with rfl | rfl
    · exact (List.cons.inj hw).1
    · exact (List.cons.inj hw).1
  have htail : a <+: v.drop 1 := by
    rw [← hw]
    exact ⟨w, rfl⟩
  have hmark : trans start 72 = some ⟨[.mark], 8, false⟩ := by decide
  have hscan : scan trans (act f (c :: a)) start 0 (c :: a) HttpResponseParser.new.rewind
      = .more (7 + (a.length + 1)) HttpResponseParser.new.rewind := by
    have hrest := @scan_version f (c :: a) v hv a 1 1 [] HttpResponseParser.new.rewind
      (Nat.le_refl 1) htail
    rw [List.append_nil] at hrest
    rw [hc] at hrest ⊢
    rw [scan_ok hmark rfl, if_neg Bool.false_ne_true]
    refine hrest.trans ?_
    rw [Nat.add_assoc, Nat.add_comm 1]
    rfl
  refine ⟨{ HttpResponseParser.new.rewind with cs := 7 + (a.length + 1) }, ?_, rfl, rfl, rfl⟩
  have hbelow : Below 0 { HttpResponseParser.new.rewind with cs := 7 + (a.length + 1) } :=
    ⟨.inr rfl, .inr rfl, Nat.le_refl 0⟩
  rw [execute]
  simp only [Bool.false_eq_true, if_false]
  rw [show HttpResponseParser.new.cs = start from rfl, hscan]
  show (checked (c :: a) (c :: a).length
    { HttpResponseParser.new.rewind with cs := 7 + (a.length + 1) }).elim _ _ = _
  rw [hbelow.checked hne (Nat.zero_le _)]
  rfl

/-! ## behind a version that is cut -/

theorem act_error {b : Act} (h : act f buffer p b s = .ok s') (herr : s.error ≠ 0) :
    s'.error ≠ 0 := by
  cases b <;> simp only [act] at h
  case writeValue =>
    obtain rfl | ⟨key, val, rfl⟩ := onResponseHttpField_ok h
    · exact herr
    · exact herr
  case reasonPhrase =>
    split at h
    · cases h
    · cases h
      exact herr
  case httpVersion =>
    cases h
    unfold onResponseHttpVersion
    split
    · exact herr
    · split
      · exact herr
      · exact Nat.succ_ne_zero _
  all_goals
    cases h
    exact herr

theorem onResponseHttpVersion_cut (hv : Known v) (hk : 1 ≤ k ∧ k < 8) (t : Str)
    (s : HttpResponseParser) :
    (onResponseHttpVersion (v.drop k ++ t) (v.drop k).length s).error ≠ 0 := by
  obtain ⟨hk1, hk8⟩ := hk
  rcases hv with rfl | rfl
  · interval_cases k <;> exact Nat.succ_ne_zero _
  · interval_cases k <;> exact Nat.succ_ne_zero _

theorem checked_ok {t : HttpResponseParser} {n m : Nat} {e : Fault}
    (h : (checked buffer n t).elim (.error e) .ok = Except.ok (s', m)) : s' = t := by
  unfold checked at h
  split at h
  · cases h
    rfl
  · cases h

theorem hasError_of_ne {t : HttpResponseParser} (h : t.error ≠ 0) : t.hasError = true := by
  rw [HttpResponseParser.hasError, decide_eq_true h, Bool.true_or]

/-- **Behind a version that is cut.** -/
theorem execute_cut (hv : Known v) (hk : 1 ≤ k ∧ k < 8) (f : Nat → UInt8) (r : Str)
    (hlen : (v.drop k ++ 32 :: r).length < 2 ^ 63) (hcs : s.cs = 7 + k) :
    ∃ s' n, execute f (v.drop k ++ 32 :: r) false s = .ok (s', n) ∧ s'.hasError = true := by
  generalize hbuffer : v.drop k ++ 32 :: r = buffer at hlen ⊢
  have hne : buffer ≠ [] := by
    rw [← hbuffer]
    exact List.append_ne_nil_of_right_ne_nil _ (List.cons_ne_nil _ _)
  have hspace : trans 15 32 = some ⟨[.httpVersion], 16, false⟩ := by decide
  have hends : (scan trans (act f buffer) s.cs 0 buffer s.rewind).Ends fun t => t.error ≠ 0 := by
    have hscan := @scan_version f buffer v hv (v.drop k) k 0 (32 :: r) s.rewind hk.1
      List.prefix_rfl
    have hbehind : 7 + k + (v.drop k).length = 15 := by
      rw [List.length_drop, hv.length]
      omega
    have hbad := onResponseHttpVersion_cut hv hk (32 :: r) s.rewind
    rw [hbuffer, hbehind, Nat.zero_add] at hscan
    rw [hbuffer] at hbad
    rw [hcs, hscan, scan_ok hspace rfl, if_neg Bool.false_ne_true]
    exact scan_inv trans (act f buffer) (fun _ _ _ _ ht hact => act_error hact ht) r _ _ _ hbad
  obtain ⟨s', n, hex, _⟩ := execute_safe f hne hlen false s
  refine ⟨s', n, hex, ?_⟩
  rw [execute] at hex
  simp only [Bool.false_eq_true, if_false] at hex
  cases hscan : scan trans (act f buffer) s.cs 0 buffer s.rewind with
  | more cs t =>
    rw [hscan] at hex hends
    rw [checked_ok hex]
    exact hasError_of_ne hends
  | stop cs q t =>
    rw [hscan] at hex hends
    rw [checked_ok hex]
    exact hasError_of_ne hends
  | bad q t =>
    rw [hscan] at hex hends
    rw [checked_ok hex]
    exact hasError_of_ne hends
  | fail e =>
    rw [hscan] at hex
    cases hex

end

/-! ## the loop over the reads -/

section
variable {u : Ambient} {buff_size : Nat} {stream : Stream} {r v : Str}

/-- the loop from within a version on -/
theorem partway_loop (hb : 0 < buff_size ∧ buff_size < 2 ^ 31) (hv : Known v)
    (hacc : Accepts 16 false r) (m : Nat) :
    ∀ (fuel k : Nat) (stream : Stream) (s : HttpResponseParser), 1 ≤ k ∧ k < 8 →
      (v.drop k).length ≤ m → (v.drop k ++ 32 :: r).length ≤ fuel → s.cs = 7 + k → s.error = 0 →
      s.chunked = false → stream.Live → v.drop k ++ 32 :: r <+: List.flatten stream →
      ((stream.behind buff_size m (v.drop k).length).1 = [] →
        ∃ p, parseLoop (responseOps false) u.stale buff_size ⟨s, [], stream⟩
          = .finished p (stream.behind buff_size fuel (v.drop k ++ 32 :: r).length).1
            (stream.behind buff_size fuel (v.drop k ++ 32 :: r).length).2 ∧
          p.chunked = true ∧ p.error = 0) ∧
      ((stream.behind buff_size m (v.drop k).length).1 ≠ [] →
        ∃ rest, parseLoop (responseOps false) u.stale buff_size ⟨s, [], stream⟩ = .null rest) := by
  induction m with
  | zero =>
    intro fuel k stream s hk hm
    rw [List.length_drop, hv.length] at hm
    omega
  | succ m ih =>
    intro fuel k stream s hk hm hfuel hcs herr hch hlive hpre
    obtain ⟨a, rest, hread⟩ : ∃ a rest, stream.read buff_size = (a, rest) := ⟨_, _, rfl⟩
    have happ := Stream.read_append buff_size stream
    have h31 := Stream.read_lt hread
    rw [hread] at happ
    obtain ⟨fuel, rfl⟩ : ∃ n, fuel = n + 1 := by
      rw [List.length_append, List.length_cons] at hfuel
      exact ⟨fuel - 1, by omega⟩
    have hwlen : (v.drop k).length = 8 - k := by rw [List.length_drop, hv.length]
    have hwne : v.drop k ≠ [] := by
      intro h0
      rw [h0, List.length_nil] at hwlen
      omega
    rw [Stream.behind, Stream.behind]
    simp only [hread]
    obtain ⟨hne, hrest, ⟨e, he, hle⟩ | ⟨w', hw, hw', hle, _⟩⟩ :=
      read_cases hlive hb.1 hwne ((List.prefix_append _ _).trans hpre) hread
    · subst he
      rw [if_pos hle, List.drop_left]
      rcases e with _ | ⟨c, e⟩
      · refine ⟨fun _ => ?_, fun h => absurd rfl h⟩
        rw [List.append_nil] at hread h31 happ hne ⊢
        obtain ⟨s', hex, hcs', herr', hch'⟩ :=
          execute_within hv hk.1 List.prefix_rfl hne (u.stale rest.left) hcs
        have h15 : s'.cs = 15 := by omega
        have hready : Ready s' (32 :: r) :=
          ⟨herr'.trans herr, .inr ⟨h15, hch'.trans hch, r, rfl, hacc⟩⟩
        have hpre' : 32 :: r <+: List.flatten rest := by
          rw [← happ] at hpre
          exact (List.prefix_append_right_inj _).mp hpre
        rw [List.length_append, List.length_cons] at hfuel ⊢
        rw [if_neg (by omega), read_loop_next hb hread hne hex hready.going hready.1,
          Nat.add_sub_cancel_left]
        exact ready_behind hb fuel (32 :: r) rest s' (by rw [List.length_cons]; omega) hready hrest
          hpre'
      · refine ⟨fun h => absurd h (List.cons_ne_nil c e), fun _ => ⟨rest, ?_⟩⟩
        have hspace : c = 32 := by
          rw [← happ, List.append_assoc] at hpre
          obtain ⟨x, hx⟩ := (List.prefix_append_right_inj _).mp hpre
          exact (List.cons.inj hx).1.symm
        subst hspace
        obtain ⟨s', n, hex, hbad⟩ := execute_cut hv hk (u.stale rest.left) e (by omega) hcs
        exact read_loop_refused hread hne hex hbad
    · have hpos := List.length_pos_iff.mpr hne
      have hpos' := List.length_pos_iff.mpr hw'
      obtain ⟨s', hex, hcs', herr', hch'⟩ :=
        execute_within hv hk.1 ⟨w', hw.symm⟩ hne (u.stale rest.left) hcs
      have hdrop : v.drop (k + a.length) = w' := by
        rw [← List.drop_drop, hw, List.drop_left]
      have hlens := congrArg List.length hw
      rw [List.length_append] at hlens
      have hgo : Going s'.cs := by
        rw [hcs']
        exact ⟨by unfold Response.error; omega, by unfold firstFinal; omega⟩
      have hpre' : v.drop (k + a.length) ++ 32 :: r <+: List.flatten rest := by
        rw [← happ, hw, List.append_assoc] at hpre
        rw [hdrop]
        exact (List.prefix_append_right_inj _).mp hpre
      have hrounds := ih fuel (k + a.length) rest s' (by omega) (by rw [hdrop]; omega)
        (by rw [hdrop]; rw [List.length_append] at hfuel ⊢; omega) (by omega) (herr'.trans herr)
        (hch'.trans hch) hrest hpre'
      rw [hdrop] at hrounds
      rw [if_neg hle, if_neg (by rw [List.length_append]; omega),
        read_loop_next hb hread hne hex hgo (herr'.trans herr), hw, List.append_assoc,
        List.length_append, List.length_append, Nat.add_sub_cancel_left, Nat.add_sub_cancel_left]
      exact hrounds

/-- **The head is taken exactly when its version is read.** -/
theorem head_read (hb : 0 < buff_size ∧ buff_size < 2 ^ 31) (h : ChunkedHead)
    (hlive : stream.Live) (hpre : h.text <+: List.flatten stream) :
    (VersionRead buff_size stream → ∃ p, recvResponseHead u buff_size stream
        = .finished p (stream.behind buff_size h.text.length h.text.length).1
          (stream.behind buff_size h.text.length h.text.length).2 ∧
        p.chunked = true ∧ p.error = 0) ∧
    (¬ VersionRead buff_size stream →
      ∃ rest, recvResponseHead u buff_size stream = .null rest) := by
  by_cases hversion : 8 ≤ (stream.read buff_size).1.length
  · exact ⟨fun _ => head_behind hb.2 h hlive hpre hversion, fun hno => absurd (.inl hversion) hno⟩
  · obtain ⟨v, r, hv, htext, hacc⟩ := h.split
    obtain ⟨a, rest, hread⟩ : ∃ a rest, stream.read buff_size = (a, rest) := ⟨_, _, rfl⟩
    have happ := Stream.read_append buff_size stream
    rw [hread] at happ hversion
    dsimp only at happ hversion
    rw [htext] at hpre
    have hvne : v ≠ [] := by
      rintro rfl
      exact absurd hv.length (by decide)
    obtain ⟨hne, hrest, ⟨e, he, hle⟩ | ⟨w, hw, _, _, _⟩⟩ :=
      read_cases hlive hb.1 hvne ((List.prefix_append _ _).trans hpre) hread
    · rw [hv.length] at hle
      exact absurd hle hversion
    have hpos := List.length_pos_iff.mpr hne
    obtain ⟨s', hex, hcs, herr, hch⟩ := execute_first hv ⟨w, hw.symm⟩ hne (u.stale rest.left)
    have hdrop : v.drop a.length = w := by rw [hw, List.drop_left]
    have hgo : Going s'.cs := by
      rw [hcs]
      exact ⟨by unfold Response.error; omega, by unfold firstFinal; omega⟩
    have hpre' : v.drop a.length ++ 32 :: r <+: List.flatten rest := by
      rw [← happ, hw, List.append_assoc] at hpre
      rw [hdrop]
      exact (List.prefix_append_right_inj _).mp hpre
    have hlen : h.text.length = 8 + r.length + 1 := by
      rw [htext, List.length_append, hv.length, List.length_cons, Nat.add_assoc]
    have hloop := partway_loop (u := u) hb hv hacc 7 (8 + r.length) a.length rest s'
      (by omega) (by rw [List.length_drop, hv.length]; omega)
      (by rw [List.length_append, List.length_drop, hv.length, List.length_cons]; omega)
      hcs herr hch hrest hpre'
    rw [List.length_append, List.length_drop, hv.length, List.length_cons] at hloop
    have hbehind : stream.behind buff_size (8 + r.length + 1) (8 + r.length + 1)
        = rest.behind buff_size (8 + r.length) (8 - a.length + (r.length + 1)) := by
      have hleft : 8 + r.length + 1 - a.length = 8 - a.length + (r.length + 1) := by omega
      rw [Stream.behind]
      simp only [hread]
      rw [if_neg (by omega), hleft]
    have hcut : VersionRead buff_size stream ↔
        (Stream.behind buff_size 7 (8 - a.length) rest).1 = [] := by
      rw [VersionRead, Stream.behind]
      simp only [hread]
      rw [if_neg hversion]
      exact or_iff_right hversion
    rw [hcut, recvResponseHead, read_loop_next hb hread hne hex hgo herr, hlen, hbehind]
    exact hloop

end

end Response
end Http
end KitServer
