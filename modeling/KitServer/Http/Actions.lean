import KitServer.Http.ResponseParser

/-!
# What the actions of the two parsers change

* `Request.execute_body`, `Response.execute_body`   the body of the message is not touched;
* `Request.act_keeps`       an error stays;
* `Response.execute_safe`   no action of the response parser fails, and its last checks pass.
-/

set_option linter.unusedVariables false

namespace KitServer
namespace Http

namespace Request
variable {f : Nat → UInt8} {buffer : Str} {p : Nat} {a : Act} {s s' : HttpRequestParser}

theorem onRequestMethod_eq (off : Str) (s : HttpRequestParser) :
    ∃ method error, onRequestMethod off s =
        { s with error := error, request := { s.request with method := method } } ∧
      (s.error ≠ 0 → error ≠ 0) := by
  unfold onRequestMethod
  split
  · exact ⟨s.request.method, invalidMethod, rfl, fun _ => by decide⟩
  · exact ⟨_, s.error, rfl, id⟩

theorem onRequestHttpVersion_eq (off : Str) (length : Nat) (s : HttpRequestParser) :
    ∃ version error, onRequestHttpVersion off length s =
        { s with error := error, request := { s.request with version := version } } ∧
      (s.error ≠ 0 → error ≠ 0) := by
  unfold onRequestHttpVersion
  split
  · exact ⟨0x11, s.error, rfl, id⟩
  · split
    · exact ⟨0x10, s.error, rfl, id⟩
    · exact ⟨s.request.version, invalidVersion, rfl, fun _ => by decide⟩

theorem onRequestHttpField_ok {field flen value vlen : Nat}
    (h : onRequestHttpField f buffer field flen value vlen s = .ok s') :
    s' = s ∨ ∃ key val, s' = { s with request := s.request.setHeader key val } := by
  unfold onRequestHttpField at h
  split at h
  · cases h
    exact Or.inl rfl
  · split at h
    · cases h
    · split at h
      · cases h
      · cases h
        exact Or.inr ⟨_, _, rfl⟩

theorem withChars_ok {off : Nat} {cb : Str → HttpRequestParser → HttpRequestParser}
    (h : withChars f buffer off p cb s = .ok s') : ∃ v, s' = cb v s := by
  unfold withChars at h
  split at h
  · cases h
  · cases h
    exact ⟨_, rfl⟩

theorem act_keeps (h : act f buffer p a s = .ok s') :
    s'.request.body = s.request.body ∧ s'.cs = s.cs ∧ (s.error ≠ 0 → s'.error ≠ 0) := by
  cases a <;> simp only [act] at h
  case requestMethod =>
    obtain ⟨method, error, heq, herr⟩ := onRequestMethod_eq (buffer.drop s.mark) s
    rw [heq] at h
    cases h
    exact ⟨rfl, rfl, herr⟩
  case httpVersion =>
    obtain ⟨version, error, heq, herr⟩ :=
      onRequestHttpVersion_eq (buffer.drop s.mark) (LEN s.mark p) s
    rw [heq] at h
    cases h
    exact ⟨rfl, rfl, herr⟩
  case writeValue =>
    obtain rfl | ⟨key, val, rfl⟩ := onRequestHttpField_ok h
    · exact ⟨rfl, rfl, id⟩
    · exact ⟨rfl, rfl, id⟩
  case fragment | queryString | requestPath =>
    obtain ⟨v, rfl⟩ := withChars_ok h
    exact ⟨rfl, rfl, id⟩
  case done =>
    split at h <;> cases h <;> exact ⟨rfl, rfl, id⟩
  all_goals
    cases h
    exact ⟨rfl, rfl, id⟩

theorem execute_body {uri_relaxed : Bool} {n : Nat} (hs : s.request.body = [])
    (h : execute f buffer uri_relaxed s = .ok (s', n)) : s'.request.body = [] := by
  have hcs : ∀ (t : HttpRequestParser) cs, t.request.body = [] →
      (t.setCs cs).request.body = [] := by
    intro t cs ht
    unfold HttpRequestParser.setCs
    split <;> exact ht
  unfold execute at h
  split at h
  · cases h
    exact hs
  · have hkeep := scan_inv (trans uri_relaxed) (act f buffer)
      (I := fun t => t.request.body = []) (fun p a t t' ht hact => (act_keeps hact).1.trans ht)
      buffer s.cs 0 s.rewind hs
    split at h
    · next heq => rw [heq] at hkeep; cases h; exact hcs _ _ hkeep
    · next heq => rw [heq] at hkeep; cases h; exact hcs _ _ hkeep
    · next heq => rw [heq] at hkeep; cases h; exact hcs _ _ hkeep
    · cases h

end Request

namespace Response
variable {f : Nat → UInt8} {buffer : Str} {p : Nat} {a : Act} {s s' : HttpResponseParser}

theorem onResponseHttpVersion_eq (off : Str) (length : Nat) (s : HttpResponseParser) :
    ∃ version error, onResponseHttpVersion off length s =
        { s with error := error, response := { s.response with version := version } } ∧
      (s.error ≠ 0 → error ≠ 0) := by
  unfold onResponseHttpVersion
  split
  · exact ⟨0x11, s.error, rfl, id⟩
  · split
    · exact ⟨0x10, s.error, rfl, id⟩
    · exact ⟨s.response.version, Request.invalidVersion, rfl, fun _ => by decide⟩

theorem onResponseHttpField_ok {field flen value vlen : Nat}
    (h : onResponseHttpField f buffer field flen value vlen s = .ok s') :
    s' = s ∨ ∃ key val, s' = { s with response := s.response.setHeader key val } := by
  unfold onResponseHttpField at h
  split at h
  · cases h
    exact Or.inl rfl
  · split at h
    · cases h
    · split at h
      · cases h
      · cases h
        exact Or.inr ⟨_, _, rfl⟩

theorem act_body (h : act f buffer p a s = .ok s') : s'.response.body = s.response.body := by
  cases a <;> simp only [act] at h
  case httpVersion =>
    obtain ⟨version, error, heq, _⟩ :=
      onResponseHttpVersion_eq (buffer.drop s.mark) (LEN s.mark p) s
    rw [heq] at h
    cases h
    rfl
  case writeValue =>
    obtain rfl | ⟨key, val, rfl⟩ := onResponseHttpField_ok h
    · rfl
    · rfl
  case reasonPhrase =>
    split at h
    · cases h
    · cases h
      rfl
  all_goals
    cases h
    rfl

theorem execute_body {chunck : Bool} {n : Nat} (hs : s.response.body = [])
    (h : execute f buffer chunck s = .ok (s', n)) : s'.response.body = [] := by
  have hinit : (if chunck = true then s.initParser else s).rewind.response.body = [] := by
    split <;> exact hs
  have hchecked : ∀ (q : Nat) (t : HttpResponseParser), t.response.body = [] →
      (checked buffer q t).elim (Except.error Fault.outOfRange) Except.ok = .ok (s', n) →
      s'.response.body = [] := by
    intro q t ht h
    unfold checked at h
    split at h
    · cases h
      exact ht
    · cases h
  have hkeep := scan_inv trans (act f buffer) (I := fun t => t.response.body = [])
    (fun p a t t' ht hact => (act_body hact).trans ht) buffer
    (if chunck = true then s.initParser else s).cs 0 _ hinit
  unfold execute at h
  dsimp only at h
  split at h
  · next heq => rw [heq] at hkeep; exact hchecked _ _ (by exact hkeep) h
  · next heq => rw [heq] at hkeep; exact hchecked _ _ (by exact hkeep) h
  · next heq => rw [heq] at hkeep; exact hchecked _ _ (by exact hkeep) h
  · cases h

/-! ## no action fails -/

theorem LEN_of_le {off fpc : Nat} (h : off ≤ fpc) : LEN off fpc = fpc - off := if_pos h

theorem chars_of_lt (f : Nat → UInt8) (buffer : Str) (off : Nat) {len : Nat} (h : len < 2 ^ 63) :
    ∃ v, chars f buffer off len = .ok v :=
  ⟨_, if_pos h⟩

/-- the offsets are within the first `p` bytes -/
structure Offsets (p : Nat) (s : HttpResponseParser) : Prop where
  mark : s.mark ≤ p
  fieldStart : s.fieldStart ≤ p
  fieldLen : s.fieldLen ≤ p

theorem act_offsets (hp : p < 2 ^ 63) (hs : Offsets p s) :
    ∃ s', act f buffer p a s = .ok s' ∧ Offsets p s' := by
  obtain ⟨hmark, hstart, hlen⟩ := hs
  cases a with
  | mark => exact ⟨_, rfl, Nat.le_refl p, hstart, hlen⟩
  | startField => exact ⟨_, rfl, hmark, Nat.le_refl p, hlen⟩
  | writeField =>
    refine ⟨_, rfl, hmark, hstart, ?_⟩
    show LEN s.fieldStart p ≤ p
    rw [LEN_of_le hstart]
    omega
  | startValue => exact ⟨_, rfl, Nat.le_refl p, hstart, hlen⟩
  | writeContentLen => exact ⟨_, rfl, hmark, hstart, hlen⟩
  | writeConnectionClose => exact ⟨_, rfl, hmark, hstart, hlen⟩
  | writeValue =>
    have hval : LEN s.mark p < 2 ^ 63 := by
      rw [LEN_of_le hmark]
      omega
    obtain ⟨key, hkey⟩ := chars_of_lt f buffer s.fieldStart
      (show s.fieldLen < 2 ^ 63 by omega)
    obtain ⟨val, hv⟩ := chars_of_lt f buffer s.mark hval
    simp only [act, onResponseHttpField, hkey, hv]
    by_cases h0 : s.fieldLen = 0
    · rw [if_pos h0]
      exact ⟨_, rfl, hmark, hstart, hlen⟩
    · rw [if_neg h0]
      exact ⟨_, rfl, hmark, hstart, hlen⟩
  | reasonPhrase =>
    have hval : LEN s.mark p < 2 ^ 63 := by
      rw [LEN_of_le hmark]
      omega
    obtain ⟨v, hv⟩ := chars_of_lt f buffer s.mark hval
    simp only [act, hv]
    exact ⟨_, rfl, hmark, hstart, hlen⟩
  | statusCode => exact ⟨_, rfl, hmark, hstart, hlen⟩
  | httpVersion =>
    obtain ⟨version, error, heq, _⟩ :=
      onResponseHttpVersion_eq (buffer.drop s.mark) (LEN s.mark p) s
    simp only [act, heq]
    exact ⟨_, rfl, hmark, hstart, hlen⟩
  | chunkSize => exact ⟨_, rfl, hmark, hstart, hlen⟩
  | transChunked => exact ⟨_, rfl, hmark, hstart, hlen⟩
  | done => exact ⟨_, rfl, hmark, hstart, hlen⟩

/-- in front of the byte at `p` the offsets are below `p`, or zero -/
def Below (p : Nat) (s : HttpResponseParser) : Prop :=
  (s.mark < p ∨ s.mark = 0) ∧ (s.fieldStart < p ∨ s.fieldStart = 0) ∧ s.fieldLen ≤ p

theorem Below.checked (hne : buffer ≠ []) {q : Nat} (hq : q ≤ buffer.length) (hs : Below q s)
    (n : Nat) : checked buffer n s = some (s, n) := by
  have hpos := List.length_pos_iff.mpr hne
  obtain ⟨hmark, hstart, hlen⟩ := hs
  exact if_pos ⟨by omega, by omega, by omega⟩

/-- **`execute` comes back, and is through with no more bytes than there are.** -/
theorem execute_safe (f : Nat → UInt8) (hne : buffer ≠ []) (hlen : buffer.length < 2 ^ 63)
    (chunck : Bool) (s : HttpResponseParser) :
    ∃ s' n, execute f buffer chunck s = .ok (s', n) ∧ n ≤ buffer.length := by
  have hstart : Below 0 (if chunck = true then s.initParser else s).rewind :=
    ⟨Or.inr rfl, Or.inr rfl, Nat.le_refl 0⟩
  have hsafe := scan_safe trans (act f buffer) (J := Below) (K := Offsets) (N := buffer.length)
    (fun p t ht => ⟨by have := ht.1; omega, by have := ht.2.1; omega, ht.2.2⟩)
    (fun p t ht => ⟨Or.inl (Nat.lt_succ_of_le ht.mark), Or.inl (Nat.lt_succ_of_le ht.fieldStart),
      Nat.le_succ_of_le ht.fieldLen⟩)
    (fun p hp a t ht => act_offsets (by omega) ht) buffer
    (if chunck = true then s.initParser else s).cs 0 _ (by omega) hstart
  unfold execute
  dsimp only
  cases hscan : scan trans (act f buffer) (if chunck = true then s.initParser else s).cs 0 buffer
      (if chunck = true then s.initParser else s).rewind with
  | more cs t =>
    rw [hscan] at hsafe
    have ht : Below buffer.length { t with cs := cs } := by
      rw [Scan.Safe, Nat.zero_add] at hsafe
      exact hsafe
    dsimp only
    rw [Below.checked hne (Nat.le_refl _) ht]
    exact ⟨_, _, rfl, Nat.le_refl _⟩
  | stop cs q t =>
    rw [hscan] at hsafe
    have hq : q ≤ buffer.length := by
      have := hsafe.2
      omega
    have ht : Below q { t with cs := cs } := hsafe.1
    dsimp only
    rw [Below.checked hne hq ht]
    exact ⟨_, _, rfl, hq⟩
  | bad q t =>
    rw [hscan] at hsafe
    have hq : q ≤ buffer.length := by
      have := hsafe.2
      omega
    have ht : Below q { t with cs := Response.error } := hsafe.1
    dsimp only
    rw [Below.checked hne hq ht]
    exact ⟨_, _, rfl, hq⟩
  | fail e =>
    rw [hscan] at hsafe
    exact hsafe.elim

end Response
end Http
end KitServer
