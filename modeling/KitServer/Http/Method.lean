import KitServer.Http.RequestScan

/-!
# The method of a request line

`on_request_method` gets a pointer to a token that goes on in the buffer, and looks for the first
name of `HTTP_METHOD_MAP` that the bytes start with.  The names are not prefixes of each other, but
they may be prefixes of the token.

* `method_scan`            the machine on a token of the grammar and the space behind it;
* `StringToHttpMethod_iff`   the exact comparison;
* `CharsToHttpMethod_token`  the comparison of prefixes, whatever follows the token;
* `readsMethod_iff`        the tokens on which they agree.
-/

set_option linter.unusedVariables false

namespace KitServer
namespace Http

/-- `strcmp` with each of the names -/
def StringToHttpMethod (method : Str) : HttpMethod :=
  match httpMethodMap.find? fun x => x.2 = method.takeWhile (· ≠ 0) with
  | some x => x.1
  | none => .INVALID_METHOD

namespace Request

/-! ## the machine -/

/-- `upper | digit` -/
def methodChar (c : UInt8) : Bool := (65 ≤ c && c ≤ 90) || (48 ≤ c && c ≤ 57)

/-- `Method = ( upper | digit ){1,20}` -/
structure Method (tok : Str) : Prop where
  pos : 1 ≤ tok.length
  le : tok.length ≤ 20
  chars : ∀ c ∈ tok, methodChar c = true

/-- the state behind `k` bytes of a method -/
def methodState (k : Nat) : Nat := if k = 0 then start else if k = 1 then 2 else 173 + k

theorem method_row : ∀ k < 19, rows.getD (methodState (k + 1)) []
    = [⟨32, 32, .tr 4⟩, ⟨48, 57, .st (methodState (k + 2))⟩,
        ⟨65, 90, .st (methodState (k + 2))⟩] := by
  decide +kernel

theorem methodState_char {k : Nat} (hk : k < 20) {c : UInt8} (hc : methodChar c = true) :
    tableTrans rows tr (methodState k) c
      = some ⟨if k = 0 then [.mark] else [], methodState (k + 1), false⟩ := by
  have hrange : (65 ≤ c.toNat ∧ c.toNat ≤ 90) ∨ (48 ≤ c.toNat ∧ c.toNat ≤ 57) := by
    simpa [methodChar, UInt8.le_iff_toNat_le] using hc
  cases k with
  | zero =>
    have hrow : rows.getD (methodState 0) []
        = [⟨48, 57, .tr 0⟩, ⟨60, 60, .tr 2⟩, ⟨64, 64, .tr 3⟩, ⟨65, 90, .tr 0⟩] := rfl
    rw [tableTrans, hrow]
    rcases hrange with h | h
    · simp [h, show ¬c.toNat ≤ 57 by omega, show ¬c.toNat ≤ 60 by omega,
        show ¬c.toNat ≤ 64 by omega]
      rfl
    · simp [h]
      rfl
  | succ k =>
    rw [tableTrans, method_row k (by omega)]
    rcases hrange with h | h
    · simp [h, show ¬c.toNat ≤ 57 by omega, show ¬c.toNat ≤ 32 by omega,
        Jump.trans]
    · simp [h, show ¬c.toNat ≤ 32 by omega, Jump.trans]

theorem methodState_space : ∀ k < 20,
    tableTrans rows tr (methodState (k + 1)) 32 = some ⟨[.requestMethod], 3, false⟩ := by
  decide +kernel

theorem trans_of_table (rel : Bool) {cs : Nat} {c : UInt8} {t : Trans Act}
    (h : tableTrans rows tr cs c = some t) : trans rel cs c = some t := by
  unfold trans
  rw [h]

theorem trans_methodChar (rel : Bool) {k : Nat} {c : UInt8} (hk : k < 20)
    (hc : methodChar c = true) : trans rel (methodState k) c
      = some ⟨if k = 0 then [.mark] else [], methodState (k + 1), false⟩ :=
  trans_of_table rel (methodState_char hk hc)

section
variable (rel : Bool) (stale : Nat → UInt8) (buffer : Str)

theorem scan_methodChars (tok : Str) : ∀ (k p : Nat) (s : HttpRequestParser), 0 < k →
    k + tok.length ≤ 20 → (∀ c ∈ tok, methodChar c = true) →
    scan (trans rel) (act stale buffer) (methodState k) p tok s
      = .more (methodState (k + tok.length)) s := by
  induction tok with
  | nil =>
    intro k p s _ _ _
    rfl
  | cons c tok ih =>
    intro k p s hk hle hall
    rw [List.length_cons] at hle
    have htrans := trans_methodChar rel (show k < 20 by omega)
      (hall c List.mem_cons_self)
    rw [if_neg (by omega)] at htrans
    rw [scan_ok htrans rfl, if_neg Bool.false_ne_true,
      ih (k + 1) (p + 1) s (by omega) (by omega) fun d hd => hall d (List.mem_cons_of_mem c hd),
      List.length_cons, Nat.add_right_comm, Nat.add_assoc]

/-- **A token of the grammar and the space behind it: the callback gets the token's first byte.** -/
theorem method_scan {tok : Str} (h : Method tok) (s : HttpRequestParser) :
    scan (trans rel) (act stale buffer) start 0 (tok ++ [32]) s
      = .more 3 (onRequestMethod buffer { s with mark := 0 }) := by
  obtain ⟨hpos, hle, hall⟩ := h
  cases tok with
  | nil => exact absurd hpos (by decide)
  | cons c tok =>
    rw [List.length_cons] at hle
    have hfirst : trans rel start c = some ⟨[.mark], methodState 1, false⟩ :=
      trans_methodChar rel (show 0 < 20 by decide) (hall c List.mem_cons_self)
    have hspace := trans_of_table rel (methodState_space tok.length (by omega))
    rw [Nat.add_comm] at hspace
    have hact : runActs (act stale buffer (0 + 1 + tok.length)) [.requestMethod]
          { s with mark := 0 }
        = .ok (onRequestMethod (buffer.drop 0) { s with mark := 0 }) := rfl
    rw [List.cons_append, scan_ok hfirst rfl, if_neg Bool.false_ne_true,
      scan_append, scan_methodChars rel stale buffer tok 1 1 _ (by decide) (by omega)
        fun d hd => hall d (List.mem_cons_of_mem c hd)]
    dsimp only
    rw [scan_ok hspace hact, if_neg Bool.false_ne_true]
    rfl

end

/-! ## the names -/

theorem Method.takeWhile {tok : Str} (h : Method tok) : tok.takeWhile (· ≠ 0) = tok := by
  refine List.takeWhile_eq_self_iff.mpr fun c hc => decide_eq_true ?_
  rintro rfl
  exact absurd (h.chars 0 hc) (by decide)

/-- what the names are like: each stands for one method, and none goes on with another -/
structure NameFacts : Prop where
  valid : ∀ x ∈ httpMethodMap, x.1 ≠ .INVALID_METHOD
  inj : ∀ x ∈ httpMethodMap, ∀ y ∈ httpMethodMap, x.1 = y.1 → x.2 = y.2
  free : ∀ x ∈ httpMethodMap, ∀ y ∈ httpMethodMap, x.2 <+: y.2 → x = y
  space : ∀ x ∈ httpMethodMap, (32 : UInt8) ∉ x.2

theorem nameFacts : NameFacts := by
  constructor <;> decide +kernel

/-- the method of the name that was found -/
def found (x : Option (HttpMethod × Str)) : HttpMethod := (x.map Prod.fst).getD .INVALID_METHOD

theorem CharsToHttpMethod_eq (method : Str) :
    CharsToHttpMethod method = found (httpMethodMap.find? fun x => x.2.isPrefixOf method) := by
  unfold CharsToHttpMethod
  cases httpMethodMap.find? fun x => x.2.isPrefixOf method with
  | none => rfl
  | some x => rfl

theorem StringToHttpMethod_eq {tok : Str} (h : Method tok) :
    StringToHttpMethod tok = found (httpMethodMap.find? fun x => x.2 = tok) := by
  unfold StringToHttpMethod
  rw [h.takeWhile]
  cases httpMethodMap.find? fun x => x.2 = tok with
  | none => rfl
  | some x => rfl

/-- **The exact comparison finds the method whose name the token is.** -/
theorem StringToHttpMethod_iff {tok : Str} (h : Method tok) (x : HttpMethod × Str)
    (hx : x ∈ httpMethodMap) : StringToHttpMethod tok = x.1 ↔ tok = x.2 := by
  rw [StringToHttpMethod_eq h]
  cases hfind : httpMethodMap.find? fun y => y.2 = tok with
  | none =>
    have hno := List.find?_eq_none.mp hfind x hx
    exact iff_of_false (fun heq => nameFacts.valid x hx heq.symm)
      (fun heq => hno (decide_eq_true heq.symm))
  | some y =>
    have hy := List.mem_of_find?_eq_some hfind
    have hname := List.find?_some hfind
    simp only [decide_eq_true_eq] at hname
    constructor
    · intro heq
      rw [← hname]
      exact nameFacts.inj y hy x hx heq
    · intro heq
      exact congrArg Prod.fst (nameFacts.free y hy x hx (by rw [hname, heq]))

theorem StringToHttpMethod_invalid {tok : Str} (h : Method tok) :
    StringToHttpMethod tok = .INVALID_METHOD ↔ ∀ x ∈ httpMethodMap, tok ≠ x.2 := by
  rw [StringToHttpMethod_eq h]
  cases hfind : httpMethodMap.find? fun y => y.2 = tok with
  | none =>
    refine iff_of_true rfl fun x hx heq => ?_
    exact List.find?_eq_none.mp hfind x hx (decide_eq_true heq.symm)
  | some y =>
    have hy := List.mem_of_find?_eq_some hfind
    have hname := List.find?_some hfind
    simp only [decide_eq_true_eq] at hname
    exact iff_of_false (nameFacts.valid y hy) (fun hall => hall y hy hname.symm)

theorem prefix_token {name tok rest : Str} (hspace : (32 : UInt8) ∉ name) :
    name <+: tok ++ 32 :: rest ↔ name <+: tok := by
  refine ⟨fun h => ?_, fun h => h.trans (List.prefix_append _ _)⟩
  rcases List.prefix_or_prefix_of_prefix h (List.prefix_append tok (32 :: rest)) with hle | hge
  · exact hle
  · obtain ⟨more, rfl⟩ := hge
    have hmore := (List.prefix_append_right_inj tok).mp h
    cases more with
    | nil =>
      rw [List.append_nil]
    | cons c more =>
      obtain ⟨rfl, _⟩ := List.cons_prefix_cons.mp hmore
      exact absurd (List.mem_append_right tok List.mem_cons_self) hspace

/-- **The comparison of prefixes, whatever follows the token.** -/
theorem CharsToHttpMethod_token (tok rest : Str) :
    CharsToHttpMethod (tok ++ 32 :: rest) = CharsToHttpMethod tok := by
  have hfind : httpMethodMap.find? (fun x => x.2.isPrefixOf (tok ++ 32 :: rest))
      = httpMethodMap.find? (fun x => x.2.isPrefixOf tok) := by
    refine List.find?_congr fun x hx => ?_
    rw [Bool.eq_iff_iff, List.isPrefixOf_iff_prefix, List.isPrefixOf_iff_prefix]
    exact prefix_token (nameFacts.space x hx)
  rw [CharsToHttpMethod_eq, CharsToHttpMethod_eq, hfind]

/-- **The two comparisons agree exactly when no name goes on in the token.** -/
theorem methods_agree_iff {tok : Str} (h : Method tok) (rest : Str) :
    CharsToHttpMethod (tok ++ 32 :: rest) = StringToHttpMethod tok
      ↔ ∀ x ∈ httpMethodMap, x.2 <+: tok → x.2 = tok := by
  rw [CharsToHttpMethod_token, CharsToHttpMethod_eq]
  constructor
  · intro hagree x hx hprefix
    cases hfind : httpMethodMap.find? fun y => y.2.isPrefixOf tok with
    | none =>
      exact absurd (List.isPrefixOf_iff_prefix.mpr hprefix) (List.find?_eq_none.mp hfind x hx)
    | some y =>
      rw [hfind] at hagree
      have hy := List.mem_of_find?_eq_some hfind
      have htok := (StringToHttpMethod_iff h y hy).mp hagree.symm
      rw [htok] at hprefix
      rw [htok, nameFacts.free x hx y hy hprefix]
  · intro hall
    have hsame : httpMethodMap.find? (fun x => x.2.isPrefixOf tok)
        = httpMethodMap.find? (fun x => decide (x.2 = tok)) := by
      refine List.find?_congr fun x hx => ?_
      rw [Bool.eq_iff_iff, List.isPrefixOf_iff_prefix, decide_eq_true_iff]
      exact ⟨hall x hx, fun heq => heq ▸ List.prefix_refl _⟩
    rw [hsame, StringToHttpMethod_eq h]

/-! ## the callback -/

/-- the method is set, or the error -/
def setMethod (method : HttpMethod) (s : HttpRequestParser) : HttpRequestParser :=
  match method with
  | .INVALID_METHOD => { s with error := invalidMethod }
  | method => { s with request := { s.request with method := method } }

theorem setMethod_inj {s : HttpRequestParser} (h : s.error ≠ invalidMethod) {a b : HttpMethod} :
    setMethod a s = setMethod b s ↔ a = b := by
  refine ⟨fun heq => ?_, fun heq => by rw [heq]⟩
  have herror := congrArg HttpRequestParser.error heq
  have hmethod := congrArg (fun t => t.request.method) heq
  by_cases ha : a = .INVALID_METHOD
  · by_cases hb : b = .INVALID_METHOD
    · rw [ha, hb]
    · rw [ha] at herror
      have hvalid : (setMethod b s).error = s.error := by
        unfold setMethod
        split
        · exact absurd rfl hb
        · rfl
      exact absurd (herror.trans hvalid).symm h
  · have hset : ∀ {m : HttpMethod}, m ≠ .INVALID_METHOD → (setMethod m s).error = s.error
        ∧ (setMethod m s).request.method = m := by
      intro m hm
      unfold setMethod
      split
      · exact absurd rfl hm
      · exact ⟨rfl, rfl⟩
    by_cases hb : b = .INVALID_METHOD
    · rw [hb] at herror
      exact absurd ((hset ha).1.symm.trans herror) h
    · exact (hset ha).2.symm.trans (hmethod.trans (hset hb).2)

/-- the parser behind the method of a request line: what the exact comparison says about the token
is what is set -/
def ReadsMethod (u : Ambient) (rel : Bool) (stale : Nat → UInt8) (tok rest : Str) : Prop :=
  scan (trans rel) (act stale (tok ++ 32 :: rest)) start 0 (tok ++ [32])
      (HttpRequestParser.new u).rewind
    = .more 3 (setMethod (StringToHttpMethod tok) (HttpRequestParser.new u))

/-- **A request line has its method, or the error, set as its token says, exactly when no name of a
method goes on in the token.** -/
theorem readsMethod_iff (u : Ambient) (rel : Bool) (stale : Nat → UInt8) (tok rest : Str)
    (h : Method tok) :
    ReadsMethod u rel stale tok rest ↔ ∀ x ∈ httpMethodMap, x.2 <+: tok → x.2 = tok := by
  have hscan := method_scan rel stale (tok ++ 32 :: rest) h (HttpRequestParser.new u).rewind
  have hcall : onRequestMethod (tok ++ 32 :: rest)
        { (HttpRequestParser.new u).rewind with mark := 0 }
      = setMethod (CharsToHttpMethod (tok ++ 32 :: rest)) (HttpRequestParser.new u) := rfl
  rw [hcall] at hscan
  unfold ReadsMethod
  rw [hscan, ← methods_agree_iff h rest, ← setMethod_inj (s := HttpRequestParser.new u)
    (show (0 : Nat) ≠ invalidMethod by decide)]
  constructor
  · intro heq
    injection heq with _ heq
  · intro heq
    rw [heq]

end Request

/-- a name of the list -/
theorem readsMethod_iff_get : Request.ReadsMethod .zero false (fun _ => 0) (asc "GET") (asc "/ ")
    ↔ ∀ x ∈ httpMethodMap, x.2 <+: asc "GET" → x.2 = asc "GET" :=
  Request.readsMethod_iff .zero false (fun _ => 0) (asc "GET") (asc "/ ")
    ⟨by decide, by decide, by decide +kernel⟩

/-- **A token that goes on behind a name has the name's method set.** -/
theorem getx_is_get : ¬ ∀ (u : Ambient) (rel : Bool) (stale : Nat → UInt8) (tok rest : Str),
    Request.Method tok → Request.ReadsMethod u rel stale tok rest := by
  intro h
  have htok : Request.Method (asc "GETX") := ⟨by decide, by decide, by decide +kernel⟩
  have hread := h .zero false (fun _ => 0) (asc "GETX") (asc "/ ") htok
  have hscan := Request.method_scan false (fun _ => 0) (asc "GETX" ++ 32 :: asc "/ ") htok
    (Request.HttpRequestParser.new .zero).rewind
  rw [Request.ReadsMethod, hscan] at hread
  injection hread with _ hread
  have herror := congrArg Request.HttpRequestParser.error hread
  revert herror
  decide

end Http
end KitServer
