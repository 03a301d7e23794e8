import KitServer.Http.Dump

/-!
# The length that a message announces

A receiver reads lines up to the first empty one, takes the length from the field `content-length`,
and reads that many bytes.

* `readHead`      the lines of the head, and what follows the empty line;
* `Framed`        the head of a text announces the body that follows it;
* `Plain`         the lines that the start line and the map bring along;
* `dump_framed`   a message that is written is framed exactly when these lines are plain;
* `dump_twice`    a message with a length of its own.
-/

set_option linter.unusedVariables false

namespace KitServer
namespace Http

/-! ## lines -/

/-- the lines of a text, behind the start `line` of the first one -/
def linesFrom : Str → Str → List Str
  | line, [] => [line]
  | line, 13 :: 10 :: s => line :: linesFrom [] s
  | line, c :: s => linesFrom (line ++ [c]) s

def lines (s : Str) : List Str := linesFrom [] s

/-- the lines up to the first empty one, and what follows it -/
def readHeadFrom : Str → Str → Option (List Str × Str)
  | _, [] => none
  | line, 13 :: 10 :: s =>
    if line = [] then some ([], s) else (readHeadFrom [] s).map fun r => (line :: r.1, r.2)
  | line, c :: s => readHeadFrom (line ++ [c]) s

def readHead (s : Str) : Option (List Str × Str) := readHeadFrom [] s

/-- a text in front of a line end is read line by line, unless it has an empty line -/
theorem readHeadFrom_append (line a b : Str) :
    ([] ∉ linesFrom line a → readHeadFrom line (a ++ crlf ++ b)
      = (readHead b).map fun r => (linesFrom line a ++ r.1, r.2)) ∧
    ([] ∈ linesFrom line a → ∃ r, readHeadFrom line (a ++ crlf ++ b) = some r ∧
      b.length ≤ r.2.length) := by
  induction line, a using linesFrom.induct with
  | case1 line =>
    show ([] ∉ [line] → (if line = [] then some ([], b)
        else (readHeadFrom [] b).map fun r => (line :: r.1, r.2)) = _) ∧
      ([] ∈ [line] → ∃ r, (if line = [] then some ([], b)
        else (readHeadFrom [] b).map fun r => (line :: r.1, r.2)) = some r ∧ _)
    rw [List.mem_singleton]
    constructor
    · intro hline
      rw [if_neg fun h => hline h.symm]
      rfl
    · intro hline
      rw [if_pos hline.symm]
      exact ⟨_, rfl, Nat.le_refl _⟩
  | case2 line s ih =>
    have hread : readHeadFrom line (13 :: 10 :: s ++ crlf ++ b)
        = if line = [] then some ([], s ++ crlf ++ b)
          else (readHeadFrom [] (s ++ crlf ++ b)).map fun r => (line :: r.1, r.2) := rfl
    have hlines : linesFrom line (13 :: 10 :: s) = line :: linesFrom [] s := rfl
    rw [hread, hlines, List.mem_cons]
    by_cases hline : line = []
    · rw [if_pos hline]
      refine ⟨fun h => absurd (.inl hline.symm) h, fun _ => ⟨_, rfl, ?_⟩⟩
      rw [List.length_append]
      exact Nat.le_add_left _ _
    · rw [if_neg hline]
      have hne : ¬ [] = line := fun h => hline h.symm
      constructor
      · intro hin
        rw [ih.1 fun h => hin (.inr h)]
        cases readHead b <;> rfl
      · intro hin
        obtain ⟨r, hr, hlen⟩ := ih.2 (hin.resolve_left hne)
        rw [hr]
        exact ⟨_, rfl, hlen⟩
  | case3 line c s hno ih =>
    have hlines : linesFrom line (c :: s) = linesFrom (line ++ [c]) s := by
      rw [linesFrom]
      exact hno
    have hread : readHeadFrom line (c :: s ++ crlf ++ b)
        = readHeadFrom (line ++ [c]) (s ++ crlf ++ b) := by
      show readHeadFrom line (c :: (s ++ crlf ++ b)) = _
      rw [readHeadFrom]
      intro t hc ht
      cases s with
      | nil =>
        rw [List.nil_append] at ht
        cases ht
      | cons d s =>
        obtain ⟨rfl, _⟩ := List.cons.inj ht
        exact hno s hc rfl
    rw [hlines, hread]
    exact ih

theorem readHead_flatMap (as : List Str) (b : Str) :
    ([] ∉ as.flatMap lines → readHead (as.flatMap (fun a => a ++ crlf) ++ b)
      = (readHead b).map fun r => (as.flatMap lines ++ r.1, r.2)) ∧
    ([] ∈ as.flatMap lines → ∃ r, readHead (as.flatMap (fun a => a ++ crlf) ++ b) = some r ∧
      b.length ≤ r.2.length) := by
  induction as with
  | nil =>
    refine ⟨fun _ => ?_, fun h => (by cases h)⟩
    show readHead b = _
    cases readHead b <;> rfl
  | cons a as ih =>
    have hcut := readHeadFrom_append [] a (as.flatMap (fun a => a ++ crlf) ++ b)
    rw [List.flatMap_cons, List.flatMap_cons, List.append_assoc, List.mem_append]
    constructor
    · intro hno
      rw [readHead, hcut.1 fun h => hno (.inl h), ih.1 fun h => hno (.inr h)]
      cases readHead b with
      | none => rfl
      | some r => exact congrArg (fun l => some (l, r.2)) (List.append_assoc _ _ _).symm
    · intro hin
      by_cases ha : [] ∈ lines a
      · obtain ⟨r, hr, hlen⟩ := hcut.2 ha
        refine ⟨r, hr, Nat.le_trans ?_ hlen⟩
        rw [List.length_append]
        exact Nat.le_add_left _ _
      · obtain ⟨r, hr, hlen⟩ := ih.2 (hin.resolve_left ha)
        rw [readHead, hcut.1 ha, hr]
        exact ⟨_, rfl, hlen⟩

theorem readHead_eq (as : List Str) (head : List Str) (body : Str) :
    readHead (as.flatMap (fun a => a ++ crlf) ++ (crlf ++ body)) = some (head, body)
      ↔ [] ∉ as.flatMap lines ∧ head = as.flatMap lines := by
  obtain ⟨hno, hin⟩ := readHead_flatMap as (crlf ++ body)
  have hend : readHead (crlf ++ body) = some ([], body) := rfl
  by_cases hempty : [] ∈ as.flatMap lines
  · obtain ⟨r, hr, hlen⟩ := hin hempty
    refine ⟨fun h => ?_, fun h => absurd hempty h.1⟩
    rw [hr] at h
    rw [Option.some.inj h, List.length_append] at hlen
    have hcrlf : crlf.length = 2 := rfl
    dsimp only at hlen
    omega
  · rw [hno hempty, hend]
    constructor
    · intro h
      obtain ⟨h1, h2⟩ := Prod.mk.inj (Option.some.inj h)
      rw [List.append_nil] at h1
      exact ⟨hempty, h1.symm⟩
    · rintro ⟨_, rfl⟩
      exact congrArg (fun l => some (l, body)) (List.append_nil _)

theorem linesFrom_of_noCR (line s : Str) (h : ∀ c ∈ s, c ≠ 13) : linesFrom line s = [line ++ s] := by
  induction s generalizing line with
  | nil =>
    rw [List.append_nil]
    rfl
  | cons c s ih =>
    rw [linesFrom, ih _ fun d hd => h d (List.mem_cons_of_mem _ hd), List.append_assoc]
    · rfl
    · exact fun _ hc => absurd hc (h c List.mem_cons_self)

theorem linesFrom_ne_nil (line s : Str) : linesFrom line s ≠ [] := by
  induction line, s using linesFrom.induct with
  | case1 line => exact List.cons_ne_nil _ _
  | case2 line s ih => exact List.cons_ne_nil _ _
  | case3 line c s hno ih =>
    rw [linesFrom]
    · exact ih
    · exact hno

/-! ## the announced length -/

def isBlank (c : UInt8) : Bool := c = 32 || c = 9

/-- without the blanks in front and behind -/
def trim (s : Str) : Str := ((s.dropWhile isBlank).reverse.dropWhile isBlank).reverse

def fieldName (line : Str) : Str := line.takeWhile (· ≠ 58)

def fieldValue (line : Str) : Str := trim (line.dropWhile (· ≠ 58)).tail

def isContentLength (line : Str) : Bool :=
  line.contains 58 && decide ((fieldName line).map tolower = asc "content-length")

def number (s : Str) : Option Nat :=
  if s ≠ [] && s.all (fun c => (digit? 10 c).isSome) then some (digitsFrom 10 0 s) else none

/-- what the fields `content-length` among the lines announce -/
def lengths (head : List Str) : List (Option Nat) :=
  (head.filter isContentLength).map fun line => number (fieldValue line)

theorem lengths_append (as bs : List Str) : lengths (as ++ bs) = lengths as ++ lengths bs := by
  rw [lengths, List.filter_append, List.map_append]
  rfl

/-- exactly one length is announced if there is a body, at most one otherwise, and it is that of the
body, which is what follows the head -/
def Framed (text body : Str) : Prop :=
  ∃ head, readHead text = some (head, body) ∧ (lengths head.tail).length ≤ 1 ∧
    (body ≠ [] → (lengths head.tail).length = 1) ∧ ∀ v ∈ lengths head.tail, v = some body.length

/-- the line that `dumpBody` writes -/
def lengthLine (n : Nat) : Str := asc "content-length: " ++ decimal n

theorem trim_of_noBlank {s : Str} (h : ∀ c ∈ s, isBlank c = false) : trim s = s := by
  have hself : ∀ t : Str, (∀ c ∈ t, isBlank c = false) → t.dropWhile isBlank = t := by
    intro t ht
    cases t with
    | nil => rfl
    | cons c t =>
      refine List.dropWhile_cons_of_neg ?_
      rw [ht c List.mem_cons_self]
      exact Bool.false_ne_true
  rw [trim, hself s h, hself s.reverse fun c hc => h c (List.mem_reverse.mp hc),
    List.reverse_reverse]

theorem decimal_ne {n : Nat} {c : UInt8} (h : c ∈ decimal n) : isBlank c = false ∧ c ≠ 13 := by
  have hdigit := decimal_digit h
  constructor
  · by_contra hc
    rw [Bool.not_eq_false, isBlank, Bool.or_eq_true, decide_eq_true_iff, decide_eq_true_iff] at hc
    rcases hc with rfl | rfl <;> cases hdigit
  · rintro rfl
    cases hdigit

theorem lines_lengthLine (n : Nat) : lines (lengthLine n) = [lengthLine n] := by
  refine linesFrom_of_noCR [] _ fun c hc => ?_
  rcases List.mem_append.mp hc with hc | hc
  · rintro rfl
    revert hc
    decide
  · exact (decimal_ne hc).2

theorem lengths_lengthLine (n : Nat) : lengths [lengthLine n] = [some n] := by
  have hname : isContentLength (lengthLine n) = true := rfl
  have hvalue : fieldValue (lengthLine n) = decimal n := by
    show trim (decimal n) = decimal n
    exact trim_of_noBlank fun c hc => (decimal_ne hc).1
  have hall : (decimal n).all (fun c => (digit? 10 c).isSome) = true :=
    List.all_eq_true.mpr fun c hc => decimal_digit hc
  rw [lengths, List.filter_cons_of_pos hname, List.filter_nil, List.map_singleton, hvalue, number,
    hall, Bool.and_true, if_pos (decide_eq_true (decimal_ne_nil n)), digitsFrom_decimal]

/-! ## the head of a message -/

/-- the lines that the start line and the fields of the map bring along, but for the first -/
def ownLines (start : Str) (headers : MapType) : List Str :=
  (lines start).tail
    ++ ((headers.filter fun x => !strcasecmpEq x.1 (asc "connection")).map fieldString).flatMap lines

/-- none of these lines, nor the first one, is empty, and none announces a length, except for one
that announces 0 where there is no body -/
def Plain (start : Str) (headers : MapType) (body : Str) : Prop :=
  [] ∉ lines start ∧ [] ∉ ownLines start headers ∧
    (lengths (ownLines start headers) = [] ∨
      body = [] ∧ lengths (ownLines start headers) = [some 0])

instance (start : Str) (headers : MapType) (body : Str) : Decidable (Plain start headers body) :=
  inferInstanceAs (Decidable (_ ∧ _ ∧ _))

/-- lines that are neither empty nor about the length -/
def Silent (as : List Str) : Prop := [] ∉ as.flatMap lines ∧ lengths (as.flatMap lines) = []

instance (as : List Str) : Decidable (Silent as) := inferInstanceAs (Decidable (_ ∧ _))

/-- the lines that `dumpBody` adds to the head -/
def lengthLines (body : Str) : List Str := if body = [] then [] else [lengthLine body.length]

theorem dumpBody_eq (body : Str) :
    dumpBody body = (lengthLines body).flatMap (fun a => a ++ crlf) ++ (crlf ++ body) := by
  cases body with
  | nil => rfl
  | cons c body =>
    rw [dumpBody, if_pos (show (c :: body).length ≠ 0 from Nat.succ_ne_zero _), lengthLines, if_neg (List.cons_ne_nil _ _),
      List.flatMap_singleton]
    simp only [lengthLine, List.append_assoc]

theorem dumpHeaders_eq (headers : MapType) :
    dumpHeaders headers = ((headers.filter fun x =>
      !strcasecmpEq x.1 (asc "connection")).map fieldString).flatMap fun a => a ++ crlf := by
  rw [dumpHeaders, List.flatMap_map]

theorem lengthLines_lines (body : Str) : (lengthLines body).flatMap lines = lengthLines body := by
  rw [lengthLines]
  split
  · rfl
  · rw [List.flatMap_singleton, lines_lengthLine]

theorem lengths_lengthLines (body : Str) :
    lengths (lengthLines body) = if body = [] then [] else [some body.length] := by
  rw [lengthLines]
  split
  · rfl
  · exact lengths_lengthLine _

theorem nil_not_mem_lengthLines (body : Str) : [] ∉ lengthLines body := by
  rw [lengthLines]
  split
  · exact List.not_mem_nil
  · rw [List.mem_singleton]
    exact fun h => (by cases h)

theorem announces_iff {ls all : List (Option Nat)} {body : Str}
    (hall : all = ls ++ if body = [] then [] else [some body.length]) :
    (all.length ≤ 1 ∧ (body ≠ [] → all.length = 1) ∧ ∀ v ∈ all, v = some body.length)
      ↔ ls = [] ∨ body = [] ∧ ls = [some 0] := by
  by_cases hbody : body = []
  · rw [if_pos hbody, List.append_nil] at hall
    rw [hall, hbody]
    constructor
    · rintro ⟨hlen, _, hv⟩
      cases ls with
      | nil => exact .inl rfl
      | cons v ls =>
        have hnil : ls = [] := List.eq_nil_of_length_eq_zero (by rw [List.length_cons] at hlen; omega)
        have hzero : v = some 0 := hv v List.mem_cons_self
        exact .inr ⟨rfl, by rw [hnil, hzero]⟩
    · rintro (rfl | ⟨_, rfl⟩)
      · exact ⟨Nat.zero_le 1, fun h => absurd rfl h, fun v hv => (by cases hv)⟩
      · exact ⟨Nat.le_refl 1, fun h => absurd rfl h, fun v hv => List.mem_singleton.mp hv⟩
  · rw [if_neg hbody] at hall
    rw [hall, List.length_append, List.length_singleton]
    constructor
    · rintro ⟨hlen, _⟩
      exact .inl (List.eq_nil_of_length_eq_zero (by omega))
    · rintro (rfl | ⟨h, _⟩)
      · exact ⟨Nat.le_refl 1, fun _ => rfl, fun v hv => List.mem_singleton.mp hv⟩
      · exact absurd h hbody

/-- **A head is written as its start line, lines that are silent, the fields and the length; it is
framed exactly when the start line and the fields are plain.** -/
theorem framed_iff {start : Str} {headers : MapType} {body text : Str} (pre post : List Str)
    (hpre : Silent pre) (hpost : Silent post)
    (htext : text = ([start] ++ pre ++ ((headers.filter fun x =>
        !strcasecmpEq x.1 (asc "connection")).map fieldString) ++ post ++ lengthLines body).flatMap
          (fun a => a ++ crlf) ++ (crlf ++ body)) :
    Framed text body ↔ Plain start headers body := by
  obtain ⟨hpre, hpreLen⟩ := hpre
  obtain ⟨hpost, hpostLen⟩ := hpost
  set fields := ((headers.filter fun x =>
    !strcasecmpEq x.1 (asc "connection")).map fieldString).flatMap lines with hfields
  have hown : ownLines start headers = (lines start).tail ++ fields := rfl
  have hhead : ([start] ++ pre ++ ((headers.filter fun x =>
        !strcasecmpEq x.1 (asc "connection")).map fieldString) ++ post ++ lengthLines body).flatMap
          lines = lines start ++ (pre.flatMap lines ++ fields ++ post.flatMap lines
            ++ lengthLines body) := by
    simp only [List.flatMap_append, List.flatMap_singleton, lengthLines_lines, List.append_assoc,
      hfields]
  have hlengths : lengths (lines start ++ (pre.flatMap lines ++ fields ++ post.flatMap lines
      ++ lengthLines body)).tail
        = lengths (ownLines start headers) ++ if body = [] then [] else [some body.length] := by
    rw [List.tail_append_of_ne_nil (show lines start ≠ [] from linesFrom_ne_nil [] start), hown]
    simp only [lengths_append, hpreLen, hpostLen, lengths_lengthLines, List.nil_append,
      List.append_assoc]
  have hempty : [] ∉ lines start ++ (pre.flatMap lines ++ fields ++ post.flatMap lines
      ++ lengthLines body) ↔ [] ∉ lines start ∧ [] ∉ ownLines start headers := by
    have htail : [] ∈ (lines start).tail → [] ∈ lines start := List.mem_of_mem_tail
    have hlen := nil_not_mem_lengthLines body
    simp only [hown, List.mem_append]
    tauto
  rw [Framed, htext, Plain, ← announces_iff hlengths, ← and_assoc, ← hempty, ← hhead]
  constructor
  · rintro ⟨head, hread, hlen⟩
    obtain ⟨hno, rfl⟩ := (readHead_eq _ _ _).mp hread
    exact ⟨hno, hlen⟩
  · rintro ⟨hno, hlen⟩
    exact ⟨_, (readHead_eq _ _ _).mpr ⟨hno, rfl⟩, hlen⟩

namespace HttpRequest

def Plain (r : HttpRequest) : Prop := Http.Plain r.startLine r.headers r.body

instance (r : HttpRequest) : Decidable r.Plain :=
  inferInstanceAs (Decidable (Http.Plain r.startLine r.headers r.body))

theorem framed (r : HttpRequest) : Framed r.toString r.body ↔ r.Plain := by
  refine framed_iff [asc "connection:" ++ connectionString r.close] []
    ?_ (by decide) ?_
  · cases r.close <;> decide
  · rw [toString, dump, dumpHeaders_eq, dumpBody_eq]
    simp only [List.flatMap_append, List.flatMap_singleton, List.append_assoc, List.append_nil]

end HttpRequest

namespace HttpResponse

def Plain (r : HttpResponse) : Prop := Http.Plain r.startLine r.headers r.body

instance (r : HttpResponse) : Decidable r.Plain :=
  inferInstanceAs (Decidable (Http.Plain r.startLine r.headers r.body))

theorem framed (r : HttpResponse) : Framed r.toString r.body ↔ r.Plain := by
  refine framed_iff [] [asc "connection: " ++ connectionString r.close]
    (by decide) ?_ ?_
  · cases r.close <;> decide
  · rw [toString, dump, dumpHeaders_eq, dumpBody_eq]
    simp only [List.flatMap_append, List.flatMap_singleton, List.append_assoc, List.append_nil]

end HttpResponse

/-- **What is written announces its body, once, exactly when the start line and the map bring along
no length and no empty line.** -/
theorem dump_framed (req : HttpRequest) (rsp : HttpResponse) :
    (Framed req.toString req.body ↔ req.Plain) ∧ (Framed rsp.toString rsp.body ↔ rsp.Plain) :=
  ⟨req.framed, rsp.framed⟩

/-- a request that was received with three bytes, and got another body -/
def forwarded : HttpRequest :=
  { HttpRequest.new.setHeader (asc "Content-Length") (asc "3") with body := asc "hello" }

/-- **Two lengths are announced, and the first is not that of the body.** -/
theorem dump_twice : ¬ ((∀ r : HttpRequest, Framed r.toString r.body) ∧
    ∀ r : HttpResponse, Framed r.toString r.body) := by
  intro h
  exact absurd (forwarded.framed.mp (h.1 forwarded)) (by decide)

theorem isContentLength_fieldString {x : Str × Str} (h : ∀ c ∈ x.1, c ≠ 58) :
    isContentLength (fieldString x) = decide (x.1.map tolower = asc "content-length") := by
  have hname : fieldName (fieldString x) = x.1 := by
    rw [fieldName, fieldString, List.append_assoc, List.takeWhile_append_of_pos]
    · show x.1 ++ (58 :: x.2).takeWhile (fun c => decide (c ≠ 58)) = x.1
      rw [List.takeWhile_cons_of_neg (by decide), List.append_nil]
    · exact fun c hc => decide_eq_true (h c hc)
  have hcolon : (fieldString x).contains 58 = true :=
    List.contains_iff_mem.mpr (List.mem_append_left _ (List.mem_append_right _ (by decide)))
  rw [isContentLength, hname, hcolon, Bool.true_and]

theorem strcasecmpEq_connection {key : Str} (h : key.map tolower = asc "content-length") :
    strcasecmpEq key (asc "connection") = false := by
  have hall : key.takeWhile (· ≠ 0) = key := by
    refine List.takeWhile_eq_self_iff.mpr fun c hc => decide_eq_true ?_
    rintro rfl
    have hin : tolower 0 ∈ asc "content-length" := h ▸ List.mem_map_of_mem hc
    revert hin
    decide
  rw [strcasecmpEq, caseFold, hall, h]
  decide

/-- **Where no text has a carriage return and no name a colon, the names decide.** -/
theorem plain_iff_names {start : Str} {headers : MapType} {body : Str} (hbody : body ≠ [])
    (hstart : start ≠ [] ∧ ∀ c ∈ start, c ≠ 13)
    (hfields : ∀ x ∈ headers, (∀ c ∈ x.1, c ≠ 13 ∧ c ≠ 58) ∧ ∀ c ∈ x.2, c ≠ 13) :
    Plain start headers body ↔ ∀ x ∈ headers, x.1.map tolower ≠ asc "content-length" := by
  have hline : ∀ x ∈ headers, lines (fieldString x) = [fieldString x] := by
    intro x hx
    refine linesFrom_of_noCR [] _ fun c hc => ?_
    rcases List.mem_append.mp hc with hc | hc
    · rcases List.mem_append.mp hc with hc | hc
      · exact ((hfields x hx).1 c hc).1
      · rintro rfl
        revert hc
        decide
    · exact (hfields x hx).2 c hc
  have hstartLines : lines start = [start] := linesFrom_of_noCR [] start hstart.2
  have hown : ownLines start headers = (headers.filter fun x =>
      !strcasecmpEq x.1 (asc "connection")).map fieldString := by
    rw [ownLines, hstartLines, List.flatMap_map, List.map_eq_flatMap]
    exact List.flatMap_congr fun x hx => hline x (List.mem_of_mem_filter hx)
  have hlengths : lengths (ownLines start headers) = []
      ↔ ∀ x ∈ headers, x.1.map tolower ≠ asc "content-length" := by
    rw [hown, lengths, List.map_eq_nil_iff, List.filter_eq_nil_iff]
    simp only [List.mem_map, List.mem_filter]
    constructor
    · intro h x hx hname
      refine h (fieldString x) ⟨x, ⟨hx, ?_⟩, rfl⟩ ?_
      · rw [strcasecmpEq_connection hname]
        rfl
      · rw [isContentLength_fieldString fun c hc => ((hfields x hx).1 c hc).2]
        exact decide_eq_true hname
    · rintro h line ⟨x, ⟨hx, _⟩, rfl⟩ hlen
      rw [isContentLength_fieldString fun c hc => ((hfields x hx).1 c hc).2] at hlen
      exact h x hx (of_decide_eq_true hlen)
  have hnil : [] ∉ ownLines start headers := by
    rw [hown, List.mem_map]
    rintro ⟨x, _, hx⟩
    exact List.cons_ne_nil 58 x.2 (List.append_eq_nil_iff.mp ((List.append_assoc ..).symm.trans hx)).2
  rw [Plain, hlengths, hstartLines, List.mem_singleton]
  constructor
  · rintro ⟨_, _, h | ⟨h, _⟩⟩
    · exact h
    · exact absurd h hbody
  · exact fun h => ⟨fun hs => hstart.1 hs.symm, hnil, .inl h⟩

end Http
end KitServer
