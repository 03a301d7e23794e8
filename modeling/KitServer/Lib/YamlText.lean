import KitServer.Lib.Yaml

/-!
# YAML in block style

A writer and a reader of YAML nodes, over bytes.  A document is a list of lines; a sequence or a
map is a list of blocks, each a line with the lines that are indented below it.

* `token`, `token_leafText`       the nodes that are written in one line;
* `unrender`, `unrender_render`   lines and blocks;
* `lines`, `readLines`            the writer and the reader of lines;
* `load_emit`                     the reader is the inverse of the writer;
* `blockStyle`                    they are the functions of a library.
-/

set_option linter.unusedVariables false

namespace KitServer
namespace Yaml

abbrev Text := List UInt8

/-! ## one line -/

def isDigit (c : UInt8) : Bool := 48 ≤ c && c ≤ 57

/-- letters, digits and `-./_` -/
def plainByte (c : UInt8) : Bool :=
  isDigit c || (65 ≤ c && c ≤ 90) || (97 ≤ c && c ≤ 122) || c = 45 || c = 46 || c = 47 || c = 95

/-- `null`, `Null` and `NULL` -/
def isNull (s : Text) : Bool :=
  s = [110, 117, 108, 108] || s = [78, 117, 108, 108] || s = [78, 85, 76, 76]

/-- a `-` in front is followed by a digit -/
def dashOk : Text → Bool
  | 45 :: c :: _ => isDigit c
  | [45] => false
  | _ => true

/-- a scalar that is written as it is -/
def isPlain (s : Text) : Bool := !s.isEmpty && s.all plainByte && !isNull s && dashOk s

/-- `"`, `\` and line breaks -/
def escape (c : UInt8) : Text :=
  if c = 34 then [92, 34] else if c = 92 then [92, 92] else if c = 10 then [92, 110] else [c]

def scalarText (s : Text) : Text := if isPlain s then s else 34 :: s.flatMap escape ++ [34]

/-- the nodes that fit in a line: `~`, a scalar, `[]` and `{}` -/
def leafText : Node Text → Option Text
  | .null => some [126]
  | .scalar s => some (scalarText s)
  | .sequence [] => some [91, 93]
  | .map [] => some [123, 125]
  | _ => none

def unquote : Text → Option (Text × Text)
  | [] => none
  | 34 :: rest => some ([], rest)
  | 92 :: c :: rest => (unquote rest).map fun p => ((if c = 110 then 10 else c) :: p.1, p.2)
  | c :: rest => (unquote rest).map fun p => (c :: p.1, p.2)

/-- the node at the front of a line, and what is behind it -/
def token (l : Text) : Option (Node Text × Text) :=
  match l with
  | 126 :: rest => some (.null, rest)
  | 34 :: rest => (unquote rest).map fun p => (.scalar p.1, p.2)
  | 91 :: 93 :: rest => some (.sequence [], rest)
  | 123 :: 125 :: rest => some (.map [], rest)
  | l =>
    let s := l.takeWhile plainByte
    if s.isEmpty then none
    else some (if isNull s then .null else .scalar s, l.dropWhile plainByte)

theorem unquote_escape (s rest : Text) :
    unquote (s.flatMap escape ++ 34 :: rest) = some (s, rest) := by
  induction s with
  | nil => rfl
  | cons c s ih =>
    rw [List.flatMap_cons, List.append_assoc]
    by_cases h34 : c = 34
    · subst h34
      show (unquote (s.flatMap escape ++ 34 :: rest)).map _ = _
      rw [ih]
      rfl
    by_cases h92 : c = 92
    · subst h92
      show (unquote (s.flatMap escape ++ 34 :: rest)).map _ = _
      rw [ih]
      rfl
    by_cases h10 : c = 10
    · subst h10
      show (unquote (s.flatMap escape ++ 34 :: rest)).map _ = _
      rw [ih]
      rfl
    · have hone : escape c = [c] := by simp [escape, h34, h92, h10]
      rw [hone, List.singleton_append, unquote, ih]
      · rfl
      · exact h34
      · intro d r hd
        exact absurd hd h92

/-- what can stand behind a node in its line: nothing, or a `:` -/
def Ends (rest : Text) : Prop := rest = [] ∨ ∃ r, rest = 58 :: r

theorem Ends.takeWhile {rest : Text} (h : Ends rest) {s : Text} (hs : s.all plainByte = true) :
    (s ++ rest).takeWhile plainByte = s ∧ (s ++ rest).dropWhile plainByte = rest := by
  have hrest : rest.takeWhile plainByte = [] ∧ rest.dropWhile plainByte = rest := by
    rcases h with rfl | ⟨r, rfl⟩
    · exact ⟨rfl, rfl⟩
    · exact ⟨rfl, rfl⟩
  have hall : ∀ c ∈ s, plainByte c = true := List.all_eq_true.mp hs
  rw [List.takeWhile_append_of_pos hall, List.dropWhile_append_of_pos hall, hrest.1, hrest.2,
    List.append_nil]
  exact ⟨rfl, rfl⟩

/-- **A node that fits in a line is read back.** -/
theorem token_leafText {n : Node Text} {t rest : Text} (hn : leafText n = some t)
    (hrest : Ends rest) : token (t ++ rest) = some (n, rest) := by
  cases n with
  | null =>
    cases hn
    rfl
  | scalar s =>
    cases hn
    rw [scalarText]
    split
    · rename_i hplain
      simp only [isPlain, Bool.and_eq_true, Bool.not_eq_true'] at hplain
      obtain ⟨⟨⟨hne, hall⟩, hnull⟩, _⟩ := hplain
      obtain ⟨htake, hdrop⟩ := hrest.takeWhile hall
      obtain ⟨c, s', rfl⟩ := List.exists_cons_of_ne_nil (List.isEmpty_eq_false_iff.mp hne)
      have hc : plainByte c = true := List.all_eq_true.mp hall c List.mem_cons_self
      have hother : ∀ d, plainByte d = false → c ≠ d := by
        rintro d hd rfl
        rw [hc] at hd
        cases hd
      have h126 := hother 126 (by decide)
      have h34 := hother 34 (by decide)
      have h91 := hother 91 (by decide)
      have h123 := hother 123 (by decide)
      rw [token]
      · rw [htake, hdrop, hne, hnull]
        rfl
      · rintro r hr
        exact h126 (List.cons.inj hr).1
      · rintro r hr
        exact h34 (List.cons.inj hr).1
      · rintro r hr
        exact h91 (List.cons.inj hr).1
      · rintro r hr
        exact h123 (List.cons.inj hr).1
    · show token (34 :: (s.flatMap escape ++ [34] ++ rest)) = _
      rw [List.append_assoc, token]
      show (unquote (s.flatMap escape ++ 34 :: rest)).map _ = _
      rw [unquote_escape]
      rfl
  | sequence xs =>
    cases xs with
    | nil =>
      cases hn
      rfl
    | cons x xs => cases hn
  | map kvs =>
    cases kvs with
    | nil =>
      cases hn
      rfl
    | cons kv kvs => cases hn

/-! ## lines and blocks -/

/-- a line, and the lines that are indented below it -/
abbrev Block := Text × List Text

def indent (l : Text) : Text := 32 :: 32 :: l

def render (b : Block) : List Text := b.1 :: b.2.map indent

/-- the lines from the end on: those that are indented and wait for their head, and the blocks -/
def gatherLine (l : Text) (acc : List Text × List Block) : List Text × List Block :=
  match l with
  | 32 :: 32 :: l => (l :: acc.1, acc.2)
  | l => ([], (l, acc.1) :: acc.2)

def unrender (ls : List Text) : List Block := (ls.foldr gatherLine ([], [])).2

/-- the head of a block is not indented -/
def Head (l : Text) : Prop := ∃ c r, l = c :: r ∧ c ≠ 32

theorem gather_indented (ls : List Text) (acc : List Text × List Block) :
    (ls.map indent).foldr gatherLine acc = (ls ++ acc.1, acc.2) := by
  induction ls with
  | nil => rfl
  | cons l ls ih =>
    rw [List.map_cons, List.foldr_cons, ih]
    rfl

theorem gather_render {b : Block} (hb : Head b.1) (bs : List Block) :
    (render b).foldr gatherLine ([], bs) = ([], b :: bs) := by
  obtain ⟨c, r, hc, h32⟩ := hb
  rw [render, List.foldr_cons, gather_indented, List.append_nil, hc, gatherLine]
  · rw [← hc]
  · intro l hl
    exact h32 (List.cons.inj hl).1

/-- **Blocks are read back from their lines.** -/
theorem unrender_render (bs : List Block) (h : ∀ b ∈ bs, Head b.1) :
    unrender (bs.flatMap render) = bs := by
  have hfold : (bs.flatMap render).foldr gatherLine ([], []) = ([], bs) := by
    induction bs with
    | nil => rfl
    | cons b bs ih =>
      obtain ⟨hb, hbs⟩ := List.forall_mem_cons.mp h
      rw [List.flatMap_cons, List.foldr_append, ih hbs, gather_render hb]
  rw [unrender, hfold]

/-- a mark in front of the first line -/
def marked (mark : Text) : List Text → Block
  | [] => (mark, [])
  | l :: ls => (mark ++ l, ls)

/-! ## the writer -/

mutual

def lines : Node Text → List Text
  | .null => [[126]]
  | .scalar s => [scalarText s]
  | .sequence [] => [[91, 93]]
  | .sequence (x :: xs) => (itemBlocks (x :: xs)).flatMap render
  | .map [] => [[123, 125]]
  | .map (kv :: kvs) => (entryBlocks (kv :: kvs)).flatMap render

def itemBlocks : List (Node Text) → List Block
  | [] => []
  | x :: xs => marked [45, 32] (lines x) :: itemBlocks xs

def entryBlocks : List (Node Text × Node Text) → List Block
  | [] => []
  | (k, v) :: kvs =>
    (match leafText k, leafText v with
      | some tk, some tv => [(tk ++ 58 :: 32 :: tv, [])]
      | some tk, none => [(tk ++ [58], lines v)]
      | none, _ => [marked [63, 32] (lines k), marked [58, 32] (lines v)]) ++ entryBlocks kvs

end

/-- `operator<<` -/
def emit (n : Node Text) : Text := List.intercalate [10] (lines n)

/-! ## the reader -/

/-- the entries of a map; `read` reads the lines of a node -/
def readEntries (read : List Text → Option (Node Text)) :
    List Block → Option (List (Node Text × Node Text))
  | [] => some []
  | (63 :: 32 :: l, ls) :: (58 :: 32 :: m, ms) :: bs =>
    match read (l :: ls), read (m :: ms), readEntries read bs with
    | some k, some v, some kvs => some ((k, v) :: kvs)
    | _, _, _ => none
  | (h, ls) :: bs =>
    match token h with
    | some (k, [58]) =>
      match read ls, readEntries read bs with
      | some v, some kvs => some ((k, v) :: kvs)
      | _, _ => none
    | some (k, 58 :: 32 :: l) =>
      match read (l :: ls), readEntries read bs with
      | some v, some kvs => some ((k, v) :: kvs)
      | _, _ => none
    | _ => none

def readItems (read : List Text → Option (Node Text)) : List Block → Option (List (Node Text))
  | [] => some []
  | (45 :: 32 :: l, ls) :: bs =>
    match read (l :: ls), readItems read bs with
    | some x, some xs => some (x :: xs)
    | _, _ => none
  | _ => none

def readLeaf : List Text → Option (Node Text)
  | [l] =>
    match token l with
    | some (n, []) => some n
    | _ => none
  | _ => none

def readBlocks (read : List Text → Option (Node Text)) (bs : List Block) : Option (Node Text) :=
  match bs with
  | (45 :: 32 :: _, _) :: _ => (readItems read bs).map .sequence
  | _ => (readEntries read bs).map .map

/-- the node with the lines `ls`; they have at most `fuel` bytes -/
def readLines : Nat → List Text → Option (Node Text)
  | 0, _ => none
  | fuel + 1, ls =>
    match readLeaf ls with
    | some n => some n
    | none => readBlocks (readLines fuel) (unrender ls)

/-- `YAML::Load`; an empty document is a null -/
def load (s : Text) : Option (Node Text) :=
  if s.isEmpty then some .null else readLines (s.length + 1) (s.splitOn 10)

/-! ## the reader is the inverse of the writer -/

theorem leafText_ne_nil {n : Node Text} {t : Text} (h : leafText n = some t) :
    ∃ c r, t = c :: r ∧ c ≠ 32 ∧ c ≠ 63 ∧ c ≠ 10 := by
  cases n with
  | null =>
    cases h
    exact ⟨126, [], rfl, by decide, by decide, by decide⟩
  | scalar s =>
    cases h
    rw [scalarText]
    split
    · rename_i hplain
      simp only [isPlain, Bool.and_eq_true, Bool.not_eq_true'] at hplain
      obtain ⟨⟨⟨hne, hall⟩, _⟩, _⟩ := hplain
      obtain ⟨c, s', rfl⟩ := List.exists_cons_of_ne_nil (List.isEmpty_eq_false_iff.mp hne)
      have hc : plainByte c = true := List.all_eq_true.mp hall c List.mem_cons_self
      have hother : ∀ d, plainByte d = false → c ≠ d := by
        rintro d hd rfl
        rw [hc] at hd
        cases hd
      exact ⟨c, s', rfl, hother 32 (by decide), hother 63 (by decide), hother 10 (by decide)⟩
    · exact ⟨34, _, rfl, by decide, by decide, by decide⟩
  | sequence xs =>
    cases xs with
    | nil =>
      cases h
      exact ⟨91, [93], rfl, by decide, by decide, by decide⟩
    | cons x xs => cases h
  | map kvs =>
    cases kvs with
    | nil =>
      cases h
      exact ⟨123, [125], rfl, by decide, by decide, by decide⟩
    | cons kv kvs => cases h

theorem lines_leaf {n : Node Text} {t : Text} (h : leafText n = some t) : lines n = [t] := by
  cases n with
  | null =>
    cases h
    rfl
  | scalar s =>
    cases h
    rfl
  | sequence xs =>
    cases xs with
    | nil =>
      cases h
      rfl
    | cons x xs => cases h
  | map kvs =>
    cases kvs with
    | nil =>
      cases h
      rfl
    | cons kv kvs => cases h

theorem render_head (b : Block) : render b = b.1 :: b.2.map indent := rfl

/-- a node has a line, which is not indented -/
theorem lines_head (n : Node Text) : ∃ l ls, lines n = l :: ls ∧ Head l := by
  cases hleaf : leafText n with
  | some t =>
    obtain ⟨c, r, rfl, h32, _⟩ := leafText_ne_nil hleaf
    exact ⟨c :: r, [], lines_leaf hleaf, c, r, rfl, h32⟩
  | none =>
    cases n with
    | null => cases hleaf
    | scalar s => cases hleaf
    | sequence xs =>
      cases xs with
      | nil => cases hleaf
      | cons x xs =>
        rw [lines, itemBlocks, List.flatMap_cons, render_head, List.cons_append]
        refine ⟨_, _, rfl, ?_⟩
        cases lines x with
        | nil => exact ⟨45, _, rfl, by decide⟩
        | cons l ls => exact ⟨45, _, rfl, by decide⟩
    | map kvs =>
      cases kvs with
      | nil => cases hleaf
      | cons kv kvs =>
        obtain ⟨k, v⟩ := kv
        rw [lines, entryBlocks]
        cases hk : leafText k with
        | some tk =>
          obtain ⟨c, r, rfl, h32, _⟩ := leafText_ne_nil hk
          cases leafText v with
          | some tv => exact ⟨_, _, rfl, c, _, rfl, h32⟩
          | none => exact ⟨_, _, rfl, c, _, rfl, h32⟩
        | none =>
          dsimp only
          cases lines k with
          | nil => exact ⟨_, _, rfl, 63, _, rfl, by decide⟩
          | cons l ls => exact ⟨_, _, rfl, 63, _, rfl, by decide⟩

theorem marked_lines (mark : Text) (n : Node Text) :
    ∃ l ls, lines n = l :: ls ∧ marked mark (lines n) = (mark ++ l, ls) := by
  obtain ⟨l, ls, hn, _⟩ := lines_head n
  exact ⟨l, ls, hn, by rw [hn, marked]⟩

theorem itemBlocks_head (xs : List (Node Text)) : ∀ b ∈ itemBlocks xs, Head b.1 := by
  induction xs with
  | nil =>
    intro b hb
    cases hb
  | cons x xs ih =>
    intro b hb
    rw [itemBlocks, List.mem_cons] at hb
    rcases hb with rfl | hb
    · obtain ⟨l, ls, _, hmark⟩ := marked_lines [45, 32] x
      rw [hmark]
      exact ⟨45, _, rfl, by decide⟩
    · exact ih b hb

theorem entryBlocks_head (kvs : List (Node Text × Node Text)) :
    ∀ b ∈ entryBlocks kvs, Head b.1 := by
  induction kvs with
  | nil =>
    intro b hb
    cases hb
  | cons kv kvs ih =>
    obtain ⟨k, v⟩ := kv
    intro b hb
    rw [entryBlocks, List.mem_append] at hb
    rcases hb with hb | hb
    · cases hk : leafText k with
      | some tk =>
        obtain ⟨c, r, rfl, h32, _⟩ := leafText_ne_nil hk
        cases hv : leafText v with
        | some tv =>
          rw [hk, hv, List.mem_singleton] at hb
          rw [hb]
          exact ⟨c, _, rfl, h32⟩
        | none =>
          rw [hk, hv, List.mem_singleton] at hb
          rw [hb]
          exact ⟨c, _, rfl, h32⟩
      | none =>
        rw [hk, List.mem_pair] at hb
        rcases hb with rfl | rfl
        · obtain ⟨l, ls, _, hmark⟩ := marked_lines [63, 32] k
          rw [hmark]
          exact ⟨63, _, rfl, by decide⟩
        · obtain ⟨l, ls, _, hmark⟩ := marked_lines [58, 32] v
          rw [hmark]
          exact ⟨58, _, rfl, by decide⟩
    · exact ih b hb

/-- the reader reads back the node that was written -/
def Reads (read : List Text → Option (Node Text)) (n : Node Text) : Prop := read (lines n) = some n

theorem readItems_itemBlocks {read : List Text → Option (Node Text)} (xs : List (Node Text))
    (h : ∀ x ∈ xs, Reads read x) : readItems read (itemBlocks xs) = some xs := by
  induction xs with
  | nil => rfl
  | cons x xs ih =>
    obtain ⟨hx, hxs⟩ := List.forall_mem_cons.mp h
    obtain ⟨l, ls, hn, hmark⟩ := marked_lines [45, 32] x
    have hread : read (l :: ls) = some x := hn ▸ hx
    rw [itemBlocks, hmark]
    show (match read (l :: ls), readItems read (itemBlocks xs) with
      | some x, some xs => some (x :: xs)
      | _, _ => none) = _
    rw [hread, ih hxs]

theorem leafText_ne_mark {k : Node Text} {tk : Text} (hk : leafText k = some tk) (rest l : Text) :
    tk ++ rest ≠ 63 :: 32 :: l := by
  obtain ⟨c, r, rfl, _, h63, _⟩ := leafText_ne_nil hk
  intro h
  exact h63 (List.cons.inj h).1

theorem readEntries_inline {read : List Text → Option (Node Text)} {k v : Node Text} {tk l : Text}
    {ls : List Text} {bs : List Block} {kvs : List (Node Text × Node Text)}
    (hk : leafText k = some tk) (hv : read (l :: ls) = some v)
    (hbs : readEntries read bs = some kvs) :
    readEntries read ((tk ++ 58 :: 32 :: l, ls) :: bs) = some ((k, v) :: kvs) := by
  rw [readEntries, token_leafText hk (Or.inr ⟨_, rfl⟩)]
  · simp only [hv, hbs]
  · intro l' m ms bs' _ h
    exact absurd h (leafText_ne_mark hk _ _)

theorem readEntries_below {read : List Text → Option (Node Text)} {k v : Node Text} {tk : Text}
    {ls : List Text} {bs : List Block} {kvs : List (Node Text × Node Text)}
    (hk : leafText k = some tk) (hv : read ls = some v) (hbs : readEntries read bs = some kvs) :
    readEntries read ((tk ++ [58], ls) :: bs) = some ((k, v) :: kvs) := by
  rw [readEntries, token_leafText hk (Or.inr ⟨_, rfl⟩)]
  · simp only [hv, hbs]
  · intro l' m ms bs' _ h
    exact absurd h (leafText_ne_mark hk _ _)

theorem readEntries_marked {read : List Text → Option (Node Text)} {k v : Node Text} {l m : Text}
    {ls ms : List Text} {bs : List Block} {kvs : List (Node Text × Node Text)}
    (hk : read (l :: ls) = some k) (hv : read (m :: ms) = some v)
    (hbs : readEntries read bs = some kvs) :
    readEntries read ((63 :: 32 :: l, ls) :: (58 :: 32 :: m, ms) :: bs)
      = some ((k, v) :: kvs) := by
  rw [readEntries, hk, hv, hbs]

theorem readEntries_entryBlocks {read : List Text → Option (Node Text)}
    (kvs : List (Node Text × Node Text)) (h : ∀ kv ∈ kvs, Reads read kv.1 ∧ Reads read kv.2) :
    readEntries read (entryBlocks kvs) = some kvs := by
  induction kvs with
  | nil => rfl
  | cons kv kvs ih =>
    obtain ⟨k, v⟩ := kv
    obtain ⟨⟨hreadk, hreadv⟩, hkvs⟩ := List.forall_mem_cons.mp h
    have hrest := ih hkvs
    rw [entryBlocks]
    cases hk : leafText k with
    | some tk =>
      cases hv : leafText v with
      | some tv => exact readEntries_inline hk (lines_leaf hv ▸ hreadv) hrest
      | none => exact readEntries_below hk hreadv hrest
    | none =>
      obtain ⟨l, ls, hlk, hmarkk⟩ := marked_lines [63, 32] k
      obtain ⟨m, ms, hlv, hmarkv⟩ := marked_lines [58, 32] v
      dsimp only
      rw [hmarkk, hmarkv]
      exact readEntries_marked (hlk ▸ hreadk) (hlv ▸ hreadv) hrest

/-! ### a node of several blocks -/

theorem readLeaf_blocks {l : Text} {n : Node Text} {c : UInt8} {r : Text}
    (hl : token l = some (n, c :: r)) (ls : List Text) : readLeaf (l :: ls) = none := by
  cases ls with
  | nil => rw [readLeaf, hl]
  | cons l' ls => rfl

theorem readLeaf_none {l : Text} (hl : token l = none) (ls : List Text) :
    readLeaf (l :: ls) = none := by
  cases ls with
  | nil => rw [readLeaf, hl]
  | cons l' ls => rfl

theorem readLeaf_items (x : Node Text) (xs : List (Node Text)) :
    readLeaf (lines (.sequence (x :: xs))) = none := by
  obtain ⟨l, ls, _, hmark⟩ := marked_lines [45, 32] x
  rw [lines, itemBlocks, hmark, List.flatMap_cons, render_head]
  exact readLeaf_blocks (n := .scalar [45]) (c := 32) (r := l) rfl _

theorem readLeaf_entries (kv : Node Text × Node Text) (kvs : List (Node Text × Node Text)) :
    readLeaf (lines (.map (kv :: kvs))) = none := by
  obtain ⟨k, v⟩ := kv
  rw [lines, entryBlocks]
  cases hk : leafText k with
  | some tk =>
    cases hv : leafText v with
    | some tv => exact readLeaf_blocks (token_leafText hk (Or.inr ⟨_, rfl⟩)) _
    | none => exact readLeaf_blocks (token_leafText hk (Or.inr ⟨_, rfl⟩)) _
  | none =>
    obtain ⟨l, ls, _, hmark⟩ := marked_lines [63, 32] k
    dsimp only
    rw [hmark]
    exact readLeaf_none (l := 63 :: 32 :: l) rfl _

def bytes (ls : List Text) : Nat := (ls.map List.length).sum

theorem bytes_cons (l : Text) (ls : List Text) : bytes (l :: ls) = l.length + bytes ls := by
  rw [bytes, List.map_cons, List.sum_cons, bytes]

theorem bytes_append (ls ms : List Text) : bytes (ls ++ ms) = bytes ls + bytes ms := by
  rw [bytes, List.map_append, List.sum_append, bytes, bytes]

theorem bytes_indent (ls : List Text) : bytes ls ≤ bytes (ls.map indent) := by
  induction ls with
  | nil => exact Nat.le_refl _
  | cons l ls ih =>
    rw [List.map_cons, bytes_cons, bytes_cons]
    have hl : (indent l).length = l.length + 2 := rfl
    omega

theorem bytes_marked (mark : Text) (n : Node Text) :
    mark.length + bytes (lines n) ≤ bytes (render (marked mark (lines n))) := by
  obtain ⟨l, ls, hn, hmark⟩ := marked_lines mark n
  have hls := bytes_indent ls
  rw [hmark, hn, bytes_cons, render, bytes_cons, List.length_append]
  dsimp only
  omega

theorem bytes_item {x : Node Text} {xs : List (Node Text)} (h : x ∈ xs) :
    bytes (lines x) < bytes ((itemBlocks xs).flatMap render) := by
  induction xs with
  | nil => cases h
  | cons y xs ih =>
    rw [itemBlocks, List.flatMap_cons, bytes_append]
    rcases List.mem_cons.mp h with rfl | h
    · have hx := bytes_marked [45, 32] x
      have hmark : [45, 32].length = 2 := rfl
      omega
    · have hx := ih h
      omega

theorem bytes_entry {kv : Node Text × Node Text} {kvs : List (Node Text × Node Text)}
    (h : kv ∈ kvs) :
    bytes (lines kv.1) < bytes ((entryBlocks kvs).flatMap render) ∧
      bytes (lines kv.2) < bytes ((entryBlocks kvs).flatMap render) := by
  induction kvs with
  | nil => cases h
  | cons e kvs ih =>
    obtain ⟨k, v⟩ := e
    rw [entryBlocks, List.flatMap_append, bytes_append]
    rcases List.mem_cons.mp h with rfl | h
    · cases hk : leafText k with
      | some tk =>
        have hkl := lines_leaf hk
        cases hv : leafText v with
        | some tv =>
          have hvl := lines_leaf hv
          dsimp only
          rw [hkl, hvl, List.flatMap_singleton, render]
          simp only [bytes, List.map_cons, List.map_nil, List.sum_cons, List.sum_nil,
            List.length_append, List.length_cons]
          omega
        | none =>
          have hbelow := bytes_indent (lines v)
          dsimp only
          rw [hkl, List.flatMap_singleton, render, bytes_cons, bytes_cons]
          simp only [bytes, List.map_nil, List.sum_nil, List.length_append, List.length_cons,
            List.length_nil] at hbelow ⊢
          omega
      | none =>
        have hbk := bytes_marked [63, 32] k
        have hbv := bytes_marked [58, 32] v
        have hmk : [63, 32].length = 2 := rfl
        have hmv : [58, 32].length = 2 := rfl
        dsimp only
        rw [List.flatMap_cons, List.flatMap_singleton, bytes_append]
        omega
    · have hkv := ih h
      omega

theorem bytes_pos (n : Node Text) : 0 < bytes (lines n) := by
  obtain ⟨l, ls, hn, c, r, rfl, _⟩ := lines_head n
  rw [hn, bytes_cons, List.length_cons]
  omega

theorem readBlocks_items (read : List Text → Option (Node Text)) (x : Node Text)
    (xs : List (Node Text)) :
    readBlocks read (itemBlocks (x :: xs))
      = (readItems read (itemBlocks (x :: xs))).map .sequence := by
  obtain ⟨l, ls, _, hmark⟩ := marked_lines [45, 32] x
  rw [itemBlocks, hmark]
  rfl

/-- a leaf is not a `- ` -/
theorem leafText_ne_item {k : Node Text} {tk : Text} (hk : leafText k = some tk) (rest l : Text) :
    tk ++ 58 :: rest ≠ 45 :: 32 :: l := by
  cases k with
  | null =>
    cases hk
    intro h
    cases h
  | scalar s =>
    cases hk
    rw [scalarText]
    split
    · rename_i hplain
      simp only [isPlain, Bool.and_eq_true] at hplain
      obtain ⟨_, hdash⟩ := hplain
      intro h
      cases s with
      | nil => cases h
      | cons c s =>
        cases s with
        | nil => cases h
        | cons d r =>
          obtain ⟨rfl, htail⟩ := List.cons.inj h
          obtain ⟨rfl, _⟩ := List.cons.inj htail
          cases hdash
    · intro h
      cases h
  | sequence xs =>
    cases xs with
    | nil =>
      cases hk
      intro h
      cases h
    | cons x xs => cases hk
  | map kvs =>
    cases kvs with
    | nil =>
      cases hk
      intro h
      cases h
    | cons kv kvs => cases hk

theorem readBlocks_entries (read : List Text → Option (Node Text)) (kv : Node Text × Node Text)
    (kvs : List (Node Text × Node Text)) :
    readBlocks read (entryBlocks (kv :: kvs))
      = (readEntries read (entryBlocks (kv :: kvs))).map .map := by
  obtain ⟨k, v⟩ := kv
  rw [entryBlocks]
  cases hk : leafText k with
  | some tk =>
    cases hv : leafText v with
    | some tv =>
      dsimp only
      rw [List.singleton_append, readBlocks]
      intro l ls bs h
      exact absurd (congrArg Prod.fst (List.cons.inj h).1) (leafText_ne_item hk _ _)
    | none =>
      dsimp only
      rw [List.singleton_append, readBlocks]
      intro l ls bs h
      exact absurd (congrArg Prod.fst (List.cons.inj h).1) (leafText_ne_item hk _ _)
  | none =>
    obtain ⟨l, ls, _, hmark⟩ := marked_lines [63, 32] k
    dsimp only
    rw [hmark]
    rfl

/-- **The lines of a node are read back**, with fuel for their bytes. -/
theorem readLines_lines {fuel : Nat} {n : Node Text} (h : bytes (lines n) < fuel) :
    Reads (readLines fuel) n := by
  induction fuel generalizing n with
  | zero => omega
  | succ fuel ih =>
    have hleaf : ∀ t, leafText n = some t → Reads (readLines (fuel + 1)) n := by
      intro t ht
      have hread : readLeaf [t] = some n := by
        have htoken := token_leafText ht (Or.inl rfl)
        rw [List.append_nil] at htoken
        rw [readLeaf, htoken]
      rw [Reads, lines_leaf ht, readLines, hread]
    cases n with
    | null => exact hleaf _ rfl
    | scalar s => exact hleaf _ rfl
    | sequence xs =>
      cases xs with
      | nil => exact hleaf _ rfl
      | cons x xs =>
        have hitems : readItems (readLines fuel) (itemBlocks (x :: xs)) = some (x :: xs) := by
          refine readItems_itemBlocks _ fun y hy => ih ?_
          have hy := bytes_item hy
          rw [lines] at h
          omega
        rw [Reads, readLines, readLeaf_items, lines, unrender_render _ (itemBlocks_head _),
          readBlocks_items, hitems]
        rfl
    | map kvs =>
      cases kvs with
      | nil => exact hleaf _ rfl
      | cons kv kvs =>
        have hentries :
            readEntries (readLines fuel) (entryBlocks (kv :: kvs)) = some (kv :: kvs) := by
          refine readEntries_entryBlocks _ fun e he => ?_
          have he := bytes_entry he
          rw [lines] at h
          exact ⟨ih (by omega), ih (by omega)⟩
        rw [Reads, readLines, readLeaf_entries, lines, unrender_render _ (entryBlocks_head _),
          readBlocks_entries, hentries]
        rfl

/-! ### no line has a line break -/

theorem leafText_oneLine {n : Node Text} {t : Text} (h : leafText n = some t) : 10 ∉ t := by
  cases n with
  | null =>
    cases h
    decide
  | scalar s =>
    cases h
    rw [scalarText]
    split
    · rename_i hplain
      simp only [isPlain, Bool.and_eq_true] at hplain
      intro hmem
      have hten := List.all_eq_true.mp hplain.1.1.2 10 hmem
      cases hten
    · intro h
      rw [List.mem_append, List.mem_cons, List.mem_flatMap] at h
      rcases h with (h | ⟨c, _, hc⟩) | h
      · cases h
      · rw [escape] at hc
        split at hc
        · revert hc
          decide
        split at hc
        · revert hc
          decide
        split at hc
        · revert hc
          decide
        · rename_i hten
          exact hten (List.mem_singleton.mp hc).symm
      · revert h
        decide
  | sequence xs =>
    cases xs with
    | nil =>
      cases h
      decide
    | cons x xs => cases h
  | map kvs =>
    cases kvs with
    | nil =>
      cases h
      decide
    | cons kv kvs => cases h

theorem oneLine_render {b : Block} (hhead : 10 ∉ b.1) (hbelow : ∀ l ∈ b.2, 10 ∉ l) :
    ∀ l ∈ render b, 10 ∉ l := by
  intro l hl
  rw [render, List.mem_cons, List.mem_map] at hl
  rcases hl with rfl | ⟨l, hl, rfl⟩
  · exact hhead
  · intro h
    rw [indent, List.mem_cons, List.mem_cons] at h
    rcases h with h | h | h
    · cases h
    · cases h
    · exact hbelow l hl h

theorem oneLine_marked {mark : Text} (hmark : 10 ∉ mark) {n : Node Text}
    (hn : ∀ l ∈ lines n, 10 ∉ l) : ∀ l ∈ render (marked mark (lines n)), 10 ∉ l := by
  obtain ⟨l, ls, hlines, hmarked⟩ := marked_lines mark n
  rw [hlines] at hn
  obtain ⟨hl, hls⟩ := List.forall_mem_cons.mp hn
  rw [hmarked]
  refine oneLine_render ?_ hls
  rw [List.mem_append]
  rintro (h | h)
  · exact hmark h
  · exact hl h

/-- **No line of a node has a line break.** -/
theorem lines_oneLine (n : Node Text) : ∀ l ∈ lines n, 10 ∉ l := by
  have hleaf : ∀ {n t}, leafText n = some t → ∀ l ∈ lines n, 10 ∉ l := by
    intro n t ht l hl
    rw [lines_leaf ht, List.mem_singleton] at hl
    rw [hl]
    exact leafText_oneLine ht
  induction n using Node.nested with
  | hnull => exact hleaf rfl
  | hscalar s => exact hleaf rfl
  | hsequence xs ih =>
    have hitems : ∀ l ∈ (itemBlocks xs).flatMap render, 10 ∉ l := by
      induction xs with
      | nil =>
        intro l hl
        cases hl
      | cons x xs ihxs =>
        obtain ⟨hx, hxs⟩ := List.forall_mem_cons.mp ih
        intro l hl
        rw [itemBlocks, List.flatMap_cons, List.mem_append] at hl
        rcases hl with hl | hl
        · exact oneLine_marked (by decide) hx l hl
        · exact ihxs hxs l hl
    cases xs with
    | nil => exact hleaf rfl
    | cons x xs =>
      rw [lines]
      exact hitems
  | hmap kvs ih =>
    have hentries : ∀ l ∈ (entryBlocks kvs).flatMap render, 10 ∉ l := by
      induction kvs with
      | nil =>
        intro l hl
        cases hl
      | cons kv kvs ihkvs =>
        obtain ⟨⟨hk, hv⟩, hkvs⟩ := List.forall_mem_cons.mp ih
        obtain ⟨k, v⟩ := kv
        intro l hl
        rw [entryBlocks, List.flatMap_append, List.mem_append] at hl
        rcases hl with hl | hl
        · cases hlk : leafText k with
          | some tk =>
            have htk := leafText_oneLine hlk
            cases hlv : leafText v with
            | some tv =>
              have htv := leafText_oneLine hlv
              rw [hlk, hlv, List.flatMap_singleton] at hl
              refine oneLine_render ?_ (by simp) l hl
              simp only [List.mem_append, List.mem_cons]
              rintro (h | h | h | h)
              · exact htk h
              · cases h
              · cases h
              · exact htv h
            | none =>
              rw [hlk, hlv, List.flatMap_singleton] at hl
              refine oneLine_render ?_ hv l hl
              simp only [List.mem_append, List.mem_cons]
              rintro (h | h | h)
              · exact htk h
              · cases h
              · cases h
          | none =>
            rw [hlk, List.flatMap_cons, List.flatMap_singleton, List.mem_append] at hl
            rcases hl with hl | hl
            · exact oneLine_marked (by decide) hk l hl
            · exact oneLine_marked (by decide) hv l hl
        · exact ihkvs hkvs l hl
    cases kvs with
    | nil => exact hleaf rfl
    | cons kv kvs =>
      rw [lines]
      exact hentries

theorem bytes_le_intercalate (ls : List Text) :
    bytes ls ≤ (List.intercalate [10] ls).length := by
  induction ls with
  | nil => exact Nat.zero_le _
  | cons l ls ih =>
    cases ls with
    | nil => simp [bytes]
    | cons m ls =>
      rw [bytes_cons, List.intercalate_cons_cons]
      simp only [List.length_append]
      omega

/-- **`Load` gives back the node that `operator<<` has written.** -/
theorem load_emit (n : Node Text) : load (emit n) = some n := by
  have hbytes := bytes_le_intercalate (lines n)
  have hpos := bytes_pos n
  obtain ⟨l, ls, hlines, _⟩ := lines_head n
  have hsplit : (emit n).splitOn 10 = lines n :=
    List.splitOn_intercalate 10 (lines_oneLine n) (by rw [hlines]; exact List.cons_ne_nil _ _)
  have hne : (emit n).isEmpty = false := by
    rw [List.isEmpty_eq_false_iff, ← List.length_pos_iff]
    exact Nat.lt_of_lt_of_le hpos hbytes
  rw [load, hne, hsplit]
  exact readLines_lines (Nat.lt_succ_of_le hbytes)

theorem emit_plain {s : Text} (h : isPlain s = true) : emit (.scalar s) = s := by
  rw [emit, lines, scalarText, if_pos h]
  exact List.intercalate_singleton

theorem load_plain {s : Text} (h : isPlain s = true) : load s = some (.scalar s) := by
  have hload := load_emit (.scalar s)
  rwa [emit_plain h] at hload

theorem plainByte_digit {c : UInt8} (h : isDigit c = true) : plainByte c = true := by
  rw [plainByte, h]
  rfl

theorem isNull_cons {c : UInt8} (hn : c ≠ 110) (hN : c ≠ 78) (s : Text) :
    isNull (c :: s) = false := by
  simp [isNull, hn, hN]

theorem isPlain_digits {s : Text} (hne : s ≠ []) (h : ∀ c ∈ s, isDigit c = true) :
    isPlain s = true ∧ isPlain (45 :: s) = true := by
  obtain ⟨c, r, rfl⟩ := List.exists_cons_of_ne_nil hne
  have hall : (c :: r).all plainByte = true :=
    List.all_eq_true.mpr fun d hd => plainByte_digit (h d hd)
  have hc : isDigit c = true := h c List.mem_cons_self
  have hother : ∀ d, isDigit d = false → c ≠ d := by
    rintro d hd rfl
    rw [hc] at hd
    cases hd
  have hnull : isNull (c :: r) = false := isNull_cons (hother 110 (by decide)) (hother 78 (by decide)) r
  have hminus : isNull (45 :: c :: r) = false := isNull_cons (by decide) (by decide) _
  have hdash : dashOk (c :: r) = true := by
    rw [dashOk]
    · intro d r' hd
      exact absurd (List.cons.inj hd).1 (hother 45 (by decide))
    · intro hd
      exact absurd (List.cons.inj hd).1 (hother 45 (by decide))
  constructor
  · rw [isPlain, hall, hnull, hdash]
    rfl
  · rw [isPlain, List.all_cons, hall, hminus, dashOk, hc]
    rfl

/-! ## the library -/

def asString : Node Text → Option Text
  | .scalar s => some s
  | _ => none

def items : Node Text → List Text
  | .sequence xs => xs.map emit
  | .map kvs => kvs.map fun _ => []
  | _ => []

def pairs : Node Text → Option (List (Text × Text))
  | .map kvs => some (kvs.map fun kv => (emit kv.1, emit kv.2))
  | .sequence (_ :: _) => none
  | _ => some []

/-- the library of this reader and this writer -/
def blockStyle : Library Text := ⟨load, emit, [], asString, items, pairs⟩

theorem blockStyle_lawful : blockStyle.Lawful where
  load_emit := load_emit
  load_unset := rfl
  asString_scalar s := rfl
  items_null := rfl
  items_sequence xs := rfl
  pairs_null := rfl
  pairs_map kvs := rfl

end Yaml
end KitServer
