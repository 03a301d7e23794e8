import KitServer.Http.Message

/-!
# `LogFormatter`

The pattern of a formatter, and what `init` makes of it.

* `Scan`, `scan`         the loop behind a `%`: the name and the text between braces;
* `Parsing`, `parse`     the loop over the pattern;
* `LogFormatter.items`, `LogFormatter.isError`  what `init` leaves;
* `scan_fuel`, `parse_fuel`  both loops end: the index grows in every round.

A formatter is its pattern: there is no other way to make one than from a pattern.
-/

set_option linter.unusedVariables false

namespace KitServer
namespace Log
open Http

/-- `s.substr(pos, n)` -/
def substr (s : Str) (pos n : Nat) : Str := (s.drop pos).take n

def isalpha (c : UInt8) : Bool := (65 ≤ c && c ≤ 90) || (97 ≤ c && c ≤ 122)

/-- the classes of `s_format_items` -/
inductive ItemClass where
  | message
  | level
  | elapse
  | threadId
  | threadName
  | dateTime
  | line
  | newLine
  | fileName
  | tab
  | coroutineId
  | logName
deriving DecidableEq

def s_format_items : List (Str × ItemClass) :=
  [(asc "m", .message), (asc "p", .level), (asc "r", .elapse), (asc "t", .threadId),
    (asc "tn", .threadName), (asc "d", .dateTime), (asc "l", .line), (asc "n", .newLine),
    (asc "f", .fileName), (asc "T", .tab), (asc "c", .coroutineId), (asc "g", .logName)]

/-- a text, or an object of a class with what its constructor was given -/
inductive FormatItem where
  | string (s : Str)
  | item (c : ItemClass) (fmt : Str)
deriving DecidableEq

/-- the loop behind the `%` at `i`; `opened` is `fmt_status == 1` -/
structure Scan where
  pcahr : Str
  fmt : Str
  index : Nat
  opened : Bool
  fmtBegin : Nat

/-- a round of the loop at the character `c`, and whether it breaks -/
def scanRound (pattern : Str) (i : Nat) (s : Scan) (c : UInt8) : Scan × Bool :=
  if !s.opened && !isalpha c && c ≠ 123 && c ≠ 125 then
    ({ s with pcahr := substr pattern (i + 1) (s.index - i - 1) }, true)
  else if !s.opened && c = 123 then
    ({ s with
      pcahr := substr pattern (i + 1) (s.index - i - 1)
      opened := true
      fmtBegin := s.index
      index := s.index + 1 }, false)
  else if s.opened && c = 125 then
    ({ s with
      fmt := substr pattern (s.fmtBegin + 1) (s.index - s.fmtBegin - 1)
      opened := false
      index := s.index + 1 }, true)
  else
    let index := s.index + 1
    ({ s with
      index
      pcahr :=
        if index = pattern.length && s.pcahr.isEmpty then pattern.drop (i + 1)
        else s.pcahr }, false)

/-- the rounds of the loop; there are at most `fuel` -/
def scan (pattern : Str) (i : Nat) : Nat → Scan → Scan
  | 0, s => s
  | fuel + 1, s =>
    match pattern[s.index]? with
    | none => s
    | some c =>
      let round := scanRound pattern i s c
      if round.2 then round.1 else scan pattern i fuel round.1

/-- what the loop over the pattern has made: `mv`, where the flag says that the entry is an item, and
the text that is not yet in it -/
structure Parsing where
  mv : List (Str × Str × Bool)
  str : Str
  error : Bool

/-- a round of the loop at the character `c`: the next index, and what was made -/
def parseRound (pattern : Str) (i : Nat) (p : Parsing) (c : UInt8) : Nat × Parsing :=
  if c ≠ 37 then (i + 1, { p with str := p.str ++ [c] })
  -- only the first `%` of two is passed
  else if pattern[i + 1]? = some 37 then (i + 1, { p with str := p.str ++ [37] })
  else
    let s := scan pattern i pattern.length ⟨[], [], i + 1, false, 0⟩
    if s.opened then
      (i + 1, { p with mv := p.mv ++ [(asc "<<pattern error>>", s.fmt, false)], error := true })
    else
      let before := if s.pcahr.isEmpty then [] else [(p.str, [], false)]
      (s.index,
        { p with
          mv := p.mv ++ before ++ [(s.pcahr, s.fmt, true)]
          str := if s.pcahr.isEmpty then p.str else [] })

/-- the rounds of the loop over the pattern; there are at most `fuel` -/
def parse (pattern : Str) : Nat → Nat → Parsing → Parsing
  | 0, _, p => p
  | fuel + 1, i, p =>
    match pattern[i]? with
    | none => p
    | some c =>
      let round := parseRound pattern i p c
      parse pattern fuel round.1 round.2

structure LogFormatter where
  pattern : Str
deriving DecidableEq

namespace LogFormatter
variable (f : LogFormatter)

/-- the loop over the pattern, and the text at its end -/
def parsed : Parsing :=
  let p := parse f.pattern f.pattern.length 0 ⟨[], [], false⟩
  if p.str.isEmpty then p else { p with mv := p.mv ++ [(p.str, [], false)] }

def itemClass (name : Str) : Option ItemClass :=
  (s_format_items.find? fun e => e.1 = name).map Prod.snd

/-- the item of an entry of `mv` -/
def itemOf (x : Str × Str × Bool) : FormatItem :=
  if x.2.2 then
    match itemClass x.1 with
    | none => .string (asc "<<error_format %" ++ x.1 ++ asc ">>")
    | some c => .item c x.2.1
  else .string x.1

/-- `m_items` -/
def items : List FormatItem := f.parsed.mv.map itemOf

/-- `m_error` -/
def isError : Bool := f.parsed.error || f.parsed.mv.any fun x => x.2.2 && (itemClass x.1).isNone

end LogFormatter

/-! ## the loops end -/

section
variable (pattern : Str) (i : Nat)

theorem scanRound_index (s : Scan) (c : UInt8) :
    s.index ≤ (scanRound pattern i s c).1.index ∧
      ((scanRound pattern i s c).2 = false → (scanRound pattern i s c).1.index = s.index + 1) := by
  unfold scanRound
  split_ifs <;> simp

theorem scan_index (fuel : Nat) (s : Scan) : s.index ≤ (scan pattern i fuel s).index := by
  induction fuel generalizing s with
  | zero => exact Nat.le_refl _
  | succ fuel ih =>
    rw [scan]
    cases pattern[s.index]? with
    | none => exact Nat.le_refl _
    | some c =>
      have hround := (scanRound_index pattern i s c).1
      dsimp only
      split
      · exact hround
      · exact Nat.le_trans hround (ih _)

/-- **The loop behind a `%` has ended** after as many rounds as there are characters left. -/
theorem scan_fuel (fuel : Nat) (s : Scan) (h : pattern.length ≤ s.index + fuel) :
    scan pattern i (fuel + 1) s = scan pattern i fuel s := by
  induction fuel generalizing s with
  | zero =>
    have hend : pattern[s.index]? = none := List.getElem?_eq_none (by omega)
    simp only [scan, hend]
  | succ fuel ih =>
    rw [scan, scan]
    cases pattern[s.index]? with
    | none => rfl
    | some c =>
      dsimp only
      split
      · rfl
      · rename_i hgo
        have hindex := (scanRound_index pattern i s c).2 (Bool.eq_false_iff.mpr hgo)
        exact ih _ (by rw [hindex]; omega)

theorem parseRound_index (p : Parsing) (c : UInt8) : i < (parseRound pattern i p c).1 := by
  have hscan := scan_index pattern i pattern.length ⟨[], [], i + 1, false, 0⟩
  unfold parseRound
  dsimp only
  split_ifs
  · exact Nat.lt_succ_self i
  · exact Nat.lt_succ_self i
  · exact Nat.lt_succ_self i
  · exact hscan
  · exact hscan

/-- **The loop over the pattern has ended** after as many rounds as there are characters left. -/
theorem parse_fuel (fuel : Nat) (p : Parsing) (h : pattern.length ≤ i + fuel) :
    parse pattern (fuel + 1) i p = parse pattern fuel i p := by
  induction fuel generalizing i p with
  | zero =>
    have hend : pattern[i]? = none := List.getElem?_eq_none (by omega)
    simp only [parse, hend]
  | succ fuel ih =>
    rw [parse, parse]
    cases pattern[i]? with
    | none => rfl
    | some c =>
      have hindex := parseRound_index pattern i p c
      exact ih _ _ (by omega)

end

/-- two items behind each other, the first without its own name -/
example : (LogFormatter.mk (asc "%m%n")).items
    = [.string [], .item .message [], .string [], .item .newLine []] := by
  decide +kernel

end Log
end KitServer
