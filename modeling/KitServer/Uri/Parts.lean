import KitServer.Uri.Grammar

/-!
# The parser over the parts of a URI

The table takes every part of a URI from a few states, with actions at its first byte only.  The
states and actions are compared with the grammar by the kernel (`segment`), once for parts of every
length; what the actions do to the mark and to the fields follows.

* `resume_userinfo`  a userinfo with its `@`: what is stored, and why a digit behind a colon counts;
* `literal_iff`      the table takes an IP literal exactly when the grammar of `uri.rl` does.
-/

set_option linter.unusedVariables false

namespace KitServer
open Http (Str asc atoi)

namespace Uri
open Regex

/-! ## segments -/

def anyByte : Nat := byteRange 0 255

theorem anyByte_testBit (c : UInt8) : anyByte.testBit c.toNat = true := by
  have hc := c.toNat_lt
  rw [anyByte, testBit_byteRange, decide_eq_true (Nat.zero_le _), decide_eq_true (by omega)]
  rfl

/-- behind a name that may be a host or the start of a userinfo -/
def nameEnd : List Nat := 520 :: List.range' 543 18

/-- behind a host that is not empty -/
def hostEnd : List Nat := 512 :: List.range' 516 5 ++ List.range' 523 19 ++ List.range' 543 18

/-- a part whose first byte is in `m` performs `acts` there, and leads from `S` to `E` -/
def seg (m : Nat) (acts : List Act) (S : List Nat) (r : Regex) (E : List Nat) : Bool :=
  segment row tr m acts S [[r]] E 2000

def byte (c : UInt8) : Regex := bytes (byteRange c.toNat c.toNat)

def colon : UInt8 := 58
def slash : UInt8 := 47
def atSign : UInt8 := 64
def question : UInt8 := 63
def hash : UInt8 := 35

/-- the rest of the input from position `p` on -/
def resume (u : Str) (cs p : Nat) (rest : Str) (s : Parse) : Except Fault (Option Uri) :=
  outcome u (scan trans (act u) cs p rest s)

section
variable {m : Nat} {acts : List Act} {S E : List Nat} {r : Regex} {u w : Str} {s s' : Parse}
  (pre rest : Str) (cs : Nat)

theorem seg_resume (h : seg m acts S r E = true) (hcs : cs ∈ S) (hw : w ∈ r.lang) (hne : w ≠ [])
    (hm : ∀ c ∈ w.head?, m.testBit c.toNat = true)
    (hacts : runActs (act u pre.length) acts s = .ok s') :
    ∃ cs' ∈ E, resume u cs pre.length (w ++ rest) s = resume u cs' (pre ++ w).length rest s' := by
  obtain ⟨c, w', rfl⟩ := List.exists_cons_of_ne_nil hne
  obtain ⟨cs', hE, hscan⟩ :=
    segment_scan h hcs (hm c rfl) ((mem_left_singleton _ _).mpr hw) hacts rest
  refine ⟨cs', hE, ?_⟩
  rw [resume, resume, List.length_append]
  exact congrArg (outcome u) hscan

theorem seg_byte {c : UInt8} (h : seg anyByte acts S (byte c) E = true)
    (hcs : cs ∈ S) (hacts : runActs (act u pre.length) acts s = .ok s') :
    ∃ cs' ∈ E,
      resume u cs pre.length (c :: rest) s = resume u cs' (pre ++ [c]).length rest s' := by
  have hc : (byteRange c.toNat c.toNat).testBit c.toNat = true := by
    rw [testBit_byteRange, decide_eq_true le_rfl]
    rfl
  exact seg_resume (w := [c]) pre rest cs h hcs ⟨c, hc, rfl⟩ (List.cons_ne_nil c [])
    (fun d _ => anyByte_testBit d) hacts

end

/-! ## what the mark stands for -/

theorem span_part {u pre v rest : Str} (hu : u = pre ++ (v ++ rest)) :
    span u (some pre.length) (pre ++ v).length = .ok v := by
  have hle : pre.length ≤ (pre ++ v).length := by
    rw [List.length_append]
    exact Nat.le_add_right _ _
  have hlen : (pre ++ v).length - pre.length = v.length := by
    rw [List.length_append, Nat.add_sub_cancel_left]
  rw [span, if_pos hle, hlen, hu, List.drop_left, List.take_left]

theorem span_here (u : Str) (p : Nat) : span u (some p) p = .ok [] := by
  rw [span, if_pos le_rfl, Nat.sub_self, List.take_zero]

/-! ## userinfo -/

/-- what is behind the first colon -/
def afterColon (v : Str) : Str := (v.dropWhile (· ≠ colon)).drop 1

/-- a digit is behind the first colon, as if a port followed a host -/
def portLike (v : Str) : Bool :=
  match afterColon v with
  | [] => false
  | c :: _ => Rl.digit.testBit c.toNat

/-- what `Create` stores for a userinfo -/
def storedUserinfo (v : Str) : Str := if portLike v then afterColon v else v

/-- the parts of a userinfo, from the start of the authority on -/
structure UserinfoSegs : Prop where
  name : seg anyByte [.markh] [511] Rl.regName nameEnd = true
  nameAt : seg anyByte [.saveUserinfo] nameEnd (byte atSign) [522] = true
  nameColon : seg anyByte [.saveHost] nameEnd (byte colon) [521] = true
  firstAt : seg anyByte [.markh, .saveUserinfo] [511] (byte atSign) [522] = true
  firstColon : seg anyByte [.markh, .saveHost] [511] (byte colon) [521] = true
  digits : seg Rl.digit [.markh] [521] Rl.userinfo [255, 542] = true
  others : seg (anyByte ^^^ Rl.digit) [] [521] Rl.userinfo [255] = true
  behindColonAt : seg anyByte [.saveUserinfo] [255, 521, 542] (byte atSign) [522] = true

theorem userinfoSegs : UserinfoSegs := by
  constructor <;> decide +kernel

theorem mem_chr_colon {w : Str} (hw : w ∈ (chr ':').lang) : w = [colon] := by
  obtain ⟨c, hc, rfl⟩ := hw
  have h : (byteRange 58 58).testBit c.toNat = true := hc
  rw [testBit_byteRange, Bool.and_eq_true, decide_eq_true_eq, decide_eq_true_eq] at h
  have hc : c = colon := UInt8.toNat_inj.mp (Nat.le_antisymm h.2 h.1)
  rw [hc]

theorem regName_no_colon {w : Str} (hw : w ∈ Rl.regName.lang) : ∀ c ∈ w, c ≠ colon := by
  have hin : Rl.regName.bytesIn (anyByte ^^^ one ':') = true := by decide
  rintro c hc rfl
  have h := testBit_of_mem_lang _ w hin hw colon hc
  revert h
  decide

theorem userinfo_split {v : Str} (hv : v ∈ Rl.userinfo.lang) :
    v ∈ Rl.regName.lang ∨ ∃ a b, v = a ++ colon :: b ∧ a ∈ Rl.regName.lang ∧
      b ∈ Rl.userinfo.lang := by
  rcases star_split (a := bytes Rl.unreserved + Rl.pctEncoded + bytes Rl.subDelims)
    (b := chr ':') hv with h | ⟨a, x, b, rfl, ha, hx, hb⟩
  · exact Or.inl h
  · rw [mem_chr_colon hx]
    exact Or.inr ⟨a, b, rfl, ha, hb⟩

theorem afterColon_none {v : Str} (hv : ∀ c ∈ v, c ≠ colon) : afterColon v = [] := by
  rw [afterColon, List.dropWhile_eq_nil_iff.mpr fun c hc => decide_eq_true (hv c hc)]
  rfl

theorem afterColon_cons {a b : Str} (ha : ∀ c ∈ a, c ≠ colon) :
    afterColon (a ++ colon :: b) = b := by
  rw [afterColon, List.dropWhile_append_of_pos fun c hc => decide_eq_true (ha c hc)]
  rfl

section
variable {u pre v rest : Str}

theorem act_saveHost (hu : u = pre ++ (v ++ rest)) (x : Uri) :
    act u (pre ++ v).length .saveHost ⟨some pre.length, x⟩
      = .ok ⟨some pre.length, setHost v x⟩ := by
  simp only [act, save, span_part hu, Option.isSome_some, if_true]

theorem act_saveUserinfo (hu : u = pre ++ (v ++ rest)) (x : Uri) :
    act u (pre ++ v).length .saveUserinfo ⟨some pre.length, x⟩ = .ok ⟨none, setUserinfo v x⟩ := by
  simp only [act, save, span_part hu, Option.isSome_some, if_true]

theorem runActs_saveUserinfo (hu : u = pre ++ (v ++ rest)) (x : Uri) :
    runActs (act u (pre ++ v).length) [.saveUserinfo] ⟨some pre.length, x⟩
      = .ok ⟨none, setUserinfo v x⟩ := by
  simp only [runActs, act_saveUserinfo hu]

theorem runActs_saveHost (hu : u = pre ++ (v ++ rest)) (x : Uri) :
    runActs (act u (pre ++ v).length) [.saveHost] ⟨some pre.length, x⟩
      = .ok ⟨some pre.length, setHost v x⟩ := by
  simp only [runActs, act_saveHost hu]

theorem runActs_markHost (u : Str) (p : Nat) (s : Parse) :
    runActs (act u p) [.markh, .saveHost] s = .ok ⟨some p, setHost [] s.uri⟩ := by
  simp only [runActs, act, save, span_here, Option.isSome_some, if_true]

theorem runActs_mark (u : Str) (p : Nat) (s : Parse) :
    runActs (act u p) [.markh] s = .ok ⟨some p, s.uri⟩ := rfl

/-- behind the first colon of a userinfo, with the mark at its start -/
theorem resume_behindColon {a b : Str} (hu : u = pre ++ ((a ++ colon :: b) ++ atSign :: rest))
    (ha : ∀ c ∈ a, c ≠ colon) (hb : b ∈ Rl.userinfo.lang) (x : Uri) :
    resume u 521 (pre ++ a ++ [colon]).length (b ++ atSign :: rest) ⟨some pre.length, x⟩
      = resume u 522 (pre ++ (a ++ colon :: b) ++ [atSign]).length rest
          ⟨none, setUserinfo (storedUserinfo (a ++ colon :: b)) x⟩ := by
  have hpre : pre ++ a ++ [colon] ++ b = pre ++ (a ++ colon :: b) := by simp
  have hafter := afterColon_cons (b := b) ha
  cases b with
  | nil =>
    obtain ⟨cs, hcs, hgo⟩ := seg_byte _ rest 521 userinfoSegs.behindColonAt (by decide)
      (runActs_saveUserinfo hu x)
    rw [List.mem_singleton] at hcs
    have hplain : storedUserinfo (a ++ [colon]) = a ++ [colon] := by
      rw [storedUserinfo, portLike, hafter]
      rfl
    rw [hplain, ← hcs, ← hgo, List.append_assoc]
    rfl
  | cons d b =>
    cases hd : Rl.digit.testBit d.toNat
    · -- no port begins here: the mark stays
      have hm : ∀ c ∈ (d :: b).head?, (anyByte ^^^ Rl.digit).testBit c.toNat = true := by
        intro c hc
        obtain rfl := Option.some.inj hc
        rw [Nat.testBit_xor, anyByte_testBit, hd]
        rfl
      obtain ⟨cs, hcs, hgo⟩ := seg_resume (u := u) (pre ++ a ++ [colon])
        (atSign :: rest) 521 userinfoSegs.others (by decide) hb (List.cons_ne_nil d b) hm
        (show runActs _ [] ⟨some pre.length, x⟩ = .ok ⟨some pre.length, x⟩ from rfl)
      rw [List.mem_singleton] at hcs
      obtain ⟨cs', hcs', hgo'⟩ := seg_byte _ rest cs userinfoSegs.behindColonAt
        (by rw [hcs]; decide) (runActs_saveUserinfo hu x)
      rw [List.mem_singleton] at hcs'
      have hplain : storedUserinfo (a ++ colon :: d :: b) = a ++ colon :: d :: b := by
        rw [storedUserinfo, portLike, hafter]
        simp only [hd, Bool.false_eq_true, if_false]
      rw [hgo, hpre, hgo', hplain, hcs']
    · -- the mark of a port
      have hm : ∀ c ∈ (d :: b).head?, Rl.digit.testBit c.toNat = true := by
        intro c hc
        obtain rfl := Option.some.inj hc
        exact hd
      obtain ⟨cs, hcs, hgo⟩ := seg_resume (pre ++ a ++ [colon])
        (atSign :: rest) 521 userinfoSegs.digits (by decide) hb (List.cons_ne_nil d b) hm
        (runActs_mark u _ ⟨some pre.length, x⟩)
      have hu' : u = pre ++ a ++ [colon] ++ ((d :: b) ++ atSign :: rest) := by
        rw [hu]
        simp
      obtain ⟨cs', hcs', hgo'⟩ := seg_byte _ rest cs userinfoSegs.behindColonAt
        (by
          rcases List.mem_cons.mp hcs with h | h
          · rw [h]
            decide
          · rw [List.mem_singleton.mp h]
            decide) (runActs_saveUserinfo hu' x)
      rw [List.mem_singleton] at hcs'
      have hport : storedUserinfo (a ++ colon :: d :: b) = d :: b := by
        rw [storedUserinfo, portLike, hafter]
        simp only [hd, if_true]
      rw [hgo, hgo', hport, hcs', hpre]

theorem resume_userinfo (hu : u = pre ++ (v ++ atSign :: rest)) (hv : v ∈ Rl.userinfo.lang)
    (x : Uri) : ∃ h, resume u 511 pre.length (v ++ atSign :: rest) ⟨none, x⟩
      = resume u 522 (pre ++ v ++ [atSign]).length rest
          ⟨none, setUserinfo (storedUserinfo v) (setHost h x)⟩ := by
  rcases userinfo_split hv with hname | ⟨a, b, rfl, hname, hb⟩
  · -- no colon
    have hplain : storedUserinfo v = v := by
      rw [storedUserinfo, portLike, afterColon_none (regName_no_colon hname)]
      rfl
    refine ⟨x.host, ?_⟩
    rw [hplain]
    by_cases hne : v = []
    · subst hne
      have hacts : runActs (act u pre.length) [.markh, .saveUserinfo] ⟨none, x⟩
          = .ok ⟨none, setUserinfo [] x⟩ := by
        simp only [runActs, act, save, span_here, Option.isSome_some, if_true]
      obtain ⟨cs, hcs, hgo⟩ := seg_byte pre rest 511 userinfoSegs.firstAt (by decide) hacts
      rw [List.mem_singleton] at hcs
      rw [List.nil_append, hgo, hcs, List.append_nil]
      rfl
    · obtain ⟨cs, hcs, hgo⟩ := seg_resume pre (atSign :: rest) 511 userinfoSegs.name
        (by decide) hname hne (fun c _ => anyByte_testBit c) (runActs_mark u pre.length ⟨none, x⟩)
      obtain ⟨cs', hcs', hgo'⟩ := seg_byte _ rest cs userinfoSegs.nameAt hcs
        (runActs_saveUserinfo hu x)
      rw [List.mem_singleton] at hcs'
      rw [hgo, hgo', hcs']
      rfl
  · have hno := regName_no_colon hname
    have hsplit : (a ++ colon :: b) ++ atSign :: rest = a ++ (colon :: (b ++ atSign :: rest)) := by
      simp
    by_cases hne : a = []
    · subst hne
      refine ⟨[], ?_⟩
      obtain ⟨cs, hcs, hgo⟩ := seg_byte pre (b ++ atSign :: rest) 511 userinfoSegs.firstColon
        (by decide) (runActs_markHost u pre.length ⟨none, x⟩)
      rw [List.mem_singleton] at hcs
      rw [← resume_behindColon hu hno hb]
      simp only [List.nil_append, List.append_nil, List.cons_append]
      rw [hgo, hcs]
    · refine ⟨a, ?_⟩
      have hu' : u = pre ++ (a ++ colon :: (b ++ atSign :: rest)) := by rw [hu, hsplit]
      obtain ⟨cs, hcs, hgo⟩ := seg_resume pre (colon :: (b ++ atSign :: rest)) 511
        userinfoSegs.name (by decide) hname hne (fun c _ => anyByte_testBit c)
        (runActs_mark u pre.length ⟨none, x⟩)
      obtain ⟨cs', hcs', hgo'⟩ := seg_byte _ (b ++ atSign :: rest) cs userinfoSegs.nameColon hcs
        (runActs_saveHost hu' x)
      rw [List.mem_singleton] at hcs'
      rw [← resume_behindColon hu hno hb, hsplit, hgo, hgo', hcs']

end

/-! ## host and port -/

/-- where the parser may go behind a literal -/
def behindLiteral (cs : Nat) : Bool :=
  decide (cs ∈ [1, 2, 7, 8, 243, 244, 453, 454, 456, 457, 513, 514, 515])

theorem row_all {q : Nat → Range → Bool}
    (h : ((List.range 580).all fun cs => (row cs).all (q cs)) = true) {cs : Nat} {r : Range}
    (hr : r ∈ row cs) : q cs r = true := by
  have hcs : cs < 580 := by
    by_contra hge
    have hlen : rows.length = 29 := rfl
    rw [row, List.getD_eq_default rows [] (by omega)] at hr
    cases hr
  exact List.all_eq_true.mp (List.all_eq_true.mp h cs (List.mem_range.mpr hcs)) r hr

/-- what is read off the table about literals -/
structure LiteralFacts : Prop where
  behind : ∀ cs ∈ [1, 2, 7, 8, 243, 244, 453, 454, 456, 457, 513, 514, 515], ∀ r ∈ row cs,
    behindLiteral (r.jump.trans tr).target = true
  bracket : ((List.range 580).all fun cs => (row cs).all fun r =>
    !(decide (r.lo ≤ 93) && decide (93 ≤ r.hi)) ||
      decide ((r.jump.trans tr).target = 512 ∨ (r.jump.trans tr).target = 460)) = true
  /-- the parser between brackets beside the grammar -/
  spots : (saturate sameSpot (nextSpots row tr quiet behindLiteral
    (fun cs => decide (cs = 512)) fun cs => decide (cs = 512 ∨ cs = 460)) 2000
      [(260, [[Rl.ipv6address + Rl.ipvFuture, chr ']']])] []).isSome = true

theorem literalFacts : LiteralFacts := by
  constructor <;> decide +kernel

theorem behindLiteral_closed (cs : Nat) (c : UInt8) (t : Trans Act) (hcs : behindLiteral cs = true)
    (ht : trans cs c = some t) : behindLiteral t.target = true := by
  obtain ⟨r, hr, _, _, rfl⟩ := rowTrans_range ht
  exact literalFacts.behind cs (of_decide_eq_true hcs) r hr

theorem bracket_target {cs : Nat} {t : Trans Act} (ht : trans cs 93 = some t) :
    t.target = 512 ∨ t.target = 460 := by
  obtain ⟨r, hr, hlo, hhi, rfl⟩ := rowTrans_range ht
  have h := row_all literalFacts.bracket hr
  rw [decide_eq_true (show r.lo ≤ 93 from hlo), decide_eq_true (show 93 ≤ r.hi from hhi)] at h
  simpa using h

theorem literal_iff (w : Str) :
    (w ∈ (Rl.ipv6address + Rl.ipvFuture).lang →
      run (only quiet trans) 260 (w ++ [93]) = some 512) ∧
    (∀ cs, run trans 260 (w ++ [93]) = some cs → w ∈ (Rl.ipv6address + Rl.ipvFuture).lang) := by
  obtain ⟨P, hmem, hP⟩ := saturate_closed eq_of_sameSpot literalFacts.spots
  have hroot := hmem _ List.mem_cons_self
  have hleft : w ++ [93] ∈ left [[Rl.ipv6address + Rl.ipvFuture, chr ']']] ↔
      w ∈ (Rl.ipv6address + Rl.ipvFuture).lang := by
    constructor
    · rintro ⟨k, hk, hw⟩
      rw [List.mem_singleton] at hk
      subst hk
      obtain ⟨a, ha, b, hb, hab⟩ := hw
      rw [stackLang, stackLang, mul_one] at hb
      obtain ⟨c, _, rfl⟩ := hb
      obtain ⟨rfl, _⟩ := List.append_inj' hab rfl
      exact ha
    · intro hw
      refine ⟨_, List.mem_singleton.mpr rfl, w, hw, [93], ?_, rfl⟩
      rw [stackLang, stackLang, mul_one]
      exact ⟨93, by decide, rfl⟩
  constructor
  · intro hw
    obtain ⟨cs, hrun, hcs⟩ := follow_run hP
      (fun t ht => by rw [quiet, Bool.and_eq_true] at ht; simpa using ht.2) _ _ hroot
      (hleft.mpr hw)
    rw [of_decide_eq_true hcs] at hrun
    exact hrun
  · intro cs hrun
    refine hleft.mp (within_run hP behindLiteral_closed ?_ _ _ hroot cs hrun ?_)
    · intro cs hcs
      have hall : ∀ cs ∈ [1, 2, 7, 8, 243, 244, 453, 454, 456, 457, 513, 514, 515],
          decide (cs = 512 ∨ cs = 460) = false := by decide
      exact hall cs (of_decide_eq_true hcs)
    · rw [run_append, Option.bind_eq_some_iff] at hrun
      obtain ⟨cs₁, _, hlast⟩ := hrun
      obtain ⟨t, ht, _, hnil⟩ := run_cons_some hlast
      cases hnil
      exact decide_eq_true (bracket_target ht)

end Uri
end KitServer
