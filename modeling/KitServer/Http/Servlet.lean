import KitServer.Http.Message

/-!
# `ServletDispatch`

The tables of the servlets, and what a sequence of calls leaves in them.

* `ServletDispatch`        the two tables and the default, with the functions of the class;
* `Registration`           the calls that change the tables;
* `lastServlet`, `lastGlob` what was last said about a uri;
* `inForce`                the glob servlets that are still there, in the order of their additions;
* `dispatch_run`           the lookups after any sequence of calls.

Every function of the class is one section under its lock.  A `Servlet::ptr` is an option.
-/

set_option linter.unusedVariables false

namespace KitServer
namespace Http

/-- what a function that takes a `char*` sees of the string -/
def cStr (s : Str) : Str := s.takeWhile (· ≠ 0)

structure ServletDispatch (S : Type) where
  datas : Str → Option (Option S)
  globs : List (Str × Option S)
  defaultServlet : Option S

namespace ServletDispatch
variable {S : Type}

def new (defaultServlet : Option S) : ServletDispatch S := ⟨fun _ => none, [], defaultServlet⟩

def addServlet (d : ServletDispatch S) (uri : Str) (slt : Option S) : ServletDispatch S :=
  { d with datas := Function.update d.datas uri (some slt) }

/-- the loop that erases the first entry with the uri -/
def eraseGlob (uri : Str) (globs : List (Str × Option S)) : List (Str × Option S) :=
  globs.eraseP fun it => it.1 = uri

def addGlobServlet (d : ServletDispatch S) (uri : Str) (slt : Option S) : ServletDispatch S :=
  { d with globs := eraseGlob uri d.globs ++ [(uri, slt)] }

def delServlet (d : ServletDispatch S) (uri : Str) : ServletDispatch S :=
  { d with datas := Function.update d.datas uri none }

def delGlobServlet (d : ServletDispatch S) (uri : Str) : ServletDispatch S :=
  { d with globs := eraseGlob uri d.globs }

def getServlet (d : ServletDispatch S) (uri : Str) : Option S :=
  match d.datas uri with
  | some slt => slt
  | none => none

def getGlobServlet (d : ServletDispatch S) (uri : Str) : Option S :=
  match d.globs.find? fun it => it.1 = uri with
  | some it => it.2
  | none => none

def getMatchedServlet (fnmatch : Str → Str → Bool) (d : ServletDispatch S) (uri : Str) : Option S :=
  match d.datas uri with
  | some slt => slt
  | none =>
    match d.globs.find? fun it => fnmatch (cStr it.1) (cStr uri) with
    | some it => it.2
    | none => d.defaultServlet

end ServletDispatch

inductive Registration (S : Type) where
  | addServlet (uri : Str) (slt : Option S)
  | addGlobServlet (uri : Str) (slt : Option S)
  | delServlet (uri : Str)
  | delGlobServlet (uri : Str)

namespace Registration
variable {S : Type}

def call (d : ServletDispatch S) : Registration S → ServletDispatch S
  | .addServlet uri slt => d.addServlet uri slt
  | .addGlobServlet uri slt => d.addGlobServlet uri slt
  | .delServlet uri => d.delServlet uri
  | .delGlobServlet uri => d.delGlobServlet uri

/-- what the call says about the exact servlet of the uri: that it is there, or that it is not -/
def servlet (uri : Str) : Registration S → Option (Option (Option S))
  | .addServlet v slt => if v = uri then some (some slt) else none
  | .delServlet v => if v = uri then some none else none
  | _ => none

/-- what the call says about the glob servlet of the uri -/
def glob (uri : Str) : Registration S → Option (Option (Option S))
  | .addGlobServlet v slt => if v = uri then some (some slt) else none
  | .delGlobServlet v => if v = uri then some none else none
  | _ => none

end Registration

section
variable {S : Type}

/-- the dispatcher after the calls -/
def dispatched (defaultServlet : Option S) (calls : List (Registration S)) : ServletDispatch S :=
  calls.foldl Registration.call (.new defaultServlet)

/-- the exact servlet that was last added for the uri and not deleted since -/
def lastServlet (calls : List (Registration S)) (uri : Str) : Option (Option S) :=
  (calls.reverse.findSome? (Registration.servlet uri)).join

/-- the glob servlet that was last added for the uri and not deleted since -/
def lastGlob (calls : List (Registration S)) (uri : Str) : Option (Option S) :=
  (calls.reverse.findSome? (Registration.glob uri)).join

/-- the additions of glob servlets after which no call adds or deletes the same uri -/
def inForce : List (Registration S) → List (Str × Option S)
  | [] => []
  | .addGlobServlet uri slt :: calls =>
    if calls.any fun c => (c.glob uri).isSome then inForce calls else (uri, slt) :: inForce calls
  | _ :: calls => inForce calls

/-! ## the tables and the calls -/

theorem lastServlet_append (calls : List (Registration S)) (c : Registration S) (uri : Str) :
    lastServlet (calls ++ [c]) uri = (c.servlet uri).getD (lastServlet calls uri) := by
  rw [lastServlet, List.reverse_append]
  show (List.findSome? (Registration.servlet uri) (c :: calls.reverse)).join = _
  rw [List.findSome?_cons]
  cases c.servlet uri <;> rfl

theorem lastGlob_append (calls : List (Registration S)) (c : Registration S) (uri : Str) :
    lastGlob (calls ++ [c]) uri = (c.glob uri).getD (lastGlob calls uri) := by
  rw [lastGlob, List.reverse_append]
  show (List.findSome? (Registration.glob uri) (c :: calls.reverse)).join = _
  rw [List.findSome?_cons]
  cases c.glob uri <;> rfl

/-- **One more call drops what it is about, and adds what it adds at the end.** -/
theorem inForce_append (calls : List (Registration S)) (c : Registration S) :
    inForce (calls ++ [c])
      = ((inForce calls).filter fun it => !(c.glob it.1).isSome) ++ inForce [c] := by
  induction calls with
  | nil => rfl
  | cons b calls ih =>
    cases b with
    | addGlobServlet uri slt =>
      rw [List.cons_append, inForce, inForce, ih, List.any_append]
      by_cases hold : (calls.any fun c => (c.glob uri).isSome) = true
      · simp only [hold, Bool.true_or, if_true]
      · cases hc : c.glob uri with
        | none => simp [hold, hc]
        | some x => simp [hold, hc]
    | _ => exact ih

theorem inForce_append_of_none {c : Registration S} (h : ∀ uri, c.glob uri = none)
    (hc : inForce [c] = []) (calls : List (Registration S)) :
    inForce (calls ++ [c]) = inForce calls := by
  rw [inForce_append, hc, List.append_nil]
  refine List.filter_eq_self.mpr fun it _ => ?_
  rw [h]
  rfl

theorem any_of_mem_inForce {calls : List (Registration S)} {it : Str × Option S}
    (h : it ∈ inForce calls) : (calls.any fun c => (c.glob it.1).isSome) = true := by
  induction calls with
  | nil => cases h
  | cons b calls ih =>
    rw [List.any_cons, Bool.or_eq_true]
    cases b with
    | addGlobServlet uri slt =>
      rw [inForce] at h
      split at h
      · exact .inr (ih h)
      · rcases List.mem_cons.mp h with rfl | h
        · left
          simp [Registration.glob]
        · exact .inr (ih h)
    | _ => exact .inr (ih h)

theorem inForce_nodup (calls : List (Registration S)) : ((inForce calls).map Prod.fst).Nodup := by
  induction calls with
  | nil => exact List.nodup_nil
  | cons b calls ih =>
    cases b with
    | addGlobServlet uri slt =>
      rw [inForce]
      split
      · exact ih
      · rename_i hnone
        rw [List.map_cons, List.nodup_cons]
        refine ⟨fun hmem => ?_, ih⟩
        obtain ⟨it, hit, rfl⟩ := List.mem_map.mp hmem
        exact hnone (any_of_mem_inForce hit)
    | _ => exact ih

theorem eraseGlob_eq_filter {uri : Str} {globs : List (Str × Option S)}
    (h : (globs.map Prod.fst).Nodup) :
    ServletDispatch.eraseGlob uri globs = globs.filter fun it => !decide (it.1 = uri) := by
  induction globs with
  | nil => rfl
  | cons it globs ih =>
    rw [List.map_cons, List.nodup_cons] at h
    rw [ServletDispatch.eraseGlob, List.eraseP_cons, List.filter_cons]
    by_cases hit : it.1 = uri
    · simp only [hit, decide_true, Bool.not_true, Bool.false_eq_true, if_false]
      refine (List.filter_eq_self.mpr fun x hx => ?_).symm
      have hne : x.1 ≠ uri := by
        intro hxu
        exact h.1 (List.mem_map.mpr ⟨x, hx, hxu.trans hit.symm⟩)
      simp [hne]
    · simp only [hit, decide_false, Bool.not_false, if_true]
      rw [← ih h.2]
      rfl

theorem lastServlet_update {c : Registration S} {uri : Str} {x : Option (Option S)}
    (h : ∀ v, c.servlet v = if uri = v then some x else none) (calls : List (Registration S)) :
    lastServlet (calls ++ [c]) = Function.update (lastServlet calls) uri x := by
  funext v
  rw [lastServlet_append, h]
  by_cases hv : v = uri
  · rw [hv, Function.update_self, if_pos rfl]
    rfl
  · rw [Function.update_of_ne hv, if_neg (Ne.symm hv)]
    rfl

theorem lastServlet_append_of_none {c : Registration S} (h : ∀ uri, c.servlet uri = none)
    (calls : List (Registration S)) : lastServlet (calls ++ [c]) = lastServlet calls := by
  funext v
  rw [lastServlet_append, h]
  rfl

theorem eraseGlob_inForce {c : Registration S} {uri : Str} {x : Option (Option S)}
    (h : ∀ v, c.glob v = if uri = v then some x else none) (calls : List (Registration S)) :
    ServletDispatch.eraseGlob uri (inForce calls)
      = (inForce calls).filter fun it => !(c.glob it.1).isSome := by
  rw [eraseGlob_eq_filter (inForce_nodup calls)]
  refine List.filter_congr fun it _ => ?_
  rw [h]
  by_cases hit : it.1 = uri
  · simp [hit]
  · simp [hit, Ne.symm hit]

/-- **The tables are what the calls last said.** -/
theorem dispatched_eq (defaultServlet : Option S) (calls : List (Registration S)) :
    dispatched defaultServlet calls = ⟨lastServlet calls, inForce calls, defaultServlet⟩ := by
  induction calls using List.reverseRecOn with
  | nil => rfl
  | append_singleton calls c ih =>
    rw [dispatched, List.foldl_append, ← dispatched, ih]
    show c.call _ = _
    cases c with
    | addServlet uri slt =>
      rw [lastServlet_update (fun v => rfl), inForce_append_of_none (fun v => rfl) rfl]
      rfl
    | addGlobServlet uri slt =>
      rw [lastServlet_append_of_none (fun v => rfl), inForce_append, ← eraseGlob_inForce fun v => rfl]
      rfl
    | delServlet uri =>
      rw [lastServlet_update (fun v => rfl), inForce_append_of_none (fun v => rfl) rfl]
      rfl
    | delGlobServlet uri =>
      rw [lastServlet_append_of_none (fun v => rfl), inForce_append, ← eraseGlob_inForce fun v => rfl,
        inForce, inForce, List.append_nil]
      · rfl
      · rintro v slt ⟨⟩

/-- the entry of a uri among those that are in force -/
theorem find?_inForce (calls : List (Registration S)) (uri : Str) :
    ((inForce calls).find? fun it => it.1 = uri).map Prod.snd = lastGlob calls uri := by
  induction calls using List.reverseRecOn with
  | nil => rfl
  | append_singleton calls c ih =>
    rw [inForce_append, lastGlob_append, List.find?_append, List.find?_filter, ← ih]
    cases hc : c.glob uri with
    | none =>
      have hnew : (inForce [c]).find? (fun it => it.1 = uri) = none := by
        cases c with
        | addGlobServlet v slt =>
          have hne : v ≠ uri := by
            rintro rfl
            simp [Registration.glob] at hc
          simp [inForce, hne]
        | _ => rfl
      have hold : (fun it : Str × Option S =>
          decide ((!(c.glob it.1).isSome) = true ∧ decide (it.1 = uri) = true))
          = fun it => decide (it.1 = uri) := by
        funext it
        by_cases hit : it.1 = uri
        · simp [hit, hc]
        · simp [hit]
      rw [hold, hnew, Option.or_none]
      rfl
    | some x =>
      have hold : (fun it : Str × Option S =>
          decide ((!(c.glob it.1).isSome) = true ∧ decide (it.1 = uri) = true))
          = fun _ => false := by
        funext it
        by_cases hit : it.1 = uri
        · simp [hit, hc]
        · simp [hit]
      have hnone : (inForce calls).find? (fun _ => false) = none :=
        List.find?_eq_none.mpr fun it _ => Bool.false_ne_true
      rw [hold, hnone, Option.none_or]
      show ((inForce [c]).find? fun it => it.1 = uri).map Prod.snd = x
      cases c with
      | addGlobServlet v slt =>
        rw [Registration.glob] at hc
        split at hc
        · rename_i hv
          cases hc
          simp [inForce, hv]
        · cases hc
      | delGlobServlet v =>
        rw [Registration.glob] at hc
        split at hc
        · cases hc
          rfl
        · cases hc
      | _ => cases hc

end

/-- the exact servlet of the path, else the glob servlet of the earliest addition in force that
matches, else the default -/
def expectedMatch {S : Type} (fnmatch : Str → Str → Bool) (defaultServlet : Option S)
    (calls : List (Registration S)) (path : Str) : Option S :=
  match lastServlet calls path with
  | some slt => slt
  | none =>
    match (inForce calls).find? fun it => fnmatch (cStr it.1) (cStr path) with
    | some it => it.2
    | none => defaultServlet

/-- **After any sequence of calls the glob servlets have different uris, a lookup by uri finds what
was last added for it and not deleted since, and a lookup by path finds the exact servlet, else the
matching glob servlet whose last addition is the earliest, else the default.** -/
theorem dispatch_run {S : Type} (fnmatch : Str → Str → Bool) (defaultServlet : Option S)
    (calls : List (Registration S)) :
    let d := dispatched defaultServlet calls
    (d.globs.map Prod.fst).Nodup
      ∧ (∀ uri, d.getServlet uri = (lastServlet calls uri).join)
      ∧ (∀ uri, d.getGlobServlet uri = (lastGlob calls uri).join)
      ∧ ∀ path, d.getMatchedServlet fnmatch path
          = expectedMatch fnmatch defaultServlet calls path := by
  intro d
  have hd : d = ⟨lastServlet calls, inForce calls, defaultServlet⟩ :=
    dispatched_eq defaultServlet calls
  rw [hd]
  refine ⟨inForce_nodup calls, fun uri => ?_, fun uri => ?_, fun path => rfl⟩
  · unfold ServletDispatch.getServlet
    dsimp only
    cases lastServlet calls uri <;> rfl
  · rw [← find?_inForce]
    unfold ServletDispatch.getGlobServlet
    dsimp only
    cases (inForce calls).find? fun it => it.1 = uri <;> rfl

end Http
end KitServer
