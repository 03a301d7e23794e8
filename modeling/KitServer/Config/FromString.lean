import KitServer.Config.Var

/-!
# `ConfigVar::fromString`: what is left when a step fails

The conversion and every listener may throw, an exception derived from `std::exception` or another
one.

* `setValue`            the listeners in the order of their keys, then the store;
* `fromString`          the conversion and `setValue` inside of the `try`;
* `setValue_returns`    with listeners that return it is what the threads of `Var` do;
* `fromString_iff`      the calls that leave everything consistent.
-/

set_option linter.unusedVariables false

namespace KitServer
namespace Config
namespace Listeners

/-! ## the code -/

inductive Thrown where
  | stdException
  | other
deriving DecidableEq

/-- a call of a listener, and whether it returned -/
structure Called (T : Type) where
  call : OnChange T
  returned : Bool

/-- what `setValue` leaves: the variable, the calls, and the exception that left it -/
structure SetResult (T : Type) where
  var : ConfigVar T
  calls : List (Called T)
  thrown : Option Thrown

/-- what `fromString` leaves; it has returned nothing when an exception passes through -/
structure Converted (T : Type) where
  returned : Option Bool
  var : ConfigVar T
  calls : List (Called T)

section
variable {S T : Type} (listener : Nat → T → T → Option Thrown)

/-- `for(auto &x : m_cbs) x.second(m_val, val)`, up to the first listener that throws -/
def callAll (old val : T) : List Nat → List (Called T) × Option Thrown
  | [] => ([], none)
  | key :: cbs =>
    match listener key old val with
    | some e => ([⟨⟨key, old, val⟩, false⟩], some e)
    | none => (⟨⟨key, old, val⟩, true⟩ :: (callAll old val cbs).1, (callAll old val cbs).2)

def setValue [BEq T] (v : ConfigVar T) (val : T) : SetResult T :=
  if val == v.val then ⟨v, [], none⟩
  else
    let r := callAll listener v.val val v.cbs
    match r.2 with
    | some e => ⟨v, r.1, some e⟩
    | none => ⟨v.store val, r.1, none⟩

/-- `FromStr()(s)` is `convert s` -/
def fromString [BEq T] (convert : S → Except Thrown T) (v : ConfigVar T) (s : S) : Converted T :=
  match convert s with
  | .error .stdException => ⟨some false, v, []⟩
  | .error .other => ⟨none, v, []⟩
  | .ok val =>
    let r := setValue listener v val
    match r.thrown with
    | some .other => ⟨none, r.var, r.calls⟩
    | some .stdException => ⟨some false, r.var, r.calls⟩
    | none => ⟨some false, r.var, r.calls⟩

/-! ## what should be left -/

/-- `m_val` is this value, or is the same for its `operator==` -/
def Holds [BEq T] (m_val val : T) : Prop := m_val = val ∨ (val == m_val) = true

/-- the value that the listener was told last -/
def lastTold (key : Nat) (calls : List (Called T)) : Option T :=
  ((calls.filter fun c => c.call.key = key).getLast?).map fun c => c.call.newValue

/-- every listener that was called was told the old value again -/
def Untold (old : T) (calls : List (Called T)) : Prop :=
  ∀ c ∈ calls, lastTold c.call.key calls = some old

/-- the same of those only that returned from a call, and so accepted a value -/
def Unaccepted (old : T) (calls : List (Called T)) : Prop :=
  ∀ c ∈ calls, c.returned = true → lastTold c.call.key calls = some old

/-- true says that the value is there, and false that nothing is left of the call -/
def Consistent [BEq T] (undone : T → List (Called T) → Prop) (convert : S → Except Thrown T)
    (v : ConfigVar T) (s : S) (r : Converted T) : Prop :=
  (r.returned = some true ↔ ∃ val, convert s = .ok val ∧ Holds r.var.val val) ∧
    (r.returned = some false → r.var.val = v.val ∧ undone v.val r.calls)

/-- what the first listener throws that does not return -/
def firstThrown (old val : T) (cbs : List Nat) : Option Thrown :=
  cbs.findSome? fun key => listener key old val

/-! ## the calls of the listeners -/

theorem callAll_thrown (old val : T) (cbs : List Nat) :
    (callAll listener old val cbs).2 = firstThrown listener old val cbs := by
  induction cbs with
  | nil => rfl
  | cons key cbs ih =>
    rw [callAll, firstThrown, List.findSome?_cons]
    cases listener key old val with
    | some e => rfl
    | none => exact ih

theorem callAll_new (old val : T) (cbs : List Nat) :
    ∀ c ∈ (callAll listener old val cbs).1, c.call.newValue = val := by
  induction cbs with
  | nil => exact fun c hc => absurd hc List.not_mem_nil
  | cons key cbs ih =>
    intro c hc
    rw [callAll] at hc
    cases hl : listener key old val with
    | some e =>
      rw [hl] at hc
      rw [List.mem_singleton.mp hc]
    | none =>
      rw [hl] at hc
      rcases List.mem_cons.mp hc with rfl | hc
      · rfl
      · exact ih c hc

theorem lastTold_of_new {val : T} {calls : List (Called T)}
    (h : ∀ c ∈ calls, c.call.newValue = val) {c : Called T} (hc : c ∈ calls) :
    lastTold c.call.key calls = some val := by
  have hmem : c ∈ calls.filter fun d => d.call.key = c.call.key :=
    List.mem_filter.mpr ⟨hc, decide_eq_true rfl⟩
  obtain ⟨d, hd⟩ := Option.ne_none_iff_exists'.mp
    (mt List.getLast?_eq_none_iff.mp (List.ne_nil_of_mem hmem))
  rw [lastTold, hd, Option.map_some, h d (List.mem_of_mem_filter (List.mem_of_getLast? hd))]

theorem callAll_called (old val : T) (cbs : List Nat) (e : Thrown)
    (h : firstThrown listener old val cbs = some e) :
    ∃ c, c ∈ (callAll listener old val cbs).1 := by
  cases cbs with
  | nil => cases h
  | cons key cbs =>
    rw [callAll]
    cases listener key old val with
    | some e => exact ⟨_, List.mem_cons_self⟩
    | none => exact ⟨_, List.mem_cons_self⟩

theorem callAll_accepted (old val : T) (cbs : List Nat) (e : Thrown)
    (h : firstThrown listener old val cbs = some e) :
    (∀ c ∈ (callAll listener old val cbs).1, c.returned = false) ↔
      ∃ key rest, cbs = key :: rest ∧ listener key old val = some e := by
  cases cbs with
  | nil => cases h
  | cons key cbs =>
    rw [callAll]
    rw [firstThrown, List.findSome?_cons] at h
    cases hl : listener key old val with
    | some e' =>
      rw [hl] at h
      refine iff_of_true (fun c hc => ?_) ⟨key, cbs, rfl, hl.trans h⟩
      rw [List.mem_singleton.mp hc]
    | none =>
      refine iff_of_false (fun hall => ?_) ?_
      · exact absurd (hall _ List.mem_cons_self) (by simp)
      · rintro ⟨key', rest, heq, hthrow⟩
        rw [← (List.cons.inj heq).1, hl] at hthrow
        cases hthrow

/-! ## the call -/

theorem callAll_returns (old val : T) (cbs : List Nat)
    (h : firstThrown listener old val cbs = none) :
    (callAll listener old val cbs).1.map Called.call = cbs.map fun key => ⟨key, old, val⟩ := by
  induction cbs with
  | nil => rfl
  | cons key cbs ih =>
    rw [firstThrown, List.findSome?_cons] at h
    rw [callAll]
    cases hl : listener key old val with
    | some e =>
      rw [hl] at h
      cases h
    | none =>
      rw [hl] at h
      rw [List.map_cons, List.map_cons, ih h]

theorem setValue_same [BEq T] (v : ConfigVar T) (val : T) (h : (val == v.val) = true) :
    setValue listener v val = ⟨v, [], none⟩ := by
  rw [setValue, if_pos h]

theorem setValue_differs [BEq T] (v : ConfigVar T) (val : T) (h : ¬ (val == v.val) = true) :
    setValue listener v val =
      ⟨if (firstThrown listener v.val val v.cbs).isSome then v else v.store val,
        (callAll listener v.val val v.cbs).1, firstThrown listener v.val val v.cbs⟩ := by
  rw [setValue, if_neg h, ← callAll_thrown]
  generalize callAll listener v.val val v.cbs = r
  obtain ⟨calls, thrown⟩ := r
  cases thrown <;> rfl

theorem setValue_returns [BEq T] (v : ConfigVar T) (val : T)
    (h : firstThrown listener v.val val v.cbs = none) :
    (setValue listener v val).thrown = none ∧
    (setValue listener v val).calls.map Called.call = (v.compare val).getD [] ∧
    (setValue listener v val).var = if (v.compare val).isSome then v.store val else v := by
  by_cases hsame : (val == v.val) = true
  · rw [setValue_same listener v val hsame, ConfigVar.compare, if_pos hsame]
    exact ⟨rfl, rfl, rfl⟩
  · rw [setValue_differs listener v val hsame, ConfigVar.compare, if_neg hsame, h]
    exact ⟨rfl, callAll_returns listener _ _ _ h, rfl⟩

/-- **Consistent**, whatever counts as undone: there is no value, or it is another one and the
listeners stop the call with an exception that passes through, or with one that does not and what
they were told is undone. -/
theorem consistent_iff [BEq T] (undone : T → List (Called T) → Prop)
    (hnone : ∀ old, undone old []) (convert : S → Except Thrown T) (v : ConfigVar T) (s : S) :
    Consistent undone convert v s (fromString listener convert v s) ↔
      ∀ val, convert s = .ok val → ¬ Holds v.val val ∧
        (firstThrown listener v.val val v.cbs = some .other ∨
          firstThrown listener v.val val v.cbs = some .stdException ∧
            undone v.val (callAll listener v.val val v.cbs).1) := by
  cases hconvert : convert s with
  | error e =>
    refine iff_of_true ?_ (fun val hval => by cases hval)
    cases e <;> simp [fromString, Consistent, hconvert, hnone]
  | ok val =>
    have hval (P : T → Prop) : (∀ x, Except.ok (ε := Thrown) val = .ok x → P x) ↔ P val :=
      ⟨fun h => h val rfl, fun h x hx => by cases hx; exact h⟩
    rw [hval]
    by_cases hsame : (val == v.val) = true
    · have hholds : Holds v.val val := .inr hsame
      simp [fromString, hconvert, setValue_same listener v val hsame, Consistent, hholds]
    · have hset := setValue_differs listener v val hsame
      cases hfirst : firstThrown listener v.val val v.cbs with
      | none =>
        have hstored : Holds val val := .inl rfl
        simp [fromString, hconvert, hset, hfirst, Consistent, ConfigVar.store, hstored]
      | some e =>
        cases e <;> simp [fromString, hconvert, hset, hfirst, Consistent]

/-- **Exactly then everything is consistent**: the conversion throws, or it gives another value and
the first listener that does not return throws something that is no `std::exception`.  If a
listener that throws counts as not having accepted: or the very first one throws. -/
theorem fromString_iff [BEq T] (convert : S → Except Thrown T) (v : ConfigVar T) (s : S) :
    (Consistent Untold convert v s (fromString listener convert v s) ↔
      ∀ val, convert s = .ok val →
        ¬ Holds v.val val ∧ firstThrown listener v.val val v.cbs = some .other) ∧
    (Consistent Unaccepted convert v s (fromString listener convert v s) ↔
      ∀ val, convert s = .ok val → ¬ Holds v.val val ∧
        (firstThrown listener v.val val v.cbs = some .other ∨
          ∃ key rest, v.cbs = key :: rest ∧ listener key v.val val = some .stdException)) := by
  have hnew := callAll_new listener v.val
  constructor
  · rw [consistent_iff listener Untold fun old c hc => absurd hc List.not_mem_nil]
    refine forall₂_congr fun val hval => and_congr_right fun hother => or_iff_left ?_
    rintro ⟨hstd, hundone⟩
    obtain ⟨c, hc⟩ := callAll_called listener _ _ _ _ hstd
    have htold := hundone c hc
    rw [lastTold_of_new (hnew val v.cbs) hc] at htold
    exact hother (.inl (Option.some.inj htold).symm)
  · rw [consistent_iff listener Unaccepted fun old c hc => absurd hc List.not_mem_nil]
    refine forall₂_congr fun val hval => and_congr_right fun hother => or_congr_right ?_
    constructor
    · rintro ⟨hstd, hundone⟩
      refine (callAll_accepted listener _ _ _ _ hstd).mp fun c hc => ?_
      by_contra hreturned
      have htold := hundone c hc (Bool.not_eq_false _ ▸ hreturned)
      rw [lastTold_of_new (hnew val v.cbs) hc] at htold
      exact hother (.inl (Option.some.inj htold).symm)
    · rintro ⟨key, rest, hcbs, hthrow⟩
      have hstd : firstThrown listener v.val val v.cbs = some .stdException := by
        rw [firstThrown, hcbs, List.findSome?_cons, hthrow]
      refine ⟨hstd, fun c hc hreturned => ?_⟩
      have hnot := (callAll_accepted listener _ _ _ _ hstd).mpr ⟨key, rest, hcbs, hthrow⟩ c hc
      rw [hnot] at hreturned
      cases hreturned

end

/-- **False, although the value is there**: a variable without listeners. -/
theorem fromString_false : ¬ ∀ (listener : Nat → Nat → Nat → Option Thrown)
    (convert : Unit → Except Thrown Nat) (v : ConfigVar Nat),
    Consistent Unaccepted convert v () (fromString listener convert v ()) := by
  intro h
  have hone := (h (fun _ _ _ => none) (fun _ => .ok 2) ⟨1, []⟩).1.mpr ⟨2, rfl, .inl rfl⟩
  cases hone

end Listeners
end Config
end KitServer
