import KitServer.Timer.Manager

/-!
# What `listExpiredCb` collects

* `expireOne_spec`, `expireLoop_spec`   one round and the whole loop over the expired timers: the
                       fired timers leave their state, all others stay;
* `cut_eq_filter`      without a clock change the cut of the set is at the current time;
* `listExpiredCb_iff`  exactly when a call collects the timers that are due.

The early exit of `listExpiredCb` compares the first timer with the current time the wrong way
round, so that a set with an overdue timer is left alone.
-/

set_option linter.unusedVariables false

namespace KitServer
namespace Timers
open OrderedSet
variable {Cb : Type}

/-! ## the order -/

theorem Comparator_iff (a b : Addr) (s t : Timer Cb) :
    Comparator (some (a, s)) (some (b, t)) = true ↔ s.next < t.next ∨ (s.next = t.next ∧ a < b) := by
  show (if s.next < t.next then true else if s.next > t.next then false else decide (a < b)) = true ↔ _
  by_cases h1 : s.next < t.next
  · rw [if_pos h1]
    exact ⟨fun _ => .inl h1, fun _ => rfl⟩
  · rw [if_neg h1]
    by_cases h2 : s.next > t.next
    · rw [if_pos h2]
      refine ⟨fun h => absurd h Bool.false_ne_true, ?_⟩
      rintro (h | ⟨h, _⟩)
      · exact absurd h h1
      · exact absurd (h ▸ h2) (UInt64.lt_irrefl _)
    · rw [if_neg h2]
      have he : s.next = t.next := UInt64.le_antisymm (by simpa using h2) (by simpa using h1)
      rw [decide_eq_true_iff]
      exact ⟨fun h => .inr ⟨he, h⟩, fun h => (h.resolve_left h1).2⟩

theorem less_iff (heap : Addr → Timer Cb) (a b : Addr) : less heap a b = true ↔
    (heap a).next < (heap b).next ∨ ((heap a).next = (heap b).next ∧ a < b) :=
  Comparator_iff a b _ _

theorem less_irrefl (heap : Addr → Timer Cb) (a : Addr) : less heap a a = false := by
  rw [Bool.eq_false_iff, Ne, less_iff]
  rintro (h | ⟨_, h⟩)
  · exact UInt64.lt_irrefl _ h
  · exact Nat.lt_irrefl _ h

theorem less_trans (heap : Addr → Timer Cb) (a b c : Addr) (h1 : less heap a b = true)
    (h2 : less heap b c = true) : less heap a c = true := by
  rw [less_iff] at h1 h2 ⊢
  rcases h1 with h1 | ⟨h1, h1'⟩
  · rcases h2 with h2 | ⟨h2, _⟩
    · exact .inl (UInt64.lt_trans h1 h2)
    · exact .inl (h2 ▸ h1)
  · rw [h1]
    rcases h2 with h2 | ⟨h2, h2'⟩
    · exact .inl h2
    · exact .inr ⟨h2, Nat.lt_trans h1' h2'⟩

theorem less_total (heap : Addr → Timer Cb) {a b : Addr} (h : a ≠ b) :
    less heap a b = true ∨ less heap b a = true := by
  rw [less_iff, less_iff]
  rcases Nat.lt_trichotomy (heap a).next.toNat (heap b).next.toNat with h1 | h1 | h1
  · exact .inl (.inl h1)
  · have h1 : (heap a).next = (heap b).next := UInt64.toNat_inj.mp h1
    rcases Nat.lt_or_gt_of_ne h with h2 | h2
    · exact .inl (.inr ⟨h1, h2⟩)
    · exact .inr (.inr ⟨h1.symm, h2⟩)
  · exact .inr (.inl h1)

theorem less_update (heap : Addr → Timer Cb) {x : Addr} {t : Timer Cb} {a b : Addr} (ha : a ≠ x)
    (hb : b ≠ x) : less (Function.update heap x t) a b = less heap a b := by
  unfold less
  rw [Function.update_of_ne ha, Function.update_of_ne hb]

theorem less_next_le {heap : Addr → Timer Cb} {a b : Addr} (h : less heap a b = true) :
    (heap a).next ≤ (heap b).next := by
  rcases (less_iff heap a b).mp h with h | ⟨h, _⟩
  · exact UInt64.le_of_lt h
  · exact UInt64.le_of_eq h

/-! ## the loop over the expired timers -/

/-- what becomes of a timer whose callback is collected -/
def fired (now_ms : UInt64) (t : Timer Cb) : Timer Cb :=
  if t.recurring then { t with next := now_ms + t.ms } else { t with cb := none }

namespace TimerManager

/-- the set is in the order of its comparator -/
def Ordered (m : TimerManager Cb) : Prop := Sorted (less m.heap) m.timers

theorem sorted_update {m : TimerManager Cb} {x : Addr} (h : m.Ordered) (hx : x ∉ m.timers)
    (t : Timer Cb) : Sorted (less (Function.update m.heap x t)) m.timers := by
  refine Sorted.congr h fun a ha b hb => (less_update m.heap ?_ ?_).symm
  · rintro rfl
    exact hx ha
  · rintro rfl
    exact hx hb

theorem expireOne_spec (now_ms : UInt64) {x : Addr} {m : TimerManager Cb} (h : m.Ordered)
    (hx : x ∉ m.timers) : (m.expireOne now_ms x).Ordered ∧
      (m.expireOne now_ms x).heap = Function.update m.heap x (fired now_ms (m.heap x)) ∧
      ∀ a, a ∈ (m.expireOne now_ms x).timers ↔
        a ∈ m.timers ∨ (a = x ∧ (m.heap x).recurring = true) := by
  unfold expireOne fired
  by_cases hr : (m.heap x).recurring = true
  · simp only [if_pos hr]
    refine ⟨insert_sorted (less_trans _) (sorted_update h hx _), trivial, fun a => ?_⟩
    constructor
    · intro ha
      rcases mem_of_mem_insert ha with rfl | ha
      · exact .inr ⟨rfl, hr⟩
      · exact .inl ha
    · rintro (ha | ⟨rfl, _⟩)
      · exact mem_insert_of_mem ha
      · refine mem_insert_self fun y hy => less_total _ ?_
        rintro rfl
        exact hx hy
  · simp only [if_neg hr]
    refine ⟨sorted_update h hx _, trivial, fun a => ?_⟩
    exact ⟨.inl, fun ha => ha.resolve_right fun h => hr h.2⟩

theorem expireLoop_spec (now_ms : UInt64) (expired : List Addr) :
    ∀ (cbs : List (Option Cb)) (m : TimerManager Cb), m.Ordered → expired.Nodup →
      (∀ a ∈ expired, a ∉ m.timers) →
      (expireLoop now_ms expired cbs m).2 = cbs ++ expired.map (fun a => (m.heap a).cb) ∧
      (expireLoop now_ms expired cbs m).1.Ordered ∧
      (∀ a, (expireLoop now_ms expired cbs m).1.heap a
        = if a ∈ expired then fired now_ms (m.heap a) else m.heap a) ∧
      ∀ a, a ∈ (expireLoop now_ms expired cbs m).1.timers ↔
        a ∈ m.timers ∨ (a ∈ expired ∧ (m.heap a).recurring = true) := by
  induction expired with
  | nil =>
    intro cbs m h _ _
    exact ⟨(List.append_nil _).symm, h, fun a => (if_neg List.not_mem_nil).symm,
      fun a => ⟨.inl, fun ha => ha.resolve_right fun hr => List.not_mem_nil hr.1⟩⟩
  | cons x expired ih =>
    intro cbs m h hnd hout
    obtain ⟨hx, hnd⟩ := List.nodup_cons.mp hnd
    obtain ⟨ho, hheap, hmem⟩ := expireOne_spec now_ms h (hout x List.mem_cons_self)
    have hother : ∀ a ∈ expired, (m.expireOne now_ms x).heap a = m.heap a := by
      intro a ha
      rw [hheap, Function.update_of_ne]
      rintro rfl
      exact hx ha
    obtain ⟨hcbs, hord, hheap', hmem'⟩ := ih (cbs ++ [(m.heap x).cb]) _ ho hnd (by
      intro a ha hin
      rcases (hmem a).mp hin with hin | ⟨rfl, _⟩
      · exact hout a (List.mem_cons_of_mem _ ha) hin
      · exact hx ha)
    refine ⟨?_, hord, fun a => ?_, fun a => ?_⟩
    · show (expireLoop now_ms expired _ _).2 = _
      have hmap : expired.map (fun a => ((m.expireOne now_ms x).heap a).cb)
          = expired.map (fun a => (m.heap a).cb) :=
        List.map_congr_left fun a ha => by rw [hother a ha]
      rw [hcbs, List.append_assoc, List.map_cons, hmap]
      rfl
    · show (expireLoop now_ms expired _ _).1.heap a = _
      rw [hheap']
      by_cases hax : a = x
      · subst hax
        rw [if_neg hx, if_pos List.mem_cons_self, hheap, Function.update_self]
      · by_cases hae : a ∈ expired
        · rw [if_pos hae, if_pos (List.mem_cons_of_mem _ hae), hother a hae]
        · rw [if_neg hae, if_neg (fun hc => (List.mem_cons.mp hc).elim hax hae), hheap,
            Function.update_of_ne hax]
    · show a ∈ (expireLoop now_ms expired _ _).1.timers ↔ _
      rw [hmem', hmem]
      constructor
      · rintro ((ha | ⟨rfl, hr⟩) | ⟨ha, hr⟩)
        · exact .inl ha
        · exact .inr ⟨List.mem_cons_self, hr⟩
        · exact .inr ⟨List.mem_cons_of_mem _ ha, by rw [← hother a ha]; exact hr⟩
      · rintro (ha | ⟨ha, hr⟩)
        · exact .inl (.inl ha)
        · rcases List.mem_cons.mp ha with rfl | ha
          · exact .inl (.inr ⟨rfl, hr⟩)
          · exact .inr ⟨ha, by rw [hother a ha]; exact hr⟩

/-! ## the cut -/

/-- without a clock change `expired` is the timers of a time up to now -/
theorem cut_eq_filter {m : TimerManager Cb} (h : m.Ordered) (now_ms : UInt64) (probe : Addr)
    {below skipped : Addr → Bool}
    (hbelow : ∀ a, below a = Comparator (some (a, m.heap a)) (some (probe, Timer.atTime now_ms)))
    (hskipped : ∀ a, skipped a = decide ((m.heap a).next = now_ms)) :
    before below m.timers ++ before skipped (after below m.timers)
      = m.timers.filter (fun a => (m.heap a).next ≤ now_ms) := by
  have hb : ∀ a, below a = true ↔
      (m.heap a).next < now_ms ∨ ((m.heap a).next = now_ms ∧ a < probe) := by
    intro a
    rw [hbelow]
    exact Comparator_iff _ _ _ _
  have hs : ∀ a, skipped a = true ↔ (m.heap a).next = now_ms := by
    intro a
    rw [hskipped, decide_eq_true_iff]
  have hdown : ∀ a ∈ m.timers, ∀ b ∈ m.timers, less m.heap a b = true → below b = true →
      below a = true := by
    intro a _ b _ hab hbb
    rw [hb] at hbb ⊢
    rcases (less_iff m.heap a b).mp hab with hlt | ⟨he, hlt⟩
    · rcases hbb with h1 | ⟨h1, _⟩
      · exact .inl (UInt64.lt_trans hlt h1)
      · exact .inl (h1 ▸ hlt)
    · rw [he]
      exact hbb.imp id fun h1 => ⟨h1.1, Nat.lt_trans hlt h1.2⟩
  have hrest : ∀ a ∈ after below m.timers, now_ms ≤ (m.heap a).next := by
    intro a ha
    have hna := not_of_mem_after h hdown ha
    by_contra hlt
    have := (hb a).mpr (.inl (UInt64.not_le.mp hlt))
    rw [hna] at this
    cases this
  have hdown' : ∀ a ∈ after below m.timers, ∀ b ∈ after below m.timers, less m.heap a b = true →
      skipped b = true → skipped a = true := by
    intro a ha b _ hab hbb
    rw [hs] at hbb ⊢
    exact UInt64.le_antisymm (hbb ▸ less_next_le hab) (hrest a ha)
  have hsorted : Sorted (less m.heap) (after below m.timers) :=
    List.Pairwise.sublist (List.dropWhile_sublist _) h
  have hall : (before below m.timers).filter (fun a => (m.heap a).next ≤ now_ms)
      = before below m.timers := by
    refine List.filter_eq_self.mpr fun a ha => decide_eq_true ?_
    rw [before_eq_filter h hdown] at ha
    rcases (hb a).mp (List.mem_filter.mp ha).2 with h1 | ⟨h1, _⟩
    · exact UInt64.le_of_lt h1
    · exact UInt64.le_of_eq h1
  have heq : (after below m.timers).filter (fun a => (m.heap a).next ≤ now_ms)
      = (after below m.timers).filter skipped := by
    refine List.filter_congr fun a ha => ?_
    rw [hskipped]
    refine decide_eq_decide.mpr ⟨fun h1 => ?_, UInt64.le_of_eq⟩
    exact UInt64.le_antisymm h1 (hrest a ha)
  conv_rhs => rw [← before_append_after below m.timers, List.filter_append, hall, heq]
  rw [before_eq_filter hsorted hdown']

theorem cut_append (changed : Bool) (now_ms : UInt64) (probe : Addr) (m : TimerManager Cb) :
    (m.cut changed now_ms probe).1 ++ (m.cut changed now_ms probe).2 = m.timers := by
  unfold cut
  rw [List.append_assoc, before_append_after, before_append_after]

theorem cut_changed (now_ms : UInt64) (probe : Addr) (m : TimerManager Cb) :
    m.cut true now_ms probe = (m.timers, []) := by
  have hbefore : before (fun _ => true) m.timers = m.timers :=
    List.takeWhile_eq_self_iff.mpr fun _ _ => rfl
  have hafter : after (fun _ => true) m.timers = [] := List.dropWhile_eq_nil_iff.mpr fun _ _ => rfl
  unfold cut
  simp only [Bool.true_or, hbefore, hafter]
  rw [before, after, List.takeWhile_nil, List.dropWhile_nil, List.append_nil]

theorem cut_unchanged {m : TimerManager Cb} (h : m.Ordered) (now_ms : UInt64) (probe : Addr) :
    (m.cut false now_ms probe).1 = m.timers.filter fun a => (m.heap a).next ≤ now_ms :=
  cut_eq_filter h now_ms probe (fun _ => Bool.false_or _) (fun _ => rfl)

/-! ## a whole call -/

/-- the clock went back by more than an hour since the last call -/
def RolledBack (now_ms : UInt64) (m : TimerManager Cb) : Prop :=
  now_ms.toNat + 3600000 < m.previousTime.toNat

instance (now_ms : UInt64) (m : TimerManager Cb) : Decidable (RolledBack now_ms m) :=
  inferInstanceAs (Decidable (_ < _))

/-- the timers that a call at `now_ms` is to collect -/
def due (now_ms : UInt64) (m : TimerManager Cb) : List Addr :=
  m.timers.filter fun a => decide (RolledBack now_ms m ∨ (m.heap a).next ≤ now_ms)

/-- the call collects exactly the timers `d`: their callbacks are appended in the order of the set,
one-shot timers are out and have no callback any more, recurring ones are in again, all other
pending timers are as before -/
structure Collects (now_ms : UInt64) (d : List Addr) (cbs : List (Option Cb)) (m : TimerManager Cb)
    (r : TimerManager Cb × List (Option Cb)) : Prop where
  cbs : r.2 = cbs ++ d.map (fun a => (m.heap a).cb)
  once : ∀ a ∈ d, (m.heap a).recurring = false → a ∉ r.1.timers ∧ (r.1.heap a).cb = none
  again : ∀ a ∈ d, (m.heap a).recurring = true →
    a ∈ r.1.timers ∧ r.1.heap a = { m.heap a with next := now_ms + (m.heap a).ms }
  others : ∀ a ∈ m.timers, a ∉ d → a ∈ r.1.timers ∧ r.1.heap a = m.heap a

/-- the loop over a first part of the set collects just that part -/
theorem expireLoop_collects (now_ms : UInt64) (cbs : List (Option Cb)) {m m' : TimerManager Cb}
    (h : m.Ordered) {expired : List Addr} (hcut : expired ++ m'.timers = m.timers)
    (hheap : m'.heap = m.heap) :
    Collects now_ms expired cbs m (expireLoop now_ms expired cbs m') := by
  have hnd : (expired ++ m'.timers).Nodup := by
    rw [hcut]
    exact h.nodup (less_irrefl _)
  obtain ⟨hnd1, _, hdis⟩ := List.nodup_append.mp hnd
  have hout : ∀ a ∈ expired, a ∉ m'.timers := fun a ha hin => hdis a ha a hin rfl
  have hord : m'.Ordered := by
    show Sorted (less m'.heap) m'.timers
    rw [hheap]
    refine List.Pairwise.sublist ?_ h
    rw [← hcut]
    exact List.sublist_append_right _ _
  obtain ⟨hcbs, _, hheap', hmem⟩ := expireLoop_spec now_ms expired cbs m' hord hnd1 hout
  rw [hheap] at hcbs hheap' hmem
  refine ⟨hcbs, fun a ha hr => ?_, fun a ha hr => ?_, fun a ha hna => ?_⟩
  · refine ⟨fun hin => ?_, ?_⟩
    · rcases (hmem a).mp hin with hin | ⟨_, hr'⟩
      · exact hout a ha hin
      · rw [hr] at hr'
        cases hr'
    · rw [hheap', if_pos ha, fired, hr]
      rfl
  · refine ⟨(hmem a).mpr (.inr ⟨ha, hr⟩), ?_⟩
    rw [hheap', if_pos ha, fired, if_pos hr]
  · rw [← hcut] at ha
    refine ⟨(hmem a).mpr (.inl ((List.mem_append.mp ha).resolve_left hna)), ?_⟩
    rw [hheap', if_neg hna]

theorem Collects.length {now_ms : UInt64} {d d' : List Addr} {cbs : List (Option Cb)}
    {m : TimerManager Cb} {r : TimerManager Cb × List (Option Cb)} (h : Collects now_ms d cbs m r)
    (h' : Collects now_ms d' cbs m r) : d.length = d'.length := by
  have he := h.cbs.symm.trans h'.cbs
  have hl := congrArg List.length (List.append_cancel_left he)
  rw [List.length_map, List.length_map] at hl
  exact hl

/-- when `checkClockChange` says that the clock changed: the subtraction wraps for a small
`m_previousTime` -/
theorem checkClockChange_iff (now_ms : UInt64) (m : TimerManager Cb) :
    (m.checkClockChange now_ms).1 = true ↔ RolledBack now_ms m ∨
      (m.previousTime.toNat < 3600000 ∧ now_ms < m.previousTime) := by
  have hp := m.previousTime.toNat_lt
  have hn := now_ms.toNat_lt
  have hk : (60 * 60 * 1000 : UInt64).toNat = 3600000 := by decide
  show (decide (now_ms < m.previousTime) && decide (now_ms < m.previousTime - 60 * 60 * 1000)) = true ↔ _
  rw [Bool.and_eq_true, decide_eq_true_iff, decide_eq_true_iff, UInt64.lt_iff_toNat_lt,
    UInt64.lt_iff_toNat_lt, UInt64.toNat_sub, hk]
  unfold RolledBack
  omega

theorem listExpiredCb_nil {now_ms : UInt64} (probe : Addr) (cbs : List (Option Cb))
    {m : TimerManager Cb} (ht : m.timers = []) : m.listExpiredCb now_ms probe cbs = (m, cbs) := by
  unfold listExpiredCb
  rw [ht]

theorem listExpiredCb_cons {now_ms : UInt64} (probe : Addr) (cbs : List (Option Cb))
    {m : TimerManager Cb} {first : Addr} {rest : List Addr} (ht : m.timers = first :: rest)
    (hf : (!(m.checkClockChange now_ms).1 && decide ((m.heap first).next < now_ms)) = false) :
    m.listExpiredCb now_ms probe cbs =
      expireLoop now_ms (m.cut (m.checkClockChange now_ms).1 now_ms probe).1 cbs
        { m with
          previousTime := now_ms
          timers := (m.cut (m.checkClockChange now_ms).1 now_ms probe).2 } := by
  have hheap : ((m.checkClockChange now_ms).2).heap = m.heap := rfl
  unfold listExpiredCb
  rw [ht]
  simp only [hheap, hf, Bool.false_eq_true, if_false]
  rfl

theorem listExpiredCb_collects {now_ms : UInt64} (probe : Addr) (cbs : List (Option Cb))
    {m : TimerManager Cb} (h : m.Ordered)
    (hf : (m.checkClockChange now_ms).1 = true ∨ ∀ a ∈ m.timers, ¬ (m.heap a).next < now_ms) :
    Collects now_ms (m.cut (m.checkClockChange now_ms).1 now_ms probe).1 cbs m
      (m.listExpiredCb now_ms probe cbs) := by
  have hcut := cut_append (m.checkClockChange now_ms).1 now_ms probe m
  cases ht : m.timers with
  | nil =>
    rw [ht, List.append_eq_nil_iff] at hcut
    rw [listExpiredCb_nil probe cbs ht, hcut.1]
    exact expireLoop_collects now_ms cbs h (List.nil_append _) rfl
  | cons first rest =>
    rw [listExpiredCb_cons probe cbs ht]
    · exact expireLoop_collects now_ms cbs h hcut rfl
    · rcases hf with hc | hf
      · rw [hc]
        rfl
      · rw [decide_eq_false (hf first (ht ▸ List.mem_cons_self)), Bool.and_false]

theorem listExpiredCb_changed {now_ms : UInt64} (probe : Addr) (cbs : List (Option Cb))
    {m : TimerManager Cb} (h : m.Ordered) (hc : (m.checkClockChange now_ms).1 = true) :
    Collects now_ms m.timers cbs m (m.listExpiredCb now_ms probe cbs) := by
  have hcol := listExpiredCb_collects probe cbs h (.inl hc)
  rw [hc, cut_changed] at hcol
  exact hcol

theorem listExpiredCb_early {now_ms : UInt64} (probe : Addr) (cbs : List (Option Cb))
    {m : TimerManager Cb} {first : Addr} {rest : List Addr} (ht : m.timers = first :: rest)
    (hc : (m.checkClockChange now_ms).1 = false) (hf : (m.heap first).next < now_ms) :
    (m.listExpiredCb now_ms probe cbs).2 = cbs := by
  have hf' : ((m.checkClockChange now_ms).2.heap first).next < now_ms := hf
  unfold listExpiredCb
  rw [ht]
  simp only [hc, hf', Bool.not_false, Bool.true_and, decide_true, if_true]

theorem listExpiredCb_cut {now_ms : UInt64} (probe : Addr) (cbs : List (Option Cb))
    {m : TimerManager Cb} (h : m.Ordered) (hc : (m.checkClockChange now_ms).1 = false)
    (hf : ∀ a ∈ m.timers, ¬ (m.heap a).next < now_ms) :
    Collects now_ms (m.timers.filter fun a => (m.heap a).next ≤ now_ms) cbs m
      (m.listExpiredCb now_ms probe cbs) := by
  have hcol := listExpiredCb_collects probe cbs h (.inr hf)
  rw [hc, cut_unchanged h] at hcol
  exact hcol

/-- **When `listExpiredCb` collects exactly the timers that are due**: no pending timer is overdue,
or the clock went back by more than an hour; when `m_previousTime` is within the first hour, any step
back fires all timers. -/
theorem listExpiredCb_iff (now_ms : UInt64) (probe : Addr) (cbs : List (Option Cb))
    (m : TimerManager Cb) (h : m.Ordered) :
    Collects now_ms (due now_ms m) cbs m (m.listExpiredCb now_ms probe cbs) ↔
      RolledBack now_ms m ∨
      ((m.previousTime.toNat < 3600000 ∧ now_ms < m.previousTime) ∧
        ∀ a ∈ m.timers, (m.heap a).next ≤ now_ms) ∨
      (¬ (m.previousTime.toNat < 3600000 ∧ now_ms < m.previousTime) ∧
        ∀ a ∈ m.timers, now_ms ≤ (m.heap a).next) := by
  have hiff := checkClockChange_iff now_ms m
  by_cases hr : RolledBack now_ms m
  · have hd : due now_ms m = m.timers :=
      List.filter_eq_self.mpr fun a _ => decide_eq_true (.inl hr)
    rw [hd]
    exact ⟨fun _ => .inl hr, fun _ => listExpiredCb_changed probe cbs h (hiff.mpr (.inl hr))⟩
  have hd : due now_ms m = m.timers.filter fun a => (m.heap a).next ≤ now_ms :=
    List.filter_congr fun a _ => decide_eq_decide.mpr ⟨fun h1 => h1.resolve_left hr, .inr⟩
  rw [hd]
  by_cases hw : m.previousTime.toNat < 3600000 ∧ now_ms < m.previousTime
  · have hall := listExpiredCb_changed probe cbs h (hiff.mpr (.inr hw))
    constructor
    · intro hcol
      have hl := hcol.length hall
      refine .inr (.inl ⟨hw, fun a ha => ?_⟩)
      exact of_decide_eq_true (List.length_filter_eq_length_iff.mp hl a ha)
    · rintro (h1 | ⟨_, h1⟩ | ⟨h1, _⟩)
      · exact absurd h1 hr
      · rw [List.filter_eq_self.mpr fun a ha => decide_eq_true (h1 a ha)]
        exact hall
      · exact absurd hw h1
  · have hc : (m.checkClockChange now_ms).1 = false :=
      Bool.eq_false_iff.mpr fun hc => (hiff.mp hc).elim hr hw
    by_cases hover : ∃ a ∈ m.timers, (m.heap a).next < now_ms
    · obtain ⟨a, ha, hlt⟩ := hover
      constructor
      · intro hcol
        exfalso
        cases ht : m.timers with
        | nil =>
          rw [ht] at ha
          cases ha
        | cons first rest =>
          have hfirst : (m.heap first).next < now_ms := by
            rw [ht] at ha
            rcases List.mem_cons.mp ha with rfl | ha
            · exact hlt
            · have ho : Sorted (less m.heap) (first :: rest) := ht ▸ h
              exact UInt64.lt_of_le_of_lt (less_next_le ((List.pairwise_cons.mp ho).1 a ha)) hlt
          have he := hcol.cbs
          rw [listExpiredCb_early probe cbs ht hc hfirst] at he
          have hnil := List.map_eq_nil_iff.mp (List.self_eq_append_right.mp he)
          have hin := List.filter_eq_nil_iff.mp hnil a ha
          exact hin (decide_eq_true (UInt64.le_of_lt hlt))
      · rintro (h1 | ⟨h1, _⟩ | ⟨_, h1⟩)
        · exact absurd h1 hr
        · exact absurd h1 hw
        · exact absurd hlt (UInt64.not_lt.mpr (h1 a ha))
    · have hf : ∀ a ∈ m.timers, ¬ (m.heap a).next < now_ms := fun a ha hlt => hover ⟨a, ha, hlt⟩
      exact ⟨fun _ => .inr (.inr ⟨hw, fun a ha => UInt64.not_lt.mp (hf a ha)⟩),
        fun _ => listExpiredCb_cut probe cbs h hc hf⟩

end TimerManager

/-- one timer that was due a millisecond ago: nothing is collected -/
def overdueManager : TimerManager Unit where
  heap := fun _ => ⟨100, some (), false, 4000000⟩
  timers := [8]
  tickled := false
  previousTime := 3999999

/-- a one-shot timer that is due now and a later one -/
def dueNowManager : TimerManager Unit where
  heap := fun a => if a = 8 then ⟨100, some (), false, 4000000⟩ else ⟨50, none, true, 4000001⟩
  timers := [8, 3]
  tickled := false
  previousTime := 3999999

theorem listExpiredCb_collects_due_now :
    TimerManager.Collects 4000000 (TimerManager.due 4000000 dueNowManager) [] dueNowManager
      (dueNowManager.listExpiredCb 4000000 0 []) :=
  (TimerManager.listExpiredCb_iff 4000000 0 [] dueNowManager
    (by unfold TimerManager.Ordered Sorted; decide)).mpr (.inr (.inr ⟨by decide, by decide⟩))

theorem listExpiredCb_misses_overdue :
    ¬ ∀ (now_ms : UInt64) (probe : Addr) (cbs : List (Option Unit)) (m : TimerManager Unit),
      m.Ordered → TimerManager.Collects now_ms (TimerManager.due now_ms m) cbs m
        (m.listExpiredCb now_ms probe cbs) := by
  intro h
  have h1 := (h 4000001 0 [] overdueManager (by unfold TimerManager.Ordered Sorted; decide)).cbs
  exact absurd h1 (by decide)

end Timers
end KitServer
