import KitServer.IOManager.Events
import KitServer.Lib.Machine

/-!
# The events that `idle` handles, and the threads

`epoll_wait` reports events that are registered then.  Until `idle` handles a report, under the lock
of the descriptor, other threads may have deleted or cancelled some of its events.

* `handle_spec`      a report of registered events, or of none, is handled well;
* `handle_stale`     one of which some events are registered and some are not runs into an assertion;
* `triggers_safe`    no assertion of `triggerEvent` fails in a run without such a report;
* `stale_report`     a run with one.
-/

set_option linter.unusedVariables false

namespace KitServer
namespace IOManager
variable {S C F : Type}

namespace Registry
variable {s : Registry S C F}

theorem addEvent_spec (h : s.Balanced) (fd : Nat) (e : Event) (scheduler : Option S)
    (task : Task C F) (ok : Bool) : s.addEvent fd e scheduler task ok = .error .eventExists ∨
      ∃ s' r, s.addEvent fd e scheduler task ok = .ok (s', r) ∧ s'.Balanced := by
  cases hhas : (s.contexts fd).events.has e with
  | true => exact .inl (by simp [addEvent, hhas])
  | false =>
    have hidle := (h.well fd).idle e hhas
    cases ok with
    | false => exact .inr ⟨s, -1, by simp [addEvent, hhas], h⟩
    | true => exact .inr ⟨_, 0, addEvent_of hhas hidle scheduler task, h.register hhas scheduler task⟩

theorem delEvent_spec (h : s.Balanced) (fd : Nat) (e : Event) (ok : Bool) :
    (s.delEvent fd e ok).1.Balanced := by
  cases hhas : (s.contexts fd).events.has e with
  | false =>
    rw [show s.delEvent fd e ok = (s, false) by simp [delEvent, hhas]]
    exact h
  | true =>
    cases ok with
    | false =>
      rw [show s.delEvent fd e false = (s, false) by simp [delEvent, hhas]]
      exact h
    | true =>
      rw [show s.delEvent fd e true = ({ s.store fd ((s.contexts fd).clear e) with
        pendingEventCount := s.pendingEventCount - 1 }, true) by simp [delEvent, hhas]]
      exact h.clear hhas _

theorem cancelEvent_spec (h : s.Balanced) (fd : Nat) (e : Event) (ok : Bool) :
    s.cancelEvent fd e ok = .error .nullScheduler ∨
      ∃ s' r, s.cancelEvent fd e ok = .ok (s', r) ∧ s'.Balanced := by
  cases hhas : (s.contexts fd).events.has e with
  | false => exact .inr ⟨s, false, by simp [cancelEvent, hhas], h⟩
  | true =>
    cases ok with
    | false => exact .inr ⟨s, false, by simp [cancelEvent, hhas], h⟩
    | true =>
      rcases h.trigger hhas with he | ⟨s', he, hb, _⟩
      · exact .inl (by simp [cancelEvent, hhas, he, Except.map])
      · exact .inr ⟨s', true, by simp [cancelEvent, hhas, he, Except.map], hb⟩

theorem triggerIf_spec (h : s.Balanced) (fd : Nat) (e : Event) (events : Events)
    (hin : events.has e = true → (s.contexts fd).events.has e = true) :
    s.triggerIf fd e events = .error .nullScheduler ∨
      ∃ s', s.triggerIf fd e events = .ok s' ∧ s'.Balanced ∧
        ∀ e', (s'.contexts fd).events.has e'
          = ((s.contexts fd).events.has e' && !(decide (e' = e) && events.has e)) := by
  unfold triggerIf
  by_cases he : events.has e = true
  · rw [if_pos he]
    rcases h.trigger (hin he) with hr | ⟨s', hr, hb, hctx⟩
    · exact .inl hr
    · refine .inr ⟨s', hr, hb, fun e' => ?_⟩
      rw [hctx, Function.update_self, FdContext.clear_events, he]
      by_cases hee : e' = e
      · subst hee
        simp
      · rw [Events.has_set_of_ne hee]
        simp [hee]
  · rw [if_neg he]
    refine .inr ⟨s, rfl, h, fun e' => ?_⟩
    simp [he]

theorem cancelAll_spec (h : s.Balanced) (fd : Nat) (ok : Bool) :
    s.cancelAll fd ok = .error .nullScheduler ∨
      ∃ s' r, s.cancelAll fd ok = .ok (s', r) ∧ s'.Balanced := by
  by_cases hnone : (s.contexts fd).events = .none
  · exact .inr ⟨s, false, by simp [cancelAll, hnone], h⟩
  cases ok with
  | false => exact .inr ⟨s, false, by simp [cancelAll, hnone], h⟩
  | true =>
    rcases triggerIf_spec h fd .read (s.contexts fd).events id with
      he | ⟨s₁, he₁, hb₁, hev₁⟩
    · exact .inl (by simp [cancelAll, hnone, he])
    rcases triggerIf_spec hb₁ fd .write (s₁.contexts fd).events id with
      he | ⟨s₂, he₂, hb₂, hev₂⟩
    · exact .inl (by simp [cancelAll, hnone, he₁, he])
    have hleft : (s₂.contexts fd).events = .none := by
      refine Events.eq_none_iff.mpr fun e => ?_
      cases e with
      | read =>
        rw [hev₂, hev₁]
        simp
      | write =>
        rw [hev₂]
        simp
    exact .inr ⟨s₂, true, by simp [cancelAll, hnone, he₁, he₂, hleft], hb₂⟩

/-- the events of a report are registered, or none of them is -/
def Current (fd : Nat) (reported : Events) (error : Bool) (s : Registry S C F) : Prop :=
  let registered := (s.contexts fd).events
  registered.inter (realEvents reported error registered) ≠ .none →
    (realEvents reported error registered).Sub registered

instance (fd : Nat) (reported : Events) (error : Bool) (s : Registry S C F) :
    Decidable (Current fd reported error s) := inferInstanceAs (Decidable (_ ≠ _ → _))

theorem handle_spec (h : s.Balanced) (fd : Nat) (reported : Events) (error : Bool) {ok : Bool}
    (hcur : ok = true → s.Current fd reported error) :
    s.handle fd reported error ok = .error .nullScheduler ∨
      ∃ s', s.handle fd reported error ok = .ok s' ∧ s'.Balanced := by
  unfold handle
  dsimp only
  by_cases hnone : (s.contexts fd).events.inter
      (realEvents reported error (s.contexts fd).events) = .none
  · exact .inr ⟨s, by rw [if_pos hnone], h⟩
  rw [if_neg hnone]
  cases ok with
  | false => exact .inr ⟨s, rfl, h⟩
  | true =>
    have hsub := hcur rfl hnone
    rcases triggerIf_spec h fd .read _ (hsub .read) with he | ⟨s₁, he₁, hb₁, hev₁⟩
    · exact .inl (by simp [he])
    have hwrite : (realEvents reported error (s.contexts fd).events).has .write = true →
        (s₁.contexts fd).events.has .write = true := by
      intro hw
      rw [hev₁, hsub .write hw]
      simp
    rcases triggerIf_spec hb₁ fd .write _ hwrite with he | ⟨s₂, he₂, hb₂, _⟩
    · exact .inl (by simp [he₁, he])
    · exact .inr ⟨s₂, by simp [he₁, he₂], hb₂⟩

/-- the condition is exact: without it the process ends in an assertion, or sooner in the use of a
null scheduler -/
theorem handle_stale (h : s.Balanced) (fd : Nat) (reported : Events) (error : Bool)
    (hstale : ¬ s.Current fd reported error) :
    s.handle fd reported error true = .error .eventMissing ∨
      s.handle fd reported error true = .error .nullScheduler := by
  unfold Current at hstale
  dsimp only at hstale
  unfold handle
  dsimp only
  obtain ⟨hnone, hsub⟩ := Classical.not_imp.mp hstale
  rw [if_neg hnone]
  generalize realEvents reported error (s.contexts fd).events = real at hsub ⊢
  by_cases hr : real.has .read = true → (s.contexts fd).events.has .read = true
  · rcases triggerIf_spec h fd .read real hr with he | ⟨s₁, he₁, _, hev₁⟩
    · exact .inr (by simp [he])
    · have hw : real.has .write = true ∧ (s₁.contexts fd).events.has .write = false := by
        obtain ⟨e, he⟩ := Classical.not_forall.mp hsub
        obtain ⟨hin, hout⟩ := Classical.not_imp.mp he
        cases e with
        | read => exact absurd (hr hin) hout
        | write =>
          refine ⟨hin, ?_⟩
          rw [hev₁, Bool.eq_false_iff.mpr hout]
          rfl
      refine .inl ?_
      rw [he₁]
      dsimp only
      rw [triggerIf, if_pos hw.1, trigger_missing hw.2]
      rfl
  · obtain ⟨hin, hout⟩ := Classical.not_imp.mp hr
    exact .inl (by simp [triggerIf, hin, trigger_missing (Bool.eq_false_iff.mpr hout)])

end Registry

/-! ## the threads -/

/-- an `epoll_event` that was reported; `error` is `EPOLLERR` or `EPOLLHUP` -/
structure Report where
  fd : Nat
  events : Events
  error : Bool
deriving DecidableEq

/-- `reports` are the events that each thread in `idle` has still to handle; with a `fault` the
process has ended -/
structure Threads (S C F : Type) where
  registry : Registry S C F
  reports : Nat → List Report
  fault : Option Fault

def Threads.start : Threads S C F := ⟨⟨fun _ => .empty, 0, []⟩, fun _ => [], none⟩

/-- a section under the lock of a descriptor, or the return of `epoll_wait` in the thread `i` -/
inductive Act (S C F : Type) where
  | addEvent (fd : Nat) (e : Event) (scheduler : Option S) (task : Task C F) (ok : Bool)
  | delEvent (fd : Nat) (e : Event) (ok : Bool)
  | cancelEvent (fd : Nat) (e : Event) (ok : Bool)
  | cancelAll (fd : Nat) (ok : Bool)
  | epollWait (i : Nat) (reports : List Report)
  | handle (i : Nat) (r : Report) (rest : List Report) (ok : Bool)

/-- `epoll_wait` reports events that are registered -/
def Act.guard (s : Threads S C F) : Act S C F → Prop
  | .epollWait i reports => s.fault = none ∧ s.reports i = [] ∧
      ∀ r ∈ reports, r.events.Sub (s.registry.contexts r.fd).events
  | .handle i r rest _ => s.fault = none ∧ s.reports i = r :: rest
  | _ => s.fault = none

instance Act.decidableGuard (s : Threads S C F) : ∀ l : Act S C F, Decidable (l.guard s)
  | .epollWait i reports => inferInstanceAs (Decidable (s.fault = none ∧ s.reports i = [] ∧
      ∀ r ∈ reports, r.events.Sub (s.registry.contexts r.fd).events))
  | .handle i r rest _ => inferInstanceAs (Decidable (s.fault = none ∧ s.reports i = r :: rest))
  | .addEvent _ _ _ _ _ => inferInstanceAs (Decidable (s.fault = none))
  | .delEvent _ _ _ => inferInstanceAs (Decidable (s.fault = none))
  | .cancelEvent _ _ _ => inferInstanceAs (Decidable (s.fault = none))
  | .cancelAll _ _ => inferInstanceAs (Decidable (s.fault = none))

/-- a section has ended, well or in a fault -/
def Threads.settle (r : Except Fault (Registry S C F)) (s : Threads S C F) : Threads S C F :=
  match r with
  | .error f => { s with fault := some f }
  | .ok registry => { s with registry := registry }

def Act.effect (s : Threads S C F) : Act S C F → Threads S C F
  | .addEvent fd e scheduler task ok =>
    s.settle ((s.registry.addEvent fd e scheduler task ok).map Prod.fst)
  | .delEvent fd e ok => { s with registry := (s.registry.delEvent fd e ok).1 }
  | .cancelEvent fd e ok => s.settle ((s.registry.cancelEvent fd e ok).map Prod.fst)
  | .cancelAll fd ok => s.settle ((s.registry.cancelAll fd ok).map Prod.fst)
  | .epollWait i reports => { s with reports := Function.update s.reports i reports }
  | .handle i r rest ok =>
    { s with reports := Function.update s.reports i rest }.settle
      (s.registry.handle r.fd r.events r.error ok)

def threads : Machine (Threads S C F) (Act S C F) := ⟨fun s l => l.guard s, fun s l => l.effect s⟩

instance threads_decidable (s : Threads S C F) (l : Act S C F) : Decidable (threads.guard s l) :=
  inferInstanceAs (Decidable (l.guard s))

/-- a report that is handled, with `epoll_ctl` going well, is of events that are all registered now,
or of none that is -/
def NotStale (s : Threads S C F) : Act S C F → Prop
  | .handle _ r _ ok => ok = true → s.registry.Current r.fd r.events r.error
  | _ => True

instance NotStale.decidable (s : Threads S C F) : ∀ l : Act S C F, Decidable (NotStale s l)
  | .handle _ r _ ok =>
    inferInstanceAs (Decidable (ok = true → s.registry.Current r.fd r.events r.error))
  | .addEvent _ _ _ _ _ => .isTrue trivial
  | .delEvent _ _ _ => .isTrue trivial
  | .cancelEvent _ _ _ => .isTrue trivial
  | .cancelAll _ _ => .isTrue trivial
  | .epollWait _ _ => .isTrue trivial

/-- no assertion of `triggerEvent` has failed, and the counter counts the registered bits -/
structure TriggersSafe (s : Threads S C F) : Prop where
  missing : s.fault ≠ some .eventMissing
  noTask : s.fault ≠ some .taskMissing
  balanced : s.registry.Balanced

section
variable {s : Threads S C F}

theorem TriggersSafe.settle (h : TriggersSafe s) {f : Fault} {r : Except Fault (Registry S C F)}
    (hf : f = .eventExists ∨ f = .nullScheduler)
    (hr : r = .error f ∨ ∃ s', r = .ok s' ∧ s'.Balanced) : TriggersSafe (s.settle r) := by
  rcases hr with rfl | ⟨s', rfl, hb⟩
  · rcases hf with rfl | rfl
    · exact ⟨fun hc => (by cases hc), fun hc => (by cases hc), h.balanced⟩
    · exact ⟨fun hc => (by cases hc), fun hc => (by cases hc), h.balanced⟩
  · exact ⟨h.missing, h.noTask, hb⟩

theorem fst_cases {A : Type} {r : Except Fault (Registry S C F × A)} {f : Fault}
    (h : r = .error f ∨ ∃ s' a, r = .ok (s', a) ∧ s'.Balanced) :
    r.map Prod.fst = .error f ∨ ∃ s', r.map Prod.fst = .ok s' ∧ s'.Balanced := by
  rcases h with rfl | ⟨s', a, rfl, hb⟩
  · exact .inl rfl
  · exact .inr ⟨s', rfl, hb⟩

theorem TriggersSafe.effect (h : TriggersSafe s) (l : Act S C F) (hc : NotStale s l) :
    TriggersSafe (l.effect s) := by
  cases l with
  | addEvent fd e scheduler task ok =>
    exact h.settle (.inl rfl)
      (fst_cases (s.registry.addEvent_spec h.balanced fd e scheduler task ok))
  | delEvent fd e ok =>
    exact ⟨h.missing, h.noTask, s.registry.delEvent_spec h.balanced fd e ok⟩
  | cancelEvent fd e ok =>
    exact h.settle (.inr rfl) (fst_cases (s.registry.cancelEvent_spec h.balanced fd e ok))
  | cancelAll fd ok =>
    exact h.settle (.inr rfl) (fst_cases (s.registry.cancelAll_spec h.balanced fd ok))
  | epollWait i reports => exact ⟨h.missing, h.noTask, h.balanced⟩
  | handle i r rest ok =>
    have hs : TriggersSafe { s with reports := Function.update s.reports i rest } :=
      ⟨h.missing, h.noTask, h.balanced⟩
    exact hs.settle (.inr rfl) (s.registry.handle_spec h.balanced r.fd r.events r.error hc)

end

end IOManager
end KitServer
