import KitServer.Lib.Count
import KitServer.Lib.Machine

/-!
# `TcpServer`: `start`, `startAccept` and `stop`

The accept workers run one `startAccept` for each listening socket; a label is one of its steps, one
call of `start` or `stop`, or a connection that arrives.  `cancelAll` wakes a coroutine that waits
in `accept`, which tries again and waits again: it changes nothing here.

* `places`                how many times a connection is somewhere in the server;
* `connections_conserved`  every connection that arrived is at one place;
* `stop_bound`            what is accepted behind a `stop`.
-/

set_option linter.unusedVariables false

namespace KitServer
namespace Tcp
namespace Accept

/-- a run of `startAccept`, for a listening socket -/
inductive Loop where
  | absent
  | scheduled (sock : Nat)
  -- in front of `while(!m_stopped)`
  | testing (sock : Nat)
  | accepting (sock : Nat)
  -- in front of `setRecvTimeout`, and of `schedule`
  | accepted (sock client : Nat)
  | dispatching (sock client : Nat) (timeout : UInt64)
  | ended
deriving DecidableEq

structure Server where
  m_stopped : Bool
  m_recvTimeout : UInt64
  m_listenSockets : List Nat
  loop : Nat → Loop
  loops : Nat
  -- the closures of `stop` that have not run
  closures : Nat
  -- the connections that nobody has accepted: a listening socket, and the client
  backlog : List (Nat × Nat)
  arrived : Nat
  -- the `handleClient` that `m_worker` got, with the timeouts of their clients; the latest first
  m_worker : List (Nat × UInt64)

/-- in front of the first `start`, with `socks` bound -/
def Server.bound (socks : List Nat) (timeout : UInt64) : Server :=
  ⟨true, timeout, socks, fun _ => .absent, 0, 0, [], 0, []⟩

inductive Act where
  | start
  | stop
  -- the closure of `stop` runs
  | closure
  | setRecvTimeout (v : UInt64)
  | arrive (sock : Nat)
  | begin (n : Nat)
  | test (n : Nat)
  | accept (n : Nat) (client : Nat)
  | acceptFails (n : Nat)
  | setTimeout (n : Nat)
  | dispatch (n : Nat)
deriving DecidableEq

def Server.spawn (s : Server) (sock : Nat) : Server :=
  { s with loop := Function.update s.loop s.loops (.scheduled sock), loops := s.loops + 1 }

def Server.start (s : Server) : Server :=
  if !s.m_stopped then s
  else s.m_listenSockets.foldl Server.spawn { s with m_stopped := false }

def Server.stop (s : Server) : Server :=
  if s.m_stopped then s
  else { s with m_stopped := true, closures := s.closures + 1 }

def Server.goto (s : Server) (n : Nat) (l : Loop) : Server :=
  { s with loop := Function.update s.loop n l }

def Act.guard (s : Server) : Act → Prop
  | .start => True
  | .stop => True
  | .closure => 0 < s.closures
  | .setRecvTimeout _ => True
  | .arrive _ => True
  | .begin n => ∃ sock, s.loop n = .scheduled sock
  | .test n => ∃ sock, s.loop n = .testing sock
  | .accept n client => ∃ sock, s.loop n = .accepting sock ∧ (sock, client) ∈ s.backlog
  | .acceptFails n => ∃ sock, s.loop n = .accepting sock
  | .setTimeout n => ∃ sock client, s.loop n = .accepted sock client
  | .dispatch n => ∃ sock client timeout, s.loop n = .dispatching sock client timeout

def Act.effect (s : Server) : Act → Server
  | .start => s.start
  | .stop => s.stop
  | .closure => { s with m_listenSockets := [], closures := s.closures - 1 }
  | .setRecvTimeout v => { s with m_recvTimeout := v }
  | .arrive sock =>
    { s with backlog := s.backlog ++ [(sock, s.arrived)], arrived := s.arrived + 1 }
  | .begin n =>
    match s.loop n with
    | .scheduled sock => s.goto n (.testing sock)
    | _ => s
  | .test n =>
    match s.loop n with
    | .testing sock => s.goto n (if !s.m_stopped then .accepting sock else .ended)
    | _ => s
  | .accept n client =>
    match s.loop n with
    | .accepting sock =>
      { s.goto n (.accepted sock client) with backlog := s.backlog.erase (sock, client) }
    | _ => s
  | .acceptFails n =>
    match s.loop n with
    | .accepting sock => s.goto n (.testing sock)
    | _ => s
  | .setTimeout n =>
    match s.loop n with
    | .accepted sock client => s.goto n (.dispatching sock client s.m_recvTimeout)
    | _ => s
  | .dispatch n =>
    match s.loop n with
    | .dispatching sock client timeout =>
      { s.goto n (.testing sock) with m_worker := (client, timeout) :: s.m_worker }
    | _ => s

def tcpServer : Machine Server Act := ⟨Act.guard, Act.effect⟩

/-! ## the places of a connection -/

/-- how many times a run of `startAccept` has the client in its hands -/
def Loop.holds (client : Nat) : Loop → Nat
  | .accepted _ c => if c = client then 1 else 0
  | .dispatching _ c _ => if c = client then 1 else 0
  | _ => 0

/-- how many times a connection waits, is in the hands of a run of `startAccept`, or was handed to
`m_worker` -/
def Server.places (s : Server) (client : Nat) : Nat :=
  (s.backlog.map Prod.snd).count client + ∑ n ∈ Finset.range s.loops, (s.loop n).holds client +
    (s.m_worker.map Prod.fst).count client

structure Inv (P : UInt64 → Prop) (s : Server) : Prop where
  places : ∀ client, s.places client = if client < s.arrived then 1 else 0
  absent : ∀ n, s.loops ≤ n → s.loop n = .absent
  m_recvTimeout : P s.m_recvTimeout
  dispatching : ∀ n sock client timeout, s.loop n = .dispatching sock client timeout → P timeout
  m_worker : ∀ p ∈ s.m_worker, P p.2

section
variable {P : UInt64 → Prop} {s s' : Server} {n : Nat}

theorem Inv.lt_loops (h : Inv P s) (hn : s.loop n ≠ .absent) : n < s.loops :=
  Nat.lt_of_not_le fun hle => hn (h.absent n hle)

theorem Inv.goto (h : Inv P s) (l : Loop) {backlog : List (Nat × Nat)}
    {m_worker : List (Nat × UInt64)} (hn : s.loop n ≠ .absent)
    (hcount : ∀ client, (backlog.map Prod.snd).count client + l.holds client +
      (m_worker.map Prod.fst).count client = (s.backlog.map Prod.snd).count client +
        (s.loop n).holds client + (s.m_worker.map Prod.fst).count client)
    (htimeout : ∀ sock client timeout, l = .dispatching sock client timeout → P timeout)
    (hworker : ∀ p ∈ m_worker, P p.2) :
    Inv P { s.goto n l with backlog := backlog, m_worker := m_worker } where
  places client := by
    have hsum := sum_update (f := s.loop) (Loop.holds client) (h.lt_loops hn) l
    have hplaces := h.places client
    have hclient := hcount client
    refine Eq.trans ?_ hplaces
    simp only [Server.places, Server.goto]
    omega
  absent m hm := by
    have hne : m ≠ n := by
      rintro rfl
      exact hn (h.absent m hm)
    exact (Function.update_of_ne hne _ _).trans (h.absent m hm)
  m_recvTimeout := h.m_recvTimeout
  dispatching m sock client timeout hm := by
    have hm : Function.update s.loop n l m = .dispatching sock client timeout := hm
    by_cases hmn : m = n
    · rw [hmn, Function.update_self] at hm
      exact htimeout sock client timeout hm
    · exact h.dispatching m sock client timeout ((Function.update_of_ne hmn _ _).symm.trans hm)
  m_worker := hworker

theorem Inv.spawn (h : Inv P s) (sock : Nat) : Inv P (s.spawn sock) where
  places client := by
    have hsum : ∑ n ∈ Finset.range (s.loops + 1),
        (Function.update s.loop s.loops (.scheduled sock) n).holds client
          = ∑ n ∈ Finset.range s.loops, (s.loop n).holds client := by
      rw [Finset.sum_range_succ, Function.update_self]
      refine (Nat.add_zero _).trans (Finset.sum_congr rfl fun m hm => ?_)
      rw [Function.update_of_ne (Nat.ne_of_lt (Finset.mem_range.mp hm))]
    refine Eq.trans ?_ (h.places client)
    simp only [Server.places, Server.spawn, hsum]
  absent m hm := by
    have hm : s.loops + 1 ≤ m := hm
    exact (Function.update_of_ne (by omega) _ _).trans (h.absent m (by omega))
  m_recvTimeout := h.m_recvTimeout
  dispatching m sock' client timeout hm := by
    have hm : Function.update s.loop s.loops (.scheduled sock) m
        = .dispatching sock' client timeout := hm
    by_cases hmn : m = s.loops
    · rw [hmn, Function.update_self] at hm
      cases hm
    · exact h.dispatching m sock' client timeout ((Function.update_of_ne hmn _ _).symm.trans hm)
  m_worker := h.m_worker

theorem Inv.start (h : Inv P s) : Inv P s.start := by
  unfold Server.start
  split
  · exact h
  · have hspawn : ∀ (socks : List Nat) s', Inv P s' → Inv P (socks.foldl Server.spawn s') := by
      intro socks
      induction socks with
      | nil => exact fun s' hs' => hs'
      | cons sock socks ih => exact fun s' hs' => ih _ (hs'.spawn sock)
    exact hspawn _ _ ⟨h.places, h.absent, h.m_recvTimeout, h.dispatching, h.m_worker⟩

theorem count_erase {backlog : List (Nat × Nat)} {sock client : Nat}
    (h : (sock, client) ∈ backlog) (c : Nat) :
    ((backlog.erase (sock, client)).map Prod.snd).count c + (if client = c then 1 else 0)
      = (backlog.map Prod.snd).count c := by
  have hperm := (List.perm_cons_erase h).map Prod.snd
  rw [hperm.count_eq c, List.map_cons, List.count_cons]
  by_cases hc : client = c <;> simp [hc]

theorem Inv.step (h : Inv P s) (l : Act) (hguard : l.guard s)
    (hl : ∀ v, l = .setRecvTimeout v → P v) : Inv P (l.effect s) := by
  cases l with
  | start => exact h.start
  | stop =>
    simp only [Act.effect, Server.stop]
    split
    · exact h
    · exact ⟨h.places, h.absent, h.m_recvTimeout, h.dispatching, h.m_worker⟩
  | closure => exact ⟨h.places, h.absent, h.m_recvTimeout, h.dispatching, h.m_worker⟩
  | setRecvTimeout v => exact ⟨h.places, h.absent, hl v rfl, h.dispatching, h.m_worker⟩
  | arrive sock =>
    refine ⟨fun client => ?_, h.absent, h.m_recvTimeout, h.dispatching, h.m_worker⟩
    have hcount : (((s.backlog ++ [(sock, s.arrived)]).map Prod.snd).count client)
        = (s.backlog.map Prod.snd).count client + if s.arrived = client then 1 else 0 := by
      simp [List.count_singleton]
    have hnew : (if client < s.arrived + 1 then 1 else 0)
        = (if client < s.arrived then 1 else 0) + if s.arrived = client then 1 else 0 := by
      split_ifs <;> omega
    show _ = if client < s.arrived + 1 then 1 else 0
    rw [hnew, ← h.places client]
    simp only [Server.places, Act.effect, hcount]
    omega
  | begin n =>
    obtain ⟨sock, hn⟩ := hguard
    simp only [Act.effect, hn]
    exact h.goto (.testing sock) (by rw [hn]; nofun) (fun _ => by rw [hn]; rfl) nofun
      h.m_worker
  | test n =>
    obtain ⟨sock, hn⟩ := hguard
    simp only [Act.effect, hn]
    exact h.goto (if !s.m_stopped then .accepting sock else .ended) (by rw [hn]; nofun)
      (fun _ => by rw [hn]; cases s.m_stopped <;> rfl) (by cases s.m_stopped <;> nofun) h.m_worker
  | accept n client =>
    obtain ⟨sock, hn, hmem⟩ := hguard
    simp only [Act.effect, hn]
    exact h.goto (.accepted sock client) (by rw [hn]; nofun)
      (fun c => by rw [hn, ← count_erase hmem c]; rfl) nofun h.m_worker
  | acceptFails n =>
    obtain ⟨sock, hn⟩ := hguard
    simp only [Act.effect, hn]
    exact h.goto (.testing sock) (by rw [hn]; nofun) (fun _ => by rw [hn]; rfl) nofun
      h.m_worker
  | setTimeout n =>
    obtain ⟨sock, client, hn⟩ := hguard
    simp only [Act.effect, hn]
    exact h.goto (.dispatching sock client s.m_recvTimeout) (by rw [hn]; nofun)
      (fun _ => by rw [hn]; rfl) (fun _ _ _ he => by cases he; exact h.m_recvTimeout) h.m_worker
  | dispatch n =>
    obtain ⟨sock, client, timeout, hn⟩ := hguard
    have hcount : ∀ c, (((client, timeout) :: s.m_worker).map Prod.fst).count c
        = (s.m_worker.map Prod.fst).count c + if client = c then 1 else 0 := by
      intro c
      simp [List.count_cons]
    simp only [Act.effect, hn]
    show Inv P { s.goto n (.testing sock) with
      backlog := s.backlog
      m_worker := (client, timeout) :: s.m_worker }
    exact h.goto (.testing sock) (by rw [hn]; nofun)
      (fun c => by
        rw [hn, hcount]
        show _ + 0 + _ = _ + (if client = c then 1 else 0) + _
        omega) nofun
      (List.forall_mem_cons.mpr ⟨h.dispatching n sock client timeout hn, h.m_worker⟩)

theorem Inv.bound (socks : List Nat) {timeout : UInt64} (ht : P timeout) :
    Inv P (.bound socks timeout) := by
  refine ⟨fun client => ?_, fun _ _ => rfl, ht, nofun, nofun⟩
  simp [Server.places, Server.bound]

end

/-! ## every run -/

/-- **Every connection that arrived is at one place: in the backlog, in the hands of one
`startAccept`, or with `m_worker`, to which it went once and with a timeout that the server
had.** -/
theorem connections_conserved (socks : List Nat) (timeout : UInt64) (ls : List Act)
    (h : tcpServer.Allowed (.bound socks timeout) ls) :
    let s := tcpServer.after (.bound socks timeout) ls
    (∀ client, s.places client = if client < s.arrived then 1 else 0) ∧
      (s.m_worker.map Prod.fst).Nodup ∧
      ∀ p ∈ s.m_worker, p.2 = timeout ∨ .setRecvTimeout p.2 ∈ ls := by
  intro s
  let P := fun v => v = timeout ∨ .setRecvTimeout v ∈ ls
  have hmeets : ∀ l ∈ ls, ∀ v, l = .setRecvTimeout v → P v := fun l hl v he => .inr (he ▸ hl)
  have hinv : Inv P s := by
    have hs : Inv P ((tcpServer.meeting fun _ l => ∀ v, l = .setRecvTimeout v → P v).after
        (.bound socks timeout) ls) :=
      (h.meeting hmeets).inv (fun s l hs hl => hs.step l hl.1 hl.2) (.bound socks (.inl rfl))
    rwa [Machine.meeting_after] at hs
  refine ⟨hinv.places, List.nodup_iff_count_le_one.mpr fun client => ?_, hinv.m_worker⟩
  have hplaces := hinv.places client
  unfold Server.places at hplaces
  split at hplaces <;> omega

/-- two clients come, and the server is stopped while one is in the hands of `startAccept` -/
def exampleRun : List Act :=
  [.start, .begin 0, .test 0, .arrive 5, .arrive 5, .accept 0 0, .setTimeout 0, .dispatch 0,
    .test 0, .stop]

theorem exampleRun_allowed (ms : List Act)
    (h : tcpServer.Allowed (tcpServer.after (.bound [5] 120000) exampleRun) ms) :
    tcpServer.Allowed (.bound [5] 120000) (exampleRun ++ ms) := by
  refine Machine.allowed_append.mpr ⟨?_, h⟩
  exact ⟨trivial, ⟨5, rfl⟩, ⟨5, rfl⟩, trivial, trivial, ⟨5, rfl, by decide⟩, ⟨5, 0, rfl⟩,
    ⟨5, 0, 120000, rfl⟩, ⟨5, rfl⟩, trivial, trivial⟩

theorem connections_conserved_two :
    (tcpServer.after (.bound [5] 120000) exampleRun).places 1 = 1 := by
  have hrun := exampleRun_allowed [] trivial
  rw [List.append_nil] at hrun
  exact (connections_conserved [5] 120000 exampleRun hrun).1 1

/-- how many connections a run may still accept while `m_stopped` is set -/
def Loop.mayAccept : Loop → Nat
  | .accepting _ => 1
  | _ => 0

def Server.mayAccept (n : Nat) (s : Server) : Nat := (s.loop n).mayAccept

/-- how many connections a step accepts in the run `n` -/
def Act.accepts (n : Nat) : Act → Nat
  | .accept m _ => if m = n then 1 else 0
  | _ => 0

theorem mayAccept_goto {s : Server} {m : Nat} (n : Nat) (l : Loop) {k : Nat}
    (hl : l.mayAccept + k ≤ (s.loop m).mayAccept) :
    (s.goto m l).mayAccept n + (if m = n then k else 0) ≤ s.mayAccept n := by
  by_cases hmn : m = n
  · subst hmn
    simp only [Server.mayAccept, Server.goto, Function.update_self, if_true]
    exact hl
  · simp only [Server.mayAccept, Server.goto, Function.update_of_ne (Ne.symm hmn), if_neg hmn]
    exact le_refl _

theorem mayAccept_step {s : Server} (n : Nat) (l : Act) (hs : s.m_stopped = true)
    (hguard : l.guard s) (hl : l ≠ .start) :
    (l.effect s).m_stopped = true ∧
      (l.effect s).mayAccept n + l.accepts n ≤ s.mayAccept n := by
  have hgoto : ∀ (m : Nat) (loop : Loop), loop.mayAccept = 0 →
      (s.goto m loop).mayAccept n + 0 ≤ s.mayAccept n := by
    intro m loop h0
    have hle := mayAccept_goto (s := s) (k := 0) n loop (m := m) (by omega)
    simpa using hle
  cases l with
  | start => exact absurd rfl hl
  | stop =>
    simp only [Act.effect, Server.stop, if_pos hs]
    exact ⟨hs, le_refl _⟩
  | closure => exact ⟨hs, le_refl _⟩
  | setRecvTimeout v => exact ⟨hs, le_refl _⟩
  | arrive sock => exact ⟨hs, le_refl _⟩
  | begin m =>
    obtain ⟨sock, hm⟩ := hguard
    simp only [Act.effect, hm]
    exact ⟨hs, hgoto m _ rfl⟩
  | test m =>
    obtain ⟨sock, hm⟩ := hguard
    simp only [Act.effect, hm, hs]
    exact ⟨hs, hgoto m _ rfl⟩
  | accept m client =>
    obtain ⟨sock, hm, _⟩ := hguard
    simp only [Act.effect, hm]
    exact ⟨hs, mayAccept_goto n (.accepted sock client) (by rw [hm]; exact le_refl 1)⟩
  | acceptFails m =>
    obtain ⟨sock, hm⟩ := hguard
    simp only [Act.effect, hm]
    exact ⟨hs, hgoto m _ rfl⟩
  | setTimeout m =>
    obtain ⟨sock, client, hm⟩ := hguard
    simp only [Act.effect, hm]
    exact ⟨hs, hgoto m _ rfl⟩
  | dispatch m =>
    obtain ⟨sock, client, timeout, hm⟩ := hguard
    simp only [Act.effect, hm]
    exact ⟨hs, hgoto m _ rfl⟩

/-- **Behind a `stop`, and until the next `start`, a `startAccept` that waits in `accept` takes one
more connection at most, and any other takes none**, however many of them there are. -/
theorem stop_bound (socks : List Nat) (timeout : UInt64) (ls ms : List Act)
    (h : tcpServer.Allowed (.bound socks timeout) (ls ++ ms))
    (hs : (tcpServer.after (.bound socks timeout) ls).m_stopped = true) (hms : .start ∉ ms)
    (n : Nat) :
    (ms.map (Act.accepts n)).sum ≤ (tcpServer.after (.bound socks timeout) ls).mayAccept n := by
  have hrun : (tcpServer.meeting fun _ l => l ≠ .start).Allowed
      (tcpServer.after (.bound socks timeout) ls) ms :=
    (Machine.allowed_append.mp h).2.meeting fun l hl he => hms (he ▸ hl)
  refine hrun.budget (I := fun s => s.m_stopped = true) (fun s l hs hl => ?_) hs
  exact mayAccept_step n l hs hl.1 hl.2

/-- the client that waits is still accepted, and then the run ends -/
theorem stop_bound_one :
    let ms : List Act := [.closure, .accept 0 1, .setTimeout 0, .dispatch 0, .test 0]
    (ms.map (Act.accepts 0)).sum = 1 ∧
      (ms.map (Act.accepts 0)).sum ≤ Loop.mayAccept (.accepting 5) ∧
      (tcpServer.after (.bound [5] 120000) (exampleRun ++ ms)).loop 0 = .ended := by
  intro ms
  have hrun : tcpServer.Allowed (.bound [5] 120000) (exampleRun ++ ms) :=
    exampleRun_allowed ms ⟨Nat.one_pos, ⟨5, rfl, by decide⟩, ⟨5, 1, rfl⟩, ⟨5, 1, 120000, rfl⟩,
      ⟨5, rfl⟩, trivial⟩
  exact ⟨rfl, stop_bound [5] 120000 exampleRun ms hrun rfl (by decide) 0, rfl⟩

end Accept
end Tcp
end KitServer
