import KitServer.Descriptors
import KitServer.TcpServer.Accept

/-!
# The server over its `Socket`s

`Socket::accept` takes a connection in `accept_f`, and hands it out when `init` of a new `Socket`
finds the object that `FdManager` has for the descriptor.

* `system`          the server and the `Socket`s, with the three steps of `accept`;
* `System.seen`     the server, for which a connection is accepted when `accept_f` has taken it;
* `system_refines`  a run of the system is a run of the server: no `init` loses a connection.
-/

set_option linter.unusedVariables false

namespace KitServer
namespace Tcp
namespace Accept

/-- `taken` is the new `Socket` and the connection of a run of `startAccept` behind `accept_f` -/
structure System where
  server : Server
  sockets : Descriptors.State
  taken : Nat → Option (Nat × Nat)

def System.start (socks : List Nat) (timeout : UInt64) (files : Nat → Bool) : System :=
  ⟨.bound socks timeout, .start files, fun _ => none⟩

/-- `server` and `socket` are the steps outside of `accept` -/
inductive Step where
  | server (l : Act)
  | socket (l : Descriptors.Act)
  | accept (n k fd client : Nat)
  | get (n : Nat)
  | init (n : Nat)

def Step.guard (s : System) : Step → Prop
  | .server l => l.guard s.server ∧ (∀ n client, l ≠ .accept n client) ∧
      ∀ n, l = .acceptFails n → s.taken n = none
  | .socket l => l.guard s.sockets ∧
      ∀ n k client, s.taken n = some (k, client) → l ≠ .get k ∧ l ≠ .init k
  | .accept n k fd client => s.taken n = none ∧ ∃ sock, s.server.loop n = .accepting sock ∧
      (sock, client) ∈ s.server.backlog ∧
      (Descriptors.Act.accept sock k (some fd)).guard s.sockets
  | .get n => ∃ k client, s.taken n = some (k, client) ∧ (Descriptors.Act.get k).guard s.sockets
  | .init n => ∃ k client, s.taken n = some (k, client) ∧ (Descriptors.Act.init k).guard s.sockets

def Step.effect (s : System) : Step → System
  | .server l => { s with server := l.effect s.server }
  | .socket l => { s with sockets := l.effect s.sockets }
  | .accept n k fd client =>
    match s.server.loop n with
    | .accepting sock =>
      { server := { s.server with backlog := s.server.backlog.erase (sock, client) }
        sockets := (Descriptors.Act.accept sock k (some fd)).effect s.sockets
        taken := Function.update s.taken n (some (k, client)) }
    | _ => s
  | .get n =>
    match s.taken n with
    | some (k, _) => { s with sockets := (Descriptors.Act.get k).effect s.sockets }
    | none => s
  | .init n =>
    match s.taken n, s.server.loop n with
    | some (k, client), .accepting sock =>
      let sockets := (Descriptors.Act.init k).effect s.sockets
      let ok := (sockets.sock k).m_fd.isSome
      { server := s.server.goto n (if ok then .accepted sock client else .testing sock)
        sockets
        taken := Function.update s.taken n none }
    | _, _ => s

def system : Machine System Step := ⟨Step.guard, Step.effect⟩

def Loop.seen (taken : Option (Nat × Nat)) : Loop → Loop
  | .accepting sock => taken.elim (.accepting sock) fun t => .accepted sock t.2
  | l => l

def Server.seen (taken : Nat → Option (Nat × Nat)) (s : Server) : Server :=
  { s with loop := fun n => (s.loop n).seen (taken n) }

def System.seen (s : System) : Server := s.server.seen s.taken

/-- what the server does in the step -/
def Step.labels : Step → List Act
  | .server l => [l]
  | .accept n _ _ client => [.accept n client]
  | _ => []

structure Joined (s : System) : Prop where
  sockets : Descriptors.Inv False s.sockets
  server : Inv (fun _ => True) s.seen
  accepting : ∀ n t, s.taken n = some t → ∃ sock, s.server.loop n = .accepting sock
  inside : ∀ n t, s.taken n = some t → (s.sockets.sock t.1).Accepting
  unique : ∀ n n' t t', s.taken n = some t → s.taken n' = some t' → t.1 = t'.1 → n = n'

variable {s : System}

theorem Joined.taken_none (h : Joined s) {n : Nat} (hn : ∀ sock, s.server.loop n ≠ .accepting sock) :
    s.taken n = none := by
  cases ht : s.taken n with
  | none => rfl
  | some t =>
    obtain ⟨sock, hsock⟩ := h.accepting n t ht
    exact absurd hsock (hn sock)

theorem Joined.start (socks : List Nat) (timeout : UInt64) (files : Nat → Bool) :
    Joined (.start socks timeout files) where
  sockets := .start False files
  server := by
    have hseen : (System.start socks timeout files).seen = .bound socks timeout := rfl
    rw [hseen]
    exact .bound socks trivial
  accepting n t ht := by cases ht
  inside n t ht := by cases ht
  unique n n' t t' ht := by cases ht

/-! ## the server -/

theorem Loop.seen_update (loop : Nat → Loop) (taken : Nat → Option (Nat × Nat)) (n : Nat) (l : Loop)
    (t : Option (Nat × Nat)) :
    (fun m => (Function.update loop n l m).seen (Function.update taken n t m))
      = Function.update (fun m => (loop m).seen (taken m)) n (l.seen t) := by
  funext m
  by_cases hm : m = n
  · rw [hm, Function.update_self, Function.update_self, Function.update_self]
  · rw [Function.update_of_ne hm, Function.update_of_ne hm, Function.update_of_ne hm]

theorem Server.seen_goto (taken : Nat → Option (Nat × Nat)) (s : Server) (n : Nat) (l : Loop) :
    (s.goto n l).seen taken = (s.seen taken).goto n (l.seen (taken n)) := by
  have hloop := Loop.seen_update s.loop taken n l (taken n)
  rw [Function.update_eq_self] at hloop
  rw [Server.goto, Server.seen, hloop]
  rfl

theorem Server.seen_spawn (taken : Nat → Option (Nat × Nat)) (s : Server) (sock : Nat) :
    (s.spawn sock).seen taken = (s.seen taken).spawn sock := by
  have h := Server.seen_goto taken s s.loops (.scheduled sock)
  exact congrArg (fun s' : Server => { s' with loops := s.loops + 1 }) h

theorem Server.seen_start (taken : Nat → Option (Nat × Nat)) (s : Server) :
    s.start.seen taken = (s.seen taken).start := by
  have hspawn : ∀ (socks : List Nat) (s : Server), (socks.foldl Server.spawn s).seen taken
      = socks.foldl Server.spawn (s.seen taken) := by
    intro socks
    induction socks with
    | nil => exact fun s => rfl
    | cons sock socks ih =>
      intro s
      rw [List.foldl_cons, List.foldl_cons, ih, Server.seen_spawn]
  unfold Server.start
  show Server.seen taken (if !s.m_stopped then s else _) = if !s.m_stopped then s.seen taken else _
  split
  · rfl
  · exact hspawn _ _

theorem Loop.seen_of_none (l : Loop) : l.seen none = l := by
  cases l <;> rfl

theorem Act.effect_seen {l : Act} (h : Joined s) (hl : (Step.server l).guard s) :
    l.guard s.seen ∧ (l.effect s.server).seen s.taken = l.effect s.seen := by
  have hloop : ∀ {n loop}, s.server.loop n = loop → s.seen.loop n = loop.seen (s.taken n) :=
    fun hn => congrArg (Loop.seen _) hn
  cases l with
  | start => exact ⟨trivial, Server.seen_start s.taken s.server⟩
  | stop =>
    refine ⟨trivial, ?_⟩
    show Server.seen s.taken (if s.server.m_stopped then s.server else _)
      = if s.server.m_stopped then s.seen else _
    split <;> rfl
  | closure => exact ⟨hl.1, rfl⟩
  | setRecvTimeout v => exact ⟨trivial, rfl⟩
  | arrive sock => exact ⟨trivial, rfl⟩
  | begin n =>
    obtain ⟨sock, hn⟩ := hl.1
    have hseen : s.seen.loop n = .scheduled sock := hloop hn
    refine ⟨⟨sock, hseen⟩, ?_⟩
    simp only [Act.effect, hn, hseen]
    exact Server.seen_goto s.taken s.server n (.testing sock)
  | test n =>
    obtain ⟨sock, hn⟩ := hl.1
    have hseen : s.seen.loop n = .testing sock := hloop hn
    refine ⟨⟨sock, hseen⟩, ?_⟩
    have hnone : s.taken n = none := h.taken_none fun sock' he => by
      rw [hn] at he
      cases he
    simp only [Act.effect, hn, hseen]
    rw [Server.seen_goto, hnone, Loop.seen_of_none]
    rfl
  | accept n client => exact absurd rfl (hl.2.1 n client)
  | acceptFails n =>
    obtain ⟨sock, hn⟩ := hl.1
    have hseen : s.seen.loop n = .accepting sock := by
      rw [hloop hn, hl.2.2 n rfl, Loop.seen_of_none]
    refine ⟨⟨sock, hseen⟩, ?_⟩
    simp only [Act.effect, hn, hseen]
    exact Server.seen_goto s.taken s.server n (.testing sock)
  | setTimeout n =>
    obtain ⟨sock, client, hn⟩ := hl.1
    have hseen : s.seen.loop n = .accepted sock client := hloop hn
    refine ⟨⟨sock, client, hseen⟩, ?_⟩
    simp only [Act.effect, hn, hseen]
    exact Server.seen_goto s.taken s.server n (.dispatching sock client s.server.m_recvTimeout)
  | dispatch n =>
    obtain ⟨sock, client, timeout, hn⟩ := hl.1
    have hseen : s.seen.loop n = .dispatching sock client timeout := hloop hn
    refine ⟨⟨sock, client, timeout, hseen⟩, ?_⟩
    simp only [Act.effect, hn, hseen]
    exact congrArg
      (fun s' : Server => { s' with m_worker := (client, timeout) :: s.server.m_worker })
      (Server.seen_goto s.taken s.server n (.testing sock))

theorem Step.seen (h : Joined s) {l : Step} (hl : l.guard s) :
    tcpServer.Allowed s.seen l.labels ∧ tcpServer.after s.seen l.labels = (l.effect s).seen := by
  cases l with
  | server l =>
    obtain ⟨hguard, heffect⟩ := Act.effect_seen h hl
    exact ⟨⟨hguard, trivial⟩, heffect.symm⟩
  | socket l => exact ⟨trivial, rfl⟩
  | accept n k fd client =>
    obtain ⟨hnone, sock, hn, hmem, _⟩ := hl
    have hseen : s.seen.loop n = .accepting sock := by
      show (s.server.loop n).seen (s.taken n) = _
      rw [hnone, hn]
      rfl
    refine ⟨⟨⟨sock, hseen, hmem⟩, trivial⟩, ?_⟩
    show (Act.accept n client).effect s.seen = _
    simp only [Act.effect, Step.effect, hn, hseen]
    have hloop := Loop.seen_update s.server.loop s.taken n (s.server.loop n) (some (k, client))
    rw [Function.update_eq_self, hn] at hloop
    rw [Server.goto]
    exact congrArg (fun loop => { s.seen with loop, backlog := s.server.backlog.erase (sock, client) })
      hloop.symm
  | get n =>
    obtain ⟨k, client, ht, _⟩ := hl
    refine ⟨trivial, ?_⟩
    simp only [Step.effect, ht]
    rfl
  | init n =>
    obtain ⟨k, client, ht, fd, hcall⟩ := hl
    obtain ⟨sock, hn⟩ := h.accepting n (k, client) ht
    refine ⟨trivial, ?_⟩
    have hsome : (((Descriptors.Act.init k).effect s.sockets).sock k).m_fd.isSome = true := by
      rw [h.sockets.init_eq hcall]
      show (Function.update s.sockets.sock k _ k).m_fd.isSome = true
      rw [Function.update_self]
      rfl
    simp only [Step.effect, ht, hn, hsome, if_true]
    have hseen : s.seen.loop n = .accepted sock client := by
      show (s.server.loop n).seen (s.taken n) = _
      rw [hn, ht]
      rfl
    have hloop : (fun m => (Function.update s.server.loop n (.accepted sock client) m).seen
        (Function.update s.taken n none m)) = s.seen.loop := by
      rw [Loop.seen_update, Loop.seen_of_none, ← hseen]
      exact Function.update_eq_self n s.seen.loop
    exact congrArg (fun loop => { s.server with loop }) hloop.symm

/-! ## every run -/

theorem Server.start_loop {s : Server} {m : Nat} (hm : m < s.loops) :
    s.start.loop m = s.loop m := by
  have hspawn : ∀ (socks : List Nat) (s : Server), m < s.loops →
      (socks.foldl Server.spawn s).loop m = s.loop m := by
    intro socks
    induction socks with
    | nil => exact fun s _ => rfl
    | cons sock socks ih =>
      intro s hm
      rw [List.foldl_cons, ih (s.spawn sock) (Nat.lt_succ_of_lt hm)]
      exact Function.update_of_ne (Nat.ne_of_lt hm) _ _
  unfold Server.start
  split
  · rfl
  · exact hspawn _ _ hm

def Act.run : Act → Option Nat
  | .begin n => some n
  | .test n => some n
  | .accept n _ => some n
  | .acceptFails n => some n
  | .setTimeout n => some n
  | .dispatch n => some n
  | _ => none

theorem Act.effect_loop {s : Server} {l : Act} {m : Nat} (hm : m < s.loops)
    (hl : l.run ≠ some m) : (l.effect s).loop m = s.loop m := by
  have hgoto : ∀ {n}, some n ≠ some m → ∀ loop, (s.goto n loop).loop m = s.loop m :=
    fun hn loop => Function.update_of_ne (fun he => hn (congrArg some he.symm)) _ _
  cases l with
  | start => exact Server.start_loop hm
  | stop =>
    simp only [Act.effect, Server.stop]
    split <;> rfl
  | closure => rfl
  | setRecvTimeout v => rfl
  | arrive sock => rfl
  | begin n | test n | acceptFails n | setTimeout n =>
    simp only [Act.effect]
    split
    · exact hgoto hl _
    · rfl
  | accept n client | dispatch n =>
    simp only [Act.effect]
    split
    · exact hgoto hl _
    · rfl

theorem Joined.lt_loops (h : Joined s) {n : Nat} {t : Nat × Nat} (ht : s.taken n = some t) :
    n < s.server.loops := by
  obtain ⟨sock, hn⟩ := h.accepting n t ht
  refine h.server.lt_loops (n := n) ?_
  show (s.server.loop n).seen (s.taken n) ≠ .absent
  rw [hn, ht]
  nofun

theorem Joined.run_ne (h : Joined s) {l : Act} (hl : (Step.server l).guard s) {n : Nat}
    {t : Nat × Nat} (ht : s.taken n = some t) : l.run ≠ some n := by
  obtain ⟨sock, hn⟩ := h.accepting n t ht
  obtain ⟨hguard, haccept, hfails⟩ := hl
  intro hrun
  cases l with
  | accept m client => exact haccept m client rfl
  | acceptFails m =>
    obtain rfl := Option.some.inj hrun
    have hnone := hfails m rfl
    rw [ht] at hnone
    cases hnone
  | begin m | test m =>
    obtain rfl := Option.some.inj hrun
    obtain ⟨sock', hm⟩ := hguard
    rw [hn] at hm
    cases hm
  | setTimeout m =>
    obtain rfl := Option.some.inj hrun
    obtain ⟨sock', client, hm⟩ := hguard
    rw [hn] at hm
    cases hm
  | dispatch m =>
    obtain rfl := Option.some.inj hrun
    obtain ⟨sock', client, timeout, hm⟩ := hguard
    rw [hn] at hm
    cases hm
  | _ => cases hrun

theorem Joined.others (h : Joined s) {l : Descriptors.Act} (hl : l.guard s.sockets) {n : Nat}
    {t : Nat × Nat} (ht : s.taken n = some t) (hget : l ≠ .get t.1) (hinit : l ≠ .init t.1) :
    ((l.effect s.sockets).sock t.1).Accepting := by
  rw [Descriptors.Act.effect_sock (h.inside n t ht) hl hget hinit]
  exact h.inside n t ht

theorem Joined.accept (h : Joined s) {n k fd client : Nat} (hl : (Step.accept n k fd client).guard s)
    (hserver : Inv (fun _ => True) ((Step.accept n k fd client).effect s).seen) :
    Joined ((Step.accept n k fd client).effect s) := by
  obtain ⟨_, sock, hn, _, hguard⟩ := hl
  have hidle : ∀ m t, s.taken m = some t → t.1 ≠ k := by
    rintro m t ht rfl
    rcases h.inside m t ht with ⟨fd, hcall⟩ | ⟨fd, hcall⟩ <;>
    · rw [hguard.2.2.1] at hcall
      cases hcall
  have hsockets := h.sockets.step _ hguard False.elim
  have htaken : ∀ m t, Function.update s.taken n (some (k, client)) m = some t →
      (m = n ∧ t = (k, client)) ∨ s.taken m = some t := by
    intro m t ht
    by_cases hm : m = n
    · rw [hm, Function.update_self] at ht
      exact .inl ⟨hm, (Option.some.inj ht).symm⟩
    · rw [Function.update_of_ne hm] at ht
      exact .inr ht
  simp only [Step.effect, hn] at hserver ⊢
  refine ⟨hsockets, hserver, fun m t ht => ?_, fun m t ht => ?_, fun m m' t t' ht ht' he => ?_⟩
  · rcases htaken m t ht with ⟨rfl, _⟩ | hold
    · exact ⟨sock, hn⟩
    · exact h.accepting m t hold
  · rcases htaken m t ht with ⟨rfl, rfl⟩ | hold
    · refine .inl ⟨fd, ?_⟩
      show (Function.update s.sockets.sock k _ k).call = _
      rw [Function.update_self]
    · exact h.others hguard hold nofun nofun
  · rcases htaken m t ht with ⟨rfl, rfl⟩ | hold
    · rcases htaken m' t' ht' with ⟨rfl, _⟩ | hold'
      · rfl
      · exact absurd he.symm (hidle m' t' hold')
    · rcases htaken m' t' ht' with ⟨_, rfl⟩ | hold'
      · exact absurd he (hidle m t hold)
      · exact h.unique m m' t t' hold hold' he

theorem Joined.init (h : Joined s) {n : Nat} (hl : (Step.init n).guard s)
    (hserver : Inv (fun _ => True) ((Step.init n).effect s).seen) :
    Joined ((Step.init n).effect s) := by
  obtain ⟨k, client, ht, hguard⟩ := hl
  obtain ⟨sock, hn⟩ := h.accepting n (k, client) ht
  have hsockets := h.sockets.step _ hguard False.elim
  have htaken : ∀ m t, Function.update s.taken n none m = some t → m ≠ n ∧ s.taken m = some t := by
    intro m t hm
    by_cases hmn : m = n
    · rw [hmn, Function.update_self] at hm
      cases hm
    · rw [Function.update_of_ne hmn] at hm
      exact ⟨hmn, hm⟩
  simp only [Step.effect, ht, hn] at hserver ⊢
  refine ⟨hsockets, hserver, fun m t hm => ?_, fun m t hm => ?_, fun m m' t t' hm hm' he => ?_⟩
  · obtain ⟨hmn, hold⟩ := htaken m t hm
    obtain ⟨sock', hsock⟩ := h.accepting m t hold
    exact ⟨sock', (Function.update_of_ne hmn _ _).trans hsock⟩
  · obtain ⟨hmn, hold⟩ := htaken m t hm
    exact h.others hguard hold nofun fun he =>
      hmn (h.unique m n t (k, client) hold ht (Descriptors.Act.init.inj he).symm)
  · exact h.unique m m' t t' (htaken m t hm).2 (htaken m' t' hm').2 he

theorem Joined.step (h : Joined s) (l : Step) (hl : l.guard s) : Joined (l.effect s) := by
  have hserver : Inv (fun _ => True) (l.effect s).seen := by
    obtain ⟨hallowed, hafter⟩ := Step.seen h hl
    rw [← hafter]
    exact hallowed.inv (fun s l hs hl => hs.step l hl fun _ _ => trivial) h.server
  cases l with
  | server l =>
    refine ⟨h.sockets, hserver, fun n t ht => ?_, h.inside, h.unique⟩
    obtain ⟨sock, hn⟩ := h.accepting n t ht
    exact ⟨sock, (Act.effect_loop (h.lt_loops ht) (h.run_ne hl ht)).trans hn⟩
  | socket l =>
    refine ⟨h.sockets.step l hl.1 False.elim, hserver, h.accepting, fun n t ht => ?_, h.unique⟩
    obtain ⟨hget, hinit⟩ := hl.2 n t.1 t.2 ht
    exact h.others hl.1 ht hget hinit
  | accept n k fd client => exact h.accept hl hserver
  | get n =>
    obtain ⟨k, client, ht, hguard⟩ := hl
    have hsockets := h.sockets.step _ hguard False.elim
    simp only [Step.effect, ht] at hserver ⊢
    refine ⟨hsockets, hserver, h.accepting, fun m t hm => ?_, h.unique⟩
    by_cases hk : t.1 = k
    · rw [hk]
      exact Descriptors.Act.get_accepting (h.inside n (k, client) ht)
    · exact h.others hguard hm (fun he => hk (Descriptors.Act.get.inj he).symm) nofun
  | init n => exact h.init hl hserver

/-- **A run of the server over its `Socket`s is a run of the server**: a connection that `accept_f`
has taken comes into the hands of `startAccept`, for `init` does not fail. -/
theorem system_refines (socks : List Nat) (timeout : UInt64) (files : Nat → Bool) (ls : List Step)
    (h : system.Allowed (.start socks timeout files) ls) :
    tcpServer.Allowed (.bound socks timeout) (ls.flatMap Step.labels) ∧
      tcpServer.after (.bound socks timeout) (ls.flatMap Step.labels)
        = (system.after (.start socks timeout files) ls).seen :=
  h.refines (I := Joined) (fun _ l hs hl => hs.step l hl) (fun _ _ hs hl => Step.seen hs hl)
    (Joined.start socks timeout files)

end Accept
end Tcp
end KitServer
