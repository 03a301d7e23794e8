import Mathlib

/-!
# `TcpServer::bind`: all of the addresses, or none

* `Socket.bind`, `listen`, `close`   over the open files of the process;
* `TcpServer.bind`      the loop over the addresses, and what it does at the end;
* `bindLoop_spec`       the loop, for any answers of the kernel;
* `bind_iff`            the calls that are all or nothing.
-/

set_option linter.unusedVariables false

namespace KitServer
namespace Tcp

/-! ## the kernel -/

structure KernelSocket (Addr : Type) where
  family : Int
  address : Option Addr
  listening : Bool

/-- the open files of the process, by their numbers; there are finitely many -/
@[ext] structure Fds (Addr : Type) where
  file : Nat → Option (KernelSocket Addr)
  finite : ∃ n, ∀ fd, n ≤ fd → file fd = none

def Fds.set {Addr : Type} (fds : Fds Addr) (fd : Nat) (v : Option (KernelSocket Addr)) :
    Fds Addr where
  file := Function.update fds.file fd v
  finite := by
    obtain ⟨n, hn⟩ := fds.finite
    refine ⟨max n (fd + 1), fun fd' h => ?_⟩
    rw [Function.update_of_ne (by omega)]
    exact hn fd' (by omega)

@[simp] theorem Fds.set_file {Addr : Type} (fds : Fds Addr) (fd : Nat)
    (v : Option (KernelSocket Addr)) : (fds.set fd v).file = Function.update fds.file fd v := rfl

@[simp] theorem Fds.set_set {Addr : Type} (fds : Fds Addr) (fd : Nat)
    (v v' : Option (KernelSocket Addr)) : (fds.set fd v).set fd v' = fds.set fd v' :=
  Fds.ext (Function.update_idem _ _ _)

theorem Fds.set_free {Addr : Type} (fds : Fds Addr) (fd : Nat) (h : fds.file fd = none) :
    fds.set fd none = fds := by
  apply Fds.ext
  rw [Fds.set_file, ← h, Function.update_eq_self]

/-- how the kernel numbers a new file: by a number that is free -/
structure Kernel (Addr : Type) where
  newFd : Fds Addr → Nat
  fresh : ∀ fds : Fds Addr, fds.file (newFd fds) = none

/-- the lowest number that is free -/
def Kernel.lowest (Addr : Type) : Kernel Addr where
  newFd fds := Nat.find (p := fun fd => (fds.file fd).isNone = true)
    (fds.finite.imp fun n hn => by rw [hn n le_rfl]; rfl)
  fresh fds := Option.isNone_iff_eq_none.mp (Nat.find_spec (p := fun fd => (fds.file fd).isNone = true)
    (fds.finite.imp fun n hn => by rw [hn n le_rfl]; rfl))

/-- what `socket`, `bind` and `listen` answer for one address -/
structure Attempt where
  socket : Bool
  bind : Bool
  listen : Bool

def Attempt.ok (t : Attempt) : Bool := t.socket && t.bind && t.listen

/-! ## the code -/

/-- `m_fd` is none for -1 -/
structure Socket where
  m_fd : Option Nat
  m_family : Int
deriving DecidableEq

/-- a `Socket::ptr` in a list, and whether there is another one to the same socket elsewhere -/
structure SocketPtr where
  sock : Socket
  shared : Bool
deriving DecidableEq

structure TcpServer where
  m_listenSockets : List SocketPtr

variable {Addr : Type}

namespace Socket

def isValid (s : Socket) : Bool := s.m_fd.isSome

def CreateTCP (getFamily : Addr → Int) (address : Addr) : Socket := ⟨none, getFamily address⟩

def newSocket (k : Kernel Addr) (t : Attempt) (s : Socket) (fds : Fds Addr) : Socket × Fds Addr :=
  if t.socket then
    ({ s with m_fd := some (k.newFd fds) },
      fds.set (k.newFd fds) (some ⟨s.m_family, none, false⟩))
  else ({ s with m_fd := none }, fds)

def bind (getFamily : Addr → Int) (k : Kernel Addr) (t : Attempt) (addr : Addr) (s : Socket)
    (fds : Fds Addr) : Bool × Socket × Fds Addr :=
  let (s, fds) := if !s.isValid then s.newSocket k t fds else (s, fds)
  match s.m_fd with
  | none => (false, s, fds)
  | some fd =>
    if getFamily addr ≠ s.m_family then (false, s, fds)
    else if !t.bind then (false, s, fds)
    else (true, s,
      fds.set fd ((fds.file fd).map fun file => { file with address := some addr }))

def listen (t : Attempt) (s : Socket) (fds : Fds Addr) : Bool × Fds Addr :=
  match s.m_fd with
  | none => (false, fds)
  | some fd =>
    if !t.listen then (false, fds)
    else (true, fds.set fd ((fds.file fd).map fun file => { file with listening := true }))

/-- `close`, as the destructor calls it -/
def close (s : Socket) (fds : Fds Addr) : Fds Addr :=
  match s.m_fd with
  | none => fds
  | some fd => fds.set fd none

end Socket

/-- what the loop of `bind` changes -/
structure Binding (Addr : Type) where
  sockets : List SocketPtr
  out_addrs : List Addr
  fds : Fds Addr

/-- `sock.reset()` on every element: the last pointer to a socket closes it -/
def clear (l : List SocketPtr) (fds : Fds Addr) : Fds Addr :=
  l.foldl (fun fds p => if p.shared then fds else p.sock.close fds) fds

section
variable (getFamily : Addr → Int) (k : Kernel Addr)

/-- one round; a `sock` that is in no list is closed at its end -/
def bindRound (t : Attempt) (x : Addr) (b : Binding Addr) : Binding Addr :=
  let (bound, sock, fds) := (Socket.CreateTCP getFamily x).bind getFamily k t x b.fds
  if !bound then { b with out_addrs := b.out_addrs ++ [x], fds := sock.close fds }
  else
    let (listening, fds) := sock.listen t fds
    if !listening then { b with out_addrs := b.out_addrs ++ [x], fds := sock.close fds }
    else { b with sockets := b.sockets ++ [⟨sock, false⟩], fds := fds }

/-- `answers i` is what the kernel answers for the address `i` -/
def bindLoop (answers : Nat → Attempt) : Nat → List Addr → Binding Addr → Binding Addr
  | _, [], b => b
  | i, x :: in_addrs, b => bindLoop answers (i + 1) in_addrs (bindRound getFamily k (answers i) x b)

/-- `bind` of several addresses; the second component is `out_addrs` then -/
def TcpServer.bind (answers : Nat → Attempt) (in_addrs out_addrs : List Addr) (s : TcpServer)
    (fds : Fds Addr) : Bool × List Addr × TcpServer × Fds Addr :=
  let b := bindLoop getFamily k answers 0 in_addrs ⟨s.m_listenSockets, out_addrs, fds⟩
  if b.out_addrs.length ≠ 0 then (false, b.out_addrs, ⟨[]⟩, clear b.sockets b.fds)
  else (true, b.out_addrs, ⟨b.sockets⟩, b.fds)

/-- `bind` of one address -/
def TcpServer.bindOne (t : Attempt) (addr : Addr) (s : TcpServer) (fds : Fds Addr) :
    Bool × TcpServer × Fds Addr :=
  let r := s.bind getFamily k (fun _ => t) [addr] [] fds
  (r.1, r.2.2)

end

/-! ## all or nothing -/

/-- the addresses from number `i` on for which the kernel refuses something -/
def failing (answers : Nat → Attempt) : Nat → List Addr → List Addr
  | _, [] => []
  | i, x :: xs =>
    if (answers i).ok then failing answers (i + 1) xs else x :: failing answers (i + 1) xs

/-- `p` is a socket of its own that listens on `x` -/
def Listens (getFamily : Addr → Int) (fds : Fds Addr) (x : Addr) (p : SocketPtr) : Prop :=
  ∃ fd, p = ⟨⟨some fd, getFamily x⟩, false⟩ ∧ fds.file fd = some ⟨getFamily x, some x, true⟩

/-- true, with one listening socket more for each address; or false, with the failing addresses, no
file of the call left open, and the list as it was -/
def AllOrNothing (getFamily : Addr → Int) (answers : Nat → Attempt) (in_addrs : List Addr)
    (s : TcpServer) (fds : Fds Addr) (r : Bool × List Addr × TcpServer × Fds Addr) : Prop :=
  (r.1 = true ∧ ∃ added, r.2.2.1.m_listenSockets = s.m_listenSockets ++ added ∧
    List.Forall₂ (Listens getFamily r.2.2.2) in_addrs added ∧
    (added.map fun p => p.sock.m_fd).Nodup) ∨
  (r.1 = false ∧ r.2.1 = failing answers 0 in_addrs ∧
    (∀ fd, fds.file fd = none → r.2.2.2.file fd = none) ∧ r.2.2.1 = s)

/-! ## one round -/

section
variable (getFamily : Addr → Int) (k : Kernel Addr)

/-- the new socket of a round, and the file it has -/
def freshSocket (x : Addr) (fds : Fds Addr) : SocketPtr :=
  ⟨⟨some (k.newFd fds), getFamily x⟩, false⟩

def withFresh (x : Addr) (fds : Fds Addr) : Fds Addr :=
  fds.set (k.newFd fds) (some ⟨getFamily x, some x, true⟩)

theorem bindRound_eq (t : Attempt) (x : Addr) (b : Binding Addr) :
    bindRound getFamily k t x b =
      if t.ok then ⟨b.sockets ++ [freshSocket getFamily k x b.fds], b.out_addrs,
        withFresh getFamily k x b.fds⟩
      else { b with out_addrs := b.out_addrs ++ [x] } := by
  have hfresh := k.fresh b.fds
  obtain ⟨socket, bind, listen⟩ := t
  cases socket <;> cases bind <;> cases listen <;>
    simp [bindRound, Socket.bind, Socket.CreateTCP, Socket.newSocket, Socket.isValid,
      Socket.listen, Socket.close, Attempt.ok, freshSocket, withFresh, Fds.set_free, hfresh]

theorem withFresh_other (x : Addr) (fds : Fds Addr) {fd : Nat} (h : fds.file fd ≠ none) :
    (withFresh getFamily k x fds).file fd = fds.file fd := by
  have hne : fd ≠ k.newFd fds := fun heq => h (heq ▸ k.fresh fds)
  exact Function.update_of_ne hne _ _

/-! ## the loop -/

/-- **The loop**: the addresses without a failure get a socket each, and the others are handed
back. -/
theorem bindLoop_spec (answers : Nat → Attempt) (in_addrs : List Addr) (i : Nat)
    (b : Binding Addr) :
    ∃ added, (bindLoop getFamily k answers i in_addrs b).sockets = b.sockets ++ added ∧
      (bindLoop getFamily k answers i in_addrs b).out_addrs
        = b.out_addrs ++ failing answers i in_addrs ∧
      (failing answers i in_addrs = [] →
        List.Forall₂ (Listens getFamily (bindLoop getFamily k answers i in_addrs b).fds)
          in_addrs added) ∧
      (added.map fun p => p.sock.m_fd).Nodup ∧
      (∀ p ∈ added, p.shared = false ∧ ∀ fd, p.sock.m_fd = some fd → b.fds.file fd = none) ∧
      (∀ fd, b.fds.file fd ≠ none →
        (bindLoop getFamily k answers i in_addrs b).fds.file fd = b.fds.file fd) ∧
      ∀ fd, b.fds.file fd = none → (bindLoop getFamily k answers i in_addrs b).fds.file fd = none ∨
        ∃ p ∈ added, p.sock.m_fd = some fd := by
  induction in_addrs generalizing i b with
  | nil =>
    refine ⟨[], (List.append_nil _).symm, (List.append_nil _).symm, fun _ => .nil, List.nodup_nil,
      fun p hp => absurd hp List.not_mem_nil, fun fd _ => rfl, fun fd h => .inl h⟩
  | cons x in_addrs ih =>
    obtain ⟨added, hsockets, hout, hlisten, hnodup, hnew, hkept, hopen⟩ :=
      ih (i + 1) (bindRound getFamily k (answers i) x b)
    rw [bindLoop, failing]
    rw [bindRound_eq] at hsockets hout hlisten hnew hkept hopen ⊢
    by_cases hok : (answers i).ok = true
    · simp only [if_pos hok] at *
      have hfirst : (withFresh getFamily k x b.fds).file (k.newFd b.fds)
          = some ⟨getFamily x, some x, true⟩ := Function.update_self _ _ _
      refine ⟨freshSocket getFamily k x b.fds :: added, ?_, hout, fun hnone => .cons ?_ (hlisten hnone),
        ?_, fun p hp => ?_, fun fd hfd => ?_, fun fd hfd => ?_⟩
      · rw [hsockets, List.append_assoc, List.singleton_append]
      · refine ⟨k.newFd b.fds, rfl, ?_⟩
        rw [hkept _ (by rw [hfirst]; exact Option.some_ne_none _), hfirst]
      · rw [List.map_cons, List.nodup_cons]
        refine ⟨fun hmem => ?_, hnodup⟩
        -- the number is taken by then
        obtain ⟨p, hp, hfd⟩ := List.mem_map.mp hmem
        have hfree := (hnew p hp).2 _ hfd
        rw [hfirst] at hfree
        cases hfree
      · rcases List.mem_cons.mp hp with rfl | hp
        · refine ⟨rfl, fun fd hfd => ?_⟩
          rw [← Option.some.inj hfd]
          exact k.fresh b.fds
        · refine ⟨(hnew p hp).1, fun fd hfd => ?_⟩
          by_contra hopened
          have hfree := (hnew p hp).2 fd hfd
          rw [withFresh_other getFamily k x b.fds hopened] at hfree
          exact hopened hfree
      · have hsame := withFresh_other getFamily k x b.fds hfd
        rw [hkept fd (by rw [hsame]; exact hfd), hsame]
      · by_cases hfd' : fd = k.newFd b.fds
        · exact .inr ⟨_, List.mem_cons_self, congrArg some hfd'.symm⟩
        · have hsame : (withFresh getFamily k x b.fds).file fd = none := by
            rw [withFresh, Fds.set_file, Function.update_of_ne hfd', hfd]
          rcases hopen fd hsame with hnone | ⟨p, hp, hpfd⟩
          · exact .inl hnone
          · exact .inr ⟨p, List.mem_cons_of_mem _ hp, hpfd⟩
    · simp only [if_neg hok] at *
      refine ⟨added, hsockets, ?_, fun hnone => absurd hnone (List.cons_ne_nil _ _), hnodup, hnew,
        hkept, hopen⟩
      rw [hout, List.append_assoc, List.singleton_append]

/-! ## the end of the call -/

theorem close_none (s : Socket) (fds : Fds Addr) (fd : Nat) (h : fds.file fd = none) :
    (s.close fds).file fd = none := by
  rw [Socket.close]
  cases s.m_fd with
  | none => exact h
  | some fd' =>
    show Function.update fds.file fd' none fd = none
    by_cases heq : fd = fd'
    · rw [heq, Function.update_self]
    · rw [Function.update_of_ne heq, h]

theorem clear_none (l : List SocketPtr) (fds : Fds Addr) (fd : Nat)
    (h : fds.file fd = none ∨ ∃ p ∈ l, p.shared = false ∧ p.sock.m_fd = some fd) :
    (clear l fds).file fd = none := by
  induction l generalizing fds with
  | nil =>
    rcases h with h | ⟨p, hp, _⟩
    · exact h
    · exact absurd hp List.not_mem_nil
  | cons q l ih =>
    rw [clear, List.foldl_cons]
    apply ih
    rcases h with h | ⟨p, hp, hshared, hfd⟩
    · left
      by_cases hq : q.shared = true
      · rw [if_pos hq, h]
      · rw [if_neg hq, close_none _ _ _ h]
    · rcases List.mem_cons.mp hp with rfl | hp
      · left
        rw [if_neg (by rw [hshared]; decide), Socket.close, hfd]
        exact Function.update_self _ _ _
      · exact .inr ⟨p, hp, hshared, hfd⟩

/-- **All or nothing**, exactly where no address fails or the server did not listen before. -/
theorem bind_iff (answers : Nat → Attempt) (in_addrs : List Addr) (s : TcpServer)
    (fds : Fds Addr) :
    AllOrNothing getFamily answers in_addrs s fds (s.bind getFamily k answers in_addrs [] fds) ↔
      failing answers 0 in_addrs = [] ∨ s.m_listenSockets = [] := by
  obtain ⟨added, hsockets, hout, hlisten, hnodup, hnew, _, hopen⟩ :=
    bindLoop_spec getFamily k answers in_addrs 0 ⟨s.m_listenSockets, [], fds⟩
  simp only [List.nil_append] at hout
  by_cases hfail : failing answers 0 in_addrs = []
  · have hbind : s.bind getFamily k answers in_addrs [] fds = (true, [],
        ⟨s.m_listenSockets ++ added⟩,
        (bindLoop getFamily k answers 0 in_addrs ⟨s.m_listenSockets, [], fds⟩).fds) := by
      simp [TcpServer.bind, hout, hfail, hsockets]
    rw [hbind]
    exact iff_of_true (.inl ⟨rfl, added, rfl, hlisten hfail, hnodup⟩) (.inl hfail)
  · have hbind : s.bind getFamily k answers in_addrs [] fds = (false, failing answers 0 in_addrs,
        ⟨[]⟩, clear (s.m_listenSockets ++ added)
          (bindLoop getFamily k answers 0 in_addrs ⟨s.m_listenSockets, [], fds⟩).fds) := by
      simp [TcpServer.bind, hout, hfail, hsockets]
    rw [hbind]
    constructor
    · rintro (⟨htrue, _⟩ | ⟨_, _, _, hsame⟩)
      · exact absurd htrue Bool.false_ne_true
      · exact .inr (congrArg TcpServer.m_listenSockets hsame).symm
    · rintro (hnone | hempty)
      · exact absurd hnone hfail
      · refine .inr ⟨rfl, rfl, fun fd hfd => clear_none _ _ _ ?_, ?_⟩
        · rcases hopen fd hfd with hnone | ⟨p, hp, hpfd⟩
          · exact .inl hnone
          · exact .inr ⟨p, List.mem_append_right _ hp, (hnew p hp).1, hpfd⟩
        · rw [← hempty]

theorem bindOne_eq (t : Attempt) (addr : Addr) (s : TcpServer) (fds : Fds Addr) :
    s.bindOne getFamily k t addr fds =
      if t.ok then
        (true, ⟨s.m_listenSockets ++ [freshSocket getFamily k addr fds]⟩,
          withFresh getFamily k addr fds)
      else (false, ⟨[]⟩, clear s.m_listenSockets fds) := by
  cases hok : t.ok <;> simp [TcpServer.bindOne, TcpServer.bind, bindLoop, bindRound_eq, hok]

end

/-- **The sockets of an earlier call are lost**: a server that listens, and one more address for
which the kernel refuses the socket. -/
theorem bind_forgets : ¬ ∀ (k : Kernel Unit) (answers : Nat → Attempt) (in_addrs : List Unit)
    (s : TcpServer) (fds : Fds Unit), AllOrNothing (fun _ => 2) answers in_addrs s fds
      (s.bind (fun _ => 2) k answers in_addrs [] fds) := by
  intro h
  have hone := h (.lowest Unit) (fun _ => ⟨false, false, false⟩) [()] ⟨[⟨⟨some 3, 2⟩, true⟩]⟩
    ⟨fun fd => if fd = 3 then some ⟨2, some (), true⟩ else none,
      4, fun fd hfd => if_neg (by omega)⟩
  rcases hone with ⟨htrue, _⟩ | ⟨_, _, _, hsame⟩
  · cases htrue
  · cases congrArg TcpServer.m_listenSockets hsame

end Tcp
end KitServer
