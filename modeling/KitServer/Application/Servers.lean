import KitServer.Address.Interfaces
import KitServer.Config.HttpServerConf
import KitServer.Http.HttpServer
import KitServer.TcpServer
import KitServer.TcpServer.Accept
import KitServer.Uri.Port

/-!
# `Application::run_coroutine`: from the configuration to the listening sockets

The coroutine runs on one thread and waits for nothing, so its calls come one after the other.  The
system answers each of them as it likes.

* `addressesFrom`       the addresses of one server;
* `run_coroutine`       the loop over the configuration;
* `spawn_all`, `bind_fresh`  what `start` and `bind` give for one server;
* `run_coroutine_spec`  the servers that listen, or why there are none.
-/

set_option linter.unusedVariables false

namespace KitServer
namespace Application
open Http (Str asc atoi HttpServer)
open Address (Object Ifaddrs AF_UNSPEC)
open Config (HttpServerConf)
open Tcp (Kernel Fds Attempt TcpServer Listens failing bindLoop bindLoop_spec)

/-! ## the code -/

/-- what the calls for one address are answered -/
structure Network where
  getaddrinfo : Address.Resolver
  getifaddrs : Option (List Ifaddrs)

/-- `getFamily` of the four classes -/
def getFamily : Object → Int
  | .ip (.v4 s) => s.sin_family.toNat
  | .ip (.v6 s) => s.sin6_family.toNat
  | .unix s => s.sa_family.toNat
  | .unknown s => s.sa_family.toNat

section
variable (host : Endian)

/-- what one round puts into `address`, where a null pointer is none; there is no result when a null
pointer is followed -/
def addressOf (net : Network) (x : Str) : Option (List (Option Object)) :=
  match x.findIdx? (· = 58) with
  | none => some []
  | some pos =>
    match Address.LookUpAny net.getaddrinfo host x 2 0 0 with
    | some addr => some [some addr]
    | none =>
      (Address.GetInertfaceAddresses host AF_UNSPEC net.getifaddrs [] (x.take pos)).map fun found =>
        if !found.1 then []
        else found.2.map fun i => i.1.asIPAddress.map fun ipaddr =>
          .ip (ipaddr.setPort host (BitVec.ofInt 16 (atoi (x.drop (pos + 1)))))

/-- `net j` answers for the address `j` -/
def addressesFrom (net : Nat → Network) : Nat → List Str → Option (List (Option Object))
  | _, [] => some []
  | j, x :: xs =>
    (addressOf host (net j) x).bind fun here =>
      (addressesFrom net (j + 1) xs).map fun rest => here ++ rest

end

/-- an `HttpServer` with its base class, and its runs of `startAccept` -/
structure Serving where
  http : HttpServer
  tcp : TcpServer
  accepting : Tcp.Accept.Server

/-- the descriptors of the listening sockets -/
def Serving.fds (v : Serving) : List Nat := v.tcp.m_listenSockets.filterMap fun p => p.sock.m_fd

/-- `start` and `setName` on a server that is bound -/
def serve (conf : HttpServerConf) (read_timeout : UInt64) (tcp : TcpServer) : Serving where
  http :=
    if conf.name.length ≠ 0 then (HttpServer.new (conf.keepalive ≠ 0)).setName conf.name
    else HttpServer.new (conf.keepalive ≠ 0)
  tcp := tcp
  accepting :=
    (Tcp.Accept.Server.bound (tcp.m_listenSockets.filterMap fun p => p.sock.m_fd)
      read_timeout).start

/-- what the system answers for the address `j` of the server `i`, and the value of
`tcp_server.read_timeout` when the server `i` is made -/
structure Outside where
  net : Nat → Nat → Network
  attempt : Nat → Nat → Attempt
  read_timeout : Nat → UInt64

/-- `exited` is `_exit(0)`; behind `crashed` there is a null pointer -/
inductive Ended where
  | returned (m_servers : Str → List Serving) (fds : Fds Object)
  | exited
  | crashed

/-- `m_servers` is the vector under each name, which is empty for a name that is no key -/
def run_coroutine (host : Endian) (k : Kernel Object) (o : Outside) :
    Nat → List HttpServerConf → (Str → List Serving) → Fds Object → Ended
  | _, [], m_servers, fds => .returned m_servers fds
  | i, conf :: server_conf, m_servers, fds =>
    match addressesFrom host (o.net i) 0 conf.address with
    | none => .crashed
    | some address =>
      if none ∈ address then .crashed
      else
        let r := (TcpServer.mk []).bind getFamily k (o.attempt i) (address.filterMap id) [] fds
        if !r.1 then .exited
        else
          let server := serve conf (o.read_timeout i) r.2.2.1
          run_coroutine host k o (i + 1) server_conf
            (Function.update m_servers conf.name (m_servers conf.name ++ [server])) r.2.2.2

/-- `getServer`, where none is false -/
def getServer (m_servers : Str → List Serving) (type : Str) : Option (List Serving) :=
  if m_servers type = [] then none else some (m_servers type)

/-! ## the addresses of a server -/

section
variable {host : Endian}

/-- **No null pointer gets into `address`**: the cast of what an interface has never fails. -/
theorem addressOf_some {net : Network} {x : Str} {l : List (Option Object)}
    (h : addressOf host net x = some l) : none ∉ l := by
  rw [addressOf] at h
  split at h
  · rw [← Option.some.inj h]
    exact List.not_mem_nil
  · split at h
    · rw [← Option.some.inj h]
      simp
    · obtain ⟨⟨ok, l'⟩, hfound, hl⟩ := Option.map_eq_some_iff.mp h
      rw [← hl]
      split
      · exact List.not_mem_nil
      · intro hmem
        obtain ⟨pair, hpair, hnone⟩ := List.mem_map.mp hmem
        have hip := Address.ip_of_interface hfound pair hpair
        rw [Option.map_eq_none_iff.mp hnone] at hip
        cases hip

theorem addressesFrom_some {net : Nat → Network} (xs : List Str) :
    ∀ (j : Nat) (l : List (Option Object)), addressesFrom host net j xs = some l → none ∉ l := by
  induction xs with
  | nil =>
    intro j l h
    rw [← Option.some.inj h]
    exact List.not_mem_nil
  | cons x xs ih =>
    intro j l h
    obtain ⟨here, hhere, hmap⟩ := Option.bind_eq_some_iff.mp h
    obtain ⟨rest, hrest, rfl⟩ := Option.map_eq_some_iff.mp hmap
    rw [List.mem_append]
    exact not_or_intro (addressOf_some hhere) (ih _ _ hrest)

/-- `getifaddrs` is asked for the address, and lists an entry with which `GetInertfaceAddresses`
follows a null pointer -/
def Null (host : Endian) (net : Network) (x : Str) : Prop :=
  58 ∈ x ∧ Address.LookUpAny net.getaddrinfo host x 2 0 0 = none ∧
    ∃ results, net.getifaddrs = some results ∧ ∃ y ∈ results, y.read host AF_UNSPEC = none

theorem addressOf_none {net : Network} {x : Str} (h : addressOf host net x = none) :
    Null host net x := by
  rw [addressOf] at h
  split at h
  · cases h
  · next pos hpos =>
    have hcolon : 58 ∈ x := by
      obtain ⟨hlt, hbyte, _⟩ := List.findIdx?_eq_some_iff_getElem.mp hpos
      exact of_decide_eq_true hbyte ▸ List.getElem_mem hlt
    split at h
    · cases h
    · next hlookUp =>
      exact ⟨hcolon, hlookUp, Address.exists_null (Option.map_eq_none_iff.mp h)⟩

theorem addressesFrom_none {net : Nat → Network} (xs : List Str) :
    ∀ j : Nat, addressesFrom host net j xs = none →
      ∃ n x, xs[n]? = some x ∧ Null host (net (j + n)) x := by
  induction xs with
  | nil =>
    intro j h
    cases h
  | cons x xs ih =>
    intro j h
    rw [addressesFrom] at h
    cases hhere : addressOf host (net j) x with
    | none => exact ⟨0, x, rfl, addressOf_none hhere⟩
    | some here =>
      rw [hhere] at h
      obtain ⟨n, y, hy, hnull⟩ := ih (j + 1) (Option.map_eq_none_iff.mp h)
      exact ⟨n + 1, y, hy, by rwa [Nat.add_assoc, Nat.add_comm 1 n] at hnull⟩

end

theorem map_some_filterMap {α : Type} {l : List (Option α)} (h : none ∉ l) :
    l = (l.filterMap id).map some := by
  induction l with
  | nil => rfl
  | cons x l ih =>
    rw [List.mem_cons, not_or] at h
    cases x with
    | none => exact absurd rfl h.1
    | some x => exact congrArg (some x :: ·) (ih h.2)

/-! ## one server -/

theorem spawn_all (socks : List Nat) (s : Tcp.Accept.Server) :
    let s' := socks.foldl Tcp.Accept.Server.spawn s
    s'.loops = s.loops + socks.length ∧ s'.m_recvTimeout = s.m_recvTimeout ∧
      (∀ m, m < s.loops → s'.loop m = s.loop m) ∧
      ∀ n sock, socks[n]? = some sock → s'.loop (s.loops + n) = .scheduled sock := by
  induction socks generalizing s with
  | nil =>
    refine ⟨rfl, rfl, fun _ _ => rfl, fun n sock hn => ?_⟩
    cases hn
  | cons first socks ih =>
    obtain ⟨hloops, htimeout, hold, hnew⟩ := ih (s.spawn first)
    have hone : (s.spawn first).loops = s.loops + 1 := rfl
    rw [hone] at hloops hold hnew
    refine ⟨?_, htimeout, fun m hm => ?_, fun n sock hn => ?_⟩
    · rw [List.foldl_cons, hloops, List.length_cons]
      omega
    · exact (hold m (by omega)).trans (Function.update_of_ne (by omega) _ _)
    · cases n with
      | zero =>
        rw [List.getElem?_cons_zero] at hn
        rw [← Option.some.inj hn]
        exact (hold s.loops (by omega)).trans (Function.update_self _ _ _)
      | succ n =>
        have hlast := hnew n sock hn
        rwa [Nat.add_assoc, Nat.add_comm 1 n] at hlast

/-- `bind` on a new server -/
theorem bind_fresh (k : Kernel Object) (answers : Nat → Attempt) (addrs : List Object)
    (fds : Fds Object) :
    let r := (TcpServer.mk []).bind getFamily k answers addrs [] fds
    if failing answers 0 addrs = [] then
      r.1 = true ∧ List.Forall₂ (Listens getFamily r.2.2.2) addrs r.2.2.1.m_listenSockets ∧
        (r.2.2.1.m_listenSockets.filterMap fun p => p.sock.m_fd).Nodup ∧
        (∀ fd ∈ r.2.2.1.m_listenSockets.filterMap fun p => p.sock.m_fd, fds.file fd = none) ∧
        ∀ fd, fds.file fd ≠ none → r.2.2.2.file fd = fds.file fd
    else r.1 = false := by
  obtain ⟨added, hsockets, hout, hlisten, hnodup, hnew, hkept, -⟩ :=
    bindLoop_spec getFamily k answers addrs 0 ⟨[], [], fds⟩
  rw [List.nil_append] at hsockets hout
  intro r
  split
  · next hnone =>
    have hr : r = (true, [], ⟨added⟩,
        (bindLoop getFamily k answers 0 addrs ⟨[], [], fds⟩).fds) := by
      show TcpServer.bind getFamily k answers addrs [] (TcpServer.mk []) fds = _
      rw [TcpServer.bind]
      simp [hout, hnone, hsockets]
    rw [hr]
    refine ⟨rfl, hlisten hnone, ?_, fun fd hfd => ?_, hkept⟩
    · have hids : (added.filterMap fun p => p.sock.m_fd)
          = (added.map fun p => p.sock.m_fd).filterMap id := by
        rw [List.filterMap_map]
        rfl
      show (added.filterMap fun p => p.sock.m_fd).Nodup
      rw [hids]
      refine hnodup.filterMap fun a a' b ha ha' => ?_
      exact (Option.mem_def.mp ha).trans (Option.mem_def.mp ha').symm
    · obtain ⟨p, hp, hpfd⟩ := List.mem_filterMap.mp hfd
      exact (hnew p hp).2 fd hpfd
  · next hsome =>
    show (TcpServer.bind getFamily k answers addrs [] (TcpServer.mk []) fds).1 = false
    rw [TcpServer.bind]
    simp [hout, hsome]

/-- a server as its entry of the configuration asks for it, all but `recv_timeout`, which the loop
does not read: a socket that listens for each address, a run of `startAccept` for each socket -/
structure Serves (host : Endian) (o : Outside) (fds : Fds Object) (c : HttpServerConf × Nat)
    (v : Serving) : Prop where
  listens : ∃ addrs : List Object,
    addressesFrom host (o.net c.2) 0 c.1.address = some (addrs.map some) ∧
      List.Forall₂ (Listens getFamily fds) addrs v.tcp.m_listenSockets
  loops : v.accepting.loops = v.fds.length
  accepts : ∀ n sock, v.fds[n]? = some sock → v.accepting.loop n = .scheduled sock
  m_recvTimeout : v.accepting.m_recvTimeout = o.read_timeout c.2
  m_isKeepalive : v.http.m_isKeepalive = decide (c.1.keepalive ≠ 0)
  m_name : v.http.m_name = if c.1.name = [] then asc "kit/1.0.0" else c.1.name

section
variable {host : Endian} {k : Kernel Object} {o : Outside} {i : Nat}

theorem serve_serves {fds : Fds Object} {c : HttpServerConf × Nat} {addrs : List Object}
    {tcp : TcpServer}
    (haddrs : addressesFrom host (o.net c.2) 0 c.1.address = some (addrs.map some))
    (hlisten : List.Forall₂ (Listens getFamily fds) addrs tcp.m_listenSockets) :
    Serves host o fds c (serve c.1 (o.read_timeout c.2) tcp) := by
  obtain ⟨hloops, htimeout, -, hnew⟩ := spawn_all
    (tcp.m_listenSockets.filterMap fun p => p.sock.m_fd)
    { Tcp.Accept.Server.bound (tcp.m_listenSockets.filterMap fun p => p.sock.m_fd)
        (o.read_timeout c.2) with m_stopped := false }
  refine ⟨⟨addrs, haddrs, hlisten⟩, hloops.trans (Nat.zero_add _), fun n sock hn => ?_, htimeout,
    ?_, ?_⟩
  · have hlast : (serve c.1 (o.read_timeout c.2) tcp).accepting.loop (0 + n) = .scheduled sock :=
      hnew n sock hn
    rwa [Nat.zero_add] at hlast
  · simp only [serve]
    split <;> rfl
  · simp only [serve, ne_eq, List.length_eq_zero_iff]
    by_cases hname : c.1.name = []
    · simp [hname, HttpServer.new]
    · simp [hname, HttpServer.setName]

theorem Serves.kept {fds fds' : Fds Object} {c : HttpServerConf × Nat} {v : Serving}
    (h : Serves host o fds c v) (hkept : ∀ fd, fds.file fd ≠ none → fds'.file fd = fds.file fd) :
    Serves host o fds' c v := by
  obtain ⟨addrs, haddrs, hlisten⟩ := h.listens
  refine ⟨⟨addrs, haddrs, hlisten.imp fun x p hp => ?_⟩, h.loops, h.accepts, h.m_recvTimeout,
    h.m_isKeepalive, h.m_name⟩
  obtain ⟨fd, hp, hfile⟩ := hp
  refine ⟨fd, hp, ?_⟩
  rw [hkept fd (by rw [hfile]; exact Option.some_ne_none _), hfile]

theorem Serves.opened {fds : Fds Object} {c : HttpServerConf × Nat} {v : Serving}
    (h : Serves host o fds c v) {fd : Nat} (hfd : fd ∈ v.fds) : fds.file fd ≠ none := by
  obtain ⟨addrs, -, hlisten⟩ := h.listens
  obtain ⟨p, hp, hpfd⟩ := List.mem_filterMap.mp hfd
  have hall : ∀ p ∈ v.tcp.m_listenSockets, ∃ x, Listens getFamily fds x p := by
    intro p hp
    obtain ⟨n, hn, rfl⟩ := List.getElem_of_mem hp
    have hn' : n < addrs.length := by rw [hlisten.length_eq]; exact hn
    exact ⟨_, hlisten.get hn' hn⟩
  obtain ⟨x, fd', rfl, hfile⟩ := hall p hp
  rw [← Option.some.inj hpfd, hfile]
  exact Option.some_ne_none _

/-! ## the loop -/

/-- the servers of the entries from number `i` on, with the files and `m_servers` in front of them
and behind them -/
structure Listening (host : Endian) (o : Outside) (i : Nat) (server_conf : List HttpServerConf)
    (m_servers : Str → List Serving) (fds : Fds Object) (m_servers' : Str → List Serving)
    (fds' : Fds Object) (served : List Serving) : Prop where
  serves : List.Forall₂ (Serves host o fds') (server_conf.zipIdx i) served
  nodup : (served.flatMap Serving.fds).Nodup
  free : ∀ fd ∈ served.flatMap Serving.fds, fds.file fd = none
  kept : ∀ fd, fds.file fd ≠ none → fds'.file fd = fds.file fd
  m_servers : ∀ type, m_servers' type = m_servers type ++
    ((server_conf.zip served).filter fun c => c.1.name = type).map Prod.snd

/-- an address of a server for which the kernel refuses something -/
def Refused (host : Endian) (o : Outside) (c : HttpServerConf × Nat) : Prop :=
  ∃ addrs : List Object, addressesFrom host (o.net c.2) 0 c.1.address = some (addrs.map some) ∧
    failing (o.attempt c.2) 0 addrs ≠ []

/-- an address of a server for which a null pointer is followed -/
def Crashed (host : Endian) (o : Outside) (c : HttpServerConf × Nat) : Prop :=
  ∃ j x, c.1.address[j]? = some x ∧ Null host (o.net c.2 j) x

def Outcome (host : Endian) (o : Outside) (i : Nat) (server_conf : List HttpServerConf)
    (m_servers : Str → List Serving) (fds : Fds Object) : Ended → Prop
  | .returned m_servers' fds' =>
    ∃ served, Listening host o i server_conf m_servers fds m_servers' fds' served
  | .exited => ∃ c ∈ server_conf.zipIdx i, Refused host o c
  | .crashed => ∃ c ∈ server_conf.zipIdx i, Crashed host o c

/-- one server in front of the others -/
theorem Listening.cons {conf : HttpServerConf} {server_conf : List HttpServerConf}
    {m_servers m_servers' : Str → List Serving} {fds fds₁ fds' : Fds Object} {v : Serving}
    {served : List Serving} (hv : Serves host o fds₁ (conf, i) v) (hnodup : v.fds.Nodup)
    (hfree : ∀ fd ∈ v.fds, fds.file fd = none)
    (hkept : ∀ fd, fds.file fd ≠ none → fds₁.file fd = fds.file fd)
    (h : Listening host o (i + 1) server_conf
      (Function.update m_servers conf.name (m_servers conf.name ++ [v])) fds₁ m_servers' fds'
      served) :
    Listening host o i (conf :: server_conf) m_servers fds m_servers' fds' (v :: served) where
  serves := .cons (hv.kept h.kept) h.serves
  nodup := by
    rw [List.flatMap_cons]
    refine hnodup.append h.nodup fun fd hfd hlater => ?_
    exact hv.opened hfd (h.free fd hlater)
  free fd hfd := by
    rw [List.flatMap_cons, List.mem_append] at hfd
    rcases hfd with hfd | hfd
    · exact hfree fd hfd
    · by_contra hopen
      have hfile := h.free fd hfd
      rw [hkept fd hopen] at hfile
      exact hopen hfile
  kept fd hfd := by
    have hsame := hkept fd hfd
    rw [h.kept fd (by rw [hsame]; exact hfd), hsame]
  m_servers type := by
    rw [h.m_servers type, List.zip_cons_cons, List.filter_cons, Function.update_apply]
    by_cases htype : conf.name = type
    · simp [htype]
    · simp [htype, Ne.symm htype]

theorem Outcome.cons {conf : HttpServerConf} {server_conf : List HttpServerConf}
    {m_servers : Str → List Serving} {fds fds₁ : Fds Object} {v : Serving} {ended : Ended}
    (hv : Serves host o fds₁ (conf, i) v) (hnodup : v.fds.Nodup)
    (hfree : ∀ fd ∈ v.fds, fds.file fd = none)
    (hkept : ∀ fd, fds.file fd ≠ none → fds₁.file fd = fds.file fd)
    (h : Outcome host o (i + 1) server_conf
      (Function.update m_servers conf.name (m_servers conf.name ++ [v])) fds₁ ended) :
    Outcome host o i (conf :: server_conf) m_servers fds ended := by
  cases ended with
  | returned m_servers' fds' =>
    obtain ⟨served, hserved⟩ := h
    exact ⟨v :: served, hserved.cons hv hnodup hfree hkept⟩
  | exited =>
    obtain ⟨c, hc, hrefused⟩ := h
    exact ⟨c, List.mem_cons_of_mem _ hc, hrefused⟩
  | crashed =>
    obtain ⟨c, hc, hcrashed⟩ := h
    exact ⟨c, List.mem_cons_of_mem _ hc, hcrashed⟩

theorem run_coroutine_outcome (host : Endian) (k : Kernel Object) (o : Outside)
    (server_conf : List HttpServerConf) : ∀ (i : Nat) (m_servers : Str → List Serving)
      (fds : Fds Object),
      Outcome host o i server_conf m_servers fds
        (run_coroutine host k o i server_conf m_servers fds) := by
  induction server_conf with
  | nil =>
    intro i m_servers fds
    refine ⟨[], .nil, List.nodup_nil, fun fd hfd => absurd hfd List.not_mem_nil, fun _ _ => rfl,
      fun type => ?_⟩
    exact (List.append_nil _).symm
  | cons conf server_conf ih =>
    intro i m_servers fds
    rw [run_coroutine]
    cases haddress : addressesFrom host (o.net i) 0 conf.address with
    | none =>
      obtain ⟨j, x, hx, hnull⟩ := addressesFrom_none conf.address 0 haddress
      exact ⟨(conf, i), List.mem_cons_self, j, x, hx, by rwa [Nat.zero_add] at hnull⟩
    | some address =>
      have hno := addressesFrom_some conf.address 0 address haddress
      have haddrs : addressesFrom host (o.net i) 0 conf.address
          = some ((address.filterMap id).map some) := by
        rw [haddress, ← map_some_filterMap hno]
      have hbind := bind_fresh k (o.attempt i) (address.filterMap id) fds
      simp only [if_neg hno]
      by_cases hfail : failing (o.attempt i) 0 (address.filterMap id) = []
      · rw [if_pos hfail] at hbind
        obtain ⟨htrue, hlisten, hnodup, hfree, hkept⟩ := hbind
        rw [htrue]
        exact Outcome.cons (serve_serves (c := (conf, i)) haddrs hlisten) hnodup hfree hkept
          (ih _ _ _)
      · rw [if_neg hfail] at hbind
        rw [hbind]
        exact ⟨(conf, i), List.mem_cons_self, _, haddrs, hfail⟩

/-- **The loop returns with a server for each entry of the configuration**, all of them listening on
sockets of their own; or an address is refused and the process exits; or a null pointer is followed
because the system lists an interface with one when it is asked for an address.  No address that was
collected is null, and the files that were open stay as they are. -/
theorem run_coroutine_spec (host : Endian) (k : Kernel Object) (o : Outside)
    (server_conf : List HttpServerConf) (i : Nat) (m_servers : Str → List Serving)
    (fds : Fds Object) :
    Outcome host o i server_conf m_servers fds
      (run_coroutine host k o i server_conf m_servers fds) ∧
    ∀ c ∈ server_conf.zipIdx i, ∀ address,
      addressesFrom host (o.net c.2) 0 c.1.address = some address → none ∉ address :=
  ⟨run_coroutine_outcome host k o server_conf i m_servers fds,
    fun c _ address => addressesFrom_some c.1.address 0 address⟩

/-- **`getServer`** behind a loop that has returned: the servers of the entries with that name. -/
theorem getServer_run {server_conf : List HttpServerConf} {fds : Fds Object}
    {m_servers : Str → List Serving} {fds' : Fds Object}
    (h : run_coroutine host k o 0 server_conf (fun _ => []) fds = .returned m_servers fds') :
    ∃ served, Listening host o 0 server_conf (fun _ => []) fds m_servers fds' served ∧
      ∀ type, getServer m_servers type =
        if type ∈ server_conf.map HttpServerConf.name then
          some (((server_conf.zip served).filter fun c => c.1.name = type).map Prod.snd)
        else none := by
  have hspec := run_coroutine_outcome host k o server_conf 0 (fun _ => []) fds
  rw [h] at hspec
  obtain ⟨served, hserved⟩ := hspec
  refine ⟨served, hserved, fun type => ?_⟩
  have hlen : server_conf.length = served.length := by
    rw [← hserved.serves.length_eq, List.length_zipIdx]
  have hmap : (server_conf.zip served).map Prod.fst = server_conf :=
    List.map_fst_zip hlen.le
  have hkey : m_servers type = [] ↔ type ∉ server_conf.map HttpServerConf.name := by
    rw [hserved.m_servers type, List.nil_append, List.map_eq_nil_iff, List.filter_eq_nil_iff]
    conv_rhs => rw [← hmap, List.map_map, List.mem_map]
    simp
  rw [getServer]
  by_cases htype : type ∈ server_conf.map HttpServerConf.name
  · rw [if_pos htype, if_neg (fun hnil => hkey.mp hnil htype), hserved.m_servers type]
    rfl
  · rw [if_neg htype, if_pos (hkey.mpr htype)]

end

end Application
end KitServer
