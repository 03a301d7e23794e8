import KitServer.FdManager
import KitServer.Lib.Ownership

/-!
# The descriptors of the `Socket`s

Calls on many `Socket`s, in any order; a label is one system call, one look into `FdManager`, or an
assignment to `m_fd`.  A `Socket` is in one call at a time.  `FdManager` is the map that its slots
are, and `t_hook_enable` of the calling thread stands in the label of a call that reads it.

* `Socket.held`        the descriptor that a `Socket` has to close;
* `Good`, `Managed`    what holds of it, in general and when every call is hooked;
* `descriptors_owned`  no descriptor is lost, shared, or closed for another `Socket`;
* `timeouts_own`       no `Socket` gets what was set on another;
* `stale_timeout`      a thread that is not hooked closes a descriptor.
-/

set_option linter.unusedVariables false

namespace KitServer
namespace Descriptors
open FdManager (FdCtx TimeoutType)

inductive File where
  | closed
  -- opened by other code
  | foreign
  | socket (nonblock : Bool)
deriving DecidableEq

/-- the file of the kernel, and the object of `FdManager` -/
structure Desc where
  file : File
  ctx : Option FdCtx
deriving DecidableEq

/-- where the call on a `Socket` stands -/
inductive Call where
  | idle
  -- `newSocket()`: behind `socket_f`, and in front of the assignment
  | creating (fd : Nat) (udp : Bool)
  | assigning (fd : Nat) (udp : Bool)
  -- the `Socket` of `accept()`: behind `accept_f`, and in front of `init`
  | accepted (fd : Nat)
  | initializing (fd : Nat)
  -- `close()`: in front of `FdMgr::get` and `del`, of `close_f`, and of the assignment
  | closing (fd : Nat)
  | releasing (fd : Nat)
  | clearing
deriving DecidableEq

/-- `m_fd` is none for -1; `asked` is what the timeouts of the descriptor were last set to -/
structure Socket where
  m_fd : Option Nat
  m_isConnectd : Bool
  call : Call
  asked : TimeoutType → Int64

structure State where
  sock : Nat → Socket
  desc : Nat → Desc

inductive Act where
  -- `udp`: the call is made by `CreateUDP`, which sets `m_isConnectd` behind it
  | newSocket (k : Nat) (t_hook_enable udp : Bool) (fd : Option Nat)
  | get (k : Nat)
  | assign (k : Nat)
  | connect (k : Nat) (t_hook_enable ok : Bool)
  -- `sock->init(fd)` is called on the new `Socket` `k`
  | accept (listening k : Nat) (fd : Option Nat)
  | init (k : Nat)
  | setTimeout (k : Nat) (t_hook_enable : Bool) (type : TimeoutType) (val : Int64)
  | close (k : Nat) (t_hook_enable : Bool)
  | del (k : Nat)
  | release (k : Nat)
  | clear (k : Nat)
  | openForeign (fd : Nat)
  | closeForeign (fd : Nat)

/-! ## the calls -/

def File.stat : File → Option Bool
  | .closed => none
  | .foreign => some false
  | .socket _ => some true

/-- `FdMgr::get(fd, true)`; the constructor of a new object sets `O_NONBLOCK` on a socket -/
def Desc.get (fd : Nat) (d : Desc) : Desc :=
  match d.ctx with
  | some _ => d
  | none =>
    match d.file with
    | .socket _ => ⟨.socket true, some (.new fd d.file.stat)⟩
    | file => ⟨file, some (.new fd d.file.stat)⟩

/-- `setSendTimeout` and `setRecvTimeout` make a `timeval` of `val`, and `setsockopt` takes it
apart -/
def timeoutOf (val : Int64) : UInt64 :=
  let tv_sec := val / 1000
  let tv_usec := val % 1000 * 1000
  (tv_sec * 1000 + tv_usec / 1000).toUInt64

/-- `getSendTimeout` and `getRecvTimeout` -/
def getTimeout (type : TimeoutType) (x : Socket) (desc : Nat → Desc) : Int64 :=
  match x.m_fd with
  | none => -1
  | some fd =>
    match (desc fd).ctx with
    | some ctx => (ctx.getTimeout type).toInt64
    | none => -1

def State.setSock (s : State) (k : Nat) (x : Socket) : State :=
  { s with sock := Function.update s.sock k x }

def State.setDesc (s : State) (fd : Nat) (d : Desc) : State :=
  { s with desc := Function.update s.desc fd d }

/-- `close()` up to the first call out of it -/
def Socket.close (t_hook_enable : Bool) (x : Socket) : Socket :=
  match x.m_fd with
  | none => { x with m_isConnectd := false }
  | some fd =>
    { x with
      m_isConnectd := false
      call := if t_hook_enable then .closing fd else .releasing fd }

def Act.effect (s : State) : Act → State
  | .newSocket k t_hook_enable udp fd =>
    match fd with
    | none => s.setSock k { s.sock k with m_isConnectd := (s.sock k).m_isConnectd || udp }
    | some fd =>
      (s.setSock k { s.sock k with
        call := if t_hook_enable then .creating fd udp else .assigning fd udp }).setDesc fd
          { s.desc fd with file := .socket false }
  | .get k =>
    match (s.sock k).call with
    | .creating fd udp =>
      (s.setSock k { s.sock k with call := .assigning fd udp }).setDesc fd ((s.desc fd).get fd)
    | .accepted fd =>
      (s.setSock k { s.sock k with call := .initializing fd }).setDesc fd ((s.desc fd).get fd)
    | _ => s
  | .assign k =>
    match (s.sock k).call with
    | .assigning fd udp =>
      s.setSock k ⟨some fd, (s.sock k).m_isConnectd || udp, .idle, fun _ => -1⟩
    | _ => s
  | .connect k t_hook_enable ok =>
    if ok then s.setSock k { s.sock k with m_isConnectd := true }
    else s.setSock k ((s.sock k).close t_hook_enable)
  | .accept _ k fd =>
    match fd with
    | none => s
    | some fd =>
      (s.setSock k { s.sock k with call := .accepted fd }).setDesc fd
        { s.desc fd with file := .socket false }
  | .init k =>
    match (s.sock k).call with
    | .initializing fd =>
      match (s.desc fd).ctx with
      | some ctx =>
        if ctx.isSocket && !ctx.isClosed then s.setSock k ⟨some fd, true, .idle, fun _ => -1⟩
        else s.setSock k { s.sock k with call := .idle }
      | none => s.setSock k { s.sock k with call := .idle }
    | _ => s
  | .setTimeout k t_hook_enable type val =>
    match (s.sock k).m_fd with
    | none => s
    | some fd =>
      let x := { s.sock k with asked := Function.update (s.sock k).asked type val }
      if t_hook_enable then
        (s.setSock k x).setDesc fd
          { s.desc fd with ctx := (s.desc fd).ctx.map (·.setTimeout type (timeoutOf val)) }
      else s.setSock k x
  | .close k t_hook_enable => s.setSock k ((s.sock k).close t_hook_enable)
  | .del k =>
    match (s.sock k).call with
    | .closing fd =>
      (s.setSock k { s.sock k with call := .releasing fd }).setDesc fd
        { s.desc fd with ctx := none }
    | _ => s
  | .release k =>
    match (s.sock k).call with
    | .releasing fd =>
      (s.setSock k { s.sock k with call := .clearing }).setDesc fd
        { s.desc fd with file := .closed }
    | _ => s
  | .clear k => s.setSock k { s.sock k with m_fd := none, call := .idle }
  | .openForeign fd => s.setDesc fd { s.desc fd with file := .foreign }
  | .closeForeign fd => s.setDesc fd { s.desc fd with file := .closed }

/-- the kernel gives out a descriptor that is closed -/
def State.Fresh (s : State) (fd : Option Nat) : Prop := ∀ n ∈ fd, (s.desc n).file = .closed

def Act.guard (s : State) : Act → Prop
  | .newSocket k _ _ fd => (s.sock k).call = .idle ∧ (s.sock k).m_fd = none ∧ s.Fresh fd
  | .get k => (∃ fd udp, (s.sock k).call = .creating fd udp) ∨ ∃ fd, (s.sock k).call = .accepted fd
  | .assign k => ∃ fd udp, (s.sock k).call = .assigning fd udp
  | .connect k _ _ => (s.sock k).call = .idle ∧ (s.sock k).m_fd.isSome = true
  | .accept listening k fd => (s.sock listening).call = .idle ∧
      (s.sock listening).m_fd.isSome = true ∧ (s.sock k).call = .idle ∧ (s.sock k).m_fd = none ∧
      s.Fresh fd
  | .init k => ∃ fd, (s.sock k).call = .initializing fd
  | .setTimeout k _ _ _ => (s.sock k).call = .idle
  | .close k _ => (s.sock k).call = .idle
  | .del k => ∃ fd, (s.sock k).call = .closing fd
  | .release k => ∃ fd, (s.sock k).call = .releasing fd
  | .clear k => (s.sock k).call = .clearing
  | .openForeign fd => (s.desc fd).file = .closed
  | .closeForeign fd => (s.desc fd).file = .foreign

def sockets : Machine State Act := ⟨Act.guard, Act.effect⟩

/-- `files` says which descriptors other code has open -/
def State.start (files : Nat → Bool) : State where
  sock _ := ⟨none, false, .idle, fun _ => -1⟩
  desc fd := ⟨if files fd then .foreign else .closed, none⟩

/-- `t_hook_enable` of a label that has it -/
def Act.hooked : Act → Bool
  | .newSocket _ t_hook_enable _ _ => t_hook_enable
  | .connect _ t_hook_enable _ => t_hook_enable
  | .setTimeout _ t_hook_enable _ _ => t_hook_enable
  | .close _ t_hook_enable => t_hook_enable
  | _ => true

/-! ## the invariant -/

/-- the descriptor that the `Socket` has to close -/
def Socket.held (x : Socket) : Option Nat :=
  match x.call with
  | .idle => x.m_fd
  | .creating fd _ => some fd
  | .assigning fd _ => some fd
  | .accepted fd => some fd
  | .initializing fd => some fd
  | .closing fd => some fd
  | .releasing fd => some fd
  | .clearing => none

/-- in `accept()`, behind `accept_f` -/
def Socket.Accepting (x : Socket) : Prop :=
  (∃ fd, x.call = .accepted fd) ∨ ∃ fd, x.call = .initializing fd

/-- the objects are those of sockets, and nothing closes them -/
def Desc.Sound (d : Desc) : Prop := ∀ c ∈ d.ctx, c.isSocket = true ∧ c.isClosed = false

structure Good (x : Socket) (fd : Nat) (d : Desc) : Prop where
  socket : ∃ nonblock, d.file = .socket nonblock
  sound : d.Sound
  known : x.call = .initializing fd → d.ctx.isSome = true
  closing : x.call = .closing fd ∨ x.call = .releasing fd → x.m_fd = some fd
  creating : ∀ udp, x.call = .creating fd udp ∨ x.call = .assigning fd udp → x.m_fd = none
  accepting : x.call = .accepted fd ∨ x.call = .initializing fd → x.m_fd = none

/-- the object was made for this descriptor, and has the timeouts of this `Socket` -/
def Managed (x : Socket) (fd : Nat) (d : Desc) : Prop :=
  match x.call with
  | .creating _ _ => d.ctx = none
  | .accepted _ => d.ctx = none
  | .assigning _ _ => d = ⟨.socket true, some (.new fd (some true))⟩
  | .initializing _ => d = ⟨.socket true, some (.new fd (some true))⟩
  | .releasing _ => d.ctx = none
  | _ => ∃ c, d = ⟨.socket true, some c⟩ ∧ ∀ type, (c.getTimeout type).toInt64 = x.asked type

/-- every call is `hooked`, or maybe not -/
abbrev Inv (hooked : Prop) (s : State) : Prop :=
  Owned Socket.held (fun x fd d => Good x fd d ∧ (hooked → Managed x fd d))
    (fun d => (∀ nonblock, d.file ≠ .socket nonblock) ∧ d.Sound ∧ (hooked → d.ctx = none))
    s.sock s.desc

theorem tdiv_tmod (x : Int) (hge : -2 ^ 63 ≤ x) (hlt : x < 2 ^ 63) :
    -2 ^ 63 ≤ x.tdiv 1000 * 1000 ∧ x.tdiv 1000 * 1000 < 2 ^ 63 ∧
      -1000 < x.tmod 1000 ∧ x.tmod 1000 < 1000 ∧ x.tdiv 1000 * 1000 + x.tmod 1000 = x := by
  have hsum := Int.tdiv_mul_add_tmod x 1000
  have hupper := Int.tmod_lt_of_pos x (by decide : (0 : Int) < 1000)
  have hlower := Int.lt_tmod_of_pos x (by decide : (0 : Int) < 1000)
  rcases Int.le_total 0 x with hx | hx
  · have hr := Int.tmod_nonneg 1000 hx
    omega
  · have hr := Int.tmod_nonneg 1000 (Int.neg_nonneg_of_nonpos hx)
    rw [Int.neg_tmod] at hr
    omega

theorem timeoutOf_toInt64 (val : Int64) : (timeoutOf val).toInt64 = val := by
  apply Int64.toInt_inj.mp
  have hlt := Int64.toInt_lt val
  have hge := Int64.le_toInt val
  obtain ⟨h1, h2, h3, h4, h5⟩ := tdiv_tmod val.toInt hge hlt
  have hdiv : (val / 1000).toInt = val.toInt.tdiv 1000 :=
    Int64.toInt_div_of_ne_right _ _ (by decide)
  have hmod : (val % 1000).toInt = val.toInt.tmod 1000 := Int64.toInt_mod _ _
  have hk : (1000 : Int64).toInt = 1000 := by decide
  have hsec : (val / 1000 * 1000).toInt = val.toInt.tdiv 1000 * 1000 := by
    rw [Int64.toInt_mul, hdiv, hk, Int.bmod_eq_of_le (by omega) (by omega)]
  have husec : (val % 1000 * 1000).toInt = val.toInt.tmod 1000 * 1000 := by
    rw [Int64.toInt_mul, hmod, hk, Int.bmod_eq_of_le (by omega) (by omega)]
  have hrest : (val % 1000 * 1000 / 1000).toInt = val.toInt.tmod 1000 := by
    rw [Int64.toInt_div_of_ne_right _ _ (by decide), husec, hk, Int.mul_tdiv_cancel _ (by decide)]
  show (val / 1000 * 1000 + val % 1000 * 1000 / 1000).toInt = val.toInt
  rw [Int64.toInt_add, hsec, hrest, Int.bmod_eq_of_le (by omega) (by omega), h5]

section
variable {hooked : Prop} {s : State}

theorem Desc.Sound.setTimeout {d : Desc} (h : d.Sound) (type : TimeoutType) (time : UInt64) :
    Desc.Sound { d with ctx := d.ctx.map (·.setTimeout type time) } := by
  intro c hc
  obtain ⟨c', hc', rfl⟩ := Option.mem_map.mp hc
  cases type <;> exact h c' hc'

theorem get_socket {d : Desc} (fd : Nat) {nonblock : Bool} (hfile : d.file = .socket nonblock)
    (h : d.Sound) : (∃ nonblock, (d.get fd).file = .socket nonblock) ∧ (d.get fd).Sound ∧
      (d.get fd).ctx.isSome = true ∧
      (d.ctx = none → d.get fd = ⟨.socket true, some (.new fd (some true))⟩) := by
  obtain ⟨file, ctx⟩ := d
  cases hfile
  cases ctx with
  | some c => exact ⟨⟨nonblock, rfl⟩, h, rfl, nofun⟩
  | none =>
    refine ⟨⟨true, rfl⟩, fun c hc => ?_, rfl, fun _ => rfl⟩
    cases hc
    exact ⟨rfl, rfl⟩

theorem Socket.not_accepting {x : Socket} {call : Call} (hcall : x.call = call)
    (haccepted : ∀ fd, call ≠ .accepted fd) (hinit : ∀ fd, call ≠ .initializing fd) :
    ¬x.Accepting := by
  rintro (⟨fd, hx⟩ | ⟨fd, hx⟩)
  · exact haccepted fd (hcall.symm.trans hx)
  · exact hinit fd (hcall.symm.trans hx)

/-- a `Socket` that is in `accept()` is left alone by all steps but its own -/
theorem Act.effect_sock {l : Act} {k : Nat} (hk : (s.sock k).Accepting) (hguard : l.guard s)
    (hget : l ≠ .get k) (hinit : l ≠ .init k) : (l.effect s).sock k = s.sock k := by
  have hset : ∀ {j : Nat} {call : Call} (x : Socket), (s.sock j).call = call →
      (∀ fd, call ≠ .accepted fd) → (∀ fd, call ≠ .initializing fd) →
      (s.setSock j x).sock k = s.sock k := by
    intro j call x hcall haccepted hinit
    refine Function.update_of_ne ?_ _ _
    rintro rfl
    exact Socket.not_accepting hcall haccepted hinit hk
  cases l with
  | newSocket j t_hook_enable udp fd => cases fd <;> exact hset _ hguard.1 nofun nofun
  | get j =>
    have hj : k ≠ j := fun he => hget (he ▸ rfl)
    simp only [Act.effect]
    split
    · exact Function.update_of_ne hj _ _
    · exact Function.update_of_ne hj _ _
    · rfl
  | assign j =>
    obtain ⟨fd, udp, hcall⟩ := hguard
    simp only [Act.effect, hcall]
    exact hset _ hcall nofun nofun
  | connect j t_hook_enable ok => cases ok <;> exact hset _ hguard.1 nofun nofun
  | accept listening j fd =>
    cases fd with
    | none => rfl
    | some fd => exact hset _ hguard.2.2.1 nofun nofun
  | init j =>
    have hj : k ≠ j := fun he => hinit (he ▸ rfl)
    obtain ⟨fd, hcall⟩ := hguard
    simp only [Act.effect, hcall]
    split
    · split <;> exact Function.update_of_ne hj _ _
    · exact Function.update_of_ne hj _ _
  | setTimeout j t_hook_enable type val =>
    simp only [Act.effect]
    split
    · rfl
    · cases t_hook_enable <;> exact hset _ hguard nofun nofun
  | close j t_hook_enable => exact hset _ hguard nofun nofun
  | del j =>
    obtain ⟨fd, hcall⟩ := hguard
    simp only [Act.effect, hcall]
    exact hset _ hcall nofun nofun
  | release j =>
    obtain ⟨fd, hcall⟩ := hguard
    simp only [Act.effect, hcall]
    exact hset _ hcall nofun nofun
  | clear j => exact hset _ hguard nofun nofun
  | openForeign fd => rfl
  | closeForeign fd => rfl

theorem Act.get_accepting {k : Nat} (hk : (s.sock k).Accepting) :
    (((Act.get k).effect s).sock k).Accepting := by
  rcases hk with ⟨fd, hcall⟩ | ⟨fd, hcall⟩
  · simp only [Act.effect, hcall]
    refine .inr ⟨fd, ?_⟩
    show (Function.update s.sock k _ k).call = _
    rw [Function.update_self]
  · simp only [Act.effect, hcall]
    exact .inr ⟨fd, hcall⟩

theorem managed_idle {x : Socket} {fd : Nat} {d : Desc} (hcall : x.call = .idle) :
    Managed x fd d ↔
      ∃ c, d = ⟨.socket true, some c⟩ ∧ ∀ type, (c.getTimeout type).toInt64 = x.asked type := by
  rw [Managed, hcall]

theorem Inv.fresh (h : Inv hooked s) {fd : Nat} (hfd : s.Fresh (some fd)) (k : Nat) :
    (s.sock k).held ≠ some fd := by
  refine h.unheld (fun y hy => ?_) k
  obtain ⟨nonblock, hfile⟩ := hy.1.socket
  rw [hfd fd rfl] at hfile
  cases hfile

theorem Inv.closed (h : Inv hooked s) {fd : Nat} (hfd : s.Fresh (some fd)) :
    (s.desc fd).Sound ∧ (hooked → (s.desc fd).ctx = none) :=
  (h.bare fd (h.fresh hfd)).2

theorem held_idle {x : Socket} (hcall : x.call = .idle) : x.held = x.m_fd := by
  rw [Socket.held, hcall]

theorem Inv.close (h : Inv hooked s) {k : Nat} {t_hook_enable : Bool}
    (hcall : (s.sock k).call = .idle) (hhook : hooked → t_hook_enable = true) :
    Inv hooked (s.setSock k ((s.sock k).close t_hook_enable)) := by
  have hk := held_idle hcall
  unfold Socket.close
  cases hfd : (s.sock k).m_fd with
  | none => exact h.idle (hk.trans hfd) (by simp [Socket.held, hcall])
  | some fd =>
    obtain ⟨hgood, hmanaged⟩ := h.good k fd (hk.trans hfd)
    refine h.alone (hk.trans hfd) ?_ ⟨⟨hgood.socket, hgood.sound, ?_, fun _ => rfl, ?_, ?_⟩, ?_⟩
    · cases t_hook_enable <;> rfl
    · cases t_hook_enable <;> nofun
    · cases t_hook_enable <;> intro udp <;> rintro (he | he) <;> cases he
    · cases t_hook_enable <;> rintro (he | he) <;> cases he
    · intro hh
      rw [hhook hh]
      exact (managed_idle hcall).mp (hmanaged hh)

theorem Inv.take (h : Inv hooked s) {k fd : Nat} {call : Call} (hcall : (s.sock k).call = .idle)
    (hfd : (s.sock k).m_fd = none) (hfresh : s.Fresh (some fd))
    (hto : (∃ udp, call = .creating fd udp ∨ ¬ hooked ∧ call = .assigning fd udp) ∨
      call = .accepted fd) :
    Inv hooked ((s.setSock k { s.sock k with call := call }).setDesc fd
      { s.desc fd with file := .socket false }) := by
  obtain ⟨hsound, hctx⟩ := h.closed hfresh
  refine Owned.take h ((held_idle hcall).trans hfd) (h.fresh hfresh) ?_
    ⟨⟨⟨false, rfl⟩, hsound, ?_, ?_, fun _ _ => hfd, fun _ => hfd⟩, fun hh => ?_⟩
  · rcases hto with ⟨udp, rfl | ⟨_, rfl⟩⟩ | rfl <;> rfl
  · rcases hto with ⟨udp, rfl | ⟨_, rfl⟩⟩ | rfl <;> nofun
  · rcases hto with ⟨udp, rfl | ⟨_, rfl⟩⟩ | rfl <;> rintro (he | he) <;> cases he
  · rcases hto with ⟨udp, rfl | ⟨hno, rfl⟩⟩ | rfl
    · exact hctx hh
    · exact absurd hh hno
    · exact hctx hh

theorem Inv.get (h : Inv hooked s) {k fd : Nat} {call : Call}
    (hto : (∃ udp, (s.sock k).call = .creating fd udp ∧ call = .assigning fd udp) ∨
      (s.sock k).call = .accepted fd ∧ call = .initializing fd) :
    Inv hooked ((s.setSock k { s.sock k with call := call }).setDesc fd ((s.desc fd).get fd)) := by
  have hk : (s.sock k).held = some fd := by
    rcases hto with ⟨udp, hcall, _⟩ | ⟨hcall, _⟩ <;> rw [Socket.held, hcall]
  obtain ⟨hgood, hmanaged⟩ := h.good k fd hk
  obtain ⟨nonblock, hfile⟩ := hgood.socket
  obtain ⟨hsocket, hsound, hsome, hnew⟩ := get_socket fd hfile hgood.sound
  have hnone : (s.sock k).m_fd = none := by
    rcases hto with ⟨udp, hcall, _⟩ | ⟨hcall, _⟩
    · exact hgood.creating udp (.inl hcall)
    · exact hgood.accepting (.inl hcall)
  refine Owned.keep h hk ?_ ⟨⟨hsocket, hsound, fun _ => hsome, ?_, fun _ _ => hnone,
    fun _ => hnone⟩, fun hh => ?_⟩
  · rcases hto with ⟨udp, _, rfl⟩ | ⟨_, rfl⟩ <;> rfl
  · rcases hto with ⟨udp, _, rfl⟩ | ⟨_, rfl⟩ <;> rintro (he | he) <;> cases he
  · have hctx := hmanaged hh
    rcases hto with ⟨udp, hcall, rfl⟩ | ⟨hcall, rfl⟩
    · rw [Managed, hcall] at hctx
      exact hnew hctx
    · rw [Managed, hcall] at hctx
      exact hnew hctx

theorem Inv.assign (h : Inv hooked s) {k fd : Nat} (connected : Bool)
    (hcall : (∃ udp, (s.sock k).call = .assigning fd udp) ∨ (s.sock k).call = .initializing fd) :
    Inv hooked (s.setSock k ⟨some fd, connected, .idle, fun _ => -1⟩) := by
  have hk : (s.sock k).held = some fd := by
    rcases hcall with ⟨udp, hcall⟩ | hcall <;> rw [Socket.held, hcall]
  obtain ⟨hgood, hmanaged⟩ := h.good k fd hk
  refine Owned.alone h hk rfl ⟨⟨hgood.socket, hgood.sound, nofun, ?_, ?_, ?_⟩, fun hh => ?_⟩
  · rintro (he | he) <;> cases he
  · rintro udp (he | he) <;> cases he
  · rintro (he | he) <;> cases he
  · have hnew : s.desc fd = ⟨.socket true, some (.new fd (some true))⟩ := by
      have hstage := hmanaged hh
      rcases hcall with ⟨udp, hcall⟩ | hcall <;> rwa [Managed, hcall] at hstage
    exact ⟨_, hnew, fun type => by cases type <;> rfl⟩

theorem Inv.setTimeout (h : Inv hooked s) {k fd : Nat} {t_hook_enable : Bool} (type : TimeoutType)
    (val : Int64) (hcall : (s.sock k).call = .idle) (hfd : (s.sock k).m_fd = some fd)
    (hhook : hooked → t_hook_enable = true) :
    Inv hooked ((Act.setTimeout k t_hook_enable type val).effect s) := by
  have hk : (s.sock k).held = some fd := (held_idle hcall).trans hfd
  obtain ⟨hgood, hmanaged⟩ := h.good k fd hk
  cases t_hook_enable with
  | true =>
    have hset : Inv hooked ((s.setSock k
        { s.sock k with asked := Function.update (s.sock k).asked type val }).setDesc fd
        { s.desc fd with ctx := (s.desc fd).ctx.map (·.setTimeout type (timeoutOf val)) }) := by
      refine Owned.keep h hk hk ⟨⟨hgood.socket, hgood.sound.setTimeout type _, ?_, hgood.closing,
        hgood.creating, hgood.accepting⟩, fun hh => ?_⟩
      · intro he
        rw [hcall] at he
        cases he
      · obtain ⟨c, hdesc, hasked⟩ := (managed_idle hcall).mp (hmanaged hh)
        rw [managed_idle (by exact hcall)]
        refine ⟨c.setTimeout type (timeoutOf val), by rw [hdesc]; rfl, fun type' => ?_⟩
        cases type <;> cases type' <;>
          simp [FdCtx.setTimeout, FdCtx.getTimeout, timeoutOf_toInt64, ← hasked]
    simpa only [Act.effect, hfd, if_true] using hset
  | false =>
    have hset : Inv hooked (s.setSock k
        { s.sock k with asked := Function.update (s.sock k).asked type val }) :=
      Owned.alone h hk hk ⟨⟨hgood.socket, hgood.sound, hgood.known, hgood.closing, hgood.creating,
        hgood.accepting⟩, fun hh => absurd (hhook hh) Bool.false_ne_true⟩
    simpa only [Act.effect, hfd, Bool.false_eq_true, if_false] using hset

theorem Inv.init_eq (h : Inv hooked s) {k fd : Nat} (hcall : (s.sock k).call = .initializing fd) :
    (Act.init k).effect s = s.setSock k ⟨some fd, true, .idle, fun _ => -1⟩ := by
  have hk : (s.sock k).held = some fd := by rw [Socket.held, hcall]
  obtain ⟨hgood, _⟩ := h.good k fd hk
  obtain ⟨c, hc⟩ := Option.isSome_iff_exists.mp (hgood.known hcall)
  obtain ⟨hsocket, hopen⟩ := hgood.sound c hc
  simp [Act.effect, hcall, hc, hsocket, hopen]

theorem Inv.step (h : Inv hooked s) (l : Act) (hguard : l.guard s)
    (hhook : hooked → l.hooked = true) : Inv hooked (l.effect s) := by
  cases l with
  | newSocket k t_hook_enable udp fd =>
    obtain ⟨hcall, hnone, hfresh⟩ := hguard
    cases fd with
    | none =>
      exact Owned.idle h ((held_idle hcall).trans hnone) ((held_idle hcall).trans hnone)
    | some fd =>
      refine h.take hcall hnone hfresh (.inl ⟨udp, ?_⟩)
      cases t_hook_enable with
      | true => exact .inl rfl
      | false => exact .inr ⟨fun hh => Bool.false_ne_true (hhook hh), rfl⟩
  | get k =>
    rcases hguard with ⟨fd, udp, hcall⟩ | ⟨fd, hcall⟩
    · have hget := h.get (.inl ⟨udp, hcall, rfl⟩)
      simpa only [Act.effect, hcall] using hget
    · have hget := h.get (.inr ⟨hcall, rfl⟩)
      simpa only [Act.effect, hcall] using hget
  | assign k =>
    obtain ⟨fd, udp, hcall⟩ := hguard
    have hassign := h.assign ((s.sock k).m_isConnectd || udp) (.inl ⟨udp, hcall⟩)
    simpa only [Act.effect, hcall] using hassign
  | connect k t_hook_enable ok =>
    obtain ⟨hcall, hsome⟩ := hguard
    cases ok with
    | true =>
      obtain ⟨fd, hfd⟩ := Option.isSome_iff_exists.mp hsome
      have hk := (held_idle hcall).trans hfd
      obtain ⟨hgood, hmanaged⟩ := h.good k fd hk
      exact Owned.alone h hk hk ⟨⟨hgood.socket, hgood.sound, hgood.known, hgood.closing,
        hgood.creating, hgood.accepting⟩, hmanaged⟩
    | false => exact h.close hcall hhook
  | accept listening k fd =>
    obtain ⟨_, _, hcall, hnone, hfresh⟩ := hguard
    cases fd with
    | none => exact h
    | some fd => exact h.take hcall hnone hfresh (.inr rfl)
  | init k =>
    obtain ⟨fd, hcall⟩ := hguard
    rw [h.init_eq hcall]
    exact h.assign true (.inr hcall)
  | setTimeout k t_hook_enable type val =>
    cases hfd : (s.sock k).m_fd with
    | none => simpa only [Act.effect, hfd] using h
    | some fd => exact h.setTimeout type val hguard hfd hhook
  | close k t_hook_enable => exact h.close hguard hhook
  | del k =>
    obtain ⟨fd, hcall⟩ := hguard
    have hk : (s.sock k).held = some fd := by rw [Socket.held, hcall]
    obtain ⟨hgood, _⟩ := h.good k fd hk
    have hdel : Inv hooked ((s.setSock k { s.sock k with call := .releasing fd }).setDesc fd
        { s.desc fd with ctx := none }) :=
      Owned.keep h hk rfl ⟨⟨hgood.socket, nofun, nofun, fun _ => hgood.closing (.inl hcall), nofun,
        nofun⟩, fun _ => rfl⟩
    simpa only [Act.effect, hcall] using hdel
  | release k =>
    obtain ⟨fd, hcall⟩ := hguard
    have hk : (s.sock k).held = some fd := by rw [Socket.held, hcall]
    obtain ⟨hgood, hmanaged⟩ := h.good k fd hk
    have hrelease : Inv hooked ((s.setSock k { s.sock k with call := .clearing }).setDesc fd
        { s.desc fd with file := .closed }) := by
      refine Owned.drop h hk rfl ⟨nofun, hgood.sound, fun hh => ?_⟩
      have hstage := hmanaged hh
      rwa [Managed, hcall] at hstage
    simpa only [Act.effect, hcall] using hrelease
  | clear k =>
    have hk : (s.sock k).held = none := by rw [Socket.held, hguard]
    exact Owned.idle h hk rfl
  | openForeign fd =>
    have hfresh : s.Fresh (some fd) := fun n hn => Option.some.inj hn ▸ hguard
    exact Owned.free h (h.fresh hfresh) ⟨nofun, h.closed hfresh⟩
  | closeForeign fd =>
    have hfree : ∀ k, (s.sock k).held ≠ some fd := by
      refine h.unheld fun y hy => ?_
      obtain ⟨nonblock, hfile⟩ := hy.1.socket
      rw [show (s.desc fd).file = .foreign from hguard] at hfile
      cases hfile
    exact Owned.free h hfree ⟨nofun, (h.bare fd hfree).2⟩

end

theorem Inv.start (hooked : Prop) (files : Nat → Bool) : Inv hooked (.start files) where
  unique k k' v hk _ := by cases hk
  good k v hk := by cases hk
  bare v _ := by
    refine ⟨fun nonblock he => ?_, nofun, fun _ => rfl⟩
    cases hfile : files v <;> simp [State.start, hfile] at he

/-! ## every run -/

/-- **Whatever calls interleave, and whether they are hooked or not: every open socket is the
descriptor of one `Socket`, which will close it; no `Socket` has a descriptor that is closed or
someone else's, and `close_f` is called on the caller's own.** -/
theorem descriptors_owned (files : Nat → Bool) (ls : List Act)
    (h : sockets.Allowed (.start files) ls) :
    let s := sockets.after (.start files) ls
    (∀ k k' fd, (s.sock k).held = some fd → (s.sock k').held = some fd → k = k') ∧
      (∀ fd, (∃ nonblock, (s.desc fd).file = .socket nonblock) ↔ ∃ k, (s.sock k).held = some fd) ∧
      ∀ k fd, (s.sock k).call = .releasing fd →
        (s.sock k).m_fd = some fd ∧ ∃ nonblock, (s.desc fd).file = .socket nonblock := by
  intro s
  have hinv : Inv False s :=
    h.inv (fun s l hs hl => hs.step l hl nofun) (.start False files)
  refine ⟨hinv.unique, fun fd => ⟨fun ⟨nonblock, hfile⟩ => ?_, fun ⟨k, hk⟩ => ?_⟩,
    fun k fd hk => ?_⟩
  · by_contra hno
    push Not at hno
    exact (hinv.bare fd hno).1 nonblock hfile
  · exact (hinv.good k fd hk).1.socket
  · have hheld : (s.sock k).held = some fd := by rw [Socket.held, hk]
    obtain ⟨hgood, _⟩ := hinv.good k fd hheld
    exact ⟨hgood.closing (.inr hk), hgood.socket⟩

/-- a server takes a connection, while a client fails to connect and its number is used again -/
def exampleRun : List Act :=
  [.newSocket 0 true false (some 3), .get 0, .assign 0, .newSocket 1 true false (some 4), .get 1,
    .assign 1, .connect 1 true false, .del 1, .release 1, .accept 0 2 (some 4), .get 2, .clear 1,
    .init 2, .setTimeout 2 true .recv 5000]

theorem exampleRun_hooked :
    (sockets.meeting fun _ l => l.hooked = true).Allowed (.start fun fd => decide (fd < 3))
      exampleRun := by
  have hfd : ∀ {s : State} {fd : Nat}, (s.desc fd).file = .closed → s.Fresh (some fd) :=
    fun h n hn => Option.some.inj hn ▸ h
  exact ⟨⟨⟨rfl, rfl, hfd rfl⟩, rfl⟩, ⟨.inl ⟨3, false, rfl⟩, rfl⟩, ⟨⟨3, false, rfl⟩, rfl⟩,
    ⟨⟨rfl, rfl, hfd rfl⟩, rfl⟩, ⟨.inl ⟨4, false, rfl⟩, rfl⟩, ⟨⟨4, false, rfl⟩, rfl⟩,
    ⟨⟨rfl, rfl⟩, rfl⟩, ⟨⟨4, rfl⟩, rfl⟩, ⟨⟨4, rfl⟩, rfl⟩,
    ⟨⟨rfl, rfl, rfl, rfl, hfd rfl⟩, rfl⟩, ⟨.inr ⟨4, rfl⟩, rfl⟩, ⟨rfl, rfl⟩, ⟨⟨4, rfl⟩, rfl⟩,
    ⟨rfl, rfl⟩, trivial⟩

theorem descriptors_owned_two :
    let s := sockets.after (.start fun fd => decide (fd < 3)) exampleRun
    (s.sock 2).held = some 4 ∧ ∀ k, (s.sock k).held = some 4 → k = 2 := by
  have hrun := Machine.Allowed.of_meeting exampleRun_hooked
  refine ⟨rfl, fun k hk => ?_⟩
  exact (descriptors_owned (fun fd => decide (fd < 3)) exampleRun hrun).1 k 2 4 hk rfl

/-- **When every call is hooked, the timeouts of a `Socket` are those that were set on it since it
has its descriptor, its descriptor does not block, and a descriptor that was closed has left nothing
behind.** -/
theorem timeouts_own (files : Nat → Bool) (ls : List Act)
    (h : (sockets.meeting fun _ l => l.hooked = true).Allowed (.start files) ls) :
    let s := sockets.after (.start files) ls
    (∀ k fd, (s.sock k).call = .idle → (s.sock k).m_fd = some fd →
      (s.desc fd).file = .socket true ∧
        ∀ type, getTimeout type (s.sock k) s.desc = (s.sock k).asked type) ∧
      ∀ fd, (∀ k, (s.sock k).held ≠ some fd) → (s.desc fd).ctx = none := by
  intro s
  have hinv : Inv True s := by
    have hs : Inv True ((sockets.meeting fun _ l => l.hooked = true).after (.start files) ls) :=
      h.inv (fun s l hs hl => hs.step l hl.1 fun _ => hl.2) (.start True files)
    rwa [Machine.meeting_after] at hs
  refine ⟨fun k fd hcall hfd => ?_, fun fd hfree => (hinv.bare fd hfree).2.2 trivial⟩
  obtain ⟨_, hmanaged⟩ := hinv.good k fd ((held_idle hcall).trans hfd)
  obtain ⟨c, hdesc, hasked⟩ := (managed_idle hcall).mp (hmanaged trivial)
  refine ⟨by rw [hdesc], fun type => ?_⟩
  rw [getTimeout, hfd]
  simp only [hdesc]
  exact hasked type

theorem timeouts_own_two :
    let s := sockets.after (.start fun fd => decide (fd < 3)) exampleRun
    getTimeout .recv (s.sock 2) s.desc = 5000 ∧ getTimeout .send (s.sock 2) s.desc = -1 := by
  intro s
  have hown := (timeouts_own (fun fd => decide (fd < 3)) exampleRun exampleRun_hooked).1 2 4 rfl rfl
  exact ⟨(hown.2 .recv).trans rfl, (hown.2 .send).trans rfl⟩

/-- **A thread that is not hooked closes a descriptor: the next `Socket` with its number blocks, and
has the timeout of the one before it.** -/
theorem stale_timeout : ∃ ls, sockets.Allowed (.start fun _ => false) ls ∧
    let s := sockets.after (.start fun _ => false) ls
    (s.sock 1).call = .idle ∧ (s.sock 1).m_fd = some 3 ∧ (s.desc 3).file = .socket false ∧
      (s.sock 1).asked .recv = -1 ∧ getTimeout .recv (s.sock 1) s.desc = 5000 := by
  have hfd : ∀ {s : State} {fd : Nat}, (s.desc fd).file = .closed → s.Fresh (some fd) :=
    fun h n hn => Option.some.inj hn ▸ h
  refine ⟨[.newSocket 0 true false (some 3), .get 0, .assign 0, .setTimeout 0 true .recv 5000,
    .close 0 false, .release 0, .clear 0, .newSocket 1 true false (some 3), .get 1, .assign 1],
    ?_, rfl, rfl, rfl, rfl, rfl⟩
  exact ⟨⟨rfl, rfl, hfd rfl⟩, .inl ⟨3, false, rfl⟩, ⟨3, false, rfl⟩, rfl, rfl, ⟨3, rfl⟩, rfl,
    ⟨rfl, rfl, hfd rfl⟩, .inl ⟨3, false, rfl⟩, ⟨3, false, rfl⟩, trivial⟩

end Descriptors
end KitServer
