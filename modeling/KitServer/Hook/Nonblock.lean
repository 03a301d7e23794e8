import KitServer.FdManager

/-!
# The mode of a socket: `fcntl` and `ioctl`

The mode that a program sees is a flag of the `FdCtx`; the flag `O_NONBLOCK` of the kernel should
stay set.

* `kernelSetfl`, `kernelFionbio` what the kernel does with the flags of an open file;
* `HookedFd`      a socket, with the hooked `fcntl` and `ioctl`;
* `nonblock_iff`  the sequences of calls in which the flag of the kernel stays set, and `F_GETFL`
                  reports the mode that was asked for.
-/

set_option linter.unusedVariables false

namespace KitServer
namespace Hook
open FdManager

abbrev Flags := BitVec 32

def O_APPEND : Flags := 0o2000#32
def O_NONBLOCK : Flags := 0o4000#32
def O_ASYNC : Flags := 0o20000#32
def O_DIRECT : Flags := 0o40000#32
def O_NOATIME : Flags := 0o1000000#32

/-- the flags that `F_SETFL` changes -/
def setflMask : Flags := O_APPEND ||| O_NONBLOCK ||| O_ASYNC ||| O_DIRECT ||| O_NOATIME

/-- `F_SETFL` in the kernel -/
def kernelSetfl (flags arg : Flags) : Flags := (arg &&& setflMask) ||| (flags &&& ~~~setflMask)

/-- `FIONBIO` in the kernel -/
def kernelFionbio (flags : Flags) (value : BitVec 32) : Flags :=
  if value ≠ 0 then flags ||| O_NONBLOCK else flags &&& ~~~O_NONBLOCK

/-- `flags & O_NONBLOCK`, as a condition -/
def nonblock (flags : Flags) : Bool := decide (flags &&& O_NONBLOCK ≠ 0)

/-- a socket: its object, and its flags in the kernel -/
structure HookedFd where
  ctx : FdCtx
  flags : Flags

/-- a call by the program; `ok` is what the kernel answers to `F_SETFL` -/
inductive FlagCall where
  | setfl (arg : Flags) (ok : Bool)
  | getfl
  | ioctl (value : BitVec 32)

namespace HookedFd

/-- `FdCtx::init` of a socket -/
def init (fd : Int) (flags : Flags) : HookedFd where
  ctx := .new fd (some true)
  flags := if !nonblock flags then kernelSetfl flags (flags ||| O_NONBLOCK) else flags

/-- the calls go to the kernel as they are -/
def bypassed (s : HookedFd) : Bool := s.ctx.isClosed || !s.ctx.isSocket

/-- `fcntl` with `F_SETFL` -/
def setfl (s : HookedFd) (arg : Flags) (ok : Bool) : HookedFd :=
  if s.bypassed then { s with flags := if ok then kernelSetfl s.flags arg else s.flags }
  else
    let sysArg := if s.ctx.sysNonblock then arg ||| O_NONBLOCK else arg &&& ~~~O_NONBLOCK
    { ctx := { s.ctx with userNonblock := nonblock arg }
      flags := if ok then kernelSetfl s.flags sysArg else s.flags }

/-- `fcntl` with `F_GETFL` -/
def getfl (s : HookedFd) : Flags :=
  if s.bypassed then s.flags
  else if s.ctx.userNonblock then s.flags ||| O_NONBLOCK
  else s.flags &&& ~~~O_NONBLOCK

/-- `ioctl` with `FIONBIO` -/
def ioctl (s : HookedFd) (value : BitVec 32) : HookedFd :=
  if s.bypassed then { s with flags := kernelFionbio s.flags value }
  else
    { ctx := { s.ctx with userNonblock := decide (value ≠ 0) }
      flags := kernelFionbio s.flags value }

def call (s : HookedFd) : FlagCall → HookedFd
  | .setfl arg ok => s.setfl arg ok
  | .getfl => s
  | .ioctl value => s.ioctl value

def after (fd : Int) (flags : Flags) (calls : List FlagCall) : HookedFd :=
  calls.foldl call (init fd flags)

end HookedFd

/-- the mode that the last of the calls asked for: non-blocking or, if there was none, blocking -/
def asked (calls : List FlagCall) : Bool :=
  calls.foldl (fun mode c =>
    match c with
    | .setfl arg _ => nonblock arg
    | .getfl => mode
    | .ioctl value => decide (value ≠ 0)) false

/-! ## the bit of the mode -/

theorem nonblock_eq (flags : Flags) : nonblock flags = flags.getLsbD 11 := by
  have htwo : O_NONBLOCK = BitVec.twoPow 32 11 := by decide
  rw [nonblock, htwo, BitVec.and_twoPow]
  cases flags.getLsbD 11 <;> decide

theorem nonblock_or (flags : Flags) : nonblock (flags ||| O_NONBLOCK) = true := by
  rw [nonblock_eq, BitVec.getLsbD_or]
  have hbit : O_NONBLOCK.getLsbD 11 = true := by decide
  rw [hbit, Bool.or_true]

theorem nonblock_and_not (flags : Flags) : nonblock (flags &&& ~~~O_NONBLOCK) = false := by
  rw [nonblock_eq, BitVec.getLsbD_and]
  have hbit : (~~~O_NONBLOCK).getLsbD 11 = false := by decide
  rw [hbit, Bool.and_false]

theorem nonblock_kernelSetfl (flags arg : Flags) :
    nonblock (kernelSetfl flags arg) = nonblock arg := by
  have hmask : setflMask.getLsbD 11 = true := by decide
  have hrest : (~~~setflMask).getLsbD 11 = false := by decide
  rw [nonblock_eq, nonblock_eq, kernelSetfl, BitVec.getLsbD_or, BitVec.getLsbD_and,
    BitVec.getLsbD_and, hmask, hrest, Bool.and_true, Bool.and_false, Bool.or_false]

theorem nonblock_kernelFionbio (flags : Flags) (value : BitVec 32) :
    nonblock (kernelFionbio flags value) = decide (value ≠ 0) := by
  rw [kernelFionbio]
  by_cases hvalue : value = 0
  · rw [if_neg (by simpa using hvalue), nonblock_and_not]
    simp [hvalue]
  · rw [if_pos hvalue, nonblock_or]
    exact (decide_eq_true hvalue).symm

/-! ## the calls -/

namespace HookedFd

/-- an open socket whose flag is set, and which reports the mode `mode` -/
structure Managed (mode : Bool) (s : HookedFd) : Prop where
  hooked : s.bypassed = false
  sys : s.ctx.sysNonblock = true
  flag : nonblock s.flags = true
  user : s.ctx.userNonblock = mode

theorem Managed.init (fd : Int) (flags : Flags) : Managed false (init fd flags) := by
  refine ⟨rfl, rfl, ?_, rfl⟩
  show nonblock (if !nonblock flags then kernelSetfl flags (flags ||| O_NONBLOCK) else flags) = true
  split
  · rw [nonblock_kernelSetfl, nonblock_or]
  · rename_i hset
    simpa using hset

theorem Managed.setfl {mode : Bool} {s : HookedFd} (h : Managed mode s) (arg : Flags) (ok : Bool) :
    Managed (nonblock arg) (s.setfl arg ok) := by
  rw [HookedFd.setfl, h.hooked, if_neg Bool.false_ne_true]
  refine ⟨h.hooked, h.sys, ?_, rfl⟩
  show nonblock (if ok then kernelSetfl s.flags
    (if s.ctx.sysNonblock then arg ||| O_NONBLOCK else arg &&& ~~~O_NONBLOCK) else s.flags) = true
  cases ok with
  | true => rw [if_pos rfl, h.sys, if_pos rfl, nonblock_kernelSetfl, nonblock_or]
  | false => exact h.flag

/-- **`ioctl` keeps the flag of the kernel if the value is not 0.** -/
theorem Managed.ioctl {mode : Bool} {s : HookedFd} (h : Managed mode s) {value : BitVec 32}
    (hvalue : value ≠ 0) : Managed (decide (value ≠ 0)) (s.ioctl value) := by
  rw [HookedFd.ioctl, h.hooked, if_neg Bool.false_ne_true]
  refine ⟨h.hooked, h.sys, ?_, rfl⟩
  show nonblock (kernelFionbio s.flags value) = true
  rw [nonblock_kernelFionbio, decide_eq_true hvalue]

theorem Managed.getfl {mode : Bool} {s : HookedFd} (h : Managed mode s) :
    nonblock s.getfl = mode := by
  rw [HookedFd.getfl, h.hooked, if_neg Bool.false_ne_true, h.user]
  cases mode with
  | true => exact nonblock_or s.flags
  | false => exact nonblock_and_not s.flags

/-- **Calls in which every `ioctl` has a value other than 0.** -/
theorem managed_after (fd : Int) (flags : Flags) (calls : List FlagCall)
    (h : ∀ value, .ioctl value ∈ calls → value ≠ 0) :
    Managed (asked calls) (after fd flags calls) := by
  induction calls using List.reverseRecOn with
  | nil => exact Managed.init fd flags
  | append_singleton calls c ih =>
    have hold := ih fun value hvalue => h value (List.mem_append_left _ hvalue)
    rw [after, asked, List.foldl_append, List.foldl_append]
    cases c with
    | setfl arg ok => exact hold.setfl arg ok
    | getfl => exact hold
    | ioctl value => exact hold.ioctl (h value (List.mem_append_right _ List.mem_cons_self))

theorem nonblock_ioctl_zero (s : HookedFd) : nonblock (s.ioctl 0).flags = false := by
  have hflags : (s.ioctl 0).flags = kernelFionbio s.flags 0 := by
    rw [HookedFd.ioctl]
    split <;> rfl
  rw [hflags, nonblock_kernelFionbio]
  rfl

end HookedFd

/-- **The flag of the kernel stays set, and `F_GETFL` reports the mode that was asked for last, in
exactly the sequences of calls in which no `ioctl` has the value 0.** -/
theorem nonblock_iff (fd : Int) (flags : Flags) (calls : List FlagCall) :
    (∀ ms, ms <+: calls → nonblock (HookedFd.after fd flags ms).flags = true
        ∧ nonblock (HookedFd.after fd flags ms).getfl = asked ms)
      ↔ ∀ value, .ioctl value ∈ calls → value ≠ 0 := by
  constructor
  · rintro h value hmem rfl
    obtain ⟨ms, rest, rfl⟩ := List.append_of_mem hmem
    have hflag := (h (ms ++ [.ioctl 0]) ⟨rest, by rw [List.append_assoc]; rfl⟩).1
    rw [HookedFd.after, List.foldl_append] at hflag
    change nonblock ((HookedFd.after fd flags ms).ioctl 0).flags = true at hflag
    rw [HookedFd.nonblock_ioctl_zero] at hflag
    cases hflag
  · rintro h ms ⟨rest, rfl⟩
    have hms := HookedFd.managed_after fd flags ms
      fun value hvalue => h value (List.mem_append_left _ hvalue)
    exact ⟨hms.flag, hms.getfl⟩

/-- **A program that asks for blocking mode by `ioctl` gets it from the kernel.** -/
theorem blocking_socket : ¬ ∀ (fd : Int) (flags : Flags) (calls : List FlagCall),
    nonblock (HookedFd.after fd flags calls).flags = true := by
  intro h
  exact absurd (h 3 2#32 [.ioctl 0]) (by decide)

end Hook
end KitServer
