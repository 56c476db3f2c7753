import Revana.Runtime.Guest
import Revana.Runtime.Globals

/-!
# The direct resolver

`InstallDirectPolResolver` saves three slots of a service table and puts its
own thunks there.  The dispatcher is what `AllocateThunk` answers and the
registry of the thunks it has handed out, so `GetFunction` can be followed
from a saved original to the function behind it.
-/

namespace Revana.Runtime

open Foundation

inductive ResolverFunction where
  | begin
  | poll
  | cancel
  deriving DecidableEq, Repr

instance : Fintype ResolverFunction where
  elems := {.begin, .poll, .cancel}
  complete := fun function => by cases function <;> simp

/-- `kPolResolverBeginOffset` and its siblings. -/
def slotOffset : ResolverFunction → UInt32
  | .begin => 884
  | .poll => 888
  | .cancel => 892

def directPolResolverHandle : UInt32 := 0x50584901

/-- `ffxi00.pol.com`. -/
def retailLobbyHostname : List UInt8 :=
  [0x66, 0x66, 0x78, 0x69, 0x30, 0x30, 0x2E, 0x70, 0x6F, 0x6C, 0x2E, 0x63,
    0x6F, 0x6D]

def DirectPolResolver.thunk (resolver : DirectPolResolver) :
    ResolverFunction → UInt32
  | .begin => resolver.beginThunk
  | .poll => resolver.pollThunk
  | .cancel => resolver.cancelThunk

def DirectPolResolver.original (resolver : DirectPolResolver) :
    ResolverFunction → UInt32
  | .begin => resolver.beginOriginal
  | .poll => resolver.pollOriginal
  | .cancel => resolver.cancelOriginal

/-- The thunks handed out so far and the functions behind them. -/
abbrev ThunkRegistry := List (UInt32 × ResolverFunction)

def ThunkRegistry.addresses (thunks : ThunkRegistry) : List UInt32 :=
  thunks.map Prod.fst

/-- One call of `InstallDirectPolResolver`: its table, whether there is a
kernel, and the answers of `AllocateThunk`. -/
structure InstallCall where
  table : UInt32
  kernelAvailable : Bool
  beginThunk : UInt32
  pollThunk : UInt32
  cancelThunk : UInt32
  deriving DecidableEq, Repr

def InstallCall.thunk (call : InstallCall) : ResolverFunction → UInt32
  | .begin => call.beginThunk
  | .poll => call.pollThunk
  | .cancel => call.cancelThunk

def InstallCall.allocated (call : InstallCall) : ThunkRegistry :=
  [(call.beginThunk, .begin), (call.pollThunk, .poll),
    (call.cancelThunk, .cancel)].filter fun entry => entry.1 ≠ 0

section Install

variable (translateVirtual : UInt32 → ℕ)

def slotPointer (table : UInt32) (slot : ResolverFunction) : ℕ :=
  translateVirtual (table + slotOffset slot)

def loadSlot (memory : Memory) (table : UInt32) (slot : ResolverFunction) :
    UInt32 :=
  memory.loadWord (slotPointer translateVirtual table slot)

def storeSlot (memory : Memory) (table : UInt32) (slot : ResolverFunction)
    (target : UInt32) : Memory :=
  memory.storeWord (slotPointer translateVirtual table slot) target

structure InstallResult where
  installed : Bool
  writes : List MemoryWrite
  resolver : DirectPolResolver
  allocated : ThunkRegistry

def installDirectPolResolver (call : InstallCall) (memory : Memory)
    (resolver : DirectPolResolver) : InstallResult :=
  if resolver.enabled = false then ⟨false, [], resolver, []⟩
  else if call.kernelAvailable = false then ⟨false, [], resolver, []⟩
  else if resolver.beginThunk ≠ 0 ∧
      loadSlot translateVirtual memory call.table .begin =
        resolver.beginThunk then
    ⟨true, [], resolver, []⟩
  else
    let beginOriginal := loadSlot translateVirtual memory call.table .begin
    let pollOriginal := loadSlot translateVirtual memory call.table .poll
    let cancelOriginal := loadSlot translateVirtual memory call.table .cancel
    if beginOriginal = 0 ∨ pollOriginal = 0 ∨ cancelOriginal = 0 then
      ⟨false, [], resolver, []⟩
    else if call.beginThunk = 0 ∨ call.pollThunk = 0 ∨
        call.cancelThunk = 0 then
      -- The thunks that were allocated stay allocated.
      ⟨false, [], resolver, call.allocated⟩
    else
      let storeEntry := fun slot target =>
        MemoryWrite.word (slotPointer translateVirtual call.table slot) target
      ⟨true,
        [storeEntry .begin call.beginThunk, storeEntry .poll call.pollThunk,
          storeEntry .cancel call.cancelThunk],
        { resolver with
          beginOriginal, pollOriginal, cancelOriginal
          beginThunk := call.beginThunk
          pollThunk := call.pollThunk
          cancelThunk := call.cancelThunk },
        call.allocated⟩

end Install

/-! ## Calls through the thunks -/

/-- The loop of `GuestStringEquals` succeeds when all characters and the
terminator match. -/
def guestStringEquals (translateVirtual : UInt32 → ℕ) (memory : Memory)
    (address : UInt32) (expected : List UInt8) : Bool :=
  address ≠ 0 && memory.load (translateVirtual address)
    (expected.length + 1) = expected ++ [0]

/-- The call is for the retail lobby host or for the direct handle. -/
def isDirectCall (translateVirtual : UInt32 → ℕ) (guest : Guest) :
    ResolverFunction → Bool
  | .begin => guestStringEquals translateVirtual guest.memory
      (u32 guest.registers.r3) retailLobbyHostname
  | .poll => u32 guest.registers.r3 = directPolResolverHandle
  | .cancel => u32 guest.registers.r3 = directPolResolverHandle

inductive ResolverOutcome where
  | direct
  | guest (original : UInt32)
  | unavailable
  deriving DecidableEq, Repr

/-- A resolver call: what is not direct goes through
`CallOriginalPolResolver` to the function the dispatcher knows under the saved
original.  `none` means the fuel ran out. -/
def callPolResolver (translateVirtual : UInt32 → ℕ) (thunks : ThunkRegistry)
    (guestFunctions : UInt32 → Bool) (resolver : DirectPolResolver)
    (guest : Guest) : ℕ → ResolverFunction → Option ResolverOutcome
  | 0, _ => none
  | fuel + 1, function =>
      if isDirectCall translateVirtual guest function then some .direct
      else
        let original := resolver.original function
        match thunks.lookup original with
        | some next => callPolResolver translateVirtual thunks guestFunctions
            resolver guest fuel next
        | none =>
            if guestFunctions original then some (.guest original)
            else some .unavailable

end Revana.Runtime
