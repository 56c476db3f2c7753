import Revana.Foundation.Machine
import Revana.Runtime.PolResolver

/-!
# Resolver interception over runs

Installs on any tables and guest writes to any slots form a machine.  Whether
an install is trustworthy can be read off the three slots it finds: the early
return looks at the begin slot only, and an install saves whatever it finds.
-/

namespace Revana.Runtime

open Foundation

structure ResolverState where
  memory : Memory
  resolver : DirectPolResolver
  thunks : ThunkRegistry

inductive ResolverEvent where
  | install (call : InstallCall)
  | guestWrite (table : UInt32) (slot : ResolverFunction) (value : UInt32)
  deriving DecidableEq, Repr

section Machine

variable (translateVirtual : UInt32 → ℕ)

def resolverStep (state : ResolverState) :
    ResolverEvent → ResolverState × List Bool
  | .install call =>
      let result := installDirectPolResolver translateVirtual call
        state.memory state.resolver
      (⟨state.memory.apply result.writes, result.resolver,
        result.allocated ++ state.thunks⟩, [result.installed])
  | .guestWrite table slot value =>
      ({ state with
        memory := storeSlot translateVirtual state.memory table slot value },
        [])

def resolverMachine : Machine ResolverState ResolverEvent Bool where
  step := resolverStep translateVirtual

/-- The three words of a table's resolver slots do not overlap. -/
def SlotsApart (table : UInt32) : Prop :=
  ∀ left right, left ≠ right →
    slotPointer translateVirtual table left + 4 ≤
        slotPointer translateVirtual table right ∨
      slotPointer translateVirtual table right + 4 ≤
        slotPointer translateVirtual table left

def ResolverState.slot (state : ResolverState) (table : UInt32)
    (slot : ResolverFunction) : UInt32 :=
  loadSlot translateVirtual state.memory table slot

/-- An address not used before: no thunk, no saved original and nothing the
table holds. -/
def Unused (state : ResolverState) (table : UInt32) (address : UInt32) :
    Prop :=
  address ∉ state.thunks.addresses ∧
    ∀ slot, address ≠ state.resolver.original slot ∧
      address ≠ state.slot translateVirtual table slot

/-- `AllocateThunk` answers zero or an address not used before. -/
def AllocatesUnused (state : ResolverState) : ResolverEvent → Prop
  | .install call =>
      ∀ slot, call.thunk slot = 0 ∨
        Unused translateVirtual state call.table (call.thunk slot)
  | .guestWrite _ _ _ => True

instance (state : ResolverState) (table address : UInt32) :
    Decidable (Unused translateVirtual state table address) :=
  inferInstanceAs (Decidable (_ ∧ ∀ _ : ResolverFunction, _ ∧ _))

instance (state : ResolverState) (event : ResolverEvent) :
    Decidable (AllocatesUnused translateVirtual state event) :=
  match event with
  | .install _ => inferInstanceAs (Decidable (∀ _ : ResolverFunction, _ ∨ _))
  | .guestWrite _ _ _ => isTrue trivial

/-- No saved original is a thunk of this function. -/
def OriginalsForeign (state : ResolverState) : Prop :=
  ∀ slot, state.resolver.original slot ∉ state.thunks.addresses

/-- Every call that is not direct leaves the interception at once. -/
def CallsLeave (state : ResolverState) : Prop :=
  ∀ guestFunctions guest function,
    isDirectCall translateVirtual guest function = false →
    callPolResolver translateVirtual state.thunks guestFunctions
      state.resolver guest 1 function =
        if guestFunctions (state.resolver.original function) then
          some (.guest (state.resolver.original function))
        else some .unavailable

/-- The install takes the early return. -/
def FindsInstalled (state : ResolverState) (call : InstallCall) : Prop :=
  state.resolver.beginThunk ≠ 0 ∧
    state.slot translateVirtual call.table .begin =
      state.resolver.beginThunk

/-- The install gets as far as to replace the slots. -/
def Replaces (state : ResolverState) (call : InstallCall) : Prop :=
  ¬FindsInstalled translateVirtual state call ∧
    (∀ slot, state.slot translateVirtual call.table slot ≠ 0) ∧
    call.beginThunk ≠ 0 ∧ call.pollThunk ≠ 0 ∧ call.cancelThunk ≠ 0

/-- What the interception promises of one step. -/
structure StepIntercepts (state : ResolverState) (event : ResolverEvent) :
    Prop where
  installed : ∀ call, event = .install call →
    let next := (resolverMachine translateVirtual).step state event
    next.2 = [true] →
      ∀ slot, next.1.slot translateVirtual call.table slot =
        next.1.resolver.thunk slot
  unchanged : ∀ call, event = .install call →
    let next := (resolverMachine translateVirtual).step state event
    next.2 = [false] →
      next.1.memory = state.memory ∧ next.1.resolver = state.resolver
  foreign : OriginalsForeign
    ((resolverMachine translateVirtual).step state event).1
  leaves : CallsLeave translateVirtual
    ((resolverMachine translateVirtual).step state event).1
  /-- Where the slots held guest functions, every such call ends in one. -/
  reaches : ∀ call, event = .install call →
    state.resolver.enabled = true → call.kernelAvailable = true →
    Replaces translateVirtual state call →
    let next := (resolverMachine translateVirtual).step state event
    ∀ guestFunctions : UInt32 → Bool,
      (∀ slot, guestFunctions (state.slot translateVirtual call.table slot) =
        true) →
      ∀ guest function,
        isDirectCall translateVirtual guest function = false →
        callPolResolver translateVirtual next.1.thunks guestFunctions
          next.1.resolver guest 1 function =
            some (.guest (state.slot translateVirtual call.table function))

/-- When the begin slot holds the installed thunk, so do the others; and when
the slots are replaced, none of them held a thunk of this function. -/
def FindsTrustedSlots (state : ResolverState) : ResolverEvent → Prop
  | .install call =>
      state.resolver.enabled = true → call.kernelAvailable = true →
        (FindsInstalled translateVirtual state call →
          ∀ slot, state.slot translateVirtual call.table slot =
            state.resolver.thunk slot) ∧
        (Replaces translateVirtual state call →
          ∀ slot, state.slot translateVirtual call.table slot ∉
            state.thunks.addresses)
  | .guestWrite _ _ _ => True

instance (state : ResolverState) (call : InstallCall) :
    Decidable (FindsInstalled translateVirtual state call) :=
  inferInstanceAs (Decidable (_ ∧ _))

instance (state : ResolverState) (call : InstallCall) :
    Decidable (Replaces translateVirtual state call) :=
  inferInstanceAs (Decidable (_ ∧ _))

instance (state : ResolverState) (event : ResolverEvent) :
    Decidable (FindsTrustedSlots translateVirtual state event) :=
  match event with
  | .install _ => inferInstanceAs (Decidable (_ → _ → _ ∧ _))
  | .guestWrite _ _ _ => isTrue trivial

/-! ## What an install can do -/

def ResolverState.replaced (state : ResolverState) (call : InstallCall) :
    ResolverState where
  memory :=
    storeSlot translateVirtual (storeSlot translateVirtual
      (storeSlot translateVirtual state.memory call.table .begin
        call.beginThunk) call.table .poll call.pollThunk) call.table .cancel
      call.cancelThunk
  resolver := { state.resolver with
    beginOriginal := state.slot translateVirtual call.table .begin
    pollOriginal := state.slot translateVirtual call.table .poll
    cancelOriginal := state.slot translateVirtual call.table .cancel
    beginThunk := call.beginThunk
    pollThunk := call.pollThunk
    cancelThunk := call.cancelThunk }
  thunks := call.allocated ++ state.thunks

/-- An install leaves everything as it is, replaces the slots, or fails with
nothing but allocated thunks to show for it. -/
theorem install_cases
    (state : ResolverState) (call : InstallCall) :
    (state.resolver.enabled = true ∧ call.kernelAvailable = true ∧
      FindsInstalled translateVirtual state call ∧
      (resolverMachine translateVirtual).step state (.install call) =
        (state, [true])) ∨
    (state.resolver.enabled = true ∧ call.kernelAvailable = true ∧
      Replaces translateVirtual state call ∧
      (resolverMachine translateVirtual).step state (.install call) =
        (state.replaced translateVirtual call, [true])) ∨
    (¬(state.resolver.enabled = true ∧ call.kernelAvailable = true ∧
        (FindsInstalled translateVirtual state call ∨
          Replaces translateVirtual state call)) ∧
      ∃ allocated, (∀ entry ∈ allocated, entry ∈ call.allocated) ∧
        (resolverMachine translateVirtual).step state (.install call) =
          ({ state with thunks := allocated ++ state.thunks }, [false])) := by
  simp only [resolverMachine, resolverStep, installDirectPolResolver]
  by_cases henabled : state.resolver.enabled = false
  · refine Or.inr (Or.inr ⟨by simp [henabled], [], by simp, ?_⟩)
    simp [henabled]
  by_cases hkernel : call.kernelAvailable = false
  · refine Or.inr (Or.inr ⟨by simp [hkernel], [], by simp, ?_⟩)
    simp [henabled, hkernel]
  rw [if_neg henabled, if_neg hkernel]
  rw [Bool.not_eq_false] at henabled hkernel
  by_cases hfound : FindsInstalled translateVirtual state call
  · refine Or.inl ⟨henabled, hkernel, hfound, ?_⟩
    rw [if_pos (by exact hfound)]
    rfl
  rw [if_neg (by exact hfound)]
  by_cases hslots : ∀ slot, state.slot translateVirtual call.table slot ≠ 0
  · rw [if_neg (by simpa using
      ⟨hslots .begin, hslots .poll, hslots .cancel⟩)]
    by_cases hthunks :
        call.beginThunk ≠ 0 ∧ call.pollThunk ≠ 0 ∧ call.cancelThunk ≠ 0
    · refine Or.inr (Or.inl
        ⟨henabled, hkernel, ⟨hfound, hslots, hthunks⟩, ?_⟩)
      rw [if_neg (by simpa using hthunks)]
      rfl
    · have hnot : ¬Replaces translateVirtual state call := fun hreplaces =>
        hthunks hreplaces.2.2
      refine Or.inr (Or.inr ⟨by simp [hfound, hnot], call.allocated,
        fun _ hentry => hentry, ?_⟩)
      rw [if_pos (by simpa only [not_and_or, not_not] using hthunks)]
      rfl
  · have hnot : ¬Replaces translateVirtual state call := fun hreplaces =>
      hslots hreplaces.2.1
    refine Or.inr (Or.inr ⟨by simp [hfound, hnot], [], by simp, ?_⟩)
    rw [if_pos]
    · rfl
    · simp only [not_forall, not_not] at hslots
      obtain ⟨slot, hslot⟩ := hslots
      cases slot with
      | begin => exact Or.inl hslot
      | poll => exact Or.inr (Or.inl hslot)
      | cancel => exact Or.inr (Or.inr hslot)

/-! ## The slots after an install -/

variable {translateVirtual}

theorem loadSlot_storeSlot_of_ne
    {table : UInt32} (hapart : SlotsApart translateVirtual table)
    {slot other : ResolverFunction} (hne : slot ≠ other) (memory : Memory)
    (target : UInt32) :
    loadSlot translateVirtual
        (storeSlot translateVirtual memory table other target) table slot =
      loadSlot translateVirtual memory table slot :=
  Memory.loadWord_storeWord_of_disjoint memory target (hapart slot other hne)

theorem loadSlot_storeSlot
    (memory : Memory) (table : UInt32) (slot : ResolverFunction)
    (target : UInt32) :
    loadSlot translateVirtual
        (storeSlot translateVirtual memory table slot target) table slot =
      target :=
  Memory.loadWord_storeWord memory _ target

theorem replaced_slot
    {call : InstallCall} (hapart : SlotsApart translateVirtual call.table)
    (state : ResolverState) (slot : ResolverFunction) :
    (state.replaced translateVirtual call).slot translateVirtual call.table
        slot =
      (state.replaced translateVirtual call).resolver.thunk slot := by
  simp only [ResolverState.slot, ResolverState.replaced,
    DirectPolResolver.thunk]
  cases slot with
  | begin =>
      rw [loadSlot_storeSlot_of_ne hapart (by decide),
        loadSlot_storeSlot_of_ne hapart (by decide), loadSlot_storeSlot]
  | poll =>
      rw [loadSlot_storeSlot_of_ne hapart (by decide), loadSlot_storeSlot]
  | cancel => rw [loadSlot_storeSlot]

theorem replaced_original
    (state : ResolverState) (call : InstallCall) (slot : ResolverFunction) :
    (state.replaced translateVirtual call).resolver.original slot =
      state.slot translateVirtual call.table slot := by
  cases slot <;> rfl

/-! ## Saved originals -/

/-- An allocated thunk is none of the addresses the state knows. -/
theorem not_mem_allocated
    {state : ResolverState} {call : InstallCall}
    (hunused : AllocatesUnused translateVirtual state (.install call))
    {address : UInt32}
    (hknown : ∀ thunk, Unused translateVirtual state call.table thunk →
      address ≠ thunk)
    {allocated : ThunkRegistry}
    (hallocated : ∀ entry ∈ allocated, entry ∈ call.allocated) :
    address ∉ allocated.addresses := by
  intro hmem
  simp only [ThunkRegistry.addresses, List.mem_map] at hmem
  obtain ⟨entry, hentry, rfl⟩ := hmem
  have hcall := hallocated entry hentry
  simp only [InstallCall.allocated, List.mem_filter, List.mem_cons,
    List.not_mem_nil, or_false, decide_eq_true_eq] at hcall
  obtain ⟨hthunk, hzero⟩ := hcall
  have hslot : entry.1 = call.thunk entry.2 := by
    rcases hthunk with rfl | rfl | rfl <;> rfl
  rcases hunused entry.2 with hnull | hfresh
  · exact hzero (hslot.trans hnull)
  · exact hknown (call.thunk entry.2) hfresh hslot

theorem mem_addresses_append
    {address : UInt32} {allocated thunks : ThunkRegistry} :
    address ∈ ThunkRegistry.addresses (allocated ++ thunks) ↔
      address ∈ allocated.addresses ∨ address ∈ thunks.addresses := by
  simp [ThunkRegistry.addresses]

theorem originalsForeign_replaced_iff
    {state : ResolverState} {call : InstallCall}
    (hunused : AllocatesUnused translateVirtual state (.install call)) :
    OriginalsForeign (state.replaced translateVirtual call) ↔
      ∀ slot, state.slot translateVirtual call.table slot ∉
        state.thunks.addresses := by
  have hnew : ∀ slot, state.slot translateVirtual call.table slot ∉
      call.allocated.addresses := fun slot =>
    not_mem_allocated hunused
      (fun _ hfresh => ((hfresh.2 slot).2).symm) fun _ hentry => hentry
  simp only [OriginalsForeign, replaced_original]
  constructor
  · intro hforeign slot hmem
    exact hforeign slot (mem_addresses_append.mpr (Or.inr hmem))
  · intro hslots slot hmem
    rcases mem_addresses_append.mp hmem with hcall | hold
    · exact hnew slot hcall
    · exact hslots slot hold

theorem originalsForeign_failed
    {state : ResolverState} {call : InstallCall}
    (hforeign : OriginalsForeign state)
    (hunused : AllocatesUnused translateVirtual state (.install call))
    {allocated : ThunkRegistry}
    (hallocated : ∀ entry ∈ allocated, entry ∈ call.allocated) :
    OriginalsForeign { state with thunks := allocated ++ state.thunks } := by
  intro slot hmem
  rcases mem_addresses_append.mp hmem with hcall | hold
  · exact not_mem_allocated hunused
      (fun _ hfresh => ((hfresh.2 slot).1).symm) hallocated hcall
  · exact hforeign slot hold

/-- A call whose saved original is no thunk is over after one dispatch. -/
theorem callsLeave_of_foreign
    {state : ResolverState} (hforeign : OriginalsForeign state) :
    CallsLeave translateVirtual state := by
  intro guestFunctions guest function hindirect
  have hlookup :
      state.thunks.lookup (state.resolver.original function) = none := by
    rw [List.lookup_eq_none_iff]
    intro entry hentry
    have hne : state.resolver.original function ≠ entry.1 := by
      intro heq
      apply hforeign function
      rw [heq]
      exact List.mem_map_of_mem hentry
    simpa using hne
  simp [callPolResolver, hindirect, hlookup]

/-! ## One step -/

theorem original_of_replaces
    {state : ResolverState} {call : InstallCall}
    (henabled : state.resolver.enabled = true)
    (hkernel : call.kernelAvailable = true)
    (hreplaces : Replaces translateVirtual state call)
    (slot : ResolverFunction) :
    ((resolverMachine translateVirtual).step state
      (.install call)).1.resolver.original slot =
        state.slot translateVirtual call.table slot := by
  rcases install_cases translateVirtual state call with
    ⟨-, -, hfound, -⟩ | ⟨-, -, -, hstep⟩ | ⟨hneither, -⟩
  · exact absurd hfound hreplaces.1
  · rw [hstep, replaced_original]
  · exact absurd ⟨henabled, hkernel, Or.inr hreplaces⟩ hneither

/-- What an install has to keep, for the state and the result it gives. -/
theorem stepIntercepts_install_iff
    {state next : ResolverState} {call : InstallCall} {installed : Bool}
    (hstep : (resolverMachine translateVirtual).step state (.install call) =
      (next, [installed])) :
    StepIntercepts translateVirtual state (.install call) ↔
      (installed = true → ∀ slot,
        next.slot translateVirtual call.table slot =
          next.resolver.thunk slot) ∧
      (installed = false →
        next.memory = state.memory ∧ next.resolver = state.resolver) ∧
      OriginalsForeign next := by
  constructor
  · intro hsafe
    have hslots := hsafe.installed call rfl
    have hkept := hsafe.unchanged call rfl
    have hforeign := hsafe.foreign
    rw [hstep] at hslots hkept hforeign
    exact ⟨fun htrue => hslots (by rw [htrue]),
      fun hfalse => hkept (by rw [hfalse]), hforeign⟩
  · rintro ⟨hslots, hkept, hforeign⟩
    have hleaves : CallsLeave translateVirtual
        ((resolverMachine translateVirtual).step state (.install call)).1 := by
      rw [hstep]
      exact callsLeave_of_foreign hforeign
    refine ⟨?_, ?_, ?_, hleaves, ?_⟩
    · rintro _ ⟨rfl⟩
      rw [hstep]
      exact fun hone => hslots (List.singleton_inj.mp hone)
    · rintro _ ⟨rfl⟩
      rw [hstep]
      exact fun hone => hkept (List.singleton_inj.mp hone)
    · rwa [hstep]
    · rintro _ ⟨rfl⟩ henabled hkernel hreplaces next guestFunctions hguest
        guest function hindirect
      have hsaved := original_of_replaces henabled hkernel hreplaces function
      rw [hleaves guestFunctions guest function hindirect, hsaved,
        if_pos (hguest function)]

theorem stepIntercepts_iff
    (hapart : ∀ table, SlotsApart translateVirtual table)
    {state : ResolverState} {event : ResolverEvent}
    (hforeign : OriginalsForeign state)
    (hunused : AllocatesUnused translateVirtual state event) :
    StepIntercepts translateVirtual state event ↔
      FindsTrustedSlots translateVirtual state event := by
  cases event with
  | guestWrite table slot value =>
      have hkept : OriginalsForeign ((resolverMachine translateVirtual).step
          state (.guestWrite table slot value)).1 := hforeign
      constructor
      · intro _
        trivial
      · intro _
        exact ⟨by simp, by simp, hkept, callsLeave_of_foreign hkept, by simp⟩
  | install call =>
      rcases install_cases translateVirtual state call with
        ⟨henabled, hkernel, hfound, hstep⟩ |
        ⟨henabled, hkernel, hreplaces, hstep⟩ |
        ⟨hneither, allocated, hallocated, hstep⟩
      · rw [stepIntercepts_install_iff hstep]
        constructor
        · rintro ⟨hslots, -, -⟩ _ _
          exact ⟨fun _ => hslots rfl,
            fun hreplaces => absurd hfound hreplaces.1⟩
        · intro hguard
          have hslots := (hguard henabled hkernel).1 hfound
          exact ⟨fun _ => hslots, by simp, hforeign⟩
      · have hiff := originalsForeign_replaced_iff hunused
        rw [stepIntercepts_install_iff hstep]
        constructor
        · rintro ⟨-, -, hnext⟩ _ _
          exact ⟨fun hfound => absurd hfound hreplaces.1,
            fun _ => hiff.mp hnext⟩
        · intro hguard
          have hnext := hiff.mpr ((hguard henabled hkernel).2 hreplaces)
          exact ⟨fun _ => replaced_slot (hapart call.table) state, by simp,
            hnext⟩
      · have hnext := originalsForeign_failed hforeign hunused hallocated
        rw [stepIntercepts_install_iff hstep]
        constructor
        · intro _ henabled hkernel
          exact ⟨fun hfound =>
              absurd ⟨henabled, hkernel, Or.inl hfound⟩ hneither,
            fun hreplaces =>
              absurd ⟨henabled, hkernel, Or.inr hreplaces⟩ hneither⟩
        · intro _
          exact ⟨by simp, fun _ => ⟨rfl, rfl⟩, hnext⟩

/-! ## Runs -/

/-- The interception keeps its promises at every step of a run exactly when
every install of it finds slots it can trust. -/
theorem resolver_intercepts_iff
    (hapart : ∀ table, SlotsApart translateVirtual table)
    {start : ResolverState} (hstart : start.thunks = [])
    {events : List ResolverEvent}
    (hunused : (resolverMachine translateVirtual).AlongRun
      (AllocatesUnused translateVirtual) start events) :
    (resolverMachine translateVirtual).AlongRun
        (StepIntercepts translateVirtual) start events ↔
      (resolverMachine translateVirtual).AlongRun
        (FindsTrustedSlots translateVirtual) start events := by
  have hinit : OriginalsForeign start := by
    intro slot
    simp [hstart, ThunkRegistry.addresses]
  refine Machine.alongRun_iff_of_assumed ?_ ?_ hinit hunused
  · intro state event hforeign hevent
    exact stepIntercepts_iff hapart hforeign hevent
  · intro state event hforeign hevent hguard
    exact ((stepIntercepts_iff hapart hforeign hevent).mpr hguard).foreign

/-! ## Two tables in turn -/

theorem slotsApart_toNat (table : UInt32) :
    SlotsApart UInt32.toNat table := by
  intro left right hne
  have hbound := table.toNat_lt
  cases left <;> cases right <;>
    simp only [slotPointer, slotOffset, UInt32.toNat_add,
      UInt32.reduceToNat] <;>
    first
      | exact absurd rfl hne
      | omega

/-- Guest functions 1 to 6 fill the slots of the tables 0 and 16. -/
def twoTables : ResolverState where
  memory :=
    [(0, ResolverFunction.begin, (1 : UInt32)), (0, .poll, 2), (0, .cancel, 3),
      (16, .begin, 4), (16, .poll, 5), (16, .cancel, 6)].foldl
      (fun memory entry =>
        storeSlot UInt32.toNat memory entry.1 entry.2.1 entry.2.2)
      fun _ => 0
  resolver := { enabled := true, ipv4 := 0x7F000001 }
  thunks := []

def installFirstTable : ResolverEvent :=
  .install ⟨0, true, 0x101, 0x102, 0x103⟩

def alternatingInstalls : List ResolverEvent :=
  [installFirstTable, .install ⟨16, true, 0x104, 0x105, 0x106⟩,
    .install ⟨0, true, 0x107, 0x108, 0x109⟩]

/-- Installing over the first table again saves this function's own thunk as
the original, and a call that is not direct never gets out. -/
theorem resolver_calls_itself :
    let final := (resolverMachine UInt32.toNat).run twoTables
      alternatingInstalls
    (resolverMachine UInt32.toNat).AlongRun (AllocatesUnused UInt32.toNat)
        twoTables alternatingInstalls ∧
      final.2 = [true, true, true] ∧
      ¬(resolverMachine UInt32.toNat).AlongRun (StepIntercepts UInt32.toNat)
        twoTables alternatingInstalls ∧
      ∀ guestFunctions guest fuel,
        isDirectCall UInt32.toNat guest .begin = false →
        callPolResolver UInt32.toNat final.1.thunks guestFunctions
          final.1.resolver guest fuel .begin = none := by
  have hunused : (resolverMachine UInt32.toNat).AlongRun
      (AllocatesUnused UInt32.toNat) twoTables alternatingInstalls := by
    decide +kernel
  refine ⟨hunused, by decide +kernel, ?_, ?_⟩
  · rw [Machine.alongRun_iff_forall]
    intro hsafe
    have hforeign := (hsafe (alternatingInstalls.take 2) _ [] rfl).foreign
    exact hforeign .begin (by decide +kernel)
  · intro guestFunctions guest fuel hindirect
    induction fuel with
    | zero => rfl
    | succ fuel ih =>
        have hlookup : List.lookup
            (((resolverMachine UInt32.toNat).run twoTables
              alternatingInstalls).1.resolver.original .begin)
            ((resolverMachine UInt32.toNat).run twoTables
              alternatingInstalls).1.thunks = some .begin := by
          decide +kernel
        simp only [callPolResolver, hindirect, hlookup]
        exact ih

/-- An install over each table, another one that finds its thunks, and one
after the guest has put functions of its own back. -/
def trustedInstalls : List ResolverEvent :=
  [installFirstTable, .install ⟨16, true, 0x104, 0x105, 0x106⟩,
    .install ⟨16, true, 0x107, 0x108, 0x109⟩, .guestWrite 0 .begin 1,
    .guestWrite 0 .poll 2, .guestWrite 0 .cancel 3,
    .install ⟨0, true, 0x10A, 0x10B, 0x10C⟩]

theorem resolver_intercepts_once :
    (resolverMachine UInt32.toNat).AlongRun (StepIntercepts UInt32.toNat)
      twoTables trustedInstalls :=
  (resolver_intercepts_iff slotsApart_toNat rfl (by decide +kernel)).mpr
    (by decide +kernel)

end Machine

end Revana.Runtime
