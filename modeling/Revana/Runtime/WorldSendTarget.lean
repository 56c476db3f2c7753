import Revana.Foundation.Machine
import Revana.Runtime.WorldLogin

/-!
# The world send hook over a retransmission

A configured endpoint never has a sentinel port, whatever configurations and
clearings came before.  So a repaired target is repaired once, a restored
packet is restored once, and a second run of the hook changes nothing.
-/

namespace Revana.Runtime

open Foundation
open Login

/-! ## Endpoint histories -/

inductive EndpointCall where
  | configure (ipv4Address : UInt32) (port : UInt16)
  | clear

/-- What a call did to the endpoint; a refused configuration leaves none. -/
inductive EndpointRecord where
  | configured (ipv4Address : UInt32) (port : UInt16)
  | cleared

def endpointStep (globals : Globals) :
    EndpointCall → Globals × List EndpointRecord
  | .configure ipv4Address port =>
      let configured :=
        revanaConfigureDirectMapEndpoint ipv4Address port globals
      (configured.2,
        if configured.1 then [.configured ipv4Address port] else [])
  | .clear => (revanaClearDirectMapEndpoint globals, [.cleared])

def endpointMachine : Machine Globals EndpointCall EndpointRecord where
  step := endpointStep

def IsSentinelPort (port : UInt16) : Prop := port = 0 ∨ port = 0xFFFF

/-- An enabled endpoint is the one configured last and has a real port. -/
structure EndpointKnown (globals : Globals) (records : List EndpointRecord) :
    Prop where
  latest : globals.endpoint.enabled = true → records.getLast? =
    some (.configured globals.endpoint.ipv4 globals.endpoint.port)
  usable : globals.endpoint.enabled = true →
    ¬IsSentinelPort globals.endpoint.port

theorem endpointStep_refused
    {ipv4Address : UInt32} {port : UInt16} (globals : Globals)
    (hrefused : ipv4Address = 0 ∨ port = 0 ∨ port = 0xFFFF) :
    endpointStep globals (.configure ipv4Address port) = (globals, []) := by
  have hresult : revanaConfigureDirectMapEndpoint ipv4Address port globals =
      (false, globals) := if_pos hrefused
  simp only [endpointStep, hresult, Bool.false_eq_true, if_false]

theorem endpointStep_accepted
    {ipv4Address : UInt32} {port : UInt16} (globals : Globals)
    (haccepted : ¬(ipv4Address = 0 ∨ port = 0 ∨ port = 0xFFFF)) :
    endpointStep globals (.configure ipv4Address port) =
      ({ globals with endpoint := {
          enabled := true
          ipv4 := ipv4Address
          port } }, [.configured ipv4Address port]) := by
  have hresult : revanaConfigureDirectMapEndpoint ipv4Address port globals =
      (true, { globals with endpoint := {
        enabled := true
        ipv4 := ipv4Address
        port } }) := if_neg haccepted
  simp only [endpointStep, hresult, if_true]

theorem endpointKnown_step
    (globals : Globals) (records : List EndpointRecord) (call : EndpointCall)
    (hknown : EndpointKnown globals records) :
    EndpointKnown (endpointStep globals call).1
      (records ++ (endpointStep globals call).2) := by
  cases call with
  | configure ipv4Address port =>
      by_cases hrefused : ipv4Address = 0 ∨ port = 0 ∨ port = 0xFFFF
      · rw [endpointStep_refused globals hrefused, List.append_nil]
        exact hknown
      · rw [endpointStep_accepted globals hrefused]
        constructor
        · intro _
          exact List.getLast?_concat
        · intro _ hsentinel
          exact hrefused (Or.inr hsentinel)
  | clear =>
      constructor
      · intro henabled
        cases henabled
      · intro henabled
        cases henabled

theorem endpointKnown_run
    (globals : Globals) (calls : List EndpointCall)
    (hinit : globals.endpoint.enabled = false) :
    EndpointKnown (endpointMachine.run globals calls).1
      (endpointMachine.run globals calls).2 := by
  have hempty : EndpointKnown globals [] := by
    constructor
    · intro henabled
      exact absurd (hinit.symm.trans henabled) Bool.false_ne_true
    · intro henabled
      exact absurd (hinit.symm.trans henabled) Bool.false_ne_true
  exact Machine.run_history EndpointKnown endpointKnown_step hempty calls

/-! ## The target -/

section Target

variable {memory : Memory} {target : ℕ} {endpoint : DirectMapEndpoint}

def withEndpoint (memory : Memory) (target : ℕ)
    (endpoint : DirectMapEndpoint) : Memory :=
  memory.apply (restoreEndpoint memory target endpoint)

theorem endpointBytes_length (endpoint : DirectMapEndpoint) :
    (endpointBytes endpoint).length = 8 := rfl

theorem withEndpoint_of_sentinel
    (hsentinel : IsSentinelPort (memory.loadHalf (target + 2)))
    (henabled : endpoint.enabled = true) :
    withEndpoint memory target endpoint =
      memory.store target (endpointBytes endpoint) := by
  have hsource : (memory.loadHalf (target + 2) = 0 ∨
      memory.loadHalf (target + 2) = 0xFFFF) ∧ endpoint.enabled = true :=
    ⟨hsentinel, henabled⟩
  unfold withEndpoint restoreEndpoint
  dsimp only
  rw [if_pos hsource]
  rfl

theorem withEndpoint_of_not
    (hsettled : ¬(IsSentinelPort (memory.loadHalf (target + 2)) ∧
      endpoint.enabled = true)) :
    withEndpoint memory target endpoint = memory := by
  have hsource : ¬((memory.loadHalf (target + 2) = 0 ∨
      memory.loadHalf (target + 2) = 0xFFFF) ∧ endpoint.enabled = true) :=
    hsettled
  unfold withEndpoint restoreEndpoint
  dsimp only
  rw [if_neg hsource]
  rfl

theorem withEndpoint_of_outside
    {index : ℕ} (houtside : index < target ∨ target + 8 ≤ index) :
    withEndpoint memory target endpoint index = memory index := by
  by_cases hrepaired : IsSentinelPort (memory.loadHalf (target + 2)) ∧
      endpoint.enabled = true
  · rw [withEndpoint_of_sentinel hrepaired.1 hrepaired.2]
    exact Memory.store_of_outside houtside
  · rw [withEndpoint_of_not hrepaired]

/-- A repaired target is family 2 with the endpoint's port and address. -/
theorem loadHalf_endpointBytes
    (memory : Memory) (target : ℕ) (endpoint : DirectMapEndpoint) :
    let repaired := memory.store target (endpointBytes endpoint)
    repaired.loadHalf target = 2 ∧
      repaired.loadHalf (target + 2) = endpoint.port ∧
      repaired.loadWord (target + 4) = endpoint.ipv4 := by
  intro repaired
  have hbyte : ∀ offset < 8, repaired (target + offset) =
      byteAt (endpointBytes endpoint) offset := fun offset hoffset =>
    Memory.store_inside (by rw [endpointBytes_length]; exact hoffset)
  have hfirst := hbyte 0 (by decide)
  rw [Nat.add_zero] at hfirst
  refine ⟨?_, ?_, ?_⟩
  · unfold Memory.loadHalf
    rw [hfirst, hbyte 1 (by decide)]
    exact (by decide : le16 2 0 = 2)
  · unfold Memory.loadHalf
    rw [hbyte 2 (by decide), hbyte 3 (by decide)]
    exact le16_shifts endpoint.port
  · unfold Memory.loadWord
    rw [hbyte 4 (by decide), hbyte 5 (by decide), hbyte 6 (by decide),
      hbyte 7 (by decide)]
    exact le32_shifts endpoint.ipv4

theorem withEndpoint_not_sentinel
    (henabled : endpoint.enabled = true)
    (husable : ¬IsSentinelPort endpoint.port) :
    ¬IsSentinelPort
      ((withEndpoint memory target endpoint).loadHalf (target + 2)) := by
  by_cases hsentinel : IsSentinelPort (memory.loadHalf (target + 2))
  · rw [withEndpoint_of_sentinel hsentinel henabled,
      (loadHalf_endpointBytes memory target endpoint).2.1]
    exact husable
  · rw [withEndpoint_of_not fun hrepaired => hsentinel hrepaired.1]
    exact hsentinel

/-- A target is repaired once. -/
theorem withEndpoint_idem
    (husable : endpoint.enabled = true → ¬IsSentinelPort endpoint.port) :
    withEndpoint (withEndpoint memory target endpoint) target endpoint =
      withEndpoint memory target endpoint := by
  apply withEndpoint_of_not
  rintro ⟨hsentinel, henabled⟩
  exact withEndpoint_not_sentinel henabled (husable henabled) hsentinel

end Target

/-! ## The packet -/

section Packet

variable {flags : ExperimentalFlags} {md5 : Md5} {memory : Memory}
  {packet packetSize : ℕ} {globals : Globals}

def withRestoredId (flags : ExperimentalFlags) (md5 : Md5) (memory : Memory)
    (packet packetSize : ℕ) (globals : Globals) : Memory :=
  if flags.restoreWorldLoginCharacterId then
    memory.apply (restoreWorldLoginCharacterId md5 memory packet packetSize
      globals).writes
  else memory

theorem withRestoredId_of_outside
    {index : ℕ} (houtside : index < packet ∨ packet + packetSize ≤ index) :
    withRestoredId flags md5 memory packet packetSize globals index =
      memory index := by
  unfold withRestoredId
  split
  · rcases restoreWorldLoginCharacterId_cases md5 memory packet packetSize
        globals with ⟨-, -, hsame⟩ | ⟨digest, hrestores, -, hafter⟩
    · rw [hsame]
    · have hsize := hrestores.size
      rw [hafter]
      exact restoredMemory_of_ne hsize hrestores.ids.2.2 (by omega) (by omega)
        (by omega)
  · rfl

/-- A packet the hook has seen is left alone, wherever else memory changed. -/
theorem withRestoredId_settled
    {other : Memory} {later : Globals}
    (hid : later.lobbyNextLoginCharacterId =
      globals.lobbyNextLoginCharacterId)
    (hbytes : ∀ index < packetSize, other (packet + index) =
      withRestoredId flags md5 memory packet packetSize globals
        (packet + index)) :
    withRestoredId flags md5 other packet packetSize later = other := by
  unfold withRestoredId at hbytes ⊢
  split
  swap
  · rfl
  rename_i hflag
  rw [if_pos hflag] at hbytes
  rcases restoreWorldLoginCharacterId_cases md5 other packet packetSize
      later with ⟨-, -, hsame⟩ | ⟨digest, hagain, -, -⟩
  · exact hsame
  rw [hid] at hagain
  rcases restoreWorldLoginCharacterId_cases md5 memory packet packetSize
      globals with ⟨hnever, -, hsame⟩ | ⟨first, hrestores, -, hafter⟩
  · rw [hsame] at hbytes
    exact absurd (hagain.congr fun index hindex => (hbytes index hindex).symm)
      (hnever digest)
  · rw [hafter] at hbytes
    have hsize := hrestores.size
    have hcompleted : packetId other packet =
        globals.lobbyNextLoginCharacterId := by
      have hsame : packetId other packet = packetId
          (restoredMemory memory packet packetSize
            globals.lobbyNextLoginCharacterId first) packet := by
        apply readLe32_congr
        intro index hindex
        exact hbytes (40 + index) (by omega)
      exact hsame.trans (packetId_restoredMemory hsize)
    exact absurd hcompleted hagain.ids.2.1

end Packet

/-! ## The hook -/

section Hook

variable (translateVirtual : UInt32 → ℕ) (flags : ExperimentalFlags)
  (md5 : Md5) (guest : Guest) (globals : Globals)

def WorldSendArguments (registers : Registers) : Prop :=
  ¬(u32 registers.r4 = 0 ∨ u32 registers.r7 = 0 ∨ u32 registers.r27 < 8)

instance (registers : Registers) : Decidable (WorldSendArguments registers) :=
  inferInstanceAs (Decidable (¬_))

def sendPacket (registers : Registers) : ℕ :=
  translateVirtual (u32 registers.r4)

def sendPacketSize (registers : Registers) : ℕ := (u32 registers.r5).toNat

def sendTarget (registers : Registers) : ℕ :=
  translateVirtual (u32 registers.r7)

def sendTargetLength (registers : Registers) : ℕ := (u32 registers.r27).toNat

def BuffersDisjoint (registers : Registers) : Prop :=
  sendPacket translateVirtual registers + sendPacketSize registers ≤
      sendTarget translateVirtual registers ∨
    sendTarget translateVirtual registers + sendTargetLength registers ≤
      sendPacket translateVirtual registers

/-- Guest memory after one run of the hook. -/
def sentMemory : Memory :=
  guest.memory.apply
    (revanaTraceWorldSendTarget translateVirtual flags md5 guest globals).2

/-- The hook restores the packet and then repairs the target. -/
theorem sentMemory_of_arguments
    (hvalid : WorldSendArguments guest.registers) :
    sentMemory translateVirtual flags md5 guest globals =
      withEndpoint (withRestoredId flags md5 guest.memory
          (sendPacket translateVirtual guest.registers)
          (sendPacketSize guest.registers) globals)
        (sendTarget translateVirtual guest.registers) globals.endpoint := by
  have harguments : ¬(u32 guest.registers.r4 = 0 ∨
      u32 guest.registers.r7 = 0 ∨ u32 guest.registers.r27 < 8) := hvalid
  unfold sentMemory revanaTraceWorldSendTarget withRestoredId
  rw [if_neg harguments]
  cases hflag : flags.restoreWorldLoginCharacterId with
  | false =>
      simp only [Bool.false_eq_true, if_false, List.nil_append,
        Memory.apply_nil]
      rfl
  | true =>
      simp only [if_true, Memory.apply_append]
      rw [(restoreWorldLoginCharacterId_globals md5 guest.memory _ _
        globals).2]
      rfl

theorem sentMemory_of_not_arguments
    (hinvalid : ¬WorldSendArguments guest.registers) :
    sentMemory translateVirtual flags md5 guest globals = guest.memory := by
  have hrefused : u32 guest.registers.r4 = 0 ∨ u32 guest.registers.r7 = 0 ∨
      u32 guest.registers.r27 < 8 := not_not.mp hinvalid
  unfold sentMemory revanaTraceWorldSendTarget
  rw [if_pos hrefused]
  rfl

theorem revanaTraceWorldSendTarget_globals :
    let next := (revanaTraceWorldSendTarget translateVirtual flags md5 guest
      globals).1
    next.lobbyNextLoginCharacterId = globals.lobbyNextLoginCharacterId ∧
      next.endpoint = globals.endpoint := by
  unfold revanaTraceWorldSendTarget
  dsimp only
  split
  · exact ⟨rfl, rfl⟩
  split
  · exact restoreWorldLoginCharacterId_globals md5 guest.memory _ _ globals
  · exact ⟨rfl, rfl⟩

section Disjoint

variable {translateVirtual flags md5 guest globals}

theorem eight_le_sendTargetLength
    (hvalid : WorldSendArguments guest.registers) :
    8 ≤ sendTargetLength guest.registers := by
  by_contra hshort
  have hlength : u32 guest.registers.r27 < 8 :=
    UInt32.lt_iff_toNat_lt.mpr (not_le.mp hshort)
  exact hvalid (Or.inr (Or.inr hlength))

/-- Restoring the packet does not reach the target. -/
theorem withRestoredId_target
    (hdisjoint : BuffersDisjoint translateVirtual guest.registers)
    {index : ℕ} (hindex : index < sendTargetLength guest.registers) :
    withRestoredId flags md5 guest.memory
        (sendPacket translateVirtual guest.registers)
        (sendPacketSize guest.registers) globals
        (sendTarget translateVirtual guest.registers + index) =
      guest.memory (sendTarget translateVirtual guest.registers + index) := by
  apply withRestoredId_of_outside
  rcases hdisjoint with hbefore | hbehind
  · exact Or.inr (by omega)
  · exact Or.inl (by omega)

theorem loadHalf_withRestoredId
    (hdisjoint : BuffersDisjoint translateVirtual guest.registers)
    (hvalid : WorldSendArguments guest.registers) :
    (withRestoredId flags md5 guest.memory
        (sendPacket translateVirtual guest.registers)
        (sendPacketSize guest.registers) globals).loadHalf
        (sendTarget translateVirtual guest.registers + 2) =
      guest.memory.loadHalf
        (sendTarget translateVirtual guest.registers + 2) := by
  have hlength := eight_le_sendTargetLength hvalid
  unfold Memory.loadHalf
  rw [Nat.add_assoc, withRestoredId_target hdisjoint (by omega),
    withRestoredId_target hdisjoint (by omega)]

/-- The second run finds a restored packet and a repaired target. -/
theorem sentMemory_sentMemory
    (hdisjoint : BuffersDisjoint translateVirtual guest.registers)
    (husable : globals.endpoint.enabled = true →
      ¬IsSentinelPort globals.endpoint.port) :
    let once := sentMemory translateVirtual flags md5 guest globals
    sentMemory translateVirtual flags md5 { guest with memory := once }
        (revanaTraceWorldSendTarget translateVirtual flags md5 guest
          globals).1 = once := by
  intro once
  by_cases hvalid : WorldSendArguments guest.registers
  swap
  · exact sentMemory_of_not_arguments translateVirtual flags md5 _ _ hvalid
  have hlength := eight_le_sendTargetLength hvalid
  have honce : once = withEndpoint (withRestoredId flags md5 guest.memory
      (sendPacket translateVirtual guest.registers)
      (sendPacketSize guest.registers) globals)
      (sendTarget translateVirtual guest.registers) globals.endpoint :=
    sentMemory_of_arguments translateVirtual flags md5 guest globals hvalid
  obtain ⟨hid, hendpoint⟩ := revanaTraceWorldSendTarget_globals
    translateVirtual flags md5 guest globals
  rw [sentMemory_of_arguments translateVirtual flags md5
    { guest with memory := once } _ hvalid, hendpoint]
  have hsettled : withRestoredId flags md5 once
      (sendPacket translateVirtual guest.registers)
      (sendPacketSize guest.registers)
      (revanaTraceWorldSendTarget translateVirtual flags md5 guest
        globals).1 = once := by
    apply withRestoredId_settled hid
    intro index hindex
    rw [honce]
    apply withEndpoint_of_outside
    rcases hdisjoint with hbefore | hbehind
    · exact Or.inl (by omega)
    · exact Or.inr (by omega)
  dsimp only
  rw [hsettled, honce]
  exact withEndpoint_idem husable

theorem sentMemory_not_sentinel
    (hvalid : WorldSendArguments guest.registers)
    (henabled : globals.endpoint.enabled = true)
    (husable : ¬IsSentinelPort globals.endpoint.port) :
    ¬IsSentinelPort
      ((sentMemory translateVirtual flags md5 guest globals).loadHalf
        (sendTarget translateVirtual guest.registers + 2)) := by
  rw [sentMemory_of_arguments translateVirtual flags md5 guest globals hvalid]
  exact withEndpoint_not_sentinel henabled husable

theorem sentMemory_of_not_sentinel
    (hdisjoint : BuffersDisjoint translateVirtual guest.registers)
    (hport : ¬IsSentinelPort (guest.memory.loadHalf
      (sendTarget translateVirtual guest.registers + 2)))
    {index : ℕ} (hindex : index < sendTargetLength guest.registers) :
    sentMemory translateVirtual flags md5 guest globals
        (sendTarget translateVirtual guest.registers + index) =
      guest.memory (sendTarget translateVirtual guest.registers + index) := by
  by_cases hvalid : WorldSendArguments guest.registers
  · rw [sentMemory_of_arguments translateVirtual flags md5 guest globals
      hvalid, withEndpoint_of_not]
    · exact withRestoredId_target hdisjoint hindex
    · rintro ⟨hsentinel, -⟩
      rw [loadHalf_withRestoredId hdisjoint hvalid] at hsentinel
      exact hport hsentinel
  · rw [sentMemory_of_not_arguments translateVirtual flags md5 guest globals
      hvalid]

/-- A repaired target, and what is behind it. -/
theorem sentMemory_of_sentinel
    (hdisjoint : BuffersDisjoint translateVirtual guest.registers)
    (hport : IsSentinelPort (guest.memory.loadHalf
      (sendTarget translateVirtual guest.registers + 2)))
    (henabled : globals.endpoint.enabled = true)
    (hvalid : WorldSendArguments guest.registers) :
    let once := sentMemory translateVirtual flags md5 guest globals
    let target := sendTarget translateVirtual guest.registers
    once.loadHalf target = 2 ∧
      once.loadHalf (target + 2) = globals.endpoint.port ∧
      once.loadWord (target + 4) = globals.endpoint.ipv4 ∧
      ∀ index, 8 ≤ index → index < sendTargetLength guest.registers →
        once (target + index) = guest.memory (target + index) := by
  intro once target
  have honce : once = withEndpoint (withRestoredId flags md5 guest.memory
      (sendPacket translateVirtual guest.registers)
      (sendPacketSize guest.registers) globals) target globals.endpoint :=
    sentMemory_of_arguments translateVirtual flags md5 guest globals hvalid
  have hsentinel : IsSentinelPort ((withRestoredId flags md5 guest.memory
      (sendPacket translateVirtual guest.registers)
      (sendPacketSize guest.registers) globals).loadHalf (target + 2)) := by
    rw [loadHalf_withRestoredId hdisjoint hvalid]
    exact hport
  have hbehind : ∀ index, 8 ≤ index →
      index < sendTargetLength guest.registers →
      once (target + index) = guest.memory (target + index) := by
    intro index hlow hhigh
    rw [honce, withEndpoint_of_outside (Or.inr (by omega))]
    exact withRestoredId_target hdisjoint hhigh
  rw [withEndpoint_of_sentinel hsentinel henabled] at honce
  obtain ⟨hfamily, hportAfter, haddress⟩ := loadHalf_endpointBytes
    (withRestoredId flags md5 guest.memory
      (sendPacket translateVirtual guest.registers)
      (sendPacketSize guest.registers) globals) target globals.endpoint
  rw [← honce] at hfamily hportAfter haddress
  exact ⟨hfamily, hportAfter, haddress, hbehind⟩

end Disjoint

end Hook

/-- A second run of the hook on the memory the first one left changes nothing,
no sentinel port is left behind an enabled endpoint, and a target is either
untouched or family 2 with the port and the address configured last. -/
theorem worldSend_idempotent
    (translateVirtual : UInt32 → ℕ) (flags : ExperimentalFlags) (md5 : Md5)
    (guest : Guest) (start : Globals) (calls : List EndpointCall)
    (hdisjoint : BuffersDisjoint translateVirtual guest.registers) :
    let configured :=
      endpointMachine.run { start with endpoint := {} } calls
    let globals := configured.1
    let target := sendTarget translateVirtual guest.registers
    let length := sendTargetLength guest.registers
    let once := sentMemory translateVirtual flags md5 guest globals
    let next := (revanaTraceWorldSendTarget translateVirtual flags md5 guest
      globals).1
    let before := guest.memory.loadHalf (target + 2)
    sentMemory translateVirtual flags md5 { guest with memory := once } next =
        once ∧
    (globals.endpoint.enabled = true → WorldSendArguments guest.registers →
      ¬IsSentinelPort (once.loadHalf (target + 2))) ∧
    (¬IsSentinelPort before → ∀ index < length,
      once (target + index) = guest.memory (target + index)) ∧
    (IsSentinelPort before → globals.endpoint.enabled = true →
      WorldSendArguments guest.registers →
      ∃ ipv4Address port,
        configured.2.getLast? = some (.configured ipv4Address port) ∧
        once.loadHalf target = 2 ∧ once.loadHalf (target + 2) = port ∧
        once.loadWord (target + 4) = ipv4Address ∧
        ∀ index, 8 ≤ index → index < length →
          once (target + index) = guest.memory (target + index)) := by
  intro configured globals target length once next before
  have hknown : EndpointKnown globals configured.2 :=
    endpointKnown_run { start with endpoint := {} } calls rfl
  refine ⟨?_, ?_, ?_, ?_⟩
  · exact sentMemory_sentMemory hdisjoint hknown.usable
  · intro henabled hvalid
    exact sentMemory_not_sentinel hvalid henabled (hknown.usable henabled)
  · intro hport index hindex
    exact sentMemory_of_not_sentinel hdisjoint hport hindex
  · intro hport henabled hvalid
    obtain ⟨hfamily, hportAfter, haddress, hbehind⟩ :=
      sentMemory_of_sentinel hdisjoint hport henabled hvalid
    exact ⟨globals.endpoint.ipv4, globals.endpoint.port,
      hknown.latest henabled, hfamily, hportAfter, haddress, hbehind⟩

def exampleSend : Guest where
  registers := {
    r1 := 0
    r3 := 0
    r4 := 0x1000
    r5 := 136
    r7 := 0x2000
    r10 := 0
    r11 := 0
    r27 := 16
    r29 := 0
    r30 := 0 }
  memory := fun _ => 0

/-- An endpoint that is cleared, refused and set again. -/
def endpointCalls : List EndpointCall :=
  [.configure 0x0A000001 54001, .clear, .configure 0x7F000001 0,
    .configure 0x7F000001 54230]

/-- A target without a port is repaired by the first of two runs, for the
endpoint that was configured last. -/
theorem exampleSend_repaired :
    let flags : ExperimentalFlags := { restoreWorldLoginCharacterId := true }
    let md5 := md5Call (fun _ => Bytes.zero 16) true
    let globals := (endpointMachine.run {} endpointCalls).1
    let once := sentMemory UInt32.toNat flags md5 exampleSend globals
    once.loadHalf 0x2000 = 2 ∧ once.loadHalf 0x2002 = 54230 ∧
      once.loadWord 0x2004 = 0x7F000001 ∧
      sentMemory UInt32.toNat flags md5 { exampleSend with memory := once }
          (revanaTraceWorldSendTarget UInt32.toNat flags md5 exampleSend
            globals).1 = once := by
  intro flags md5 globals once
  obtain ⟨hagain, -, -, hrepaired⟩ := worldSend_idempotent UInt32.toNat flags
    md5 exampleSend {} endpointCalls (Or.inl (by decide))
  obtain ⟨ipv4Address, port, hlast, hfamily, hport, haddress, -⟩ :=
    hrepaired (Or.inl rfl) rfl (by decide)
  have hconfigured : (endpointMachine.run ({} : Globals)
      endpointCalls).2.getLast? =
        some (.configured 0x7F000001 54230) := rfl
  obtain ⟨rfl, rfl⟩ : ipv4Address = 0x7F000001 ∧ port = 54230 := by
    simpa using hlast.symm.trans hconfigured
  exact ⟨hfamily, hport, haddress, hagain⟩

end Revana.Runtime
