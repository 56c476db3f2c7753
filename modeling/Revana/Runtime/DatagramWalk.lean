import Revana.Runtime.MapKeyLifecycle

/-!
# Walking a world datagram

A well-formed datagram is a concatenation of sub-packets that carry their own
size.  The hook visits the first 64 of them in order, and the key state it
leaves is the fold of the events among these.
-/

namespace Revana.Runtime

open Foundation
open Login

/-! ## Sub-packets -/

/-- The bytes of a sub-packet, whose header holds their number. -/
structure SubPacket where
  bytes : List UInt8
  header : 4 ≤ bytes.length
  sized : subPacketSize (byteAt bytes) 0 = bytes.length

def SubPacket.id (packet : SubPacket) : UInt16 :=
  subPacketId (byteAt packet.bytes) 0

def datagramBytes (packets : List SubPacket) : List UInt8 :=
  packets.flatMap SubPacket.bytes

/-- What a sub-packet means for the key. -/
inductive KeyEvent where
  | rollover
  | login
  deriving DecidableEq, Repr

def SubPacket.event (packet : SubPacket) : Option KeyEvent :=
  if packet.id = 0x00B then some .rollover
  else if packet.id = 0x00A ∧ 32 ≤ packet.bytes.length then some .login
  else none

/-- The events of a datagram with the offsets of their sub-packets. -/
def eventsFrom : ℕ → List SubPacket → List (ℕ × KeyEvent)
  | _, [] => []
  | offset, packet :: packets =>
      (packet.event.map (Prod.mk offset)).toList ++
        eventsFrom (offset + packet.bytes.length) packets

def applyEvent (md5 : ℕ → Md5) (mapKey : DirectMapKey) :
    ℕ × KeyEvent → DirectMapKey
  | (offset, .rollover) =>
      (advanceDirectMapSessionKey (md5 offset) mapKey).mapKey
  | (_, .login) => { mapKey with rolloverPending := false }

section Visit

theorem advanceDirectMapSessionKey_disabled
    {md5 : Md5} {mapKey : DirectMapKey} (hdisabled : mapKey.enabled = false) :
    (advanceDirectMapSessionKey md5 mapKey).mapKey = mapKey := by
  unfold advanceDirectMapSessionKey
  rw [if_pos hdisabled]

/-- The effect of a visit is the effect of its event. -/
theorem visitMapKey_event
    (md5 : ℕ → Md5) (offset : ℕ) (packet : SubPacket)
    (mapKey : DirectMapKey) :
    visitMapKey (md5 offset) mapKey.enabled packet.id packet.bytes.length
        mapKey =
      ((packet.event.map (Prod.mk offset)).toList).foldl (applyEvent md5)
        mapKey := by
  unfold visitMapKey SubPacket.event
  by_cases hrollover : packet.id = 0x00B
  · have hother : ¬(packet.id = 0x00A ∧ 32 ≤ packet.bytes.length) := by
      rintro ⟨hlogin, -⟩
      rw [hrollover] at hlogin
      exact absurd hlogin (by decide)
    rw [if_pos hrollover]
    dsimp only
    rw [if_neg hother]
    cases henabled : mapKey.enabled with
    | true =>
        rw [if_pos ⟨hrollover, rfl⟩]
        rfl
    | false =>
        rw [if_neg fun hboth => Bool.false_ne_true hboth.2]
        exact (advanceDirectMapSessionKey_disabled henabled).symm
  · have hneither : ¬(packet.id = 0x00B ∧ mapKey.enabled = true) :=
      fun hboth => hrollover hboth.1
    dsimp only
    rw [if_neg hneither, if_neg hrollover]
    by_cases hlogin : packet.id = 0x00A ∧ 32 ≤ packet.bytes.length
    · rw [if_pos hlogin, if_pos hlogin]
      rfl
    · rw [if_neg hlogin, if_neg hlogin]
      rfl

end Visit

/-! ## The walk -/

section Walk

variable {plaintext : ℕ → UInt8}

/-- The plaintext holds the sub-packets from an offset up to the total. -/
structure HoldsPackets (plaintext : ℕ → UInt8) (offset total : ℕ)
    (packets : List SubPacket) : Prop where
  size : total = offset + (datagramBytes packets).length
  bytes : ∀ index < (datagramBytes packets).length,
    plaintext (offset + index) = byteAt (datagramBytes packets) index

theorem datagramBytes_cons (packet : SubPacket) (packets : List SubPacket) :
    datagramBytes (packet :: packets) =
      packet.bytes ++ datagramBytes packets :=
  List.flatMap_cons

theorem datagramBytes_append (before after : List SubPacket) :
    datagramBytes (before ++ after) =
      datagramBytes before ++ datagramBytes after :=
  List.flatMap_append

variable {offset total : ℕ} {packet : SubPacket} {packets : List SubPacket}

/-- The header the loop reads is the header of the next sub-packet. -/
theorem HoldsPackets.head
    (hholds : HoldsPackets plaintext offset total (packet :: packets)) :
    subPacketId plaintext offset = packet.id ∧
      subPacketSize plaintext offset = packet.bytes.length ∧
      offset + packet.bytes.length ≤ total := by
  have hheader := packet.header
  have hsize := hholds.size
  have hbytes := hholds.bytes
  rw [datagramBytes_cons, List.length_append] at hsize hbytes
  have hbyte : ∀ index < packet.bytes.length,
      plaintext (offset + index) = byteAt packet.bytes index := by
    intro index hindex
    rw [hbytes index (by omega)]
    exact byteAt_append hindex _
  have hfirst := hbyte 0 (by omega)
  rw [Nat.add_zero] at hfirst
  have hsecond := hbyte 1 (by omega)
  refine ⟨?_, ?_, by omega⟩
  · unfold SubPacket.id subPacketId readLe16
    rw [hfirst, hsecond]
  · rw [← packet.sized]
    unfold subPacketSize
    rw [hsecond]

theorem HoldsPackets.tail
    (hholds : HoldsPackets plaintext offset total (packet :: packets)) :
    HoldsPackets plaintext (offset + packet.bytes.length) total packets := by
  have hsize := hholds.size
  have hbytes := hholds.bytes
  rw [datagramBytes_cons, List.length_append] at hsize hbytes
  constructor
  · rw [hsize, Nat.add_assoc]
  · intro index hindex
    rw [Nat.add_assoc, hbytes _ (by omega)]
    simp only [byteAt, List.getD_eq_getElem?_getD]
    rw [List.getElem?_append_right (Nat.le_add_right _ _),
      Nat.add_sub_cancel_left]

/-- The loop visits the sub-packets in order, as many as the cap leaves, and
applies their events. -/
theorem walkSubPackets_holds
    (md5 : ℕ → Md5) (traceEnabled : Bool) (remaining : ℕ) (state : WalkState)
    (hholds : HoldsPackets plaintext offset total packets) :
    let walk := walkSubPackets md5 traceEnabled state.mapKey.enabled total
      plaintext remaining offset state
    walk.2.map (fun visit => (visit.id, visit.size)) =
        (packets.take remaining).map
          (fun packet => (packet.id, packet.bytes.length)) ∧
      walk.1.mapKey = (eventsFrom offset (packets.take remaining)).foldl
        (applyEvent md5) state.mapKey := by
  induction remaining generalizing offset packets state with
  | zero => exact ⟨rfl, rfl⟩
  | succ remaining ih =>
      cases packets with
      | nil =>
          have hsize : total = offset := hholds.size
          have hend : ¬offset + 4 ≤ total := by omega
          unfold walkSubPackets
          rw [if_neg hend]
          exact ⟨rfl, rfl⟩
      | cons packet packets =>
          obtain ⟨hid, hlength, hwithin⟩ := hholds.head
          have hheader := packet.header
          have hmore : offset + 4 ≤ total := by omega
          have hvalid : ¬(packet.bytes.length < 4 ∨
              offset + packet.bytes.length > total) := by omega
          unfold walkSubPackets
          rw [if_pos hmore]
          dsimp only
          rw [hid, hlength, if_neg hvalid]
          dsimp only
          have hrest := ih
            ⟨visitMapKey (md5 offset) state.mapKey.enabled packet.id
                packet.bytes.length state.mapKey,
              visitTraceCount traceEnabled packet.id packet.bytes.length
                state.worldEntityUpdateTraceCount⟩ hholds.tail
          rw [visitMapKey_enabled] at hrest
          obtain ⟨hvisits, hmapKey⟩ := hrest
          refine ⟨?_, ?_⟩
          · rw [List.map_cons, List.take_succ_cons, List.map_cons, hvisits]
            rfl
          · rw [List.take_succ_cons, eventsFrom, List.foldl_append,
              ← visitMapKey_event]
            exact hmapKey

end Walk

/-! ## The hook -/

/-- The decode result and the plaintext of a datagram. -/
structure CarriesDatagram (translateVirtual : UInt32 → ℕ) (guest : Guest)
    (packets : List SubPacket) : Prop where
  result : (u32 guest.registers.r3).toNat =
    28 + (datagramBytes packets).length
  bounded : (u32 guest.registers.r3).toNat ≤ 10000
  bytes : ∀ index < (datagramBytes packets).length,
    guest.memory (translateVirtual (u32 guest.registers.r1 + 864) +
      (28 + index)) = byteAt (datagramBytes packets) index

/-- Otherwise the hook returns without a look at the datagram. -/
def Listens (globals : Globals) : Prop :=
  globals.trace.guestTraceHooksEnabled = true ∨ globals.mapKey.enabled = true

/-- The hook examined these sub-packets and no others, and folded their
events. -/
def Examines (translateVirtual : UInt32 → ℕ) (md5 : ℕ → Md5) (guest : Guest)
    (globals : Globals) (packets : List SubPacket) : Prop :=
  let result := revanaTraceWorldReceiveDecodeResult translateVirtual md5 guest
    globals
  result.2.map (fun visit => (visit.id, visit.size)) =
      packets.map (fun packet => (packet.id, packet.bytes.length)) ∧
    result.1.mapKey =
      (eventsFrom 28 packets).foldl (applyEvent md5) globals.mapKey

section Hook

variable {translateVirtual : UInt32 → ℕ} {guest : Guest} {globals : Globals}
  {packets : List SubPacket}

theorem s32_positive
    {register : UInt64} (hlow : 28 ≤ (u32 register).toNat)
    (hhigh : (u32 register).toNat ≤ 10000) :
    ¬s32 register ≤ 0 := by
  have hbits : (s32 register).toInt =
      if 2 * (u32 register).toNat < 2 ^ 32 then ((u32 register).toNat : ℤ)
      else ((u32 register).toNat : ℤ) - (2 ^ 32 : ℕ) :=
    (u32 register).toBitVec.toInt_eq_toNat_cond
  rw [if_pos (by omega)] at hbits
  intro hle
  have hint : (s32 register).toInt ≤ 0 := Int32.le_iff_toInt_le.mp hle
  omega

/-- The first 64 sub-packets are examined. -/
theorem examines_take
    (md5 : ℕ → Md5) (hlistens : Listens globals)
    (hcarries : CarriesDatagram translateVirtual guest packets) :
    Examines translateVirtual md5 guest globals (packets.take 64) := by
  have hresult := hcarries.result
  have hbounded := hcarries.bounded
  have hopen : ¬(globals.trace.guestTraceHooksEnabled = false ∧
      globals.mapKey.enabled = false) := by
    rintro ⟨htrace, hkey⟩
    rcases hlistens with htraced | hkeyed
    · exact Bool.false_ne_true (htrace.symm.trans htraced)
    · exact Bool.false_ne_true (hkey.symm.trans hkeyed)
  have hwithin : ¬(s32 guest.registers.r3 ≤ 0 ∨
      u32 guest.registers.r3 > 10000) := by
    rintro (hnegative | hlarge)
    · exact s32_positive (by omega) hbounded hnegative
    · exact absurd (UInt32.lt_iff_toNat_lt.mp hlarge) (not_lt.mpr hbounded)
  have hholds : HoldsPackets
      (fun index => guest.memory
        (translateVirtual (u32 guest.registers.r1 + 864) + index))
      28 (u32 guest.registers.r3).toNat packets :=
    ⟨hresult, hcarries.bytes⟩
  unfold Examines revanaTraceWorldReceiveDecodeResult
  rw [if_neg hopen]
  dsimp only
  rw [if_neg hwithin]
  exact walkSubPackets_holds md5 globals.trace.guestTraceHooksEnabled 64
    ⟨globals.mapKey, globals.trace.worldEntityUpdateTraceCount⟩ hholds

theorem Examines.unique_length
    {md5 : ℕ → Md5} {others : List SubPacket}
    (hexamines : Examines translateVirtual md5 guest globals packets)
    (hothers : Examines translateVirtual md5 guest globals others) :
    packets.length = others.length := by
  have hvisits := hexamines.1.symm.trans hothers.1
  have hlength := congrArg List.length hvisits
  rwa [List.length_map, List.length_map] at hlength

theorem eventsFrom_append
    (offset : ℕ) (before after : List SubPacket) :
    eventsFrom offset (before ++ after) =
      eventsFrom offset before ++
        eventsFrom (offset + (datagramBytes before).length) after := by
  induction before generalizing offset with
  | nil => rfl
  | cons packet before ih =>
      rw [List.cons_append, eventsFrom, eventsFrom, ih, datagramBytes_cons,
        List.length_append, List.append_assoc, Nat.add_assoc]

theorem eventsFrom_of_silent
    {silent : List SubPacket} (hsilent : ∀ packet ∈ silent,
      packet.event = none) (offset : ℕ) :
    eventsFrom offset silent = [] := by
  induction silent generalizing offset with
  | nil => rfl
  | cons packet silent ih =>
      rw [eventsFrom, hsilent packet List.mem_cons_self,
        ih fun other hother => hsilent other (List.mem_cons_of_mem _ hother)]
      rfl

end Hook

/-- A listening hook examines the first 64 sub-packets in order and folds their
events, so it examines all of them exactly when there are at most 64. -/
theorem worldReceive_examines
    {translateVirtual : UInt32 → ℕ} {guest : Guest} {globals : Globals}
    {packets : List SubPacket} (md5 : ℕ → Md5) (hlistens : Listens globals)
    (hcarries : CarriesDatagram translateVirtual guest packets) :
    Examines translateVirtual md5 guest globals (packets.take 64) ∧
      (Examines translateVirtual md5 guest globals packets ↔
        packets.length ≤ 64) := by
  have hfirst := examines_take md5 hlistens hcarries
  refine ⟨hfirst, ?_⟩
  constructor
  · intro hexamines
    have hlength := hexamines.unique_length hfirst
    rw [List.length_take] at hlength
    omega
  · intro hlength
    rwa [List.take_of_length_le hlength] at hfirst

/-! ## A late zone handoff -/

def fillerPacket : SubPacket :=
  ⟨[0x00, 0x02, 0x00, 0x00], by decide, by decide⟩

def handoffPacket : SubPacket :=
  ⟨[0x0B, 0x02, 0x00, 0x00], by decide, by decide⟩

/-- A guest whose decoder has just answered with this datagram. -/
def receivingGuest (packets : List SubPacket) : Guest where
  registers := {
    r1 := 0
    r3 := (28 + (datagramBytes packets).length).toUInt64
    r4 := 0
    r5 := 0
    r7 := 0
    r10 := 0
    r11 := 0
    r27 := 0
    r29 := 0
    r30 := 0 }
  memory := fun index => byteAt (datagramBytes packets) (index - 892)

def keyedGlobals : Globals := { mapKey := { enabled := true } }

def exampleMd5 : ℕ → Md5 := fun _ => md5Call (fun _ => Bytes.zero 16) true

theorem receivingGuest_carries
    {packets : List SubPacket}
    (hbounded : 28 + (datagramBytes packets).length ≤ 10000) :
    CarriesDatagram UInt32.toNat (receivingGuest packets) packets := by
  have hresult : (u32 (receivingGuest packets).registers.r3).toNat =
      28 + (datagramBytes packets).length := by
    unfold u32 receivingGuest
    have hwide : (28 + (datagramBytes packets).length).toUInt64.toNat =
        28 + (datagramBytes packets).length := Nat.mod_eq_of_lt (by omega)
    dsimp only
    rw [UInt64.toNat_toUInt32, hwide]
    exact Nat.mod_eq_of_lt (by omega)
  constructor
  · exact hresult
  · rw [hresult]
    exact hbounded
  · intro index hindex
    have hbase : (u32 0 + 864).toNat = 864 := by decide
    have hpointer : (u32 0 + 864).toNat + (28 + index) - 892 = index := by
      omega
    unfold receivingGuest
    dsimp only
    rw [hpointer]

/-- Two handoffs between sub-packets that say nothing. -/
def mixedPackets : List SubPacket :=
  [fillerPacket, handoffPacket, fillerPacket, handoffPacket, fillerPacket]

theorem handoffPacket_examined :
    Examines UInt32.toNat exampleMd5 (receivingGuest mixedPackets)
      keyedGlobals mixedPackets := by
  have hcarries : CarriesDatagram UInt32.toNat
      (receivingGuest mixedPackets) mixedPackets :=
    receivingGuest_carries (by decide)
  exact (worldReceive_examines exampleMd5 (Or.inr rfl) hcarries).2.mpr
    (by decide)

theorem fillers_length (count : ℕ) :
    (datagramBytes (List.replicate count fillerPacket)).length =
      4 * count := by
  induction count with
  | zero => rfl
  | succ count ih =>
      have hfiller : fillerPacket.bytes.length = 4 := rfl
      rw [List.replicate_succ, datagramBytes_cons, List.length_append, ih,
        hfiller]
      omega

def lateHandoff : List SubPacket :=
  List.replicate 64 fillerPacket ++ [handoffPacket]

/-- The 65th sub-packet is not examined and its rollover is lost. -/
theorem lateHandoff_skipped :
    CarriesDatagram UInt32.toNat (receivingGuest lateHandoff) lateHandoff ∧
      ¬Examines UInt32.toNat exampleMd5 (receivingGuest lateHandoff)
        keyedGlobals lateHandoff ∧
      (revanaTraceWorldReceiveDecodeResult UInt32.toNat exampleMd5
        (receivingGuest lateHandoff) keyedGlobals).1.mapKey =
          keyedGlobals.mapKey ∧
      ((eventsFrom 28 lateHandoff).foldl (applyEvent exampleMd5)
        keyedGlobals.mapKey).sessionKey ≠ keyedGlobals.mapKey.sessionKey := by
  have hcarries : CarriesDatagram UInt32.toNat (receivingGuest lateHandoff)
      lateHandoff := by
    apply receivingGuest_carries
    have hlast : (datagramBytes [handoffPacket]).length = 4 := by decide
    unfold lateHandoff
    rw [datagramBytes_append, List.length_append, fillers_length, hlast]
    decide
  have hfirst := examines_take exampleMd5 (Or.inr rfl : Listens keyedGlobals)
    hcarries
  have htake : lateHandoff.take 64 = List.replicate 64 fillerPacket :=
    List.take_left' List.length_replicate
  have hfillers : ∀ offset,
      eventsFrom offset (List.replicate 64 fillerPacket) = [] :=
    eventsFrom_of_silent fun packet hpacket => by
      rw [List.eq_of_mem_replicate hpacket]
      rfl
  refine ⟨hcarries, ?_, ?_, ?_⟩
  · intro hexamines
    have hlength := hexamines.unique_length hfirst
    rw [htake] at hlength
    exact absurd hlength (by decide)
  · have hmapKey := hfirst.2
    rw [htake, hfillers] at hmapKey
    exact hmapKey
  · unfold lateHandoff
    rw [eventsFrom_append, hfillers]
    decide

end Revana.Runtime
