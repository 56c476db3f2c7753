import Revana.Foundation.Reading
import Revana.Foundation.Tiling
import Revana.Runtime.DatagramWalk

/-!
# What the datagram walk reads

The sub-packet loop of `RevanaTraceWorldReceiveDecodeResult` with its 32-bit
arithmetic, all that it logs and every plaintext byte it asks for.  It makes
the same changes as `walkSubPackets`, reads inside the datagram only, and acts
on sub-packets that tile the datagram from its header on.
-/

namespace Revana.Runtime

open Foundation
open Login

/-! ## The loop -/

inductive WalkLog where
  | parseStopped (offset : UInt32) (id : UInt16) (size total : UInt32)
  | packet (offset : UInt32) (id : UInt16) (size : UInt32)
  | rolloverFailed
  | keyAdvanced
  | loginResponse (hpp status : UInt8)
  | playerUpdate (sequence : UInt16) (entity : UInt32) (targid : UInt16)
      (mask : UInt8) (size : UInt32)
  | entityUpdate (sequence : UInt16) (entity : UInt32) (targid : UInt16)
      (mask : UInt8) (size : UInt32) (model16 : UInt16) (model32 : UInt32)
      (look : List UInt8)
  deriving DecidableEq, Repr

/-- What the loop does not change. -/
structure WalkContext where
  traceEnabled : Bool
  directKeyEnabled : Bool
  total : UInt32
  md5 : ℕ → Md5

/-- The variables of the loop and the globals it writes, with its log and the
sub-packets it has acted on. -/
structure WalkPosition where
  offset : UInt32
  packetCount : UInt32
  mapKey : DirectMapKey
  traceCount : UInt32
  log : List WalkLog
  acted : List Slice

def WalkPosition.write (position : WalkPosition) (entry : WalkLog) :
    WalkPosition :=
  { position with log := position.log ++ [entry] }

open Reading in
def loadLe16 (pointer : ℕ) : Reading UInt8 UInt16 := do
  let b0 ← readAt pointer
  let b1 ← readAt (pointer + 1)
  return le16 b0 b1

open Reading in
def loadLe32 (pointer : ℕ) : Reading UInt8 UInt32 := do
  let b0 ← readAt pointer
  let b1 ← readAt (pointer + 1)
  let b2 ← readAt (pointer + 2)
  let b3 ← readAt (pointer + 3)
  return le32 b0 b1 b2 b3

def maximumEntityUpdateTraces : UInt32 := 2048

namespace WalkContext

variable (context : WalkContext) (id : UInt16) (size : UInt32)
  (position : WalkPosition)

def rollover : WalkPosition :=
  if id = 0x00B ∧ context.directKeyEnabled then
    let result := advanceDirectMapSessionKey
      (context.md5 position.offset.toNat) position.mapKey
    let position := { position with mapKey := result.mapKey }
    if result.succeeded = false then position.write .rolloverFailed
    else if result.advanced then position.write .keyAdvanced
    else position
  else position

def loginResponse : Reading UInt8 WalkPosition :=
  if id = 0x00A ∧ size ≥ 32 then
    let position := { position with
      mapKey := { position.mapKey with rolloverPending := false } }
    if context.traceEnabled then do
      let hpp ← Reading.readAt (position.offset + 30).toNat
      let status ← Reading.readAt (position.offset + 31).toNat
      return position.write (.loginResponse hpp status)
    else return position
  else return position

def playerUpdate : Reading UInt8 WalkPosition :=
  if context.traceEnabled ∧ id = 0x00D ∧ size ≥ 12 then
    let counted := { position with traceCount := position.traceCount + 1 }
    if position.traceCount < maximumEntityUpdateTraces then do
      let packet := position.offset.toNat
      let sequence ← loadLe16 (packet + 2)
      let entity ← loadLe32 (packet + 4)
      let targid ← loadLe16 (packet + 8)
      let mask ← Reading.readAt (packet + 10)
      return counted.write (.playerUpdate sequence entity targid mask size)
    else return counted
  else return position

/-- `size > index ? packet[index] : 0`. -/
def lookByte (packet index : ℕ) : Reading UInt8 UInt8 :=
  if size.toNat > index then Reading.readAt (packet + index) else return 0

def entityUpdate : Reading UInt8 WalkPosition :=
  if context.traceEnabled ∧ id = 0x00E ∧ size ≥ 52 then
    let counted := { position with traceCount := position.traceCount + 1 }
    if position.traceCount < maximumEntityUpdateTraces then do
      let packet := position.offset.toNat
      let sequence ← loadLe16 (packet + 2)
      let entity ← loadLe32 (packet + 4)
      let targid ← loadLe16 (packet + 8)
      let mask ← Reading.readAt (packet + 10)
      let model16 ← loadLe16 (packet + 48)
      let model32 ← loadLe32 (packet + 48)
      let base ← Reading.collect (fun index => Reading.readAt (packet + index))
        [48, 49, 50, 51]
      let rest ← Reading.collect (lookByte size packet)
        [52, 53, 54, 55, 56, 57, 58, 59, 60, 61, 62, 63]
      return counted.write (.entityUpdate sequence entity targid mask size
        model16 model32 (base ++ rest))
    else return counted
  else return position

/-- The sub-packet is counted and the loop moves behind it. -/
def advance : WalkPosition :=
  { position with
    offset := position.offset + size
    packetCount := position.packetCount + 1
    acted := position.acted ++ [⟨position.offset.toNat, size.toNat⟩] }

/-- What the loop does with a well-formed sub-packet. -/
def act : Reading UInt8 WalkPosition := do
  let position :=
    if context.traceEnabled then
      position.write (.packet position.offset id size)
    else position
  let position := context.rollover id position
  let position ← context.loginResponse id size position
  let position ← context.playerUpdate id size position
  let position ← context.entityUpdate id size position
  return advance size position

/-- The rest of an iteration behind the header. -/
def examine : Reading UInt8 (Turn WalkPosition WalkPosition) :=
  if size < 4 ∨ position.offset + size > context.total then
    if context.traceEnabled then
      return .done (position.write
        (.parseStopped position.offset id size context.total))
    else return .done position
  else do
    let next ← context.act id size position
    return .again next

/-- One iteration of the `while` loop. -/
def body : Reading UInt8 (Turn WalkPosition WalkPosition) :=
  if position.offset + 4 ≤ context.total ∧ position.packetCount < 64 then do
    let low ← Reading.readAt position.offset.toNat
    let high ← Reading.readAt (position.offset + 1).toNat
    let id := le16 low high &&& 0x1FF
    -- The second byte is read again for the size.
    let high ← Reading.readAt (position.offset + 1).toNat
    let size := 2 * (high &&& 0xFE).toUInt32
    context.examine id size position
  else return .done position

/-! ## What a phase changes -/

/-- A phase of an iteration leaves the loop variables alone. -/
structure Affects (before after : WalkPosition) (mapKey : DirectMapKey)
    (traceCount : UInt32) : Prop where
  offset : after.offset = before.offset
  packetCount : after.packetCount = before.packetCount
  acted : after.acted = before.acted
  mapKey : after.mapKey = mapKey
  traceCount : after.traceCount = traceCount

theorem Affects.trans
    {before mid after : WalkPosition} {firstKey secondKey : DirectMapKey}
    {firstCount secondCount : UInt32}
    (hfirst : Affects before mid firstKey firstCount)
    (hsecond : Affects mid after secondKey secondCount) :
    Affects before after secondKey secondCount where
  offset := hsecond.offset.trans hfirst.offset
  packetCount := hsecond.packetCount.trans hfirst.packetCount
  acted := hsecond.acted.trans hfirst.acted
  mapKey := hsecond.mapKey
  traceCount := hsecond.traceCount

theorem affects_write (entry : WalkLog) :
    Affects position (position.write entry) position.mapKey
      position.traceCount :=
  ⟨rfl, rfl, rfl, rfl, rfl⟩

theorem rollover_affects :
    Affects position (context.rollover id position)
      (if id = 0x00B ∧ context.directKeyEnabled then
        (advanceDirectMapSessionKey (context.md5 position.offset.toNat)
          position.mapKey).mapKey
      else position.mapKey) position.traceCount := by
  unfold rollover
  by_cases hrollover : id = 0x00B ∧ context.directKeyEnabled = true
  · rw [if_pos hrollover, if_pos hrollover]
    dsimp only
    split_ifs
    · exact ⟨rfl, rfl, rfl, rfl, rfl⟩
    · exact ⟨rfl, rfl, rfl, rfl, rfl⟩
    · exact ⟨rfl, rfl, rfl, rfl, rfl⟩
  · rw [if_neg hrollover, if_neg hrollover]
    exact ⟨rfl, rfl, rfl, rfl, rfl⟩

variable (plaintext : ℕ → UInt8)

theorem loginResponse_affects :
    Affects position
      ((context.loginResponse id size position).run plaintext)
      (if id = 0x00A ∧ size ≥ 32 then
        { position.mapKey with rolloverPending := false }
      else position.mapKey) position.traceCount := by
  unfold loginResponse
  by_cases hlogin : id = 0x00A ∧ size ≥ 32
  · rw [if_pos hlogin, if_pos hlogin]
    dsimp only
    split_ifs
    · exact ⟨rfl, rfl, rfl, rfl, rfl⟩
    · exact ⟨rfl, rfl, rfl, rfl, rfl⟩
  · rw [if_neg hlogin, if_neg hlogin]
    exact ⟨rfl, rfl, rfl, rfl, rfl⟩

theorem playerUpdate_affects :
    Affects position
      ((context.playerUpdate id size position).run plaintext) position.mapKey
      (if context.traceEnabled ∧ id = 0x00D ∧ size ≥ 12 then
        position.traceCount + 1
      else position.traceCount) := by
  unfold playerUpdate
  by_cases hplayer :
      context.traceEnabled = true ∧ id = 0x00D ∧ size ≥ 12
  · rw [if_pos hplayer, if_pos hplayer]
    dsimp only
    split_ifs
    · exact ⟨rfl, rfl, rfl, rfl, rfl⟩
    · exact ⟨rfl, rfl, rfl, rfl, rfl⟩
  · rw [if_neg hplayer, if_neg hplayer]
    exact ⟨rfl, rfl, rfl, rfl, rfl⟩

theorem entityUpdate_affects :
    Affects position
      ((context.entityUpdate id size position).run plaintext) position.mapKey
      (if context.traceEnabled ∧ id = 0x00E ∧ size ≥ 52 then
        position.traceCount + 1
      else position.traceCount) := by
  unfold entityUpdate
  by_cases hentity :
      context.traceEnabled = true ∧ id = 0x00E ∧ size ≥ 52
  · rw [if_pos hentity, if_pos hentity]
    dsimp only
    split_ifs
    · simp only [Reading.run_bind, Reading.run_pure]
      exact ⟨rfl, rfl, rfl, rfl, rfl⟩
    · exact ⟨rfl, rfl, rfl, rfl, rfl⟩
  · rw [if_neg hentity, if_neg hentity]
    exact ⟨rfl, rfl, rfl, rfl, rfl⟩

/-- What the four phases do to the key and to the count, one behind the
other. -/
theorem phases_affect
    {logged : WalkPosition}
    (hbefore : Affects position logged position.mapKey position.traceCount) :
    Affects position
      ((context.entityUpdate id size
        ((context.playerUpdate id size
          ((context.loginResponse id size
            (context.rollover id logged)).run plaintext)).run
          plaintext)).run plaintext)
      (visitMapKey (context.md5 position.offset.toNat)
        context.directKeyEnabled id size.toNat position.mapKey)
      (visitTraceCount context.traceEnabled id size.toNat
        position.traceCount) := by
  have hrollover := context.rollover_affects id logged
  have hlogin := context.loginResponse_affects id size
    (context.rollover id logged) plaintext
  have hplayer := context.playerUpdate_affects id size
    ((context.loginResponse id size
      (context.rollover id logged)).run plaintext) plaintext
  have hentity := context.entityUpdate_affects id size
    ((context.playerUpdate id size
      ((context.loginResponse id size
        (context.rollover id logged)).run plaintext)).run plaintext)
    plaintext
  have hkey := hplayer.mapKey.trans hlogin.mapKey
  rw [hrollover.mapKey, hbefore.offset, hbefore.mapKey] at hkey
  rw [hplayer.traceCount, hlogin.traceCount, hrollover.traceCount,
    hbefore.traceCount, hkey] at hentity
  exact (((hbefore.trans hrollover).trans hlogin).trans hplayer).trans hentity

/-- The sub-packet's effect on the key and on the count is that of
`visitMapKey` and `visitTraceCount`. -/
theorem act_affects :
    ∃ after : WalkPosition,
      (context.act id size position).run plaintext = advance size after ∧
      Affects position after
        (visitMapKey (context.md5 position.offset.toNat)
          context.directKeyEnabled id size.toNat position.mapKey)
        (visitTraceCount context.traceEnabled id size.toNat
          position.traceCount) := by
  unfold act
  simp only [Reading.run_bind, Reading.run_pure]
  refine ⟨_, rfl, ?_⟩
  apply phases_affect
  split_ifs
  · exact affects_write _ _
  · exact ⟨rfl, rfl, rfl, rfl, rfl⟩

/-! ## Where a phase reads -/

section Bounds

variable {plaintext} {low high : ℕ}

theorem loadLe16_within
    {pointer : ℕ} (hlow : low ≤ pointer) (hhigh : pointer + 2 ≤ high) :
    (loadLe16 pointer).Within plaintext low high := by
  intro index hindex
  simp only [loadLe16, Reading.indices_bind, Reading.indices_readAt,
    Reading.indices_pure, List.append_nil, List.mem_append,
    List.mem_singleton] at hindex
  omega

theorem loadLe32_within
    {pointer : ℕ} (hlow : low ≤ pointer) (hhigh : pointer + 4 ≤ high) :
    (loadLe32 pointer).Within plaintext low high := by
  intro index hindex
  simp only [loadLe32, Reading.indices_bind, Reading.indices_readAt,
    Reading.indices_pure, List.append_nil, List.mem_append,
    List.mem_singleton] at hindex
  omega

variable {context id size position}

theorem offset_add_toNat
    {distance : UInt32} (hsmall : position.offset.toNat + distance.toNat <
      4294967296) :
    (position.offset + distance).toNat =
      position.offset.toNat + distance.toNat := by
  rw [UInt32.toNat_add]
  exact Nat.mod_eq_of_lt hsmall

theorem loginResponse_within
    (hsmall : position.offset.toNat + size.toNat < 4294967296) :
    (context.loginResponse id size position).Within plaintext
      position.offset.toNat (position.offset.toNat + size.toNat) := by
  unfold loginResponse
  split_ifs with hlogin htrace
  · have hsize : 32 ≤ size.toNat := UInt32.le_iff_toNat_le.mp hlogin.2
    have hfield (distance : UInt32) (hdistance : distance.toNat < 32) :
        (position.offset + distance).toNat =
          position.offset.toNat + distance.toNat :=
      offset_add_toNat (by omega)
    have hhpp : (position.offset + 30).toNat = position.offset.toNat + 30 :=
      hfield 30 (by decide)
    have hstatus : (position.offset + 31).toNat =
        position.offset.toNat + 31 :=
      hfield 31 (by decide)
    dsimp only
    rw [hhpp, hstatus]
    refine (Reading.within_readAt ?_ ?_).bind
      ((Reading.within_readAt ?_ ?_).bind (Reading.within_pure _))
    all_goals omega
  · exact Reading.within_pure _
  · exact Reading.within_pure _

theorem playerUpdate_within :
    (context.playerUpdate id size position).Within plaintext
      position.offset.toNat (position.offset.toNat + size.toNat) := by
  unfold playerUpdate
  split_ifs with hplayer hcount
  · have hsize : 12 ≤ size.toNat := UInt32.le_iff_toNat_le.mp hplayer.2.2
    refine (loadLe16_within ?_ ?_).bind ((loadLe32_within ?_ ?_).bind
      ((loadLe16_within ?_ ?_).bind ((Reading.within_readAt ?_ ?_).bind
        (Reading.within_pure _))))
    all_goals omega
  · exact Reading.within_pure _
  · exact Reading.within_pure _

/-- The guard of a look byte keeps it inside the sub-packet. -/
theorem lookByte_within (packet index : ℕ) :
    (lookByte size packet index).Within plaintext packet
      (packet + size.toNat) := by
  unfold lookByte
  split_ifs with hsize
  · exact Reading.within_readAt (Nat.le_add_right _ _) (by omega)
  · exact Reading.within_pure _

theorem entityUpdate_within :
    (context.entityUpdate id size position).Within plaintext
      position.offset.toNat (position.offset.toNat + size.toNat) := by
  unfold entityUpdate
  split_ifs with hentity hcount
  · have hsize : 52 ≤ size.toNat := UInt32.le_iff_toNat_le.mp hentity.2.2
    refine (loadLe16_within ?_ ?_).bind ((loadLe32_within ?_ ?_).bind
      ((loadLe16_within ?_ ?_).bind ((Reading.within_readAt ?_ ?_).bind
        ((loadLe16_within ?_ ?_).bind ((loadLe32_within ?_ ?_).bind
          ((Reading.Within.collect ?_).bind
            ((Reading.Within.collect ?_).bind (Reading.within_pure _))))))))
    on_goal 13 =>
      intro index hindex
      simp only [List.mem_cons, List.not_mem_nil, or_false] at hindex
      exact Reading.within_readAt (Nat.le_add_right _ _) (by omega)
    on_goal 13 =>
      intro index hindex
      exact lookByte_within _ _
    all_goals omega
  · exact Reading.within_pure _
  · exact Reading.within_pure _

theorem Affects.within
    {after : WalkPosition} {mapKey : DirectMapKey} {traceCount : UInt32}
    {reading : Reading UInt8 WalkPosition}
    (haffects : Affects position after mapKey traceCount)
    (hwithin : reading.Within plaintext after.offset.toNat
      (after.offset.toNat + size.toNat)) :
    reading.Within plaintext position.offset.toNat
      (position.offset.toNat + size.toNat) := by
  rw [haffects.offset] at hwithin
  exact hwithin

/-- Every phase reads inside the sub-packet. -/
theorem act_within
    (hsmall : position.offset.toNat + size.toNat < 4294967296) :
    (context.act id size position).Within plaintext position.offset.toNat
      (position.offset.toNat + size.toNat) := by
  unfold act
  have hlogged : ∀ logged : WalkPosition,
      logged.offset = position.offset →
      (do
        let position ← context.loginResponse id size
          (context.rollover id logged)
        let position ← context.playerUpdate id size position
        let position ← context.entityUpdate id size position
        return advance size position :
          Reading UInt8 WalkPosition).Within plaintext position.offset.toNat
        (position.offset.toNat + size.toNat) := by
    intro logged hoffset
    have hrollover := context.rollover_affects id logged
    have hlogin := context.loginResponse_affects id size
      (context.rollover id logged) plaintext
    have hplayer := context.playerUpdate_affects id size
      ((context.loginResponse id size
        (context.rollover id logged)).run plaintext) plaintext
    rw [← hoffset] at hsmall ⊢
    refine Reading.Within.bind (hrollover.within (loginResponse_within ?_)) ?_
    · rw [hrollover.offset]
      exact hsmall
    refine Reading.Within.bind
      (hrollover.within (hlogin.within playerUpdate_within)) ?_
    refine Reading.Within.bind (hrollover.within
      (hlogin.within (hplayer.within entityUpdate_within))) ?_
    exact Reading.within_pure _
  apply hlogged
  split_ifs
  · rfl
  · rfl

end Bounds

/-! ## One iteration -/

section Iteration

variable {context position size plaintext}

theorem headerSize_toNat (byte : UInt8) :
    (2 * (byte &&& 0xFE).toUInt32).toNat = 2 * (byte &&& 0xFE).toNat := by
  have hbyte := (byte &&& 0xFE).toNat_lt
  rw [UInt32.toNat_mul, UInt8.toNat_toUInt32]
  exact Nat.mod_eq_of_lt (by change 2 * _ < 4294967296; omega)

theorem subPacketSize_lt (offset : ℕ) : subPacketSize plaintext offset < 512 := by
  have hbyte := (plaintext (offset + 1) &&& 0xFE).toNat_lt
  unfold subPacketSize
  omega

/-- The outcomes of an iteration. -/
inductive Iterates (context : WalkContext) (plaintext : ℕ → UInt8)
    (position : WalkPosition) : Turn WalkPosition WalkPosition → Prop
  | closed
      (hclosed : context.total.toNat < position.offset.toNat + 4 ∨
        64 ≤ position.packetCount.toNat) :
      Iterates context plaintext position (.done position)
  | malformed
      (hopen : position.offset.toNat + 4 ≤ context.total.toNat)
      (hcount : position.packetCount.toNat < 64)
      (hmalformed : subPacketSize plaintext position.offset.toNat < 4 ∨
        context.total.toNat < position.offset.toNat +
          subPacketSize plaintext position.offset.toNat)
      (log : List WalkLog) :
      Iterates context plaintext position (.done { position with log })
  | acts
      (hcount : position.packetCount.toNat < 64)
      {size : UInt32} {after : WalkPosition}
      (hsize : size.toNat = subPacketSize plaintext position.offset.toNat)
      (hheader : 4 ≤ size.toNat)
      (hfits : position.offset.toNat + size.toNat ≤ context.total.toNat)
      (hafter : Affects position after
        (visitMapKey (context.md5 position.offset.toNat)
          context.directKeyEnabled
          (subPacketId plaintext position.offset.toNat) size.toNat
          position.mapKey)
        (visitTraceCount context.traceEnabled
          (subPacketId plaintext position.offset.toNat) size.toNat
          position.traceCount)) :
      Iterates context plaintext position (.again (advance size after))

theorem examine_iterates
    (hopen : position.offset.toNat + 4 ≤ context.total.toNat)
    (hcount : position.packetCount.toNat < 64)
    (hnear : position.offset.toNat + 512 < 4294967296)
    (hsize : size.toNat = subPacketSize plaintext position.offset.toNat) :
    Iterates context plaintext position
        ((context.examine (subPacketId plaintext position.offset.toNat) size
          position).run plaintext) ∧
      (context.examine (subPacketId plaintext position.offset.toNat) size
        position).Within plaintext position.offset.toNat
          context.total.toNat := by
  have hsmall := @subPacketSize_lt plaintext position.offset.toNat
  have hend : (position.offset + size).toNat =
      position.offset.toNat + size.toNat :=
    offset_add_toNat (by omega)
  have hmalformed_iff : (size < 4 ∨ position.offset + size > context.total) ↔
      (size.toNat < 4 ∨
        context.total.toNat < position.offset.toNat + size.toNat) := by
    rw [← hend]
    exact Iff.rfl
  unfold examine
  by_cases hmalformed : size < 4 ∨ position.offset + size > context.total
  · have hbad := hmalformed_iff.mp hmalformed
    rw [hsize] at hbad
    rw [if_pos hmalformed]
    split_ifs
    · exact ⟨.malformed hopen hcount hbad _, Reading.within_pure _⟩
    · exact ⟨.malformed hopen hcount hbad _, Reading.within_pure _⟩
  · have hgood := (not_congr hmalformed_iff).mp hmalformed
    rw [not_or, not_lt, not_lt] at hgood
    rw [if_neg hmalformed, Reading.run_bind, Reading.run_pure]
    obtain ⟨after, hact, hafter⟩ := context.act_affects
      (subPacketId plaintext position.offset.toNat) size position plaintext
    constructor
    · rw [hact]
      exact .acts hcount hsize hgood.1 hgood.2 hafter
    · refine Reading.Within.bind ?_ (Reading.within_pure _)
      intro index hindex
      have hinside := act_within (by omega) index hindex
      omega

/-- An iteration reads between its offset and the end of the datagram. -/
theorem body_iterates
    (hnear : position.offset.toNat + 512 < 4294967296) :
    Iterates context plaintext position
        ((context.body position).run plaintext) ∧
      (context.body position).Within plaintext position.offset.toNat
        context.total.toNat := by
  have hfield (distance : UInt32) (hdistance : distance.toNat < 512) :
      (position.offset + distance).toNat =
        position.offset.toNat + distance.toNat :=
    offset_add_toNat (by omega)
  have hfour : (position.offset + 4).toNat = position.offset.toNat + 4 :=
    hfield 4 (by decide)
  have hone : (position.offset + 1).toNat = position.offset.toNat + 1 :=
    hfield 1 (by decide)
  have hopen_iff :
      (position.offset + 4 ≤ context.total ∧ position.packetCount < 64) ↔
        (position.offset.toNat + 4 ≤ context.total.toNat ∧
          position.packetCount.toNat < 64) := by
    rw [← hfour]
    exact Iff.rfl
  unfold body
  by_cases hopen :
      position.offset + 4 ≤ context.total ∧ position.packetCount < 64
  · obtain ⟨hroom, hcount⟩ := hopen_iff.mp hopen
    obtain ⟨hiterates, hwithin⟩ := examine_iterates hroom hcount hnear
      (headerSize_toNat (plaintext (position.offset.toNat + 1)))
    rw [if_pos hopen, hone]
    constructor
    · exact hiterates
    · refine (Reading.within_readAt ?_ ?_).bind
        ((Reading.within_readAt ?_ ?_).bind
          ((Reading.within_readAt ?_ ?_).bind hwithin))
      all_goals omega
  · have hclosed := (not_congr hopen_iff).mp hopen
    rw [not_and_or, not_le, not_lt] at hclosed
    rw [if_neg hopen]
    exact ⟨.closed hclosed, Reading.within_pure _⟩

end Iteration

/-! ## The run -/

/-- A sub-packet whose header declares its size, inside the datagram. -/
structure WellFormed (context : WalkContext) (plaintext : ℕ → UInt8)
    (slice : Slice) : Prop where
  header : 4 ≤ slice.size
  size : slice.size = subPacketSize plaintext slice.start
  fits : slice.stop ≤ context.total.toNat

/-- The effect on the key of acting on a sub-packet. -/
def actOn (context : WalkContext) (plaintext : ℕ → UInt8)
    (mapKey : DirectMapKey) (slice : Slice) : DirectMapKey :=
  visitMapKey (context.md5 slice.start) context.directKeyEnabled
    (subPacketId plaintext slice.start) slice.size mapKey

/-- What holds between iterations, from a key state on. -/
structure WalkInv (context : WalkContext) (plaintext : ℕ → UInt8)
    (mapKey : DirectMapKey) (position : WalkPosition) (seen : List ℕ) :
    Prop where
  bounded : position.offset.toNat ≤ max 28 context.total.toNat
  few : position.packetCount.toNat ≤ 64
  count : position.acted.length = position.packetCount.toNat
  tiles : Tiles 28 position.acted position.offset.toNat
  wellFormed : ∀ slice ∈ position.acted, WellFormed context plaintext slice
  mapKey : position.mapKey =
    position.acted.foldl (actOn context plaintext) mapKey
  seen : ∀ index ∈ seen, 28 ≤ index ∧ index < context.total.toNat

section Run

variable {context plaintext} {mapKey : DirectMapKey}
  {position : WalkPosition} {seen : List ℕ}

theorem WalkInv.near
    (hinv : WalkInv context plaintext mapKey position seen)
    (hbounded : context.total.toNat ≤ 10000) :
    position.offset.toNat + 512 < 4294967296 := by
  have hoffset := hinv.bounded
  omega

theorem WalkInv.reads
    (hinv : WalkInv context plaintext mapKey position seen)
    (hbounded : context.total.toNat ≤ 10000) :
    ∀ index ∈ seen ++ (context.body position).indices plaintext,
      28 ≤ index ∧ index < context.total.toNat := by
  intro index hindex
  rcases List.mem_append.mp hindex with hbefore | hnow
  · exact hinv.seen index hbefore
  · obtain ⟨hlow, hhigh⟩ :=
      (body_iterates (hinv.near hbounded)).2 index hnow
    exact ⟨hinv.tiles.within.1.trans hlow, hhigh⟩

theorem WalkInv.acts
    {size : UInt32} {after : WalkPosition} {traceCount : UInt32}
    {reads : List ℕ}
    (hinv : WalkInv context plaintext mapKey position seen)
    (hbounded : context.total.toNat ≤ 10000)
    (hcount : position.packetCount.toNat < 64)
    (hsize : size.toNat = subPacketSize plaintext position.offset.toNat)
    (hheader : 4 ≤ size.toNat)
    (hfits : position.offset.toNat + size.toNat ≤ context.total.toNat)
    (hafter : Affects position after
      (visitMapKey (context.md5 position.offset.toNat)
        context.directKeyEnabled
        (subPacketId plaintext position.offset.toNat) size.toNat
        position.mapKey) traceCount)
    (hreads : ∀ index ∈ reads, 28 ≤ index ∧ index < context.total.toNat) :
    WalkInv context plaintext mapKey (advance size after) reads ∧
      (advance size after).offset.toNat =
        position.offset.toNat + size.toNat ∧
      (advance size after).packetCount.toNat =
        position.packetCount.toNat + 1 := by
  have hoffset : (advance size after).offset.toNat =
      position.offset.toNat + size.toNat := by
    unfold advance
    dsimp only
    rw [hafter.offset]
    exact offset_add_toNat (by omega)
  have hpacketCount : (advance size after).packetCount.toNat =
      position.packetCount.toNat + 1 := by
    unfold advance
    dsimp only
    rw [hafter.packetCount, UInt32.toNat_add]
    exact Nat.mod_eq_of_lt (by change _ + 1 < 4294967296; omega)
  have hacted : (advance size after).acted =
      position.acted ++ [⟨position.offset.toNat, size.toNat⟩] := by
    unfold advance
    dsimp only
    rw [hafter.acted, hafter.offset]
  refine ⟨?_, hoffset, hpacketCount⟩
  constructor
  · rw [hoffset]
    exact hfits.trans (le_max_right _ _)
  · rw [hpacketCount]
    exact hcount
  · rw [hacted, hpacketCount, List.length_append, hinv.count]
    rfl
  · rw [hacted, hoffset]
    exact hinv.tiles.snoc (by omega)
  · rw [hacted]
    intro slice hslice
    rcases List.mem_append.mp hslice with hbefore | hnow
    · exact hinv.wellFormed slice hbefore
    · obtain rfl := List.mem_singleton.mp hnow
      exact ⟨hheader, hsize, hfits⟩
  · rw [hacted, List.foldl_append, ← hinv.mapKey]
    exact hafter.mapKey
  · exact hreads

/-- The end of a walk: everything it read and acted on, and why it stopped. -/
structure SafeEnd (context : WalkContext) (plaintext : ℕ → UInt8)
    (mapKey : DirectMapKey) (last : WalkPosition) (reads : List ℕ) :
    Prop where
  reads : ∀ index ∈ reads, 28 ≤ index ∧ index < context.total.toNat
  tiles : Tiles 28 last.acted last.offset.toNat
  ordered : last.acted.Pairwise fun left right => left.stop ≤ right.start
  covers : ∀ index, 28 ≤ index → index < last.offset.toNat →
    ∃ slice ∈ last.acted, slice.start ≤ index ∧ index < slice.stop
  wellFormed : ∀ slice ∈ last.acted, WellFormed context plaintext slice
  few : last.acted.length ≤ 64
  stops : context.total.toNat < last.offset.toNat + 4 ∨
    (subPacketSize plaintext last.offset.toNat < 4 ∨
      context.total.toNat < last.offset.toNat +
        subPacketSize plaintext last.offset.toNat) ∨
    last.acted.length = 64
  mapKey : last.mapKey = last.acted.foldl (actOn context plaintext) mapKey

theorem WalkInv.safeEnd
    {log : List WalkLog} {reads : List ℕ}
    (hinv : WalkInv context plaintext mapKey position seen)
    (hreads : ∀ index ∈ reads, 28 ≤ index ∧ index < context.total.toNat)
    (hstops : context.total.toNat < position.offset.toNat + 4 ∨
      (subPacketSize plaintext position.offset.toNat < 4 ∨
        context.total.toNat < position.offset.toNat +
          subPacketSize plaintext position.offset.toNat) ∨
      64 ≤ position.packetCount.toNat) :
    SafeEnd context plaintext mapKey { position with log } reads := by
  have hfew := hinv.few
  refine ⟨hreads, hinv.tiles, hinv.tiles.ordered,
    fun index => hinv.tiles.covers, hinv.wellFormed, ?_, ?_, hinv.mapKey⟩
  · dsimp only
    rw [hinv.count]
    exact hfew
  · dsimp only
    rw [hinv.count]
    exact hstops.imp_right (Or.imp_right fun hall => le_antisymm hfew hall)

/-- The loop with its state and what it has read so far. -/
abbrev walkTurn (context : WalkContext) (plaintext : ℕ → UInt8) :=
  Reading.turn context.body plaintext

/-- The walk of the model without reads and logs from the same position. -/
def Agrees (context : WalkContext) (plaintext : ℕ → UInt8) (remaining : ℕ)
    (position last : WalkPosition) : Prop :=
  let walk := walkSubPackets context.md5 context.traceEnabled
    context.directKeyEnabled context.total.toNat plaintext remaining
    position.offset.toNat ⟨position.mapKey, position.traceCount⟩
  walk.1.mapKey = last.mapKey ∧
    walk.1.worldEntityUpdateTraceCount = last.traceCount ∧
    last.acted.map (fun slice =>
        (subPacketId plaintext slice.start, slice.size)) =
      position.acted.map (fun slice =>
        (subPacketId plaintext slice.start, slice.size)) ++
      walk.2.map (fun visit => (visit.id, visit.size))

theorem agrees_of_stop
    {remaining : ℕ}
    (hwalk : walkSubPackets context.md5 context.traceEnabled
      context.directKeyEnabled context.total.toNat plaintext remaining
      position.offset.toNat ⟨position.mapKey, position.traceCount⟩ =
        (⟨position.mapKey, position.traceCount⟩, []))
    (log : List WalkLog) :
    Agrees context plaintext remaining position { position with log } := by
  unfold Agrees
  rw [hwalk]
  exact ⟨rfl, rfl, (List.append_nil _).symm⟩

/-- An iteration that acts in front of a walk that agrees. -/
theorem Agrees.acts
    {remaining : ℕ} {size : UInt32} {after last : WalkPosition}
    (hsize : size.toNat = subPacketSize plaintext position.offset.toNat)
    (hheader : 4 ≤ size.toNat)
    (hfits : position.offset.toNat + size.toNat ≤ context.total.toNat)
    (hafter : Affects position after
      (visitMapKey (context.md5 position.offset.toNat)
        context.directKeyEnabled
        (subPacketId plaintext position.offset.toNat) size.toNat
        position.mapKey)
      (visitTraceCount context.traceEnabled
        (subPacketId plaintext position.offset.toNat) size.toNat
        position.traceCount))
    (hoffset : (advance size after).offset.toNat =
      position.offset.toNat + size.toNat)
    (hagrees : Agrees context plaintext remaining (advance size after)
      last) :
    Agrees context plaintext (remaining + 1) position last := by
  have hmore : position.offset.toNat + 4 ≤ context.total.toNat := by omega
  have hvalid : ¬(size.toNat < 4 ∨
      position.offset.toNat + size.toNat > context.total.toNat) := by omega
  have hmapKey : (advance size after).mapKey = _ := hafter.mapKey
  have htraceCount : (advance size after).traceCount = _ :=
    hafter.traceCount
  have hacted : (advance size after).acted =
      position.acted ++ [⟨position.offset.toNat, size.toNat⟩] := by
    unfold advance
    dsimp only
    rw [hafter.acted, hafter.offset]
  unfold Agrees at hagrees ⊢
  dsimp only at hagrees ⊢
  rw [hoffset, hmapKey, htraceCount, hacted] at hagrees
  unfold walkSubPackets
  rw [if_pos hmore]
  dsimp only
  rw [← hsize, if_neg hvalid]
  obtain ⟨hkey, hcount, hslices⟩ := hagrees
  refine ⟨hkey, hcount, ?_⟩
  rw [hslices, List.map_append, List.append_assoc, List.map_cons]
  rfl

/-- What is to be shown of a walk from a position. -/
def EndsSafely (context : WalkContext) (plaintext : ℕ → UInt8)
    (mapKey : DirectMapKey) (remaining : ℕ) (position : WalkPosition)
    (seen : List ℕ) : Prop :=
  ∃ last reads,
    (∀ fuel, remaining < fuel →
      Turn.iterate (walkTurn context plaintext) fuel (position, seen) =
        some (last, reads)) ∧
    SafeEnd context plaintext mapKey last reads ∧
    Agrees context plaintext remaining position last

theorem WalkInv.done
    {remaining : ℕ} {log : List WalkLog}
    (hinv : WalkInv context plaintext mapKey position seen)
    (hbounded : context.total.toNat ≤ 10000)
    (hbody : (context.body position).run plaintext =
      .done { position with log })
    (hstops : context.total.toNat < position.offset.toNat + 4 ∨
      (subPacketSize plaintext position.offset.toNat < 4 ∨
        context.total.toNat < position.offset.toNat +
          subPacketSize plaintext position.offset.toNat) ∨
      64 ≤ position.packetCount.toNat)
    (hwalk : walkSubPackets context.md5 context.traceEnabled
      context.directKeyEnabled context.total.toNat plaintext remaining
      position.offset.toNat ⟨position.mapKey, position.traceCount⟩ =
        (⟨position.mapKey, position.traceCount⟩, [])) :
    EndsSafely context plaintext mapKey remaining position seen := by
  refine ⟨_, _, ?_, hinv.safeEnd (hinv.reads hbounded) hstops,
    agrees_of_stop hwalk log⟩
  intro fuel hfuel
  obtain ⟨fuel, rfl⟩ :=
    Nat.exists_eq_succ_of_ne_zero (Nat.ne_zero_of_lt hfuel)
  exact Turn.iterate_done (Reading.turn_done hbody seen) fuel

/-- From a position that keeps the invariant the loop ends safely, where the
simpler model ends.  The induction is on the sub-packets the cap leaves. -/
theorem WalkInv.endsSafely
    {remaining : ℕ}
    (hinv : WalkInv context plaintext mapKey position seen)
    (hbounded : context.total.toNat ≤ 10000)
    (hremaining : position.packetCount.toNat + remaining = 64) :
    EndsSafely context plaintext mapKey remaining position seen := by
  induction remaining generalizing position seen with
  | zero =>
      obtain ⟨hiterates, -⟩ := @body_iterates context position plaintext
        (hinv.near hbounded)
      generalize hbody : (context.body position).run plaintext = turn
        at hiterates
      cases hiterates with
      | closed hclosed =>
          exact hinv.done hbounded hbody
            (Or.inr (Or.inr hremaining.ge)) rfl
      | malformed hopen hcount hmalformed log => omega
      | acts hcount hsize hheader hfits hafter => omega
  | succ remaining ih =>
      obtain ⟨hiterates, -⟩ := @body_iterates context position plaintext
        (hinv.near hbounded)
      generalize hbody : (context.body position).run plaintext = turn
        at hiterates
      cases hiterates with
      | closed hclosed =>
          have hend : context.total.toNat < position.offset.toNat + 4 := by
            omega
          refine hinv.done hbounded hbody (Or.inl hend) ?_
          rw [walkSubPackets, if_neg (not_le.mpr hend)]
      | malformed hopen hcount hmalformed log =>
          refine hinv.done hbounded hbody (Or.inr (Or.inl hmalformed)) ?_
          rw [walkSubPackets, if_pos hopen]
          dsimp only
          rw [if_pos hmalformed]
      | acts hcount hsize hheader hfits hafter =>
          obtain ⟨hnext, hoffset, hpacketCount⟩ := hinv.acts hbounded hcount
            hsize hheader hfits hafter (hinv.reads hbounded)
          obtain ⟨last, reads, hrun, hsafe, hagrees⟩ :=
            ih hnext (by omega)
          refine ⟨last, reads, ?_, hsafe,
            hagrees.acts hsize hheader hfits hafter hoffset⟩
          intro fuel hfuel
          obtain ⟨fuel, rfl⟩ :=
            Nat.exists_eq_succ_of_ne_zero (Nat.ne_zero_of_lt hfuel)
          rw [Turn.iterate_again (Reading.turn_again hbody seen)]
          exact hrun fuel (Nat.lt_of_succ_lt_succ hfuel)

end Run

end WalkContext

/-! ## The hook -/

/-- What the hook's loop starts with. -/
def walkContext (md5 : ℕ → Md5) (guest : Guest) (globals : Globals) :
    WalkContext where
  traceEnabled := globals.trace.guestTraceHooksEnabled
  directKeyEnabled := globals.mapKey.enabled
  total := u32 guest.registers.r3
  md5 := md5

def walkStart (globals : Globals) : WalkPosition where
  offset := 28
  packetCount := 0
  mapKey := globals.mapKey
  traceCount := globals.trace.worldEntityUpdateTraceCount
  log := []
  acted := []

def hookPlaintext (translateVirtual : UInt32 → ℕ) (guest : Guest) :
    ℕ → UInt8 :=
  fun index =>
    guest.memory (translateVirtual (u32 guest.registers.r1 + 864) + index)

/-- The hook gets to the loop. -/
def Walks (guest : Guest) (globals : Globals) : Prop :=
  Listens globals ∧ 0 < s32 guest.registers.r3 ∧
    u32 guest.registers.r3 ≤ 10000

section Hook

variable {translateVirtual : UInt32 → ℕ} {guest : Guest} {globals : Globals}

theorem walkStart_inv
    (context : WalkContext) (plaintext : ℕ → UInt8) (globals : Globals) :
    context.WalkInv plaintext globals.mapKey (walkStart globals) [] where
  bounded := le_max_left _ _
  few := Nat.zero_le _
  count := rfl
  tiles := Tiles.nil 28
  wellFormed := by simp [walkStart]
  mapKey := rfl
  seen := by simp

/-- Without a walk the hook changes no key state and visits nothing. -/
theorem hook_of_not_walks
    (md5 : ℕ → Md5) (hstays : ¬Walks guest globals) :
    let hook := revanaTraceWorldReceiveDecodeResult translateVirtual md5 guest
      globals
    hook.1.mapKey = globals.mapKey ∧ hook.2 = [] := by
  unfold revanaTraceWorldReceiveDecodeResult
  dsimp only
  split_ifs with hdeaf hrange
  · exact ⟨rfl, rfl⟩
  · exact ⟨rfl, rfl⟩
  · refine absurd ⟨?_, ?_, ?_⟩ hstays
    · unfold Listens
      by_contra hnone
      rw [not_or, Bool.not_eq_true, Bool.not_eq_true] at hnone
      exact hdeaf hnone
    · rw [not_or] at hrange
      exact Int32.not_le.mp hrange.1
    · rw [not_or] at hrange
      exact UInt32.not_lt.mp hrange.2

theorem hook_of_walks
    (md5 : ℕ → Md5) (hwalks : Walks guest globals) :
    let hook := revanaTraceWorldReceiveDecodeResult translateVirtual md5 guest
      globals
    let walk := walkSubPackets md5 globals.trace.guestTraceHooksEnabled
      globals.mapKey.enabled (u32 guest.registers.r3).toNat
      (hookPlaintext translateVirtual guest) 64 28
      ⟨globals.mapKey, globals.trace.worldEntityUpdateTraceCount⟩
    hook.1.mapKey = walk.1.mapKey ∧
      hook.1.trace.worldEntityUpdateTraceCount =
        walk.1.worldEntityUpdateTraceCount ∧ hook.2 = walk.2 := by
  obtain ⟨hlistens, hpositive, hbounded⟩ := hwalks
  have hopen : ¬(globals.trace.guestTraceHooksEnabled = false ∧
      globals.mapKey.enabled = false) := by
    rintro ⟨htrace, hkey⟩
    unfold Listens at hlistens
    rw [htrace, hkey] at hlistens
    exact absurd hlistens (by decide)
  have hwithin : ¬(s32 guest.registers.r3 ≤ 0 ∨
      u32 guest.registers.r3 > 10000) := by
    rw [not_or]
    exact ⟨Int32.not_le.mpr hpositive, UInt32.not_lt.mpr hbounded⟩
  unfold revanaTraceWorldReceiveDecodeResult
  rw [if_neg hopen]
  dsimp only
  rw [if_neg hwithin]
  exact ⟨rfl, rfl, rfl⟩

end Hook

/-- The hook is safe on any bytes.  With nothing to walk it leaves the key
alone.  Otherwise its loop ends after at most 64 sub-packets, alike for all
plaintexts with the same bytes behind the header; it reads inside the datagram
and acts on well-formed sub-packets that tile it from the header on, and these
alone change the key. -/
theorem worldReceive_safe
    (translateVirtual : UInt32 → ℕ) (md5 : ℕ → Md5) (guest : Guest)
    (globals : Globals) :
    let hook := revanaTraceWorldReceiveDecodeResult translateVirtual md5 guest
      globals
    let context := walkContext md5 guest globals
    let plaintext := hookPlaintext translateVirtual guest
    (¬Walks guest globals →
      hook.1.mapKey = globals.mapKey ∧ hook.2 = []) ∧
    (Walks guest globals →
      ∃ last reads,
        (∀ other : ℕ → UInt8,
          (∀ index, 28 ≤ index → index < context.total.toNat →
            plaintext index = other index) →
          ∀ fuel, 64 < fuel →
            Turn.iterate (context.walkTurn other) fuel
              (walkStart globals, []) = some (last, reads)) ∧
        context.SafeEnd plaintext globals.mapKey last reads ∧
        hook.1.mapKey = last.mapKey ∧
        hook.1.trace.worldEntityUpdateTraceCount = last.traceCount ∧
        last.acted.map (fun slice =>
            (subPacketId plaintext slice.start, slice.size)) =
          hook.2.map (fun visit => (visit.id, visit.size))) := by
  intro hook context plaintext
  refine ⟨hook_of_not_walks md5, ?_⟩
  intro hwalks
  have hbounded : context.total.toNat ≤ 10000 :=
    UInt32.le_iff_toNat_le.mp hwalks.2.2
  obtain ⟨last, reads, hrun, hsafe, hkey, hcount, hvisits⟩ :=
    (walkStart_inv context plaintext globals).endsSafely hbounded
      (show (walkStart globals).packetCount.toNat + 64 = 64 from rfl)
  obtain ⟨hhookKey, hhookCount, hhookVisits⟩ :=
    @hook_of_walks translateVirtual guest globals md5 hwalks
  refine ⟨last, reads, ?_, hsafe, hhookKey.trans hkey,
    hhookCount.trans hcount, ?_⟩
  · intro other hagree fuel hfuel
    refine Reading.iterate_congr (hrun fuel hfuel) ?_
    intro index hindex
    obtain ⟨hlow, hhigh⟩ := hsafe.reads index hindex
    exact hagree index hlow hhigh
  · rw [hvisits, hhookVisits]
    rfl

end Revana.Runtime
