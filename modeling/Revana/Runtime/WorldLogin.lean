import Revana.Runtime.WorldSend

/-!
# Restoring the character id of a world login

The id, the check byte over it and the digest over both are written inside
out.  Whatever MD5 answers, the packet is either left as it was or complete.
-/

namespace Revana.Runtime

open Foundation
open Login

section Check

variable {left right : Memory} {packet : ℕ}

/-- The check reads bytes 36 to 119. -/
theorem loginCheck_congr
    (hbytes : ∀ index, 36 ≤ index → index < 120 →
      left (packet + index) = right (packet + index)) :
    loginCheck left packet = loginCheck right packet := by
  have hload : left.load (packet + 36) 84 = right.load (packet + 36) 84 := by
    apply Memory.load_congr
    intro index hindex
    rw [Nat.add_assoc]
    exact hbytes (36 + index) (by omega) (by omega)
  exact congrArg (fun bytes => bytes.foldl (· + ·) 0) hload

theorem foldl_add_start (start : UInt8) (bytes : List UInt8) :
    bytes.foldl (· + ·) start = start + bytes.foldl (· + ·) 0 := by
  induction bytes generalizing start with
  | nil => simp
  | cons byte rest ih =>
      rw [List.foldl_cons, List.foldl_cons, ih, ih (0 + byte),
        UInt8.zero_add, UInt8.add_assoc]

/-- Changing one of the summed bytes changes the check by the difference. -/
theorem loginCheck_update
    (hbytes : ∀ index, 36 ≤ index → index < 120 → index ≠ 43 →
      left (packet + index) = right (packet + index)) :
    loginCheck left packet =
      loginCheck right packet + (left (packet + 43) - right (packet + 43)) := by
  have hsplit : ∀ memory : Memory, loginCheck memory packet =
      (memory.load (packet + 36) 7).foldl (· + ·) 0 + memory (packet + 43) +
        (memory.load (packet + 44) 76).foldl (· + ·) 0 := by
    intro memory
    have hload : memory.load (packet + 36) 84 =
        memory.load (packet + 36) 7 ++ (memory.load (packet + 43) 1 ++
          memory.load (packet + 44) 76) := by
      rw [← Memory.load_append, ← Memory.load_append]
    have hcheck : loginCheck memory packet =
        (memory.load (packet + 36) 84).foldl (· + ·) 0 := rfl
    rw [hcheck, hload, List.foldl_append, List.foldl_append,
      foldl_add_start]
    rfl
  have hbefore : left.load (packet + 36) 7 = right.load (packet + 36) 7 := by
    apply Memory.load_congr
    intro index hindex
    rw [Nat.add_assoc]
    exact hbytes (36 + index) (by omega) (by omega) (by omega)
  have hbehind : left.load (packet + 44) 76 = right.load (packet + 44) 76 := by
    apply Memory.load_congr
    intro index hindex
    rw [Nat.add_assoc]
    exact hbytes (44 + index) (by omega) (by omega) (by omega)
  rw [hsplit left, hsplit right, hbefore, hbehind]
  grind

end Check

/-! ## The patched packet -/

section Patch

variable (memory : Memory) (packet : ℕ) (fullId : UInt32)

def withId : Memory := memory.store (packet + 40) (le32Bytes fullId)

/-- The packet with the stored id and the check over it. -/
def withCheck : Memory :=
  (withId memory packet fullId).store (packet + 32)
    [loginCheck (withId memory packet fullId) packet]

def packetId : UInt32 := readLe32 (bytesFrom memory packet) 40

variable {memory packet fullId}

theorem withCheck_of_outside
    {index : ℕ} (hcheck : index ≠ packet + 32)
    (hid : index < packet + 40 ∨ packet + 44 ≤ index) :
    withCheck memory packet fullId index = memory index := by
  unfold withCheck withId
  rw [Memory.store_of_outside (by simp only [List.length_singleton]; omega),
    Memory.store_of_outside (by rw [le32Bytes_length]; omega)]

theorem withCheck_id
    {offset : ℕ} (hoffset : offset < 4) :
    withCheck memory packet fullId (packet + 40 + offset) =
      byteAt (le32Bytes fullId) offset := by
  unfold withCheck withId
  rw [Memory.store_of_outside (by simp only [List.length_singleton]; omega),
    Memory.store_inside (by rw [le32Bytes_length]; exact hoffset)]

/-- The check is over the packet it is part of. -/
theorem withCheck_check :
    withCheck memory packet fullId (packet + 32) =
      loginCheck (withCheck memory packet fullId) packet := by
  have hself : withCheck memory packet fullId (packet + 32) =
      loginCheck (withId memory packet fullId) packet :=
    Memory.store_singleton _ _ _
  rw [hself]
  apply loginCheck_congr
  intro index hlow hhigh
  unfold withCheck
  rw [Memory.store_of_outside (by simp only [List.length_singleton]; omega)]

theorem withId_congr
    {left right : Memory} {index : ℕ} (hbyte : left index = right index) :
    withId left packet fullId index = withId right packet fullId index :=
  Memory.store_congr hbyte

theorem withCheck_congr
    {left right : Memory} {index : ℕ}
    (hcheck : loginCheck (withId left packet fullId) packet =
      loginCheck (withId right packet fullId) packet)
    (hbyte : left index = right index) :
    withCheck left packet fullId index =
      withCheck right packet fullId index := by
  unfold withCheck
  rw [hcheck]
  exact Memory.store_congr (withId_congr hbyte)

theorem packetId_byteAt
    (memory : Memory) (packet : ℕ) {offset : ℕ} (hoffset : offset < 4) :
    memory (packet + 40 + offset) =
      byteAt (le32Bytes (packetId memory packet)) offset := by
  unfold packetId readLe32 bytesFrom
  rw [le32Bytes_le32]
  interval_cases offset <;> rfl

theorem packetId_withCheck :
    packetId (withCheck memory packet fullId) packet = fullId := by
  apply readLe32_of_bytes
  intro offset hoffset
  unfold bytesFrom
  rw [← Nat.add_assoc]
  exact withCheck_id hoffset

/-- Of the id only the top byte is new. -/
theorem withCheck_of_ne
    (hlow : packetId memory packet &&& 0x00FFFFFF = fullId &&& 0x00FFFFFF)
    {index : ℕ} (hcheck : index ≠ packet + 32) (htop : index ≠ packet + 43) :
    withCheck memory packet fullId index = memory index := by
  by_cases hid : packet + 40 ≤ index ∧ index < packet + 44
  · obtain ⟨offset, rfl⟩ := Nat.exists_eq_add_of_le hid.1
    rw [withCheck_id (by omega), packetId_byteAt memory packet (by omega),
      le32Bytes_low hlow (by omega)]
  · exact withCheck_of_outside hcheck (by omega)

/-- Writing the old id and the old check back restores the packet. -/
theorem withCheck_rollback :
    ((withCheck memory packet fullId).store (packet + 40)
        (le32Bytes (packetId memory packet))).store (packet + 32)
          [memory (packet + 32)] = memory := by
  funext index
  by_cases hcheck : index = packet + 32
  · rw [hcheck]
    exact Memory.store_singleton _ _ _
  rw [Memory.store_of_outside (by simp only [List.length_singleton]; omega)]
  by_cases hid : packet + 40 ≤ index ∧ index < packet + 44
  · obtain ⟨offset, rfl⟩ := Nat.exists_eq_add_of_le hid.1
    rw [Memory.store_inside (by rw [le32Bytes_length]; omega),
      packetId_byteAt memory packet (by omega)]
  · rw [Memory.store_of_outside (by rw [le32Bytes_length]; omega)]
    exact withCheck_of_outside hcheck (by omega)

end Patch

/-! ## The outcomes -/

/-- What MD5 is called on. -/
def hashedBytes (memory : Memory) (packet packetSize : ℕ) (fullId : UInt32) :
    List UInt8 :=
  (withCheck memory packet fullId).load (packet + 28) (packetSize - 16 - 28)

/-- The packet is restored, with this digest. -/
structure Restores (md5 : Md5) (memory : Memory) (packet packetSize : ℕ)
    (fullId : UInt32) (digest : Bytes 16) : Prop where
  login : isWorldLogin memory packet packetSize = true
  id : restorableId fullId (packetId memory packet) = true
  hashed : md5 (hashedBytes memory packet packetSize fullId) = some digest

/-- The packet with its id, its check and the digest over both. -/
def restoredMemory (memory : Memory) (packet packetSize : ℕ)
    (fullId : UInt32) (digest : Bytes 16) : Memory :=
  (withCheck memory packet fullId).store (packet + (packetSize - 16))
    digest.val

section Outcomes

variable (md5 : Md5) (memory : Memory) (packet packetSize : ℕ)
  (globals : Globals)

/-- Either nothing changes or the packet is restored completely. -/
theorem restoreWorldLoginCharacterId_cases :
    let fullId := globals.lobbyNextLoginCharacterId
    let result := restoreWorldLoginCharacterId md5 memory packet packetSize
      globals
    ((∀ digest, ¬Restores md5 memory packet packetSize fullId digest) ∧
      result.restored = false ∧ memory.apply result.writes = memory) ∨
    ∃ digest, Restores md5 memory packet packetSize fullId digest ∧
      result.restored = true ∧
      memory.apply result.writes =
        restoredMemory memory packet packetSize fullId digest := by
  intro fullId result
  by_cases hlogin : isWorldLogin memory packet packetSize = false
  · have hresult : result = ⟨false, [], globals⟩ := by
      unfold result restoreWorldLoginCharacterId
      rw [if_pos hlogin]
    rw [hresult]
    refine Or.inl ⟨?_, rfl, rfl⟩
    intro digest hrestores
    exact absurd (hlogin.symm.trans hrestores.login) Bool.false_ne_true
  by_cases hid : restorableId fullId (packetId memory packet) = false
  · have hresult : result = ⟨false, [], globals⟩ := by
      unfold result restoreWorldLoginCharacterId
      rw [if_neg hlogin]
      exact if_pos hid
    rw [hresult]
    refine Or.inl ⟨?_, rfl, rfl⟩
    intro digest hrestores
    exact absurd (hid.symm.trans hrestores.id) Bool.false_ne_true
  have hsource : ¬restorableId globals.lobbyNextLoginCharacterId
      (readLe32 (bytesFrom memory packet) uniqueNoOffset) = false := hid
  unfold result restoreWorldLoginCharacterId
  rw [if_neg hlogin]
  dsimp only
  rw [if_neg hsource]
  split
  · rename_i hfailed
    have hnone : md5 (hashedBytes memory packet packetSize fullId) = none :=
      hfailed
    refine Or.inl ⟨?_, rfl, withCheck_rollback⟩
    intro digest hrestores
    cases hnone.symm.trans hrestores.hashed
  · rename_i digest hdigest
    rw [Bool.not_eq_false] at hlogin hid
    exact Or.inr ⟨digest, ⟨hlogin, hid, hdigest⟩, rfl, rfl⟩

theorem restoreWorldLoginCharacterId_globals :
    let result := restoreWorldLoginCharacterId md5 memory packet packetSize
      globals
    result.globals.lobbyNextLoginCharacterId =
        globals.lobbyNextLoginCharacterId ∧
      result.globals.endpoint = globals.endpoint := by
  unfold restoreWorldLoginCharacterId
  dsimp only
  split
  · exact ⟨rfl, rfl⟩
  split
  · exact ⟨rfl, rfl⟩
  split
  · exact ⟨rfl, rfl⟩
  · exact ⟨rfl, rfl⟩

end Outcomes

section Restores

variable {md5 : Md5} {memory other : Memory} {packet packetSize : ℕ}
  {fullId : UInt32} {digest : Bytes 16}

theorem Restores.size
    (hrestores : Restores md5 memory packet packetSize fullId digest) :
    136 ≤ packetSize := by
  have hlogin := hrestores.login
  unfold isWorldLogin at hlogin
  rw [decide_eq_true_eq] at hlogin
  exact hlogin.1

/-- The stored id is new and agrees in the low 24 bits. -/
theorem Restores.ids
    (hrestores : Restores md5 memory packet packetSize fullId digest) :
    fullId ≠ 0 ∧ packetId memory packet ≠ fullId ∧
      packetId memory packet &&& 0x00FFFFFF = fullId &&& 0x00FFFFFF := by
  have hid := hrestores.id
  unfold restorableId at hid
  rwa [decide_eq_true_eq] at hid

/-- Only the bytes of the packet count. -/
theorem Restores.congr
    (hbytes : ∀ index < packetSize,
      other (packet + index) = memory (packet + index))
    (hrestores : Restores md5 memory packet packetSize fullId digest) :
    Restores md5 other packet packetSize fullId digest := by
  have hsize := hrestores.size
  have hword : ∀ offset, offset + 4 ≤ packetSize →
      readLe32 (bytesFrom other packet) offset =
        readLe32 (bytesFrom memory packet) offset := by
    intro offset hoffset
    apply readLe32_congr
    intro index hindex
    exact hbytes (offset + index) (by omega)
  have hcheck : loginCheck (withId other packet fullId) packet =
      loginCheck (withId memory packet fullId) packet := by
    apply loginCheck_congr
    intro index hlow hhigh
    exact withId_congr (hbytes index (by omega))
  constructor
  · have hlogin := hrestores.login
    unfold isWorldLogin at hlogin ⊢
    rw [decide_eq_true_eq] at hlogin ⊢
    refine ⟨hlogin.1, ?_⟩
    rw [hword outerHeaderSize (by unfold outerHeaderSize; omega)]
    exact hlogin.2
  · have hid : packetId other packet = packetId memory packet :=
      hword 40 (by omega)
    rw [hid]
    exact hrestores.id
  · have hhashed : hashedBytes other packet packetSize fullId =
        hashedBytes memory packet packetSize fullId := by
      apply Memory.load_congr
      intro index hindex
      rw [Nat.add_assoc]
      exact withCheck_congr hcheck (hbytes (28 + index) (by omega))
    rw [hhashed]
    exact hrestores.hashed

end Restores

/-! ## The restored packet -/

section Restored

variable {memory : Memory} {packet packetSize : ℕ} {fullId : UInt32}
  {digest : Bytes 16}

theorem restoredMemory_of_outside
    (hsize : 136 ≤ packetSize) {index : ℕ}
    (houtside : index < packet + (packetSize - 16) ∨
      packet + packetSize ≤ index) :
    restoredMemory memory packet packetSize fullId digest index =
      withCheck memory packet fullId index := by
  have hdigest := digest.property
  exact Memory.store_of_outside (by omega)

theorem packetId_restoredMemory (hsize : 136 ≤ packetSize) :
    packetId (restoredMemory memory packet packetSize fullId digest) packet =
      fullId := by
  have hsame : packetId
      (restoredMemory memory packet packetSize fullId digest) packet =
        packetId (withCheck memory packet fullId) packet := by
    apply readLe32_congr
    intro index hindex
    exact restoredMemory_of_outside hsize
      (Or.inl (by omega : packet + (40 + index) < packet + (packetSize - 16)))
  exact hsame.trans packetId_withCheck

theorem restoredMemory_check (hsize : 136 ≤ packetSize) :
    restoredMemory memory packet packetSize fullId digest (packet + 32) =
      loginCheck (restoredMemory memory packet packetSize fullId digest)
        packet := by
  rw [restoredMemory_of_outside hsize (Or.inl (by omega)), withCheck_check]
  apply loginCheck_congr
  intro index hlow hhigh
  exact (restoredMemory_of_outside hsize (Or.inl (by omega))).symm

/-- The digest covers what is in front of it. -/
theorem restoredMemory_hashed (hsize : 136 ≤ packetSize) :
    (restoredMemory memory packet packetSize fullId digest).load (packet + 28)
        (packetSize - 44) =
      hashedBytes memory packet packetSize fullId := by
  unfold hashedBytes
  have hlength : packetSize - 16 - 28 = packetSize - 44 := by omega
  rw [hlength]
  apply Memory.load_congr
  intro index hindex
  exact restoredMemory_of_outside hsize (Or.inl (by omega))

theorem restoredMemory_digest :
    (restoredMemory memory packet packetSize fullId digest).load
        (packet + (packetSize - 16)) 16 = digest.val := by
  have hload := Memory.load_store (withCheck memory packet fullId)
    (packet + (packetSize - 16)) digest.val
  rwa [digest.property] at hload

theorem restoredMemory_of_ne
    (hsize : 136 ≤ packetSize)
    (hlow : packetId memory packet &&& 0x00FFFFFF = fullId &&& 0x00FFFFFF)
    {index : ℕ}
    (hcheck : index ≠ packet + 32) (htop : index ≠ packet + 43)
    (houtside : index < packet + (packetSize - 16) ∨
      packet + packetSize ≤ index) :
    restoredMemory memory packet packetSize fullId digest index =
      memory index := by
  rw [restoredMemory_of_outside hsize houtside]
  exact withCheck_of_ne hlow hcheck htop

/-- A check that was right is moved by the difference of the top bytes. -/
theorem restoredMemory_check_update
    (hsize : 136 ≤ packetSize)
    (hlow : packetId memory packet &&& 0x00FFFFFF = fullId &&& 0x00FFFFFF)
    (hconsistent : memory (packet + 32) = loginCheck memory packet) :
    let after := restoredMemory memory packet packetSize fullId digest
    after (packet + 32) = memory (packet + 32) +
      (after (packet + 43) - memory (packet + 43)) := by
  intro after
  rw [hconsistent]
  have hself : after (packet + 32) = loginCheck after packet :=
    restoredMemory_check hsize
  rw [hself]
  apply loginCheck_update
  intro index hfirst hlast htop
  exact restoredMemory_of_ne hsize hlow (by omega) (by omega)
    (Or.inl (by omega))

end Restored

/-- `RestoreWorldLoginCharacterId` leaves the packet as it was or completes its
id, its check and its digest and touches nothing else. -/
theorem restoreWorldLoginCharacterId_atomic
    (md5 : Md5) (memory : Memory) (packet packetSize : ℕ)
    (globals : Globals) :
    let fullId := globals.lobbyNextLoginCharacterId
    let result := restoreWorldLoginCharacterId md5 memory packet packetSize
      globals
    let after := memory.apply result.writes
    (result.restored = false → after = memory) ∧
    (result.restored = true →
      136 ≤ packetSize ∧
      fullId ≠ 0 ∧
      readLe32 (bytesFrom after packet) 40 = fullId ∧
      readLe32 (bytesFrom after packet) 40 &&& 0x00FFFFFF =
        readLe32 (bytesFrom memory packet) 40 &&& 0x00FFFFFF ∧
      after (packet + 32) =
        (after.load (packet + 36) 84).foldl (· + ·) 0 ∧
      (∃ digest, md5 (after.load (packet + 28) (packetSize - 44)) =
          some digest ∧
        after.load (packet + (packetSize - 16)) 16 = digest.val) ∧
      (∀ index, index ≠ packet + 43 → index ≠ packet + 32 →
        index < packet + (packetSize - 16) ∨ packet + packetSize ≤ index →
        after index = memory index) ∧
      (memory (packet + 32) =
          (memory.load (packet + 36) 84).foldl (· + ·) 0 →
        after (packet + 32) = memory (packet + 32) +
          (after (packet + 43) - memory (packet + 43)))) := by
  intro fullId result after
  rcases restoreWorldLoginCharacterId_cases md5 memory packet packetSize
      globals with ⟨-, hfailed, hsame⟩ | ⟨digest, hrestores, hrestored, hafter⟩
  · refine ⟨fun _ => hsame, ?_⟩
    intro hrestored
    exact absurd (hfailed.symm.trans hrestored) Bool.false_ne_true
  · refine ⟨fun hfailed => absurd (hfailed.symm.trans hrestored)
      Bool.false_ne_true, ?_⟩
    intro _
    have hcompleted : after =
        restoredMemory memory packet packetSize fullId digest := hafter
    have hsize := hrestores.size
    obtain ⟨hstored, -, hlow⟩ := hrestores.ids
    have hid : packetId after packet = fullId := by
      rw [hcompleted]
      exact packetId_restoredMemory hsize
    rw [hcompleted] at hid ⊢
    refine ⟨hsize, hstored, hid, ?_, restoredMemory_check hsize,
      ⟨digest, ?_, restoredMemory_digest⟩, ?_, ?_⟩
    · exact (congrArg (· &&& 0x00FFFFFF) hid).trans hlow.symm
    · rw [restoredMemory_hashed hsize]
      exact hrestores.hashed
    · intro index htop hcheck houtside
      exact restoredMemory_of_ne hsize hlow hcheck htop houtside
    · intro hconsistent
      exact restoredMemory_check_update hsize hlow hconsistent

end Revana.Runtime
