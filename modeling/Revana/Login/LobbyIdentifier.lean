import Revana.Foundation.Seal
import Revana.Login.LobbyPackets

/-!
# The lobby identifier

A lobby packet carries the MD5 of its declared bytes at offset 12, taken with
that field zeroed.  Stamping is a fixpoint, a stamped key response is parsed
back, and two accepted packets with one identifier agree or are a collision.
-/

namespace Revana.Login

open Foundation

def identifierField : DigestField := ⟨12, 16⟩

def declaredSize (bytes : List UInt8) : ℕ := (readLe32 (byteAt bytes) 0).toNat

/-- The packet itself, without what follows its declared size. -/
def declaredBytes (bytes : List UInt8) : List UInt8 :=
  bytes.take (declaredSize bytes)

/-- What `CalculateLobbyIdentifier` hashes. -/
def identifierInput (bytes : List UInt8) : List UInt8 :=
  identifierField.blank (declaredBytes bytes)

def stampIdentifier (bytes : List UInt8) (identifier : LobbyIdentifier) :
    List UInt8 :=
  identifierField.write bytes identifier

/-- The declared size leaves room for the header and lies in the buffer. -/
def Framed (bytes : List UInt8) : Prop :=
  lobbyHeaderSize ≤ declaredSize bytes ∧ declaredSize bytes ≤ bytes.length

section Identifier

variable {md5 : Md5} {bytes left right : List UInt8}
  {identifier : LobbyIdentifier}

theorem Framed.fits (hframed : Framed bytes) :
    identifierField.Fits bytes := by
  obtain ⟨hheader, hlength⟩ := hframed
  exact le_trans hheader hlength

theorem declaredBytes_length (hframed : Framed bytes) :
    (declaredBytes bytes).length = declaredSize bytes := by
  unfold declaredBytes
  rw [List.length_take]
  exact min_eq_left hframed.2

theorem Framed.fits_declared (hframed : Framed bytes) :
    identifierField.Fits (declaredBytes bytes) := by
  unfold DigestField.Fits
  rw [declaredBytes_length hframed]
  exact hframed.1

/-- Of a framed packet only the digest can fail. -/
theorem calculateLobbyIdentifier_framed
    (hframed : Framed bytes) :
    calculateLobbyIdentifier md5 bytes =
      (md5 (identifierInput bytes)).elim
        (.error .checksumUnavailable) .ok := by
  have hsize : ¬((readLe32 (byteAt bytes) 0).toNat < lobbyHeaderSize ∨
      (readLe32 (byteAt bytes) 0).toNat > bytes.length) := by
    rw [not_or, not_lt, gt_iff_lt, not_lt]
    exact hframed
  have hinput : splice (bytes.take (readLe32 (byteAt bytes) 0).toNat) 12
      (List.replicate 16 0) = identifierInput bytes := rfl
  unfold calculateLobbyIdentifier
  rw [if_neg (not_lt.mpr (le_trans hframed.1 hframed.2))]
  dsimp only
  rw [if_neg hsize, hinput]
  cases md5 (identifierInput bytes) with
  | none => rfl
  | some digest => rfl

theorem calculateLobbyIdentifier_iff :
    calculateLobbyIdentifier md5 bytes = .ok identifier ↔
      Framed bytes ∧ md5 (identifierInput bytes) = some identifier := by
  constructor
  · intro hcalculated
    unfold calculateLobbyIdentifier at hcalculated
    split at hcalculated
    · cases hcalculated
    dsimp only at hcalculated
    split at hcalculated
    · cases hcalculated
    rename_i hsize
    rw [not_or, not_lt, gt_iff_lt, not_lt] at hsize
    split at hcalculated
    · cases hcalculated
    · rename_i digest hdigest
      cases hcalculated
      exact ⟨hsize, hdigest⟩
  · rintro ⟨hframed, hdigest⟩
    rw [calculateLobbyIdentifier_framed hframed, hdigest]
    rfl

/-! ## What the identifier depends on -/

/-- The two packets agree outside their identifiers. -/
def AgreeOutsideIdentifier (left right : List UInt8) : Prop :=
  ∀ index < declaredSize left, index < 12 ∨ 28 ≤ index →
    byteAt right index = byteAt left index

theorem AgreeOutsideIdentifier.declaredSize
    (hagree : AgreeOutsideIdentifier left right) (hframed : Framed left) :
    declaredSize right = Login.declaredSize left := by
  have hheader : 28 ≤ Login.declaredSize left := hframed.1
  have hword : readLe32 (byteAt right) 0 = readLe32 (byteAt left) 0 := by
    apply readLe32_congr
    intro index hindex
    exact hagree (0 + index) (by omega) (Or.inl (by omega))
  unfold Login.declaredSize
  rw [hword]

/-- The identifier is a function of the bytes outside its field. -/
theorem identifierInput_congr
    (hleft : Framed left) (hright : declaredSize left ≤ right.length)
    (hagree : AgreeOutsideIdentifier left right) :
    identifierInput right = identifierInput left := by
  have hsize := hagree.declaredSize hleft
  have hframed : Framed right := by
    unfold Framed
    rw [hsize]
    exact ⟨hleft.1, hright⟩
  have hlength : (declaredBytes right).length =
      (declaredBytes left).length := by
    rw [declaredBytes_length hframed, declaredBytes_length hleft, hsize]
  apply DigestField.blank_congr hlength hleft.fits_declared
  intro index hindex houtside
  rw [declaredBytes_length hleft] at hindex
  unfold declaredBytes
  rw [byteAt_take (by omega), byteAt_take hindex]
  exact hagree index hindex houtside

/-! ## Stamping -/

theorem stampIdentifier_length
    (hframed : Framed bytes) (identifier : LobbyIdentifier) :
    (stampIdentifier bytes identifier).length = bytes.length := by
  have hfits : 12 + 16 ≤ bytes.length := hframed.fits
  exact splice_length (by rw [identifier.property]; exact hfits)

theorem stampIdentifier_agrees
    (hframed : Framed bytes) (identifier : LobbyIdentifier) :
    AgreeOutsideIdentifier bytes (stampIdentifier bytes identifier) := by
  have hfits : 12 + 16 ≤ bytes.length := hframed.fits
  intro index hindex houtside
  unfold stampIdentifier DigestField.write identifierField
  rcases houtside with hbefore | hbehind
  · exact byteAt_splice_of_lt (by dsimp only; omega) hbefore
  · exact byteAt_splice_of_le
      (by rw [identifier.property]; exact hfits)
      (by rw [identifier.property]; exact hbehind)

theorem stampIdentifier_framed
    (hframed : Framed bytes) (identifier : LobbyIdentifier) :
    Framed (stampIdentifier bytes identifier) := by
  have hsize := (stampIdentifier_agrees hframed identifier).declaredSize
    hframed
  unfold Framed
  rw [hsize, stampIdentifier_length hframed]
  exact hframed

theorem identifierInput_stamp
    (hframed : Framed bytes) (identifier : LobbyIdentifier) :
    identifierInput (stampIdentifier bytes identifier) =
      identifierInput bytes := by
  apply identifierInput_congr hframed
  · rw [stampIdentifier_length hframed]
    exact hframed.2
  · exact stampIdentifier_agrees hframed identifier

/-- The identifier of a stamped packet is the one it was stamped with. -/
theorem calculateLobbyIdentifier_stamp
    (hcalculated : calculateLobbyIdentifier md5 bytes = .ok identifier)
    (other : LobbyIdentifier) :
    calculateLobbyIdentifier md5 (stampIdentifier bytes other) =
      .ok identifier := by
  obtain ⟨hframed, hdigest⟩ := calculateLobbyIdentifier_iff.mp hcalculated
  apply calculateLobbyIdentifier_iff.mpr
  rw [identifierInput_stamp hframed]
  exact ⟨stampIdentifier_framed hframed other, hdigest⟩

theorem stampIdentifier_idem
    (hframed : Framed bytes) (identifier : LobbyIdentifier) :
    stampIdentifier (stampIdentifier bytes identifier) identifier =
      stampIdentifier bytes identifier :=
  DigestField.write_write hframed.fits identifier identifier

/-! ## Validation -/

/-- The identifier field holds the digest of the declared bytes. -/
def IdentifierValid (md5 : Md5) (bytes : List UInt8) : Prop :=
  ∃ digest, md5 (identifierInput bytes) = some digest ∧
    digest.val = identifierField.read bytes

theorem declaredBytes_declaredBytes (hframed : Framed bytes) :
    declaredSize (declaredBytes bytes) = declaredSize bytes ∧
      declaredBytes (declaredBytes bytes) = declaredBytes bytes := by
  have hheader : 28 ≤ declaredSize bytes := hframed.1
  have hword : readLe32 (byteAt (declaredBytes bytes)) 0 =
      readLe32 (byteAt bytes) 0 := readLe32_take (by omega)
  have hsize : declaredSize (declaredBytes bytes) = declaredSize bytes := by
    unfold declaredSize
    rw [hword]
  refine ⟨hsize, ?_⟩
  have hlength := declaredBytes_length hframed
  have hself : (declaredBytes bytes).take (declaredSize bytes) =
      declaredBytes bytes := List.take_of_length_le (le_of_eq hlength)
  rw [← hsize] at hself
  exact hself

theorem validateLobbyIdentifier_iff
    (hframed : Framed bytes) :
    validateLobbyIdentifier md5 bytes (declaredSize bytes) = .ok () ↔
      IdentifierValid md5 bytes := by
  obtain ⟨hsize, hdeclared⟩ := declaredBytes_declaredBytes hframed
  have hinput : identifierInput (declaredBytes bytes) =
      identifierInput bytes := by
    unfold identifierInput
    rw [hdeclared]
  have hframedDeclared : Framed (declaredBytes bytes) := by
    unfold Framed
    rw [hsize, declaredBytes_length hframed]
    exact ⟨hframed.1, le_rfl⟩
  unfold validateLobbyIdentifier IdentifierValid
  constructor
  · intro hvalid
    split at hvalid
    · cases hvalid
    · rename_i digest hcalculated
      obtain ⟨-, hdigest⟩ := calculateLobbyIdentifier_iff.mp hcalculated
      have hmd5 : md5 (identifierInput (declaredBytes bytes)) =
          some digest := hdigest
      rw [hinput] at hmd5
      split at hvalid
      · rename_i hequal
        exact ⟨digest, hmd5, hequal⟩
      · cases hvalid
  · rintro ⟨digest, hdigest, hequal⟩
    rw [← hinput] at hdigest
    have hcalculated : calculateLobbyIdentifier md5
        (bytes.take (declaredSize bytes)) = .ok digest :=
      calculateLobbyIdentifier_iff.mpr ⟨hframedDeclared, hdigest⟩
    have hfield : digest.val = (bytes.drop 12).take 16 := hequal
    rw [hcalculated]
    dsimp only
    rw [if_pos hfield]

/-- A stamped packet is accepted. -/
theorem identifierValid_stamp
    (hcalculated : calculateLobbyIdentifier md5 bytes = .ok identifier) :
    IdentifierValid md5 (stampIdentifier bytes identifier) := by
  obtain ⟨hframed, hdigest⟩ := calculateLobbyIdentifier_iff.mp hcalculated
  refine ⟨identifier, ?_, ?_⟩
  · rw [identifierInput_stamp hframed]
    exact hdigest
  · exact (DigestField.read_write hframed.fits identifier).symm

theorem read_declaredBytes (hframed : Framed bytes) :
    identifierField.read (declaredBytes bytes) =
      identifierField.read bytes := by
  have hheader : 28 ≤ declaredSize bytes := hframed.1
  exact drop_take_take hheader

/-- Only the declared bytes count. -/
theorem identifierValid_iff_sealed (hframed : Framed bytes) :
    IdentifierValid md5 bytes ↔
      identifierField.Sealed md5 (declaredBytes bytes) := by
  unfold IdentifierValid DigestField.Sealed identifierInput
  rw [read_declaredBytes hframed]
  exact Iff.rfl

theorem identifierValid_congr
    (hleft : Framed left) (hright : Framed right)
    (hdeclared : declaredBytes left = declaredBytes right) :
    IdentifierValid md5 left ↔ IdentifierValid md5 right := by
  rw [identifierValid_iff_sealed hleft, identifierValid_iff_sealed hright,
    hdeclared]

/-- Two packets that are accepted with one identifier agree on their declared
bytes or collide. -/
theorem identifierValid_binds
    (hleft : Framed left) (hright : Framed right)
    (hvalidLeft : IdentifierValid md5 left)
    (hvalidRight : IdentifierValid md5 right)
    (hfield : identifierField.read left = identifierField.read right) :
    declaredBytes left = declaredBytes right ∨
      Collision md5 (identifierInput left) (identifierInput right) := by
  apply DigestField.sealed_eq_or_collision hleft.fits_declared
    hright.fits_declared ((identifierValid_iff_sealed hleft).mp hvalidLeft)
    ((identifierValid_iff_sealed hright).mp hvalidRight)
  rw [read_declaredBytes hleft, read_declaredBytes hright, hfield]

end Identifier

end Revana.Login
