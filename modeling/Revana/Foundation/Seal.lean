import Revana.Foundation.ByteWords

/-!
# Packets that carry their own digest

The digest of a packet is taken with its own field blanked and then written
into that field.  Blanking forgets exactly the field, and two sealed packets
with one digest are equal or a collision of the hash.
-/

namespace Foundation

/-- Two inputs with one digest. -/
def Collision {width : ℕ} (hash : List UInt8 → Option (Bytes width))
    (left right : List UInt8) : Prop :=
  left ≠ right ∧ ∃ digest, hash left = some digest ∧ hash right = some digest

/-- Where a packet keeps its digest. -/
structure DigestField where
  offset : ℕ
  width : ℕ

namespace DigestField

variable (field : DigestField)

def Fits (bytes : List UInt8) : Prop :=
  field.offset + field.width ≤ bytes.length

def read (bytes : List UInt8) : List UInt8 :=
  (bytes.drop field.offset).take field.width

def write (bytes : List UInt8) (digest : Bytes field.width) : List UInt8 :=
  splice bytes field.offset digest.val

def blank (bytes : List UInt8) : List UInt8 :=
  splice bytes field.offset (List.replicate field.width 0)

/-- The field holds the digest of the packet with the field blanked. -/
def Sealed (hash : List UInt8 → Option (Bytes field.width))
    (bytes : List UInt8) : Prop :=
  ∃ digest, hash (field.blank bytes) = some digest ∧
    digest.val = field.read bytes

variable {field} {bytes left right : List UInt8}

theorem read_write
    (hfits : field.Fits bytes) (digest : Bytes field.width) :
    field.read (field.write bytes digest) = digest.val := by
  have hpatch : ((splice bytes field.offset digest.val).drop
      field.offset).take digest.val.length = digest.val :=
    splice_patch (Nat.le_trans (Nat.le_add_right _ _) hfits)
  rwa [digest.property] at hpatch

theorem write_write
    (hfits : field.Fits bytes) (first second : Bytes field.width) :
    field.write (field.write bytes first) second =
      field.write bytes second := by
  unfold write
  rw [splice_splice (by rw [first.property, second.property])
    (Nat.le_trans (Nat.le_add_right _ _) hfits)]

theorem blank_length (hfits : field.Fits bytes) :
    (field.blank bytes).length = bytes.length := by
  unfold Fits at hfits
  exact splice_length (by rw [List.length_replicate]; exact hfits)

/-- Blanking forgets exactly the field. -/
theorem blank_congr
    (hlength : right.length = left.length) (hfits : field.Fits left)
    (hagree : ∀ index < left.length,
      index < field.offset ∨ field.offset + field.width ≤ index →
        byteAt right index = byteAt left index) :
    field.blank right = field.blank left := by
  have hright : field.Fits right := by
    unfold Fits
    rw [hlength]
    exact hfits
  have hzeros : (List.replicate field.width (0 : UInt8)).length =
      field.width := List.length_replicate
  unfold Fits at hfits hright
  apply ext_byteAt
  · rw [blank_length hfits, blank_length hright, hlength]
  intro index hindex
  rw [blank_length hright, hlength] at hindex
  unfold blank
  by_cases hbefore : index < field.offset
  · rw [byteAt_splice_of_lt (by omega) hbefore,
      byteAt_splice_of_lt (by omega) hbefore]
    exact hagree index hindex (Or.inl hbefore)
  by_cases hbehind : field.offset + field.width ≤ index
  · rw [byteAt_splice_of_le (by omega) (by omega),
      byteAt_splice_of_le (by omega) (by omega)]
    exact hagree index hindex (Or.inr hbehind)
  · obtain ⟨inside, rfl⟩ := Nat.exists_eq_add_of_le (not_lt.mp hbefore)
    rw [byteAt_splice_of_patch (by omega) (by omega),
      byteAt_splice_of_patch (by omega) (by omega)]

/-- A packet is its blanked bytes and its field. -/
theorem splice_blank_read (hfits : field.Fits bytes) :
    splice (field.blank bytes) field.offset (field.read bytes) = bytes := by
  have hread : (field.read bytes).length = field.width := by
    unfold read
    rw [List.length_take, List.length_drop]
    unfold Fits at hfits
    omega
  unfold blank
  rw [splice_splice (by rw [hread, List.length_replicate])
    (Nat.le_trans (Nat.le_add_right _ _) hfits)]
  exact splice_self hfits

/-- Two sealed packets with one digest are equal or a collision. -/
theorem sealed_eq_or_collision
    {hash : List UInt8 → Option (Bytes field.width)}
    (hleft : field.Fits left) (hright : field.Fits right)
    (hsealedLeft : field.Sealed hash left)
    (hsealedRight : field.Sealed hash right)
    (hread : field.read left = field.read right) :
    left = right ∨ Collision hash (field.blank left) (field.blank right) := by
  obtain ⟨digest, hdigest, hheld⟩ := hsealedLeft
  obtain ⟨other, hother, hheldOther⟩ := hsealedRight
  have hsame : digest = other := by
    apply Subtype.ext
    rw [hheld, hread, hheldOther]
  by_cases hblank : field.blank left = field.blank right
  · left
    rw [← splice_blank_read hleft, ← splice_blank_read hright, hblank, hread]
  · right
    exact ⟨hblank, digest, hdigest, hsame ▸ hother⟩

end DigestField

end Foundation
