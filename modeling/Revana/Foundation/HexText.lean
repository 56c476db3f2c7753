import Mathlib.Tactic

/-!
# Hexadecimal text

What a text of hexadecimal digits, in any mix of cases, denotes.  Two digits
make a byte, the high one first.
-/

namespace Foundation

/-- A hexadecimal digit in either case and its value. -/
inductive HexDigit (byte : UInt8) : ℕ → Prop
  | decimal (hlow : 0x30 ≤ byte.toNat) (hhigh : byte.toNat ≤ 0x39) :
      HexDigit byte (byte.toNat - 0x30)
  | lower (hlow : 0x61 ≤ byte.toNat) (hhigh : byte.toNat ≤ 0x66) :
      HexDigit byte (byte.toNat - 0x61 + 10)
  | upper (hlow : 0x41 ≤ byte.toNat) (hhigh : byte.toNat ≤ 0x46) :
      HexDigit byte (byte.toNat - 0x41 + 10)

/-- A text of pairs of digits and the bytes they denote. -/
inductive HexText : List UInt8 → List UInt8 → Prop
  | nil : HexText [] []
  | cons {high low : UInt8} {highValue lowValue : ℕ}
      {text bytes : List UInt8}
      (hhigh : HexDigit high highValue) (hlow : HexDigit low lowValue)
      (hrest : HexText text bytes) :
      HexText (high :: low :: text)
        (UInt8.ofNat (highValue * 16 + lowValue) :: bytes)

theorem HexDigit.lt {byte : UInt8} {value : ℕ} (hdigit : HexDigit byte value) :
    value < 16 := by
  cases hdigit with
  | decimal hlow hhigh => omega
  | lower hlow hhigh => omega
  | upper hlow hhigh => omega

/-- Zero has one digit only. -/
theorem HexDigit.zero_iff {byte : UInt8} : HexDigit byte 0 ↔ byte = 0x30 := by
  constructor
  · generalize hvalue : 0 = value
    intro hdigit
    have htoNat : byte.toNat = 0x30 := by
      cases hdigit with
      | decimal hlow hhigh => omega
      | lower hlow hhigh => omega
      | upper hlow hhigh => omega
    exact UInt8.toNat_inj.mp htoNat
  · rintro rfl
    exact HexDigit.decimal (by decide) (by decide)

namespace HexText

variable {text bytes : List UInt8}

theorem length (htext : HexText text bytes) :
    text.length = 2 * bytes.length := by
  induction htext with
  | nil => rfl
  | cons hhigh hlow hrest ih =>
      simp only [List.length_cons, ih]
      omega

theorem digits (htext : HexText text bytes) :
    ∀ byte ∈ text, ∃ value, HexDigit byte value := by
  induction htext with
  | nil => simp
  | cons hhigh hlow hrest ih =>
      intro byte hbyte
      rcases List.mem_cons.mp hbyte with rfl | hbyte
      · exact ⟨_, hhigh⟩
      rcases List.mem_cons.mp hbyte with rfl | hbyte
      · exact ⟨_, hlow⟩
      · exact ih byte hbyte

/-- Every text of an even number of digits denotes bytes. -/
theorem exists_of_digits
    (count : ℕ) (hlength : text.length = 2 * count)
    (hdigits : ∀ byte ∈ text, ∃ value, HexDigit byte value) :
    ∃ bytes, HexText text bytes := by
  induction count generalizing text with
  | zero =>
      obtain rfl := List.length_eq_zero_iff.mp hlength
      exact ⟨[], nil⟩
  | succ count ih =>
      match text, hlength, hdigits with
      | high :: low :: rest, hlength, hdigits =>
          simp only [List.length_cons] at hlength
          simp only [List.forall_mem_cons] at hdigits
          obtain ⟨⟨highValue, hhigh⟩, ⟨lowValue, hlow⟩, hrest⟩ := hdigits
          obtain ⟨bytes, hbytes⟩ := ih (by omega) hrest
          exact ⟨_, cons hhigh hlow hbytes⟩

/-- Zero bytes are written with the digit zero only. -/
theorem replicate_zero_iff (count : ℕ) :
    HexText text (List.replicate count 0) ↔
      text = List.replicate (2 * count) 0x30 := by
  constructor
  · generalize hbytes : List.replicate count (0 : UInt8) = bytes
    intro htext
    induction htext generalizing count with
    | nil =>
        obtain rfl : count = 0 := by simpa using hbytes
        rfl
    | @cons high low highValue lowValue text bytes hhigh hlow hrest ih =>
        obtain ⟨count, rfl⟩ : ∃ rest, count = rest + 1 := by
          cases count with
          | zero => simp at hbytes
          | succ count => exact ⟨count, rfl⟩
        rw [List.replicate_succ, List.cons.injEq] at hbytes
        obtain ⟨hzero, hbytes⟩ := hbytes
        have htoNat := congrArg UInt8.toNat hzero
        rw [UInt8.toNat_ofNat'] at htoNat
        have hhighLt := hhigh.lt
        have hlowLt := hlow.lt
        obtain ⟨rfl, rfl⟩ : highValue = 0 ∧ lowValue = 0 := by
          simp only [UInt8.toNat_zero] at htoNat
          omega
        obtain rfl := HexDigit.zero_iff.mp hhigh
        obtain rfl := HexDigit.zero_iff.mp hlow
        rw [ih count hbytes, Nat.mul_succ]
        rfl
  · rintro rfl
    induction count with
    | zero => exact nil
    | succ count ih =>
        rw [Nat.mul_succ]
        have hzero := HexDigit.zero_iff.mpr rfl
        exact cons hzero hzero ih

end HexText

end Foundation
