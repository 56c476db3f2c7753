import Revana.Foundation.Json

/-!
# Writing JSON texts

The compact text of a document: no whitespace, and in strings only the
escapes the grammar asks for.  Reading what was written gives the document
back, provided its strings are UTF-8 and its numbers lexemes of the grammar.
-/

namespace Foundation

namespace Json

/-! ## UTF-8 -/

/-- One byte of a UTF-8 string, control characters included. -/
def utf8Next (phase : StringPhase) (byte : UInt8) : Option StringPhase :=
  match phase with
  | .plain => if byte < 0x20 then some .plain else leadByte byte
  | .tail low high more => StringPhase.next (.tail low high more) byte
  | .escaped => none
  | .hex _ => none

def isUtf8 (bytes : List UInt8) : Bool :=
  bytes.foldlM utf8Next StringPhase.plain = some .plain

/-! ## Numbers -/

def digitByte (digit : ℕ) : UInt8 := (0x30 + digit).toUInt8

def decimalDigits (value : ℕ) : List UInt8 :=
  if value < 10 then [digitByte value]
  else decimalDigits (value / 10) ++ [digitByte (value % 10)]
termination_by value
decreasing_by omega

/-- The phase behind the first byte of a number. -/
def firstPhase (byte : UInt8) : Option NumberPhase :=
  if byte = minus then some .sign
  else if byte = zero then some .zero
  else if isDigit byte then some .integer else none

def numberPhase : List UInt8 → Option NumberPhase
  | [] => none
  | byte :: rest =>
      (firstPhase byte).bind fun phase => rest.foldlM NumberPhase.next phase

def isNumber (lexeme : List UInt8) : Bool :=
  (numberPhase lexeme).any NumberPhase.complete

/-! ## The writer -/

def hexDigit (digit : ℕ) : UInt8 :=
  if digit < 10 then digitByte digit else (0x57 + digit).toUInt8

def escapeByte (byte : UInt8) : List UInt8 :=
  if byte = 0x08 then [escape, 0x62]
  else if byte = 0x09 then [escape, 0x74]
  else if byte = 0x0A then [escape, 0x6E]
  else if byte = 0x0C then [escape, 0x66]
  else if byte = 0x0D then [escape, 0x72]
  else if byte = quotationMark then [escape, quotationMark]
  else if byte = escape then [escape, escape]
  else if byte < 0x20 then
    [escape, 0x75, 0x30, 0x30, hexDigit (byte.toNat / 16),
      hexDigit (byte.toNat % 16)]
  else [byte]

def escapeString (bytes : List UInt8) : List UInt8 := bytes.flatMap escapeByte

def writeString (bytes : List UInt8) : List UInt8 :=
  quotationMark :: (escapeString bytes ++ [quotationMark])

mutual

def write : Json → List UInt8
  | .null => [0x6E, 0x75, 0x6C, 0x6C]
  | .boolean true => [0x74, 0x72, 0x75, 0x65]
  | .boolean false => [0x66, 0x61, 0x6C, 0x73, 0x65]
  | .number lexeme => lexeme
  | .string bytes => writeString bytes
  | .array [] => [beginArray, endArray]
  | .array (item :: items) =>
      beginArray :: (write item ++ writeItems items ++ [endArray])
  | .object [] => [beginObject, endObject]
  | .object ((name, value) :: members) =>
      beginObject :: (writeString name ++ nameSeparator :: write value ++
        writeMembers members ++ [endObject])

/-- The items behind the first one. -/
def writeItems : List Json → List UInt8
  | [] => []
  | item :: items => valueSeparator :: (write item ++ writeItems items)

def writeMembers : List (List UInt8 × Json) → List UInt8
  | [] => []
  | (name, value) :: members =>
      valueSeparator :: (writeString name ++ nameSeparator :: write value ++
        writeMembers members)

end

mutual

/-- The strings are UTF-8 and the numbers are lexemes of the grammar. -/
def isWritable : Json → Bool
  | .null => true
  | .boolean _ => true
  | .number lexeme => isNumber lexeme
  | .string bytes => isUtf8 bytes
  | .array items => areWritable items
  | .object members => membersWritable members

def areWritable : List Json → Bool
  | [] => true
  | item :: items => isWritable item && areWritable items

def membersWritable : List (List UInt8 × Json) → Bool
  | [] => true
  | (name, value) :: members =>
      isUtf8 name && isWritable value && membersWritable members

end

/-! ## Decimal lexemes -/

theorem digitByte_cases :
    ∀ digit < 10, isDigit (digitByte digit) = true ∧
      (digitByte digit - 0x30).toNat = digit ∧
      (digit ≠ 0 → firstPhase (digitByte digit) = some .integer) ∧
      NumberPhase.next .integer (digitByte digit) = some .integer := by
  decide

theorem decimalDigits_isDigit (value : ℕ) :
    ∀ byte ∈ decimalDigits value, isDigit byte = true := by
  induction value using Nat.strong_induction_on with
  | _ value ih =>
      intro byte hbyte
      unfold decimalDigits at hbyte
      split at hbyte
      · rename_i hsmall
        rw [List.mem_singleton.mp hbyte]
        exact (digitByte_cases value hsmall).1
      · rw [List.mem_append] at hbyte
        rcases hbyte with hinitial | hlast
        · exact ih (value / 10) (by omega) byte hinitial
        · rw [List.mem_singleton.mp hlast]
          exact (digitByte_cases (value % 10) (by omega)).1

theorem numberPhase_append
    {lexeme : List UInt8} {phase : NumberPhase}
    (hphase : numberPhase lexeme = some phase) (byte : UInt8) :
    numberPhase (lexeme ++ [byte]) = phase.next byte := by
  cases lexeme with
  | nil => cases hphase
  | cons first rest =>
      unfold numberPhase at hphase
      obtain ⟨start, hfirst, hrest⟩ := Option.bind_eq_some_iff.mp hphase
      rw [List.cons_append, numberPhase, hfirst, Option.bind_some,
        List.foldlM_append, hrest]
      simp

theorem numberPhase_decimalDigits
    {value : ℕ} (hvalue : value ≠ 0) :
    numberPhase (decimalDigits value) = some .integer := by
  induction value using Nat.strong_induction_on with
  | _ value ih =>
      unfold decimalDigits
      split
      · rename_i hsmall
        obtain ⟨-, -, hfirst, -⟩ := digitByte_cases value hsmall
        rw [numberPhase, hfirst hvalue]
        rfl
      · rename_i hlarge
        obtain ⟨-, -, -, hnext⟩ :=
          digitByte_cases (value % 10) (Nat.mod_lt _ (by omega))
        have hinitial := ih (value / 10) (by omega) (by omega)
        rw [numberPhase_append hinitial, hnext]

theorem isNumber_decimalDigits (value : ℕ) :
    isNumber (decimalDigits value) = true := by
  unfold isNumber
  by_cases hvalue : value = 0
  · rw [hvalue, decimalDigits]
    decide
  · rw [numberPhase_decimalDigits hvalue]
    rfl

theorem sign_next_of_isDigit
    {byte : UInt8} (hbyte : isDigit byte = true) :
    NumberPhase.next .sign byte = firstPhase byte := by
  have hminus : byte ≠ minus := by
    rintro rfl
    cases hbyte
  rw [NumberPhase.next, firstPhase, if_neg hminus]

theorem isNumber_minus
    {lexeme : List UInt8} (hdigits : ∀ byte ∈ lexeme, isDigit byte = true)
    (hnumber : isNumber lexeme = true) :
    isNumber (minus :: lexeme) = true := by
  cases lexeme with
  | nil => cases hnumber
  | cons byte rest =>
      have hfirst := sign_next_of_isDigit (hdigits byte List.mem_cons_self)
      have hsign : firstPhase minus = some .sign := rfl
      unfold isNumber at hnumber ⊢
      rw [numberPhase] at hnumber ⊢
      rw [hsign, Option.bind_some, List.foldlM_cons, hfirst]
      exact hnumber

/-- The value of decimal digits read from the left. -/
theorem foldl_decimalDigits (value : ℕ) :
    (decimalDigits value).foldl
      (fun total digit => 10 * total + (digit - 0x30).toNat) 0 = value := by
  induction value using Nat.strong_induction_on with
  | _ value ih =>
      unfold decimalDigits
      split
      · rename_i hsmall
        obtain ⟨-, hdigit, -, -⟩ := digitByte_cases value hsmall
        simpa using hdigit
      · obtain ⟨-, hdigit, -, -⟩ :=
          digitByte_cases (value % 10) (Nat.mod_lt _ (by omega))
        rw [List.foldl_append, ih (value / 10) (by omega), List.foldl_cons,
          List.foldl_nil, hdigit]
        omega

/-! ## Strings -/

theorem controlByte_cases :
    ∀ value < 0x20,
      hexUnit 0x30 0x30 (hexDigit (value / 16)) (hexDigit (value % 16)) =
        value ∧
      isHighSurrogate value = false ∧
      encodeUtf8 value = [value.toUInt8] := by
  decide

theorem unescapeFrom_unit
    {a b c d : UInt8}
    (hhigh : isHighSurrogate (hexUnit a b c d) = false) (rest : List UInt8) :
    unescapeFrom none (escape :: 0x75 :: a :: b :: c :: d :: rest) =
      encodeUtf8 (hexUnit a b c d) ++ unescapeFrom none rest := by
  rw [unescapeFrom.eq_def]
  split
  · rename_i hnil
    cases hnil
  · rename_i hcons
    simp only [List.cons.injEq] at hcons
    obtain ⟨-, -, rfl, rfl, rfl, rfl, rfl⟩ := hcons
    simp [hhigh, unpaired]
  · rename_i hother hcons
    obtain ⟨rfl, rfl⟩ := List.cons.inj (List.cons.inj hcons).2
    exact absurd rfl (hother a b c d rest rfl)
  · rename_i hother _ hcons
    obtain ⟨rfl, rfl⟩ := List.cons.inj hcons
    exact absurd rfl (hother a b c d rest rfl)

theorem unescapeFrom_short
    {mark : UInt8} (hmark : mark ≠ 0x75) (rest : List UInt8) :
    unescapeFrom none (escape :: mark :: rest) =
      (shortEscapes.lookup mark).getD mark :: unescapeFrom none rest := by
  rw [unescapeFrom.eq_def]
  split
  · rename_i hnil
    cases hnil
  · rename_i hcons
    exact absurd (List.cons.inj (List.cons.inj hcons).2).1 hmark
  · rename_i hcons
    obtain ⟨rfl, rfl⟩ := List.cons.inj (List.cons.inj hcons).2
    rfl
  · rename_i hother hcons
    obtain ⟨rfl, rfl⟩ := List.cons.inj hcons
    exact absurd rfl (hother mark rest rfl)

theorem unescapeFrom_plain
    {byte : UInt8} (hbyte : byte ≠ escape) (rest : List UInt8) :
    unescapeFrom none (byte :: rest) = byte :: unescapeFrom none rest := by
  rw [unescapeFrom.eq_def]
  split
  · rename_i hnil
    cases hnil
  · rename_i hcons
    exact absurd (List.cons.inj hcons).1 hbyte
  · rename_i hcons
    exact absurd (List.cons.inj hcons).1 hbyte
  · rename_i hcons
    obtain ⟨rfl, rfl⟩ := List.cons.inj hcons
    rfl

theorem unescape_escapeByte (byte : UInt8) (rest : List UInt8) :
    unescapeFrom none (escapeByte byte ++ rest) =
      byte :: unescapeFrom none rest := by
  let Undone : List UInt8 → Prop := fun escaped =>
    unescapeFrom none (escaped ++ rest) = byte :: unescapeFrom none rest
  have hshort : ∀ {mark plain : UInt8}, mark ≠ 0x75 →
      (shortEscapes.lookup mark).getD mark = plain → byte = plain →
      Undone [escape, mark] := by
    intro mark plain hmark hplain hbyte
    rw [← hplain] at hbyte
    show unescapeFrom none (escape :: mark :: rest) = _
    rw [unescapeFrom_short hmark, ← hbyte]
  show Undone (escapeByte byte)
  unfold escapeByte
  apply iteInduction (hshort (by decide) (by decide))
  intro _
  apply iteInduction (hshort (by decide) (by decide))
  intro _
  apply iteInduction (hshort (by decide) (by decide))
  intro _
  apply iteInduction (hshort (by decide) (by decide))
  intro _
  apply iteInduction (hshort (by decide) (by decide))
  intro _
  apply iteInduction (hshort (by decide) (by decide))
  intro _
  apply iteInduction (hshort (by decide) (by decide))
  intro hescape
  apply iteInduction
  · intro hcontrol
    obtain ⟨hunit, hhigh, hencoded⟩ :=
      controlByte_cases byte.toNat (UInt8.lt_iff_toNat_lt.mp hcontrol)
    rw [← hunit] at hhigh
    show unescapeFrom none (escape :: 0x75 :: 0x30 :: 0x30 :: _ :: _ :: rest) =
      _
    rw [unescapeFrom_unit hhigh, hunit, hencoded]
    simp
  · intro _
    exact unescapeFrom_plain hescape rest

theorem unescape_escapeString (bytes : List UInt8) :
    unescape (escapeString bytes) = bytes := by
  unfold unescape escapeString
  induction bytes with
  | nil => rfl
  | cons byte rest ih => rw [List.flatMap_cons, unescape_escapeByte, ih]

/-- One byte of a string lexeme; its end is not one of them. -/
def lexemeNext (phase : StringPhase) (byte : UInt8) : Option StringPhase :=
  if phase = .plain ∧ byte = quotationMark then none else phase.next byte

theorem readAll_lexeme
    {text : List UInt8} {phase last : StringPhase}
    (htext : text.foldlM lexemeNext phase = some last)
    (lexeme : List UInt8) (isName : Bool) (stack : List Frame) :
    readAll (.reading (.string phase lexeme isName) stack) text =
      some (.reading (.string last (lexeme ++ text) isName) stack) := by
  induction text generalizing phase lexeme with
  | nil =>
      cases htext
      rw [List.append_nil]
      rfl
  | cons byte rest ih =>
      rw [List.foldlM_cons] at htext
      obtain ⟨next, hnext, hrest⟩ := Option.bind_eq_some_iff.mp htext
      unfold lexemeNext at hnext
      split at hnext
      · cases hnext
      rename_i hopen
      unfold readAll
      rw [List.foldlM_cons]
      have hstep : step (.reading (.string phase lexeme isName) stack) byte =
          some (.reading (.string next (lexeme ++ [byte]) isName) stack) := by
        simp [step, hopen, hnext]
      rw [hstep]
      have hread := ih hrest (lexeme ++ [byte])
      rw [List.append_assoc, List.singleton_append] at hread
      exact hread

theorem escapeByte_ascii :
    ∀ value < 0x80, (escapeByte value.toUInt8).foldlM lexemeNext .plain =
      some .plain := by
  decide

theorem escapeByte_wide
    {byte : UInt8} (hbyte : 0x80 ≤ byte) :
    escapeByte byte = [byte] := by
  have hne : ∀ small : UInt8, small < 0x80 → byte ≠ small := by
    intro small hsmall heq
    exact absurd (heq ▸ hbyte) (UInt8.not_le.mpr hsmall)
  have hprintable : ¬byte < 0x20 := by
    intro hsmall
    exact hne byte (UInt8.lt_trans hsmall (by decide)) rfl
  unfold escapeByte
  rw [if_neg (hne 0x08 (by decide)), if_neg (hne 0x09 (by decide)),
    if_neg (hne 0x0A (by decide)), if_neg (hne 0x0C (by decide)),
    if_neg (hne 0x0D (by decide)), if_neg (hne quotationMark (by decide)),
    if_neg (hne escape (by decide)), if_neg hprintable]

theorem lexemeNext_wide
    {byte : UInt8} (hbyte : 0x80 ≤ byte) (phase : StringPhase) :
    lexemeNext phase byte = phase.next byte := by
  unfold lexemeNext
  rw [if_neg]
  rintro ⟨-, rfl⟩
  exact absurd hbyte (by decide)

/-- The phases of a UTF-8 string. -/
def StringPhase.inUtf8 : StringPhase → Bool
  | .plain => true
  | .tail low _ _ => 0x80 ≤ low
  | .escaped => false
  | .hex _ => false

theorem leadByte_cases
    {byte : UInt8} {phase : StringPhase} (hlead : leadByte byte = some phase) :
    phase.inUtf8 = true ∧ (byte < 0x80 → phase = .plain) := by
  revert hlead
  let Leads : Option StringPhase → Prop := fun answer =>
    answer = some phase →
      phase.inUtf8 = true ∧ (byte < 0x80 → phase = .plain)
  show Leads (leadByte byte)
  have hnone : Leads none := fun hlead => nomatch hlead
  unfold leadByte
  apply iteInduction (fun _ => hnone)
  intro _
  apply iteInduction
  · rintro _ ⟨⟩
    exact ⟨rfl, fun _ => rfl⟩
  intro hwide
  have htail : ∀ {low high : UInt8} {more : ℕ}, 0x80 ≤ low →
      Leads (some (.tail low high more)) := by
    rintro low high more hlow ⟨⟩
    exact ⟨decide_eq_true hlow, fun hascii => absurd hascii hwide⟩
  apply iteInduction (fun _ => hnone)
  intro _
  apply iteInduction (fun _ => htail (by decide))
  intro _
  apply iteInduction (fun _ => htail (by decide))
  intro _
  apply iteInduction (fun _ => htail (by decide))
  intro _
  apply iteInduction (fun _ => htail (by decide))
  intro _
  apply iteInduction (fun _ => htail (by decide))
  intro _
  apply iteInduction (fun _ => htail (by decide))
  intro _
  exact iteInduction (fun _ => htail (by decide)) (fun _ => hnone)

/-- Escaping keeps the phase of a UTF-8 string. -/
theorem lexeme_escapeByte
    {phase next : StringPhase} {byte : UInt8} (hphase : phase.inUtf8 = true)
    (hnext : utf8Next phase byte = some next) :
    (escapeByte byte).foldlM lexemeNext phase = some next ∧
      next.inUtf8 = true := by
  cases phase with
  | plain =>
      rw [utf8Next] at hnext
      by_cases hascii : byte < 0x80
      · have hself : byte.toNat.toUInt8 = byte := UInt8.ofNat_toNat
        have hescape :=
          escapeByte_ascii byte.toNat (UInt8.lt_iff_toNat_lt.mp hascii)
        rw [hself] at hescape
        have hplain : next = .plain := by
          split at hnext
          · exact (Option.some.inj hnext).symm
          · exact (leadByte_cases hnext).2 hascii
        rw [hescape, hplain]
        exact ⟨rfl, rfl⟩
      · have hwide : 0x80 ≤ byte := UInt8.not_lt.mp hascii
        rw [if_neg (fun hsmall =>
          hascii (UInt8.lt_trans hsmall (by decide)))] at hnext
        have hescape : byte ≠ escape := by
          rintro rfl
          exact hascii (by decide)
        rw [escapeByte_wide hwide, List.foldlM_cons, lexemeNext_wide hwide,
          StringPhase.next, if_neg hescape, hnext]
        exact ⟨rfl, (leadByte_cases hnext).1⟩
  | tail low high more =>
      rw [utf8Next] at hnext
      have hwide : 0x80 ≤ byte := by
        rw [StringPhase.next] at hnext
        split at hnext
        · rename_i hrange
          exact UInt8.le_trans (of_decide_eq_true hphase) hrange.1
        · cases hnext
      rw [escapeByte_wide hwide, List.foldlM_cons, lexemeNext_wide hwide,
        hnext]
      refine ⟨rfl, ?_⟩
      rw [StringPhase.next] at hnext
      split_ifs at hnext <;> cases hnext
      · rfl
      · rfl
  | escaped => cases hnext
  | hex owed => cases hnext

theorem lexeme_escapeString
    {bytes : List UInt8} {phase last : StringPhase} (hphase : phase.inUtf8 = true)
    (hbytes : bytes.foldlM utf8Next phase = some last) :
    (escapeString bytes).foldlM lexemeNext phase = some last := by
  induction bytes generalizing phase with
  | nil => exact hbytes
  | cons byte rest ih =>
      rw [List.foldlM_cons] at hbytes
      obtain ⟨next, hnext, hrest⟩ := Option.bind_eq_some_iff.mp hbytes
      obtain ⟨hescape, hinside⟩ := lexeme_escapeByte hphase hnext
      unfold escapeString at ih ⊢
      rw [List.flatMap_cons, List.foldlM_append, hescape]
      exact ih hinside hrest

/-- Behind its quotation mark, a written UTF-8 string ends a string. -/
theorem readAll_writtenString
    {bytes : List UInt8} (hbytes : isUtf8 bytes = true) (isName : Bool)
    (stack : List Frame) :
    readAll (.reading (.string .plain [] isName) stack)
        (escapeString bytes ++ [quotationMark]) =
      endString (escapeString bytes) isName stack := by
  have hphase : StringPhase.plain.inUtf8 = true := rfl
  have hlexeme := lexeme_escapeString hphase (of_decide_eq_true hbytes)
  rw [readAll_append, readAll_lexeme hlexeme]
  simp [readAll, step]

/-! ## Documents -/

/-- The value has been read; a number is delivered by the byte behind it. -/
inductive Settled : State → Json → List Frame → Prop where
  | delivered (value : Json) (stack : List Frame) :
      Settled (deliver value stack) value stack
  | number {phase : NumberPhase} (hcomplete : phase.complete = true)
      (lexeme : List UInt8) (stack : List Frame) :
      Settled (.reading (.number phase lexeme) stack) (.number lexeme) stack

def endsValue (byte : UInt8) : Bool :=
  byte = valueSeparator || byte = endArray || byte = endObject

theorem NumberPhase.next_of_endsValue
    {byte : UInt8} (hbyte : endsValue byte = true) (phase : NumberPhase) :
    phase.next byte = none := by
  unfold endsValue at hbyte
  simp only [Bool.or_eq_true, decide_eq_true_eq] at hbyte
  rcases hbyte with (rfl | rfl) | rfl
  · cases phase <;> decide
  · cases phase <;> decide
  · cases phase <;> decide

theorem Settled.step
    {state : State} {value : Json} {stack : List Frame}
    (hsettled : Settled state value stack)
    {byte : UInt8} (hbyte : endsValue byte = true) :
    Json.step state byte = afterValue byte (deliver value stack) := by
  cases hsettled with
  | delivered =>
      rcases stack with _ | ⟨frame, stack⟩
      · rfl
      · cases frame <;> rfl
  | number hcomplete lexeme =>
      simp [Json.step, NumberPhase.next_of_endsValue hbyte, hcomplete]

theorem Settled.finish
    {state : State} {value : Json} (hsettled : Settled state value []) :
    state.finish = some value := by
  generalize hstack : ([] : List Frame) = stack at hsettled
  cases hsettled with
  | delivered =>
      rw [← hstack]
      rfl
  | number hcomplete lexeme =>
      rw [← hstack]
      simp [State.finish, hcomplete]

/-- The text reads as the value wherever a value can stand. -/
def Reads (text : List UInt8) (value : Json) : Prop :=
  ∃ byte rest, text = byte :: rest ∧ isWhitespace byte = false ∧
    byte ≠ endArray ∧
    ∀ stack, ∃ first last, beginValue byte stack = some first ∧
      readAll first rest = some last ∧ Settled last value stack

theorem readAll_cons (state : State) (byte : UInt8) (rest : List UInt8) :
    readAll state (byte :: rest) =
      (step state byte).bind fun next => readAll next rest := by
  unfold readAll
  rw [List.foldlM_cons]
  rfl

section Reading

variable {text : List UInt8} {document : Json}

theorem Reads.value (hreads : Reads text document) (stack : List Frame) :
    ∃ last, readAll (.reading .value stack) text = some last ∧
      Settled last document stack := by
  obtain ⟨byte, rest, rfl, hspace, -, hbegin⟩ := hreads
  obtain ⟨first, last, hfirst, hlast, hsettled⟩ := hbegin stack
  refine ⟨last, ?_, hsettled⟩
  rw [readAll_cons]
  simp [step, hspace, hfirst, hlast]

theorem Reads.firstElement
    (hreads : Reads text document) (stack : List Frame) :
    ∃ last, readAll (.reading .firstElement stack) text = some last ∧
      Settled last document stack := by
  obtain ⟨byte, rest, rfl, hspace, hclose, hbegin⟩ := hreads
  obtain ⟨first, last, hfirst, hlast, hsettled⟩ := hbegin stack
  refine ⟨last, ?_, hsettled⟩
  rw [readAll_cons]
  simp [step, hspace, hclose, hfirst, hlast]

/-- A name and its separator, behind the opening brace or a comma. -/
theorem readAll_name
    {name : List UInt8} (hname : isUtf8 name = true) {mode : Mode}
    (hmode : mode = .firstMember ∨ mode = .member)
    (members : List (List UInt8 × Json)) (old : List UInt8)
    (stack : List Frame) :
    readAll (.reading mode (.object members old :: stack))
        (writeString name ++ [nameSeparator]) =
      some (.reading .value (.object members name :: stack)) := by
  have hquote : step (.reading mode (.object members old :: stack))
      quotationMark = some (.reading (.string .plain [] true)
        (.object members old :: stack)) := by
    rcases hmode with rfl | rfl
    · rfl
    · rfl
  have hend : endString (escapeString name) true
      (.object members old :: stack) =
        some (.reading .colon (.object members name :: stack)) := by
    simp [endString, unescape_escapeString]
  unfold writeString
  rw [List.cons_append, readAll_cons, hquote, Option.bind_some,
    readAll_append, readAll_writtenString hname, hend, Option.bind_some]
  rfl

/-- A name, its separator and the value. -/
theorem Reads.member
    (hreads : Reads text document) {name : List UInt8}
    (hname : isUtf8 name = true) {mode : Mode}
    (hmode : mode = .firstMember ∨ mode = .member)
    (members : List (List UInt8 × Json)) (old : List UInt8)
    (stack : List Frame) :
    ∃ last, readAll (.reading mode (.object members old :: stack))
        (writeString name ++ nameSeparator :: text) = some last ∧
      Settled last document (.object members name :: stack) := by
  obtain ⟨last, hlast, hsettled⟩ :=
    hreads.value (.object members name :: stack)
  refine ⟨last, ?_, hsettled⟩
  rw [List.append_cons, readAll_append, readAll_name hname hmode,
    Option.bind_some]
  exact hlast

end Reading

theorem reads_string
    {bytes : List UInt8} (hbytes : isUtf8 bytes = true) :
    Reads (writeString bytes) (.string bytes) := by
  refine ⟨quotationMark, _, rfl, by decide, by decide, ?_⟩
  intro stack
  refine ⟨_, _, rfl, ?_, Settled.delivered (.string bytes) stack⟩
  rw [readAll_writtenString hbytes]
  simp [endString, unescape_escapeString]

theorem readAll_number
    {text : List UInt8} {phase last : NumberPhase}
    (htext : text.foldlM NumberPhase.next phase = some last)
    (lexeme : List UInt8) (stack : List Frame) :
    readAll (.reading (.number phase lexeme) stack) text =
      some (.reading (.number last (lexeme ++ text)) stack) := by
  induction text generalizing phase lexeme with
  | nil =>
      cases htext
      rw [List.append_nil]
      rfl
  | cons byte rest ih =>
      rw [List.foldlM_cons] at htext
      obtain ⟨next, hnext, hrest⟩ := Option.bind_eq_some_iff.mp htext
      have hstep : step (.reading (.number phase lexeme) stack) byte =
          some (.reading (.number next (lexeme ++ [byte])) stack) := by
        simp [step, hnext]
      have hread := ih hrest (lexeme ++ [byte])
      rw [List.append_assoc, List.singleton_append] at hread
      rw [readAll_cons, hstep]
      exact hread

theorem firstPhase_cases
    {byte : UInt8} {phase : NumberPhase}
    (hfirst : firstPhase byte = some phase) :
    isWhitespace byte = false ∧ byte ≠ endArray ∧
      ∀ stack, beginValue byte stack =
        some (.reading (.number phase [byte]) stack) := by
  unfold firstPhase at hfirst
  split at hfirst
  · rename_i hminus
    cases hfirst
    rw [hminus]
    exact ⟨by decide, by decide, fun stack => rfl⟩
  rename_i hminus
  split at hfirst
  · rename_i hzero
    cases hfirst
    rw [hzero]
    exact ⟨by decide, by decide, fun stack => rfl⟩
  rename_i hzero
  split at hfirst
  · rename_i hdigit
    cases hfirst
    have hne : ∀ other, isDigit other = false → byte ≠ other := by
      intro other hother heq
      rw [heq, hother] at hdigit
      cases hdigit
    refine ⟨?_, hne endArray (by decide), ?_⟩
    · unfold isWhitespace
      simp [hne 0x20 (by decide), hne 0x09 (by decide),
        hne 0x0A (by decide), hne 0x0D (by decide)]
    · intro stack
      unfold beginValue
      rw [if_neg (hne beginObject (by decide)),
        if_neg (hne beginArray (by decide)),
        if_neg (hne quotationMark (by decide)), if_neg (hne 0x74 (by decide)),
        if_neg (hne 0x66 (by decide)), if_neg (hne 0x6E (by decide)),
        if_neg hminus, if_neg hzero, if_pos hdigit]
  · cases hfirst

theorem reads_number
    {lexeme : List UInt8} (hlexeme : isNumber lexeme = true) :
    Reads lexeme (.number lexeme) := by
  unfold isNumber at hlexeme
  obtain ⟨last, hphase, hcomplete⟩ := (Option.any_eq_true _ _).mp hlexeme
  cases lexeme with
  | nil => cases hphase
  | cons byte rest =>
      obtain ⟨first, hfirst, hrest⟩ := Option.bind_eq_some_iff.mp hphase
      obtain ⟨hspace, hclose, hbegin⟩ := firstPhase_cases hfirst
      refine ⟨byte, rest, rfl, hspace, hclose, ?_⟩
      intro stack
      exact ⟨_, _, hbegin stack, readAll_number hrest [byte] stack,
        Settled.number hcomplete (byte :: rest) stack⟩

theorem reads_null : Reads (write .null) .null := by
  refine ⟨0x6E, [0x75, 0x6C, 0x6C], by simp [write], by decide, by decide, ?_⟩
  intro stack
  exact ⟨_, _, rfl, rfl, Settled.delivered .null stack⟩

theorem reads_boolean (value : Bool) :
    Reads (write (.boolean value)) (.boolean value) := by
  cases value with
  | true =>
      refine ⟨0x74, [0x72, 0x75, 0x65], by simp [write], by decide,
        by decide, ?_⟩
      intro stack
      exact ⟨_, _, rfl, rfl, Settled.delivered (.boolean true) stack⟩
  | false =>
      refine ⟨0x66, [0x61, 0x6C, 0x73, 0x65], by simp [write], by decide,
        by decide, ?_⟩
      intro stack
      exact ⟨_, _, rfl, rfl, Settled.delivered (.boolean false) stack⟩

mutual

/-- What the writer makes of a document reads as that document. -/
theorem reads_write :
    ∀ document, isWritable document = true → Reads (write document) document
  | .null, _ => reads_null
  | .boolean value, _ => reads_boolean value
  | .number lexeme, hwritable => by
      rw [write]
      exact reads_number hwritable
  | .string bytes, hwritable => by
      rw [write]
      exact reads_string hwritable
  | .array [], _ => by
      rw [write]
      refine ⟨beginArray, [endArray], rfl, by decide, by decide, ?_⟩
      intro stack
      exact ⟨_, _, rfl, rfl, Settled.delivered (.array []) stack⟩
  | .array (item :: items), hwritable => by
      rw [isWritable, areWritable, Bool.and_eq_true] at hwritable
      rw [write]
      refine ⟨beginArray, _, rfl, by decide, by decide, ?_⟩
      intro stack
      obtain ⟨middle, hmiddle, hsettled⟩ :=
        (reads_write item hwritable.1).firstElement (.array [] :: stack)
      have hitems := readAll_writeItems items hwritable.2 hsettled
      refine ⟨_, _, rfl, ?_, Settled.delivered (.array (item :: items)) stack⟩
      rw [List.append_assoc, readAll_append, hmiddle]
      exact hitems
  | .object [], _ => by
      rw [write]
      refine ⟨beginObject, [endObject], rfl, by decide, by decide, ?_⟩
      intro stack
      exact ⟨_, _, rfl, rfl, Settled.delivered (.object []) stack⟩
  | .object ((name, value) :: members), hwritable => by
      rw [isWritable, membersWritable, Bool.and_eq_true,
        Bool.and_eq_true] at hwritable
      obtain ⟨⟨hname, hvalue⟩, hmembers⟩ := hwritable
      rw [write]
      refine ⟨beginObject, _, rfl, by decide, by decide, ?_⟩
      intro stack
      obtain ⟨middle, hmiddle, hsettled⟩ :=
        (reads_write value hvalue).member hname (Or.inl rfl) [] [] stack
      have hrest := readAll_writeMembers members hmembers hsettled
      refine ⟨_, _, rfl, ?_,
        Settled.delivered (.object ((name, value) :: members)) stack⟩
      rw [List.append_assoc, readAll_append, hmiddle]
      exact hrest

theorem readAll_writeItems :
    ∀ items, areWritable items = true →
      ∀ {state : State} {item : Json} {before : List Json}
        {stack : List Frame}, Settled state item (.array before :: stack) →
      readAll state (writeItems items ++ [endArray]) =
        some (deliver (.array (before ++ item :: items)) stack)
  | [], _, state, item, before, stack, hsettled => by
      rw [writeItems, List.nil_append, readAll_cons,
        hsettled.step (by decide)]
      rfl
  | next :: items, hwritable, state, item, before, stack, hsettled => by
      rw [areWritable, Bool.and_eq_true] at hwritable
      obtain ⟨middle, hmiddle, hnext⟩ := (reads_write next hwritable.1).value
        (.array (before ++ [item]) :: stack)
      have hitems := readAll_writeItems items hwritable.2 hnext
      rw [writeItems, List.cons_append, readAll_cons,
        hsettled.step (by decide), List.append_assoc]
      have hcomma : afterValue valueSeparator
          (deliver item (.array before :: stack)) =
            some (.reading .value (.array (before ++ [item]) :: stack)) := rfl
      rw [hcomma, Option.bind_some, readAll_append, hmiddle]
      simpa using hitems

theorem readAll_writeMembers :
    ∀ members, membersWritable members = true →
      ∀ {state : State} {value : Json} {before : List (List UInt8 × Json)}
        {name : List UInt8} {stack : List Frame},
      Settled state value (.object before name :: stack) →
      readAll state (writeMembers members ++ [endObject]) =
        some (deliver (.object (before ++ (name, value) :: members)) stack)
  | [], _, state, value, before, name, stack, hsettled => by
      rw [writeMembers, List.nil_append, readAll_cons,
        hsettled.step (by decide)]
      rfl
  | (next, other) :: members, hwritable, state, value, before, name, stack,
      hsettled => by
      rw [membersWritable, Bool.and_eq_true, Bool.and_eq_true] at hwritable
      obtain ⟨⟨hnext, hother⟩, hmembers⟩ := hwritable
      obtain ⟨middle, hmiddle, hvalue⟩ := (reads_write other hother).member
        hnext (Or.inr rfl) (before ++ [(name, value)]) [] stack
      have hrest := readAll_writeMembers members hmembers hvalue
      rw [writeMembers, List.cons_append, readAll_cons,
        hsettled.step (by decide), List.append_assoc]
      have hcomma : afterValue valueSeparator
          (deliver value (.object before name :: stack)) =
            some (.reading .member
              (.object (before ++ [(name, value)]) [] :: stack)) := rfl
      rw [hcomma, Option.bind_some, readAll_append, hmiddle]
      simpa using hrest

end

/-- Reading inverts writing. -/
theorem parse_write
    {document : Json} (hwritable : isWritable document = true) :
    parse (write document) = some document := by
  obtain ⟨last, hlast, hsettled⟩ :=
    (reads_write document hwritable).value []
  unfold parse start
  rw [hlast]
  exact hsettled.finish

end Json

end Foundation
