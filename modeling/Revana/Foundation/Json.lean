import Mathlib.Tactic

/-!
# JSON texts

The grammar of RFC 8259 over UTF-8 bytes, read one byte at a time by a machine
with a stack of open arrays and objects.  Since a run over `before ++ after`
is a run over `after` from where `before` ends, what a text can still become
after one of its prefixes is read off the machine's state.
-/

namespace Foundation

/-- A JSON document.  Numbers keep their lexeme; strings and names are
unescaped. -/
inductive Json where
  | null
  | boolean (value : Bool)
  | number (lexeme : List UInt8)
  | string (bytes : List UInt8)
  | array (items : List Json)
  | object (members : List (List UInt8 × Json))

namespace Json

/-! ## Characters -/

def beginArray : UInt8 := 0x5B
def endArray : UInt8 := 0x5D
def beginObject : UInt8 := 0x7B
def endObject : UInt8 := 0x7D
def nameSeparator : UInt8 := 0x3A
def valueSeparator : UInt8 := 0x2C
def quotationMark : UInt8 := 0x22
def escape : UInt8 := 0x5C
def minus : UInt8 := 0x2D
def plus : UInt8 := 0x2B
def decimalPoint : UInt8 := 0x2E
def zero : UInt8 := 0x30

def isWhitespace (byte : UInt8) : Bool :=
  byte = 0x20 || byte = 0x09 || byte = 0x0A || byte = 0x0D

def isDigit (byte : UInt8) : Bool := 0x30 ≤ byte && byte ≤ 0x39

def isExponentMark (byte : UInt8) : Bool := byte = 0x65 || byte = 0x45

def isHexDigit (byte : UInt8) : Bool :=
  isDigit byte || (0x41 ≤ byte && byte ≤ 0x46) ||
    (0x61 ≤ byte && byte ≤ 0x66)

def hexValue (byte : UInt8) : ℕ :=
  if isDigit byte then (byte - 0x30).toNat
  else (byte &&& 0x0F).toNat + 9

/-! ## Numbers -/

inductive NumberPhase where
  | sign
  | zero
  | integer
  | point
  | fraction
  | exponent
  | exponentSign
  | exponentDigits
  deriving DecidableEq, Repr

def NumberPhase.next (phase : NumberPhase) (byte : UInt8) :
    Option NumberPhase :=
  match phase with
  | .sign =>
      if byte = Json.zero then some .zero
      else if isDigit byte then some .integer else none
  | .zero =>
      if byte = decimalPoint then some .point
      else if isExponentMark byte then some .exponent else none
  | .integer =>
      if isDigit byte then some .integer
      else if byte = decimalPoint then some .point
      else if isExponentMark byte then some .exponent else none
  | .point => if isDigit byte then some .fraction else none
  | .fraction =>
      if isDigit byte then some .fraction
      else if isExponentMark byte then some .exponent else none
  | .exponent =>
      if isDigit byte then some .exponentDigits
      else if byte = plus ∨ byte = minus then some .exponentSign else none
  | .exponentSign => if isDigit byte then some .exponentDigits else none
  | .exponentDigits => if isDigit byte then some .exponentDigits else none

def NumberPhase.complete : NumberPhase → Bool
  | .zero => true
  | .integer => true
  | .fraction => true
  | .exponentDigits => true
  | .sign => false
  | .point => false
  | .exponent => false
  | .exponentSign => false

/-! ## Strings -/

/-- `tail low high more` owes a continuation byte between `low` and `high`,
and `more` after it. -/
inductive StringPhase where
  | plain
  | escaped
  | hex (owed : ℕ)
  | tail (low high : UInt8) (more : ℕ)
  deriving DecidableEq, Repr

/-- The first byte of a character. -/
def leadByte (byte : UInt8) : Option StringPhase :=
  if byte < 0x20 then none
  else if byte < 0x80 then some .plain
  else if byte < 0xC2 then none
  else if byte < 0xE0 then some (.tail 0x80 0xBF 0)
  else if byte = 0xE0 then some (.tail 0xA0 0xBF 1)
  else if byte = 0xED then some (.tail 0x80 0x9F 1)
  else if byte < 0xF0 then some (.tail 0x80 0xBF 1)
  else if byte = 0xF0 then some (.tail 0x90 0xBF 2)
  else if byte < 0xF4 then some (.tail 0x80 0xBF 2)
  else if byte = 0xF4 then some (.tail 0x80 0x8F 2)
  else none

/-- The bytes that may follow a reverse solidus, `u` apart. -/
def shortEscapes : List (UInt8 × UInt8) :=
  [(0x22, 0x22), (0x5C, 0x5C), (0x2F, 0x2F), (0x62, 0x08), (0x66, 0x0C),
    (0x6E, 0x0A), (0x72, 0x0D), (0x74, 0x09)]

/-- Any byte but the closing quotation mark. -/
def StringPhase.next (phase : StringPhase) (byte : UInt8) :
    Option StringPhase :=
  match phase with
  | .plain => if byte = escape then some .escaped else leadByte byte
  | .escaped =>
      if byte = 0x75 then some (.hex 4)
      else if (shortEscapes.lookup byte).isSome then some .plain else none
  | .hex owed =>
      if isHexDigit byte then
        if owed ≤ 1 then some .plain else some (.hex (owed - 1))
      else none
  | .tail low high more =>
      if low ≤ byte ∧ byte ≤ high then
        if more = 0 then some .plain else some (.tail 0x80 0xBF (more - 1))
      else none

def encodeUtf8 (point : ℕ) : List UInt8 :=
  if point < 0x80 then [point.toUInt8]
  else if point < 0x800 then
    [(0xC0 + point / 0x40).toUInt8, (0x80 + point % 0x40).toUInt8]
  else if point < 0x10000 then
    [(0xE0 + point / 0x1000).toUInt8, (0x80 + point / 0x40 % 0x40).toUInt8,
      (0x80 + point % 0x40).toUInt8]
  else
    [(0xF0 + point / 0x40000).toUInt8,
      (0x80 + point / 0x1000 % 0x40).toUInt8,
      (0x80 + point / 0x40 % 0x40).toUInt8, (0x80 + point % 0x40).toUInt8]

def hexUnit (a b c d : UInt8) : ℕ :=
  0x1000 * hexValue a + 0x100 * hexValue b + 0x10 * hexValue c + hexValue d

def isHighSurrogate (unit : ℕ) : Bool := 0xD800 ≤ unit && unit < 0xDC00
def isLowSurrogate (unit : ℕ) : Bool := 0xDC00 ≤ unit && unit < 0xE000

/-- A high surrogate that has not met its low one stands for itself. -/
def unpaired (high : Option ℕ) : List UInt8 :=
  match high with
  | none => []
  | some unit => encodeUtf8 unit

/-- The bytes of a string lexeme behind a high surrogate, if any. -/
def unescapeFrom (high : Option ℕ) : List UInt8 → List UInt8
  | [] => unpaired high
  | 0x5C :: 0x75 :: a :: b :: c :: d :: rest =>
      let unit := hexUnit a b c d
      match high, isLowSurrogate unit with
      | some lead, true =>
          encodeUtf8 (0x10000 + 0x400 * (lead - 0xD800) + (unit - 0xDC00)) ++
            unescapeFrom none rest
      | _, _ =>
          if isHighSurrogate unit then
            unpaired high ++ unescapeFrom (some unit) rest
          else unpaired high ++ encodeUtf8 unit ++ unescapeFrom none rest
  | 0x5C :: byte :: rest =>
      unpaired high ++ (shortEscapes.lookup byte).getD byte ::
        unescapeFrom none rest
  | byte :: rest => unpaired high ++ byte :: unescapeFrom none rest

def unescape (lexeme : List UInt8) : List UInt8 := unescapeFrom none lexeme

/-! ## The machine -/

/-- An array or object that is still open, with the name of the member whose
value comes next. -/
inductive Frame where
  | array (items : List Json)
  | object (members : List (List UInt8 × Json)) (name : List UInt8)

inductive Mode where
  | value
  | firstElement
  | firstMember
  | member
  | colon
  | separator
  | literal (owed : List UInt8) (value : Json)
  | number (phase : NumberPhase) (lexeme : List UInt8)
  | string (phase : StringPhase) (lexeme : List UInt8) (isName : Bool)

inductive State where
  | reading (mode : Mode) (stack : List Frame)
  | done (value : Json)

/-- Where a finished value goes. -/
def deliver (value : Json) : List Frame → State
  | [] => .done value
  | .array items :: stack =>
      .reading .separator (.array (items ++ [value]) :: stack)
  | .object members name :: stack =>
      .reading .separator (.object (members ++ [(name, value)]) [] :: stack)

def close (byte : UInt8) : List Frame → Option State
  | [] => none
  | .array items :: stack =>
      if byte = endArray then some (deliver (.array items) stack) else none
  | .object members _ :: stack =>
      if byte = endObject then some (deliver (.object members) stack)
      else none

/-- The byte after a value, whitespace included. -/
def afterValue (byte : UInt8) : State → Option State
  | .done value => if isWhitespace byte then some (.done value) else none
  | .reading mode stack =>
      if isWhitespace byte then some (.reading mode stack)
      else if byte = valueSeparator then
        match stack with
        | [] => none
        | .array items :: stack =>
            some (.reading .value (.array items :: stack))
        | .object members name :: stack =>
            some (.reading .member (.object members name :: stack))
      else close byte stack

def beginValue (byte : UInt8) (stack : List Frame) : Option State :=
  if byte = beginObject then
    some (.reading .firstMember (.object [] [] :: stack))
  else if byte = beginArray then
    some (.reading .firstElement (.array [] :: stack))
  else if byte = quotationMark then
    some (.reading (.string .plain [] false) stack)
  else if byte = 0x74 then
    some (.reading (.literal [0x72, 0x75, 0x65] (.boolean true)) stack)
  else if byte = 0x66 then
    some (.reading (.literal [0x61, 0x6C, 0x73, 0x65] (.boolean false)) stack)
  else if byte = 0x6E then
    some (.reading (.literal [0x75, 0x6C, 0x6C] .null) stack)
  else if byte = minus then some (.reading (.number .sign [byte]) stack)
  else if byte = zero then some (.reading (.number .zero [byte]) stack)
  else if isDigit byte then some (.reading (.number .integer [byte]) stack)
  else none

def endString (lexeme : List UInt8) (isName : Bool) (stack : List Frame) :
    Option State :=
  if isName then
    match stack with
    | .object members _ :: stack =>
        some (.reading .colon (.object members (unescape lexeme) :: stack))
    | .array _ :: _ => none
    | [] => none
  else some (deliver (.string (unescape lexeme)) stack)

def step (state : State) (byte : UInt8) : Option State :=
  match state with
  | .done value => afterValue byte (.done value)
  | .reading mode stack =>
      match mode with
      | .literal owed value =>
          match owed with
          | [] => none
          | expected :: owed =>
              if byte = expected then
                if owed = [] then some (deliver value stack)
                else some (.reading (.literal owed value) stack)
              else none
      | .number phase lexeme =>
          match phase.next byte with
          | some phase =>
              some (.reading (.number phase (lexeme ++ [byte])) stack)
          | none =>
              if phase.complete then
                afterValue byte (deliver (.number lexeme) stack)
              else none
      | .string phase lexeme isName =>
          if phase = .plain ∧ byte = quotationMark then
            endString lexeme isName stack
          else
            (phase.next byte).map fun phase =>
              .reading (.string phase (lexeme ++ [byte]) isName) stack
      | .separator => afterValue byte (.reading .separator stack)
      | .value =>
          if isWhitespace byte then some state else beginValue byte stack
      | .firstElement =>
          if isWhitespace byte then some state
          else if byte = endArray then close byte stack
          else beginValue byte stack
      | .firstMember =>
          if isWhitespace byte then some state
          else if byte = quotationMark then
            some (.reading (.string .plain [] true) stack)
          else close byte stack
      | .member =>
          if isWhitespace byte then some state
          else if byte = quotationMark then
            some (.reading (.string .plain [] true) stack)
          else none
      | .colon =>
          if isWhitespace byte then some state
          else if byte = nameSeparator then some (.reading .value stack)
          else none

/-- The value when the text ends here. -/
def State.finish : State → Option Json
  | .done value => some value
  | .reading (.number phase lexeme) [] =>
      if phase.complete then some (.number lexeme) else none
  | .reading _ _ => none

def readAll (state : State) (text : List UInt8) : Option State :=
  text.foldlM step state

def start : State := .reading .value []

/-- The document a text denotes, `none` when it is no JSON text. -/
def parse (text : List UInt8) : Option Json :=
  (readAll start text).bind State.finish

/-- A JSON text whose value is an object. -/
def IsObjectText (text : List UInt8) : Prop :=
  ∃ members, parse text = some (.object members)

/-! ## Prefixes of a text -/

theorem readAll_append (state : State) (before after : List UInt8) :
    readAll state (before ++ after) =
      (readAll state before).bind fun next => readAll next after := by
  unfold readAll
  rw [List.foldlM_append]
  rfl

/-- Behind a finished document only whitespace can follow. -/
theorem readAll_done
    {value : Json} {text : List UInt8} {state : State}
    (hread : readAll (.done value) text = some state) :
    state = .done value := by
  induction text with
  | nil => exact (Option.some.inj hread).symm
  | cons byte rest ih =>
      unfold readAll at hread
      rw [List.foldlM_cons] at hread
      cases hspace : isWhitespace byte with
      | true =>
          apply ih
          simpa [readAll, step, afterValue, hspace] using hread
      | false => simp [step, afterValue, hspace] at hread

/-- A number that is the whole document stays one. -/
theorem finish_number
    {phase : NumberPhase} {lexeme text : List UInt8} {state : State}
    {value : Json}
    (hread : readAll (.reading (.number phase lexeme) []) text = some state)
    (hfinish : state.finish = some value) :
    ∃ digits, value = .number digits := by
  induction text generalizing phase lexeme with
  | nil =>
      have hstate := Option.some.inj hread
      rw [← hstate] at hfinish
      unfold State.finish at hfinish
      split at hfinish
      · rename_i hdone
        cases hdone
      · rename_i digits hnumber
        split at hfinish
        · exact ⟨_, (Option.some.inj hfinish).symm⟩
        · cases hfinish
      · cases hfinish
  | cons byte rest ih =>
      unfold readAll at hread
      rw [List.foldlM_cons] at hread
      cases hnext : phase.next byte with
      | some next =>
          apply ih
          simpa [readAll, step, hnext] using hread
      | none =>
          cases hcomplete : phase.complete with
          | false => simp [step, hnext, hcomplete] at hread
          | true =>
              have hdone : readAll (.done (.number lexeme)) (byte :: rest) =
                  some state := by
                unfold readAll
                rw [List.foldlM_cons]
                simpa [step, hnext, hcomplete, deliver] using hread
              rw [readAll_done hdone] at hfinish
              exact ⟨lexeme, (Option.some.inj hfinish).symm⟩

/-- A prefix of an object text which is itself a JSON text denotes the same
object: the rest is whitespace. -/
theorem parse_prefix_of_object
    {before after : List UInt8} {value : Json}
    (hobject : IsObjectText (before ++ after))
    (hbefore : parse before = some value) :
    parse (before ++ after) = some value := by
  obtain ⟨members, htext⟩ := hobject
  unfold parse at hbefore
  obtain ⟨middle, hmiddle, hfinish⟩ := Option.bind_eq_some_iff.mp hbefore
  have hsplit : parse (before ++ after) =
      (readAll middle after).bind State.finish := by
    unfold parse
    rw [readAll_append, hmiddle]
    rfl
  rw [hsplit] at htext
  obtain ⟨last, hlast, hvalue⟩ := Option.bind_eq_some_iff.mp htext
  cases middle with
  | done document =>
      rw [hsplit, hlast, readAll_done hlast]
      exact hfinish
  | reading mode stack =>
      -- Only a top-level number can end without a closing byte.
      unfold State.finish at hfinish
      split at hfinish
      · rename_i hdone
        cases hdone
      · rename_i phase lexeme hnumber
        cases hnumber
        obtain ⟨digits, hdigits⟩ := finish_number hlast hvalue
        cases hdigits
      · cases hfinish

end Json

end Foundation
