import Revana.Foundation.JsonWriter

/-!
# Objects laid out over lines

An object whose members stand on lines of their own reads like one without
the whitespace.  The texts of the values are any texts that read as values, so
a value may come from a template.
-/

namespace Foundation

namespace Json

def AllWhitespace (gap : List UInt8) : Prop :=
  ∀ byte ∈ gap, isWhitespace byte = true

/-- The whitespace of an object. -/
structure Layout where
  beforeName : List UInt8
  beforeValue : List UInt8
  beforeEnd : List UInt8
  afterEnd : List UInt8
  beforeName_space : AllWhitespace beforeName
  beforeValue_space : AllWhitespace beforeValue
  beforeEnd_space : AllWhitespace beforeEnd
  afterEnd_space : AllWhitespace afterEnd

namespace Layout

/-- A member from the texts of its name and its value. -/
def member (layout : Layout) (entry : List UInt8 × List UInt8) : List UInt8 :=
  layout.beforeName ++ (writeString entry.1 ++ [nameSeparator]) ++
    (layout.beforeValue ++ entry.2)

/-- The members behind the first one. -/
def members (layout : Layout) : List (List UInt8 × List UInt8) → List UInt8
  | [] => []
  | entry :: entries =>
      valueSeparator :: (layout.member entry ++ layout.members entries)

def object (layout : Layout) (first : List UInt8 × List UInt8)
    (entries : List (List UInt8 × List UInt8)) : List UInt8 :=
  beginObject :: (layout.member first ++ layout.members entries ++
    (layout.beforeEnd ++ endObject :: layout.afterEnd))

end Layout

/-! ## Whitespace -/

/-- Where whitespace changes nothing. -/
inductive Idle : State → Prop where
  | value (stack : List Frame) : Idle (.reading .value stack)
  | firstMember (stack : List Frame) : Idle (.reading .firstMember stack)
  | member (stack : List Frame) : Idle (.reading .member stack)
  | done (value : Json) : Idle (.done value)

theorem Idle.readAll
    {state : State} (hidle : Idle state) {gap : List UInt8}
    (hgap : AllWhitespace gap) :
    Json.readAll state gap = some state := by
  induction gap with
  | nil => rfl
  | cons byte gap ih =>
      have hspace := hgap byte List.mem_cons_self
      have hstep : step state byte = some state := by
        cases hidle with
        | value stack => simp [step, hspace]
        | firstMember stack => simp [step, hspace]
        | member stack => simp [step, hspace]
        | done value => simp [step, afterValue, hspace]
      rw [readAll_cons, hstep, Option.bind_some]
      exact ih fun other hother => hgap other (List.mem_cons_of_mem _ hother)

theorem NumberPhase.next_of_isWhitespace
    {byte : UInt8} (hspace : isWhitespace byte = true) (phase : NumberPhase) :
    phase.next byte = none := by
  unfold isWhitespace at hspace
  simp only [Bool.or_eq_true, decide_eq_true_eq] at hspace
  rcases hspace with ((rfl | rfl) | rfl) | rfl
  · cases phase <;> decide
  · cases phase <;> decide
  · cases phase <;> decide
  · cases phase <;> decide

/-- Behind a value whitespace leaves the value where it goes. -/
theorem Settled.readAll
    {state : State} {value : Json} {stack : List Frame}
    (hsettled : Settled state value stack) {gap : List UInt8}
    (hgap : AllWhitespace gap) :
    ∃ last, Json.readAll state gap = some last ∧
      Settled last value stack := by
  induction gap generalizing state with
  | nil => exact ⟨state, rfl, hsettled⟩
  | cons byte gap ih =>
      have hspace := hgap byte List.mem_cons_self
      have hafter : afterValue byte (deliver value stack) =
          some (deliver value stack) := by
        rcases stack with _ | ⟨frame, stack⟩
        · simp [deliver, afterValue, hspace]
        · cases frame <;> simp [deliver, afterValue, hspace]
      have hstep : Json.step state byte = some (deliver value stack) := by
        cases hsettled with
        | delivered =>
            rw [← hafter]
            rcases stack with _ | ⟨frame, stack⟩
            · rfl
            · cases frame <;> rfl
        | number hcomplete lexeme =>
            rw [← hafter]
            simp [Json.step, NumberPhase.next_of_isWhitespace hspace, hcomplete]
      rw [readAll_cons, hstep]
      exact ih (Settled.delivered value stack) fun other hother =>
        hgap other (List.mem_cons_of_mem _ hother)

/-! ## Members -/

/-- The texts of a member and what they read as. -/
def ReadsMember (entry : List UInt8 × List UInt8)
    (member : List UInt8 × Json) : Prop :=
  entry.1 = member.1 ∧ isUtf8 member.1 = true ∧ Reads entry.2 member.2

namespace Layout

variable (layout : Layout) {entry : List UInt8 × List UInt8}
  {entries : List (List UInt8 × List UInt8)} {document : List UInt8 × Json}
  {documents : List (List UInt8 × Json)}

theorem readAll_member
    (hentry : ReadsMember entry document) {mode : Mode}
    (hmode : mode = .firstMember ∨ mode = .member)
    (before : List (List UInt8 × Json)) (old : List UInt8)
    (stack : List Frame) :
    ∃ last, readAll (.reading mode (.object before old :: stack))
        (layout.member entry) = some last ∧
      Settled last document.2 (.object before document.1 :: stack) := by
  obtain ⟨hname, hutf8, hreads⟩ := hentry
  have hidle : Idle (.reading mode (.object before old :: stack)) := by
    rcases hmode with rfl | rfl
    · exact .firstMember _
    · exact .member _
  obtain ⟨last, hlast, hsettled⟩ :=
    hreads.value (.object before document.1 :: stack)
  refine ⟨last, ?_, hsettled⟩
  unfold member
  rw [hname, readAll_append, readAll_append,
    hidle.readAll layout.beforeName_space, Option.bind_some,
    readAll_name hutf8 hmode, Option.bind_some, readAll_append,
    (Idle.value _).readAll layout.beforeValue_space, Option.bind_some]
  exact hlast

/-- The members behind a value, up to the end of the object. -/
theorem readAll_members
    (hentries : List.Forall₂ ReadsMember entries documents)
    {state : State} {value : Json} {before : List (List UInt8 × Json)}
    {name : List UInt8} {stack : List Frame}
    (hsettled : Settled state value (.object before name :: stack)) :
    readAll state (layout.members entries ++
        (layout.beforeEnd ++ [endObject])) =
      some (deliver (.object (before ++ (name, value) :: documents))
        stack) := by
  induction hentries generalizing state value before name with
  | nil =>
      obtain ⟨last, hlast, hend⟩ := hsettled.readAll layout.beforeEnd_space
      rw [members, List.nil_append, readAll_append, hlast, Option.bind_some,
        readAll_cons, hend.step (by decide)]
      rfl
  | @cons entry document entries documents hentry hrest ih =>
      have hcomma : afterValue valueSeparator
          (deliver value (.object before name :: stack)) =
            some (.reading .member
              (.object (before ++ [(name, value)]) [] :: stack)) := rfl
      obtain ⟨middle, hmiddle, hnext⟩ := layout.readAll_member hentry
        (Or.inr rfl) (before ++ [(name, value)]) [] stack
      rw [members, List.cons_append, readAll_cons,
        hsettled.step (by decide), hcomma, Option.bind_some,
        List.append_assoc, readAll_append, hmiddle, Option.bind_some,
        ih hnext]
      simp

/-- Reading an object that was laid out. -/
theorem parse_object
    (hentry : ReadsMember entry document)
    (hentries : List.Forall₂ ReadsMember entries documents) :
    parse (layout.object entry entries) =
      some (.object (document :: documents)) := by
  obtain ⟨middle, hmiddle, hsettled⟩ :=
    layout.readAll_member hentry (Or.inl rfl) [] [] []
  have hmembers := layout.readAll_members hentries hsettled
  have hopen : step start beginObject =
      some (.reading .firstMember [.object [] []]) := rfl
  have hsplit : layout.member entry ++ layout.members entries ++
      (layout.beforeEnd ++ endObject :: layout.afterEnd) =
        layout.member entry ++ (layout.members entries ++
          (layout.beforeEnd ++ [endObject]) ++ layout.afterEnd) := by
    simp
  unfold parse object
  rw [readAll_cons, hopen, Option.bind_some, hsplit, readAll_append,
    hmiddle, Option.bind_some, readAll_append, hmembers, Option.bind_some]
  have hdone := (Idle.done (.object (document :: documents))).readAll
    layout.afterEnd_space
  show (readAll (.done (.object (document :: documents)))
    layout.afterEnd).bind State.finish = _
  rw [hdone]
  rfl

end Layout

/-! ## Plain strings -/

/-- ASCII characters that a string holds as they are. -/
def isPlain (byte : UInt8) : Bool :=
  0x20 ≤ byte && byte < 0x80 && byte ≠ quotationMark && byte ≠ escape

theorem isPlain_cases :
    ∀ value < 0x80, isPlain value.toUInt8 = true →
      escapeByte value.toUInt8 = [value.toUInt8] ∧
        utf8Next .plain value.toUInt8 = some .plain := by
  decide

/-- A plain text between quotation marks is a string. -/
theorem reads_plain
    {bytes : List UInt8} (hplain : ∀ byte ∈ bytes, isPlain byte = true) :
    Reads (quotationMark :: (bytes ++ [quotationMark])) (.string bytes) := by
  have hbyte : ∀ byte ∈ bytes, escapeByte byte = [byte] ∧
      utf8Next .plain byte = some .plain := by
    intro byte hmem
    have hself : byte.toNat.toUInt8 = byte := UInt8.ofNat_toNat
    have hisPlain := hplain byte hmem
    have hascii : byte.toNat < 0x80 := by
      unfold isPlain at hisPlain
      simp only [Bool.and_eq_true, decide_eq_true_eq] at hisPlain
      exact UInt8.lt_iff_toNat_lt.mp hisPlain.1.1.2
    have hcases := isPlain_cases byte.toNat hascii
    rw [hself] at hcases
    exact hcases hisPlain
  have hescape : escapeString bytes = bytes := by
    unfold escapeString
    conv_rhs => rw [← List.flatMap_singleton' bytes]
    exact List.flatMap_congr fun byte hmem => (hbyte byte hmem).1
  have hutf8 : isUtf8 bytes = true := by
    have hfold : bytes.foldlM utf8Next .plain = some .plain := by
      clear hplain hescape
      induction bytes with
      | nil => rfl
      | cons byte rest ih =>
          rw [List.foldlM_cons, (hbyte byte List.mem_cons_self).2]
          exact ih fun other hother =>
            hbyte other (List.mem_cons_of_mem _ hother)
    exact decide_eq_true hfold
  have hreads := reads_string hutf8
  unfold writeString at hreads
  rwa [hescape] at hreads

end Json

end Foundation
