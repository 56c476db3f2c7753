import Mathlib.Tactic

/-!
# Patterns

Regular expressions without alternatives: classes of characters, sequences
and repetitions.  The matcher computes what every match of a beginning of the
text leaves over, and a full match leaves nothing.
-/

namespace Foundation

inductive Pattern (α : Type) where
  | one (accepts : α → Bool)
  | seq (first second : Pattern α)
  | times (count : ℕ) (pattern : Pattern α)
  | plus (pattern : Pattern α)

namespace Pattern

variable {α : Type}

/-- The texts a pattern stands for. -/
inductive Matches : Pattern α → List α → Prop
  | one {accepts : α → Bool} {char : α} (haccepts : accepts char = true) :
      Matches (.one accepts) [char]
  | seq {first second : Pattern α} {word rest : List α}
      (hfirst : Matches first word) (hsecond : Matches second rest) :
      Matches (.seq first second) (word ++ rest)
  | none {pattern : Pattern α} : Matches (.times 0 pattern) []
  | times {count : ℕ} {pattern : Pattern α} {word rest : List α}
      (hfirst : Matches pattern word)
      (hrest : Matches (.times count pattern) rest) :
      Matches (.times (count + 1) pattern) (word ++ rest)
  | once {pattern : Pattern α} {word : List α}
      (hfirst : Matches pattern word) : Matches (.plus pattern) word
  | more {pattern : Pattern α} {word rest : List α}
      (hfirst : Matches pattern word) (hrest : Matches (.plus pattern) rest) :
      Matches (.plus pattern) (word ++ rest)

/-! ## The matcher -/

def timesRests (rests : List α → List (List α)) :
    ℕ → List α → List (List α)
  | 0, text => [text]
  | count + 1, text => (rests text).flatMap (timesRests rests count)

/-- At most `fuel` repetitions, at least one. -/
def plusRests (rests : List α → List (List α)) :
    ℕ → List α → List (List α)
  | 0, _ => []
  | fuel + 1, text =>
      (rests text).flatMap fun rest => rest :: plusRests rests fuel rest

/-- What the matches of a beginning of the text leave over.  More repetitions
than characters match nothing that fewer do not. -/
def rests : Pattern α → List α → List (List α)
  | .one _, [] => []
  | .one accepts, char :: text => if accepts char then [text] else []
  | .seq first second, text => (rests first text).flatMap (rests second)
  | .times count pattern, text => timesRests (rests pattern) count text
  | .plus pattern, text => plusRests (rests pattern) (text.length + 1) text

def fullMatch (pattern : Pattern α) (text : List α) : Bool :=
  (rests pattern text).any List.isEmpty

section Matcher

variable {pattern : Pattern α} {text rest : List α}

theorem matches_of_mem_timesRests
    (hrests : ∀ text rest, rest ∈ rests pattern text →
      ∃ word, text = word ++ rest ∧ Matches pattern word)
    {count : ℕ} (hrest : rest ∈ timesRests (rests pattern) count text) :
    ∃ word, text = word ++ rest ∧ Matches (.times count pattern) word := by
  induction count generalizing text with
  | zero =>
      obtain rfl := List.mem_singleton.mp hrest
      exact ⟨[], rfl, .none⟩
  | succ count ih =>
      obtain ⟨middle, hmiddle, hbehind⟩ := List.mem_flatMap.mp hrest
      obtain ⟨word, rfl, hword⟩ := hrests text middle hmiddle
      obtain ⟨later, rfl, hlater⟩ := ih hbehind
      exact ⟨word ++ later, (List.append_assoc _ _ _).symm,
        .times hword hlater⟩

theorem matches_of_mem_plusRests
    (hrests : ∀ text rest, rest ∈ rests pattern text →
      ∃ word, text = word ++ rest ∧ Matches pattern word)
    {fuel : ℕ} (hrest : rest ∈ plusRests (rests pattern) fuel text) :
    ∃ word, text = word ++ rest ∧ Matches (.plus pattern) word := by
  induction fuel generalizing text with
  | zero => simp [plusRests] at hrest
  | succ fuel ih =>
      obtain ⟨middle, hmiddle, hbehind⟩ := List.mem_flatMap.mp hrest
      obtain ⟨word, rfl, hword⟩ := hrests text middle hmiddle
      rcases List.mem_cons.mp hbehind with rfl | hmore
      · exact ⟨word, rfl, .once hword⟩
      · obtain ⟨later, rfl, hlater⟩ := ih hmore
        exact ⟨word ++ later, (List.append_assoc _ _ _).symm,
          .more hword hlater⟩

theorem mem_plusRests_of_matches
    {word : List α} (hword : Matches (.plus pattern) word)
    (hrests : ∀ word, Matches pattern word →
      ∀ rest, rest ∈ rests pattern (word ++ rest))
    {fuel : ℕ} (hfuel : word.length < fuel) (rest : List α) :
    rest ∈ plusRests (rests pattern) fuel (word ++ rest) := by
  generalize hplus : Pattern.plus pattern = plus at hword
  induction hword generalizing fuel with
  | one haccepts => cases hplus
  | seq hfirst hsecond => cases hplus
  | none => cases hplus
  | times hfirst hrest => cases hplus
  | once hfirst =>
      obtain rfl := Pattern.plus.inj hplus
      obtain ⟨fuel, rfl⟩ :=
        Nat.exists_eq_succ_of_ne_zero (Nat.ne_zero_of_lt hfuel)
      exact List.mem_flatMap.mpr
        ⟨rest, hrests _ hfirst rest, List.mem_cons_self⟩
  | @more _ word later hfirst hlater _ ih =>
      obtain rfl := Pattern.plus.inj hplus
      obtain ⟨fuel, rfl⟩ :=
        Nat.exists_eq_succ_of_ne_zero (Nat.ne_zero_of_lt hfuel)
      rw [List.length_append] at hfuel
      cases word with
      | nil => exact ih (by simpa using hfuel) rfl
      | cons char word =>
          rw [List.length_cons] at hfuel
          rw [List.append_assoc]
          refine List.mem_flatMap.mpr
            ⟨later ++ rest, hrests _ hfirst _, ?_⟩
          exact List.mem_cons_of_mem _ (ih (by omega) rfl)

theorem matches_of_mem_rests (hrest : rest ∈ rests pattern text) :
    ∃ word, text = word ++ rest ∧ Matches pattern word := by
  induction pattern generalizing text rest with
  | one accepts =>
      cases text with
      | nil => simp [rests] at hrest
      | cons char text =>
          unfold rests at hrest
          split_ifs at hrest with haccepts
          · obtain rfl := List.mem_singleton.mp hrest
            exact ⟨[char], rfl, .one haccepts⟩
          · cases hrest
  | seq first second ihfirst ihsecond =>
      obtain ⟨middle, hmiddle, hbehind⟩ := List.mem_flatMap.mp hrest
      obtain ⟨word, rfl, hword⟩ := ihfirst hmiddle
      obtain ⟨later, rfl, hlater⟩ := ihsecond hbehind
      exact ⟨word ++ later, (List.append_assoc _ _ _).symm,
        .seq hword hlater⟩
  | times count pattern ih =>
      exact matches_of_mem_timesRests (fun _ _ => ih) hrest
  | plus pattern ih =>
      exact matches_of_mem_plusRests (fun _ _ => ih) hrest

theorem mem_rests_of_matches
    {word : List α} (hword : Matches pattern word) (rest : List α) :
    rest ∈ rests pattern (word ++ rest) := by
  induction pattern generalizing word rest with
  | one accepts =>
      cases hword with
      | one haccepts => simp [rests, haccepts]
  | seq first second ihfirst ihsecond =>
      cases hword with
      | seq hfirst hsecond =>
          rw [List.append_assoc]
          exact List.mem_flatMap.mpr
            ⟨_, ihfirst hfirst _, ihsecond hsecond _⟩
  | times count pattern ih =>
      unfold rests
      induction count generalizing word with
      | zero =>
          cases hword with
          | none => exact List.mem_singleton.mpr rfl
      | succ count ihcount =>
          cases hword with
          | times hfirst hrest =>
              rw [List.append_assoc]
              exact List.mem_flatMap.mpr
                ⟨_, ih hfirst _, ihcount hrest⟩
  | plus pattern ih =>
      unfold rests
      apply mem_plusRests_of_matches hword
      · intro word hword rest
        exact ih hword rest
      · rw [List.length_append]
        omega

/-- The matcher finds the matches and nothing else. -/
theorem mem_rests_iff :
    rest ∈ rests pattern text ↔
      ∃ word, text = word ++ rest ∧ Matches pattern word := by
  constructor
  · exact matches_of_mem_rests
  · rintro ⟨word, rfl, hword⟩
    exact mem_rests_of_matches hword rest

theorem fullMatch_iff : fullMatch pattern text = true ↔ Matches pattern text := by
  unfold fullMatch
  rw [List.any_eq_true]
  constructor
  · rintro ⟨rest, hrest, hempty⟩
    obtain rfl := List.isEmpty_iff.mp hempty
    obtain ⟨word, rfl, hword⟩ := mem_rests_iff.mp hrest
    rwa [List.append_nil]
  · intro hmatches
    exact ⟨[], mem_rests_iff.mpr ⟨text, (List.append_nil _).symm, hmatches⟩,
      rfl⟩

end Matcher

/-! ## What a match consists of -/

/-- Some class of the pattern accepts the character. -/
def uses : Pattern α → α → Bool
  | .one accepts, char => accepts char
  | .seq first second, char => uses first char || uses second char
  | .times _ pattern, char => uses pattern char
  | .plus pattern, char => uses pattern char

variable {pattern : Pattern α} {word : List α}

theorem Matches.uses (hmatches : Matches pattern word) :
    ∀ char ∈ word, pattern.uses char = true := by
  induction hmatches with
  | one haccepts =>
      intro char hchar
      obtain rfl := List.mem_singleton.mp hchar
      exact haccepts
  | seq hfirst hsecond ihfirst ihsecond =>
      intro char hchar
      unfold Pattern.uses
      rcases List.mem_append.mp hchar with hword | hrest
      · simp [ihfirst char hword]
      · simp [ihsecond char hrest]
  | none => simp
  | times hfirst hrest ihfirst ihrest =>
      intro char hchar
      rcases List.mem_append.mp hchar with hword | hlater
      · exact ihfirst char hword
      · exact ihrest char hlater
  | once hfirst ih => exact ih
  | more hfirst hrest ihfirst ihrest =>
      intro char hchar
      rcases List.mem_append.mp hchar with hword | hlater
      · exact ihfirst char hword
      · exact ihrest char hlater

/-- So many characters of a class. -/
theorem Matches.length
    {accepts : α → Bool} {count : ℕ}
    (hmatches : Matches (.times count (.one accepts)) word) :
    word.length = count := by
  induction count generalizing word with
  | zero =>
      cases hmatches with
      | none => rfl
  | succ count ih =>
      cases hmatches with
      | times hfirst hrest =>
          cases hfirst with
          | one haccepts =>
              rw [List.length_append, ih hrest, List.length_singleton,
                Nat.add_comm]

/-- Any so many characters of a class. -/
theorem matches_times_one
    {accepts : α → Bool} (hword : ∀ char ∈ word, accepts char = true) :
    Matches (.times word.length (.one accepts)) word := by
  induction word with
  | nil => exact .none
  | cons char word ih =>
      have hrest := ih fun other hother =>
        hword other (List.mem_cons_of_mem _ hother)
      exact .times (.one (hword char List.mem_cons_self)) hrest

/-- Any characters of a class, at least one. -/
theorem matches_plus_one
    {accepts : α → Bool} (hword : ∀ char ∈ word, accepts char = true)
    (hne : word ≠ []) :
    Matches (.plus (.one accepts)) word := by
  induction word with
  | nil => exact absurd rfl hne
  | cons char word ih =>
      have hfirst : Matches (.one accepts) [char] :=
        .one (hword char List.mem_cons_self)
      cases word with
      | nil => exact .once hfirst
      | cons next word =>
          have hrest := ih (fun other hother =>
            hword other (List.mem_cons_of_mem _ hother)) (by simp)
          exact .more hfirst hrest

end Pattern

end Foundation
