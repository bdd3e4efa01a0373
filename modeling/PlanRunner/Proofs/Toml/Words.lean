import Mathlib.Algebra.Order.Ring.Nat
import Mathlib.Data.List.TakeWhile
import PlanRunner.Proofs.Json.Lexemes
import PlanRunner.Toml.Parser
import PlanRunner.Toml.Printer

/-!
# Written TOML values

Truth values, natural numbers and strings without escapes, as they are written, are read back up to
the end of their line.
-/

namespace PlanRunner.Toml

variable {word characters rest : List Char} {value : Value}

/-! ## Numbers -/

/-- What is left of digits behind two of them. -/
theorem digits_of_twoDigits? {most number : Nat} {digits left : List Char}
    (allDigits : ∀ digit ∈ digits, digit.isDigit = true)
    (taken : twoDigits? most digits = some (number, left)) :
    ∀ digit ∈ left, digit.isDigit = true := by
  unfold twoDigits? at taken
  split at taken
  · rename_i first second after
    have isLeft : after = left := by
      split at taken <;> simp_all
    exact fun digit member => allDigits digit (by simp [isLeft, member])
  · contradiction

theorem after?_of_digits {character : Char} (noDigit : character.isDigit = false)
    {digits : List Char} (allDigits : ∀ digit ∈ digits, digit.isDigit = true) :
    after? character digits = none := by
  cases digits with
  | nil => rfl
  | cons first rest =>
      refine if_neg fun same => ?_
      have isDigit := allDigits first List.mem_cons_self
      rw [same, noDigit] at isDigit
      contradiction

/-- Digits alone are no point in time. -/
theorem isTime_of_digits (allDigits : ∀ digit ∈ word, digit.isDigit = true) :
    isTime word = false := by
  have noDate : afterDate? word = none := by
    unfold afterDate?
    simp only [Option.bind_eq_bind, Option.bind_eq_none_iff, Prod.forall]
    intro century left isCentury
    have digits := digits_of_twoDigits? allDigits isCentury
    intro year left isYear
    have digits := digits_of_twoDigits? digits isYear
    intro left isLeft
    rw [after?_of_digits (by decide) digits] at isLeft
    contradiction
  have noTime : afterTime? word = none := by
    unfold afterTime?
    simp only [Option.bind_eq_bind, Option.bind_eq_none_iff, Prod.forall]
    intro hour left isHour
    have digits := digits_of_twoDigits? allDigits isHour
    intro left isLeft
    rw [after?_of_digits (by decide) digits] at isLeft
    contradiction
  rw [isTime, noDate, noTime]
  rfl

theorem isDigitOf_ten {digit : Char} (isDigit : digit.isDigit = true) :
    isDigitOf 10 digit = true := by
  have bounds : 48 ≤ digit.toNat ∧ digit.toNat ≤ 57 := by
    simpa [Char.isDigit, UInt32.le_iff_toNat_le] using isDigit
  have small : digit.toNat - '0'.toNat < 10 := by
    have zero : '0'.toNat = 48 := rfl
    omega
  simp only [isDigitOf, Char.isAlphanum, isDigit, Bool.or_true, Bool.true_and, digitValue, if_true,
    small, decide_true]

theorem moreDigits_of_digits {digits : List Char}
    (allDigits : ∀ digit ∈ digits, digit.isDigit = true) : moreDigits 10 digits = some digits := by
  induction digits with
  | nil => rfl
  | cons first rest ih =>
      obtain ⟨isDigit, others⟩ := List.forall_mem_cons.1 allDigits
      have noUnderscore : first ≠ '_' := by
        rintro rfl
        contradiction
      rw [moreDigits, if_pos (isDigitOf_ten isDigit), ih others, Option.map_some]
      all_goals simp_all

theorem digits?_of_digits (nonempty : word ≠ [])
    (allDigits : ∀ digit ∈ word, digit.isDigit = true) : digits? 10 word = some word := by
  cases word with
  | nil => contradiction
  | cons first rest =>
      obtain ⟨isDigit, others⟩ := List.forall_mem_cons.1 allDigits
      simp only [digits?, isDigitOf_ten isDigit, moreDigits_of_digits others, if_true,
        Option.map_some]

theorem digitsValue_of_digits (allDigits : ∀ digit ∈ word, digit.isDigit = true) (value : Nat) :
    word.foldl (fun value digit => value * 10 + digitValue digit) value =
      Nat.ofDigitChars 10 word value := by
  induction word generalizing value with
  | nil => rfl
  | cons first rest ih =>
      obtain ⟨isDigit, others⟩ := List.forall_mem_cons.1 allDigits
      rw [List.foldl_cons, ih others, Nat.ofDigitChars_cons, digitValue, if_pos isDigit,
        Nat.mul_comm]

theorem allDigits_toDigits {number : Nat} :
    ∀ digit ∈ Nat.toDigits 10 number, digit.isDigit = true :=
  fun _ member => Nat.isDigit_of_mem_toDigits (by decide) (by decide) member

/-- The digits of a number start with zero only if there are no others. -/
theorem wholeDigits?_toDigits (number : Nat) :
    wholeDigits? (Nat.toDigits 10 number) = some (Nat.toDigits 10 number) := by
  rw [wholeDigits?, digits?_of_digits Nat.toDigits_ne_nil allDigits_toDigits]
  split
  · rename_i second rest zero
    rw [Option.some.injEq] at zero
    rcases Nat.eq_zero_or_pos number with rfl | positive
    · simp [Nat.toDigits_zero] at zero
    · exact absurd (by rw [zero]; rfl) (Number.head?_toDigits_ne_zero positive)
  · rfl

theorem not_mem_toDigits {letter : Char} (noDigit : letter.isDigit = false) (number : Nat) :
    letter ∉ Nat.toDigits 10 number := by
  intro member
  have isDigit := allDigits_toDigits letter member
  rw [noDigit] at isDigit
  contradiction

theorem toDigits_ne_cons {letter : Char} (noDigit : letter.isDigit = false) (number : Nat)
    (rest : List Char) : Nat.toDigits 10 number ≠ letter :: rest := fun same =>
  not_mem_toDigits noDigit number (same ▸ List.mem_cons_self)

theorem takeSign_toDigits (number : Nat) :
    takeSign (Nat.toDigits 10 number) = (false, Nat.toDigits 10 number) := by
  unfold takeSign
  split
  case h_1 isSigned => exact absurd isSigned (toDigits_ne_cons rfl _ _)
  case h_2 isSigned => exact absurd isSigned (toDigits_ne_cons rfl _ _)
  case h_3 => rfl

/-- A natural number that is not too large to be told apart is read back from its digits. -/
theorem integer?_toDigits {number : Nat} (small : number < 2 ^ 128) :
    integer? (Nat.toDigits 10 number) = some (.integer number) := by
  have denotes : (digitsValue 10 (Nat.toDigits 10 number) : Int) = number := by
    rw [digitsValue, digitsValue_of_digits allDigits_toDigits, Nat.ofDigitChars_ten_toDigits]
  have noPrefix : ∀ letter rest, letter.isDigit = false →
      Nat.toDigits 10 number ≠ '0' :: letter :: rest := fun letter rest noDigit same =>
    not_mem_toDigits noDigit number (same ▸ List.mem_cons_of_mem _ List.mem_cons_self)
  unfold integer?
  extract_lets unsigned value
  have isValue : value = some (number : Int) := by
    simp only [value]
    split
    case h_1 isPrefixed => exact absurd isPrefixed (noPrefix 'x' _ rfl)
    case h_2 isPrefixed => exact absurd isPrefixed (noPrefix 'o' _ rfl)
    case h_3 isPrefixed => exact absurd isPrefixed (noPrefix 'b' _ rfl)
    case h_4 =>
      rw [takeSign_toDigits]
      simp only [wholeDigits?_toDigits, Option.map_some, denotes]
      rfl
  rw [isValue]
  exact if_pos (by omega)

theorem word?_toDigits {number : Nat} (small : number < 2 ^ 128) :
    word? (Nat.toDigits 10 number) = some (.integer number) := by
  rw [word?, if_neg (toDigits_ne_cons rfl _ _), if_neg (toDigits_ne_cons rfl _ _),
    isTime_of_digits allDigits_toDigits, integer?_toDigits small]
  rfl

/-! ## Words -/

theorem isWordCharacter_of_isDigit {digit : Char} (isDigit : digit.isDigit = true) :
    isWordCharacter digit = true := by
  simp [isWordCharacter, Char.isAlphanum, isDigit]

/-- A word ends with its line. -/
theorem takeWord_append (isWord : ∀ character ∈ word, isWordCharacter character = true) :
    takeWord (word ++ '\n' :: rest) = (word, '\n' :: rest) := by
  have noWord : isWordCharacter '\n' = false := rfl
  have taken : (word ++ '\n' :: rest).takeWhile isWordCharacter = word := by
    rw [List.takeWhile_append_of_pos isWord, List.takeWhile_cons_of_neg (by simp [noWord]),
      List.append_nil]
  have left : (word ++ '\n' :: rest).dropWhile isWordCharacter = '\n' :: rest := by
    rw [List.dropWhile_append_of_pos isWord, List.dropWhile_cons_of_neg (by simp [noWord])]
  simp only [takeWord, taken, left]
  split
  · simp_all
  · rfl

/--
A text is read as a value up to the end of its line, however deep it is nested, and does not start
with a blank.
-/
structure Writes (text : List Char) (value : Value) : Prop where
  noBlank : ∀ rest, skipBlanks (text ++ rest) = text ++ rest
  isRead : ∀ fuel level rest,
    parseValue (fuel + 1) level (text ++ '\n' :: rest) = some (value, '\n' :: rest)

theorem writes_word (nonempty : word ≠ [])
    (isWord : ∀ character ∈ word, isWordCharacter character = true)
    (isValue : word? word = some value) : Writes word value := by
  obtain ⟨first, others, rfl⟩ := List.exists_cons_of_ne_nil nonempty
  have different : ∀ character, isWordCharacter character = false → first ≠ character := by
    rintro character noWord rfl
    rw [isWord first List.mem_cons_self] at noWord
    contradiction
  refine ⟨fun rest => ?_, fun fuel level rest => ?_⟩
  · have noBlank : ¬(first = ' ' ∨ first = '\t') := not_or.2 ⟨different _ rfl, different _ rfl⟩
    rw [skipBlanks, List.cons_append, List.dropWhile_cons_of_neg (by simpa using noBlank)]
  · rw [List.cons_append, parseValue]
    · rw [← List.cons_append, takeWord_append isWord]
      simp only [isValue, Option.map_some]
    · exact fun _ same => different _ rfl (List.cons.inj same).1
    · exact fun _ same => different _ rfl (List.cons.inj same).1
    · exact fun _ same => different _ rfl (List.cons.inj same).1
    · exact fun _ same => different _ rfl (List.cons.inj same).1

theorem writes_flag (flag : Bool) :
    Writes (if flag then "true" else "false").toList (.boolean flag) := by
  cases flag <;> exact writes_word (by decide) (List.all_eq_true.1 (by decide)) rfl

theorem writes_natural {number : Nat} (small : number < 2 ^ 128) :
    Writes (Nat.toDigits 10 number) (.integer number) :=
  writes_word Nat.toDigits_ne_nil
    (fun digit member => isWordCharacter_of_isDigit (allDigits_toDigits digit member))
    (word?_toDigits small)

/-! ## Strings -/

/-- A character that stands in double quotes as it is. -/
def IsShown (character : Char) : Prop :=
  isControl character = false ∧ character ∉ ['"', '\\', '\t', '\n']

instance (character : Char) : Decidable (IsShown character) :=
  inferInstanceAs (Decidable (_ ∧ _))

variable {character : Char}

theorem IsShown.isPlain (shown : IsShown character) : isPlain character = true := by
  obtain ⟨noControl, others⟩ := shown
  simp only [List.mem_cons, List.not_mem_nil, or_false, not_or] at others
  simp only [isControl, Bool.or_eq_false_iff, Bool.and_eq_false_iff, decide_eq_false_iff_not,
    ne_eq, Decidable.not_not] at noControl
  simp only [Toml.isPlain, Bool.or_eq_true, Bool.and_eq_true, decide_eq_true_eq, ne_eq]
  have printable : ¬character.toNat < 0x20 := by
    rcases noControl.1 with (low | tab) | break'
    · exact low
    · exact absurd tab others.2.2.1
    · exact absurd break' others.2.2.2
  exact .inr ⟨Nat.not_lt.1 printable, noControl.2⟩

theorem IsShown.ne_control {other : Char} (shown : IsShown character)
    (control : isControl other = true) : character ≠ other := by
  rintro rfl
  rw [shown.1] at control
  contradiction

theorem IsShown.ne_special {other : Char} (shown : IsShown character)
    (special : other ∈ ['"', '\\', '\t', '\n']) : character ≠ other := by
  rintro rfl
  exact shown.2 special

theorem escapedCharacter_of_isShown (shown : IsShown character) (allowsBreak : Bool) :
    escapedCharacter allowsBreak character = [character] := by
  rw [escapedCharacter, if_neg (shown.ne_control rfl), if_neg (shown.ne_special (by decide)),
    if_neg (shown.ne_special (by decide)), if_neg (shown.ne_control rfl),
    if_neg (shown.ne_control rfl), if_neg (shown.ne_special (by decide)), shown.1]
  rfl

/-- Without a double quote there is no run of them. -/
theorem longestRun_eq_zero (absent : character ∉ characters) :
    longestRun character characters = 0 := by
  unfold longestRun
  induction characters with
  | nil => rfl
  | cons first rest ih =>
      obtain ⟨different, others⟩ := not_or.1 (mt List.mem_cons.2 absent)
      simp only [List.foldl_cons, if_neg (Ne.symm different)]
      exact ih others

theorem style_of_isShown (shown : ∀ character ∈ characters, IsShown character) :
    QuoteStyle.of characters = .basic := by
  have absent : ∀ special ∈ ['"', '\\', '\t', '\n'], special ∉ characters :=
    fun special isSpecial member => (shown special member).2 isSpecial
  have noControl : characters.any isControl = false :=
    List.any_eq_false.2 fun character member => by simp [(shown character member).1]
  have noBreak : characters.contains '\n' = false := by simpa using absent '\n' (by decide)
  have noBackslash : characters.contains '\\' = false := by simpa using absent '\\' (by decide)
  have noQuotes : longestRun '"' characters = 0 := longestRun_eq_zero (absent '"' (by decide))
  simp only [QuoteStyle.of, noControl, noBreak, noBackslash, noQuotes]
  rfl

theorem escapedText_of_isShown (shown : ∀ character ∈ characters, IsShown character) :
    escapedText false 0 0 characters = characters := by
  induction characters with
  | nil => rfl
  | cons first rest ih =>
      obtain ⟨isShown, others⟩ := List.forall_mem_cons.1 shown
      rw [escapedText, if_neg (isShown.ne_special (by decide)), escapedCharacter_of_isShown isShown,
        ih others]
      rfl

theorem basicString_append (shown : ∀ character ∈ characters, IsShown character)
    (rest : List Char) : basicString (characters ++ '"' :: rest) = some (characters, rest) := by
  induction characters with
  | nil => rfl
  | cons first others ih =>
      obtain ⟨isShown, othersShown⟩ := List.forall_mem_cons.1 shown
      have noQuote : first ≠ '"' := isShown.ne_special (by decide)
      have noBackslash : first ≠ '\\' := isShown.ne_special (by decide)
      rw [List.cons_append, basicString, if_pos isShown.isPlain, ih othersShown]
      · rfl
      all_goals simp [noQuote, noBackslash]

/-- A text that needs no escapes is written between double quotes and read back. -/
theorem writes_string {text : String} (shown : ∀ character ∈ text.toList, IsShown character) :
    Writes (writeString text).toList (.string text) := by
  have written : (writeString text).toList = '"' :: text.toList ++ ['"'] := by
    simp only [writeString, style_of_isShown shown, escapedText_of_isShown shown,
      String.toList_ofList]
  rw [written]
  refine ⟨fun _ => rfl, fun fuel level rest => ?_⟩
  have isRead : quotation ('"' :: text.toList ++ ['"'] ++ '\n' :: rest) =
      some (text.toList, '\n' :: rest) := by
    have closed := basicString_append shown ('\n' :: rest)
    simp only [List.cons_append, List.append_assoc, List.nil_append]
    -- A second quote closes an empty text, since no third one follows.
    cases isText : text.toList with
    | nil => rfl
    | cons first others =>
        have noQuote : first ≠ '"' := (shown first (by simp [isText])).ne_special (by decide)
        rw [isText, List.cons_append] at closed
        rw [List.cons_append, quotation, closed]
        · simp [noQuote]
  simp only [List.cons_append, parseValue] at isRead ⊢
  rw [isRead, Option.map_some, String.ofList_toList]

end PlanRunner.Toml
