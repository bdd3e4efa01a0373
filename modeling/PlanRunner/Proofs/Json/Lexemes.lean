import Mathlib.Data.List.TakeWhile
import PlanRunner.Json.Lexeme
import PlanRunner.Json.Printer

/-!
# Words that are read back

A written string is scanned back to its closing quote, whatever follows. A numeral is scanned back
to its end if something follows that ends it: the end of the text, a comma, or a closing bracket.
Integers are always read back as they are; that a double is read back is said of it where it
matters.
-/

namespace PlanRunner

namespace Lexeme

variable {rest : List Char} {ending : Ending}

/-! ## Strings -/

/-- A code unit below those of the surrogate pairs is a character of its own. -/
theorem assemble_codeUnit {code : Nat} (plain : code < 0xD800) (parts : List Piece) :
    assemble ending (.codeUnit code :: parts) =
      (assemble ending parts).map (Char.ofNat code :: ·) := by
  have notHigh : ¬(0xD800 ≤ code ∧ code < 0xDC00) := by omega
  have notLow : ¬(0xDC00 ≤ code ∧ code < 0xE000) := by omega
  cases parts with
  | nil => simp only [assemble, if_neg notHigh, if_neg notLow]
  | cons part parts =>
      cases part with
      | character character => simp only [assemble, if_neg notHigh, if_neg notLow]
      | codeUnit low => simp only [assemble, if_neg notHigh, if_neg notLow]

/-- The four digits of a control character denote its code. -/
theorem codeUnit?_hexDigit {code : Nat} (control : code < 0x20) :
    codeUnit? '0' '0' (Json.hexDigit (code / 16)) (Json.hexDigit (code % 16)) = some code := by
  revert code
  decide

/-- A character as it is written is scanned back as one part of a string. -/
theorem pieces_escaped (character : Char) (text : List Char) :
    ∃ part, pieces (Json.escapedCharacter character ++ text) =
        (part :: (pieces text).1, (pieces text).2) ∧
      ∀ ending parts, assemble ending (part :: parts) =
        (assemble ending parts).map (character :: ·) := by
  unfold Json.escapedCharacter
  split
  case h_1 => exact ⟨.character '"', rfl, fun _ _ => by simp only [assemble]⟩
  case h_2 => exact ⟨.character '\\', rfl, fun _ _ => by simp only [assemble]⟩
  case h_3 => exact ⟨.character '\x08', rfl, fun _ _ => by simp only [assemble]⟩
  case h_4 => exact ⟨.character '\x0c', rfl, fun _ _ => by simp only [assemble]⟩
  case h_5 => exact ⟨.character '\n', rfl, fun _ _ => by simp only [assemble]⟩
  case h_6 => exact ⟨.character '\r', rfl, fun _ _ => by simp only [assemble]⟩
  case h_7 => exact ⟨.character '\t', rfl, fun _ _ => by simp only [assemble]⟩
  case h_8 notQuote notBackslash _ _ _ _ _ =>
    split
    · rename_i control
      refine ⟨.codeUnit character.toNat, ?_, fun ending parts => ?_⟩
      · simp only [List.cons_append, List.nil_append, pieces, codeUnit?_hexDigit control]
      · rw [assemble_codeUnit (by omega), Char.ofNat_toNat]
    · rename_i printable
      refine ⟨.character character, ?_, fun _ _ => by simp only [assemble]⟩
      rw [List.singleton_append, pieces]
      · rw [if_neg printable]
      all_goals simp_all

/-- A written string is scanned back to its closing quote. -/
theorem string_stringText (text : String) (rest : List Char) :
    string (text.toList.flatMap Json.escapedCharacter ++ '"' :: rest) = ⟨.ok text, .ok rest⟩ := by
  have scanned : ∀ characters : List Char, ∃ parts,
      pieces (characters.flatMap Json.escapedCharacter ++ '"' :: rest) = (parts, .closed rest) ∧
        assemble (.closed rest) parts = .ok characters := by
    intro characters
    induction characters with
    | nil => exact ⟨[], by simp [pieces], rfl⟩
    | cons character characters ih =>
        obtain ⟨parts, scan, assembled⟩ := ih
        obtain ⟨part, first, extended⟩ := pieces_escaped character
          (characters.flatMap Json.escapedCharacter ++ '"' :: rest)
        refine ⟨part :: parts, ?_, ?_⟩
        · rw [List.flatMap_cons, List.append_assoc, first, scan]
        · rw [extended, assembled]
          rfl
  obtain ⟨parts, scan, assembled⟩ := scanned text.toList
  simp only [string, scan, assembled, Except.map, String.ofList_toList]

/-! ## Numerals -/

/-- What ends a numeral: the end of the text, a comma, or a closing bracket. -/
def Delimited (rest : List Char) : Prop :=
  ∀ character ∈ rest.head?, character = ',' ∨ character = ']' ∨ character = '\x7d'

theorem delimited_nil : Delimited [] := by simp [Delimited]

theorem delimited_cons {character : Char}
    (closes : character = ',' ∨ character = ']' ∨ character = '\x7d') (rest : List Char) :
    Delimited (character :: rest) := by simpa [Delimited] using closes

/-- What ends a numeral is not taken for one of its digits. -/
theorem digits_append (delimited : Delimited rest) (characters : List Char) :
    digits (characters ++ rest) = ((digits characters).1, (digits characters).2 ++ rest) := by
  have stops : rest.takeWhile Char.isDigit = [] ∧ rest.dropWhile Char.isDigit = rest := by
    cases rest with
    | nil => simp
    | cons character rest =>
        have closes := delimited character (by simp)
        have noDigit : character.isDigit = false := by
          rcases closes with rfl | rfl | rfl <;> rfl
        simp [noDigit]
  unfold digits
  induction characters with
  | nil => simp [stops]
  | cons character characters ih =>
      simp only [List.cons_append, List.takeWhile_cons, List.dropWhile_cons]
      cases isDigit : character.isDigit with
      | false => simp
      | true => simpa using ih

section Append

variable {number : Number} {characters : List Char} {negative : Bool} {whole : List Char}
  {fraction : Option (List Char)}

theorem finish_append {numeral : Numeral}
    (scanned : finish numeral characters = ⟨.ok number, .ok []⟩) :
    finish numeral (characters ++ rest) = ⟨.ok number, .ok rest⟩ := by
  obtain ⟨value, after⟩ := Scan.mk.inj scanned
  obtain rfl : characters = [] := by simpa using after
  simp only [finish, value, List.nil_append]

/-- Digits that something follows which is scanned to the end of the text. -/
theorem digits_then_append (delimited : Delimited rest)
    {next : List Char → List Char → Scan Number}
    (reaches : ∀ found left, next found left = ⟨.ok number, .ok []⟩ →
      next found (left ++ rest) = ⟨.ok number, .ok rest⟩)
    (scanned : (match digits characters with
      | ([], left) => digitMissing left
      | (found, left) => next found left) = ⟨.ok number, .ok []⟩) :
    (match digits (characters ++ rest) with
      | ([], left) => digitMissing left
      | (found, left) => next found left) = ⟨.ok number, .ok rest⟩ := by
  rw [digits_append delimited]
  rcases same : digits characters with ⟨found, left⟩
  rw [same] at scanned
  cases found with
  | nil => simp [digitMissing] at scanned
  | cons digit found => exact reaches _ left scanned

/-- The sign of an exponent, and what follows it. -/
def exponentSign : List Char → Bool × List Char
  | '-' :: rest => (true, rest)
  | '+' :: rest => (false, rest)
  | rest => (false, rest)

theorem exponentSign_append (delimited : Delimited rest) (characters : List Char) :
    exponentSign (characters ++ rest) =
      ((exponentSign characters).1, (exponentSign characters).2 ++ rest) := by
  cases characters with
  | nil =>
      unfold exponentSign
      split
      · simpa using delimited '-' (by simp_all)
      · simpa using delimited '+' (by simp_all)
      · simp_all
  | cons sign tail =>
      simp only [exponentSign, List.cons_append]
      split <;> simp_all

theorem exponentPart_exponent {letter : Char} (isExponent : letter = 'e' ∨ letter = 'E')
    (tail : List Char) :
    exponentPart negative whole fraction (letter :: tail) =
      match digits (exponentSign tail).2 with
      | ([], left) => digitMissing left
      | (power, left) =>
          finish ⟨negative, whole, fraction, some ((exponentSign tail).1, power)⟩ left := by
  rcases isExponent with rfl | rfl <;> rfl

theorem exponentPart_of_ne {tail : List Char}
    (noExponent : ∀ character ∈ tail.head?, character ≠ 'e' ∧ character ≠ 'E') :
    exponentPart negative whole fraction tail = finish ⟨negative, whole, fraction, none⟩ tail := by
  unfold exponentPart
  split
  · simp at noExponent
  · simp at noExponent
  · rfl

theorem exponentPart_append (delimited : Delimited rest)
    (scanned : exponentPart negative whole fraction characters = ⟨.ok number, .ok []⟩) :
    exponentPart negative whole fraction (characters ++ rest) = ⟨.ok number, .ok rest⟩ := by
  by_cases noExponent : ∀ character ∈ characters.head?, character ≠ 'e' ∧ character ≠ 'E'
  · rw [exponentPart_of_ne noExponent] at scanned
    rw [exponentPart_of_ne, finish_append scanned]
    cases characters with
    | nil =>
        intro character member
        rcases delimited character member with rfl | rfl | rfl <;> decide
    | cons letter tail => exact noExponent
  · cases characters with
    | nil => simp at noExponent
    | cons letter tail =>
        have isExponent : letter = 'e' ∨ letter = 'E' := by
          simpa [or_iff_not_imp_left] using noExponent
        rw [exponentPart_exponent isExponent] at scanned
        rw [List.cons_append, exponentPart_exponent isExponent, exponentSign_append delimited]
        exact digits_then_append delimited (fun _ _ => finish_append) scanned

theorem fractionPart_append (delimited : Delimited rest)
    (scanned : fractionPart negative whole characters = ⟨.ok number, .ok []⟩) :
    fractionPart negative whole (characters ++ rest) = ⟨.ok number, .ok rest⟩ := by
  have noPoint : ∀ {tail : List Char}, (∀ character ∈ tail.head?, character ≠ '.') →
      fractionPart negative whole tail = exponentPart negative whole none tail := by
    intro tail other
    unfold fractionPart
    split
    · simp at other
    · rfl
  by_cases other : ∀ character ∈ characters.head?, character ≠ '.'
  · rw [noPoint other] at scanned
    rw [noPoint, exponentPart_append delimited scanned]
    cases characters with
    | nil =>
        intro character member
        rcases delimited character member with rfl | rfl | rfl <;> decide
    | cons letter tail => exact other
  · cases characters with
    | nil => simp at other
    | cons point tail =>
        obtain rfl : point = '.' := by simpa using other
        exact digits_then_append delimited (fun _ _ => exponentPart_append delimited) scanned

/-- The digits before the point, and what follows them; only a lone zero starts with a zero. -/
def wholeThen (negative : Bool) (whole left : List Char) : Scan Number :=
  match whole with
  | '0' :: _ :: _ => .broken .malformed
  | whole => fractionPart negative whole left

theorem unsigned_eq (negative : Bool) (characters : List Char) :
    unsigned negative characters =
      match digits characters with
      | ([], left) => digitMissing left
      | (whole, left) => wholeThen negative whole left := by
  unfold unsigned wholeThen
  split <;> simp_all

theorem unsigned_append (delimited : Delimited rest)
    (scanned : unsigned negative characters = ⟨.ok number, .ok []⟩) :
    unsigned negative (characters ++ rest) = ⟨.ok number, .ok rest⟩ := by
  rw [unsigned_eq] at scanned ⊢
  refine digits_then_append delimited (fun whole left later => ?_) scanned
  unfold wholeThen at later ⊢
  split at later
  · simp [Scan.broken] at later
  · exact fractionPart_append delimited later

theorem number_of_ne {sign : Char} (noSign : sign ≠ '-') (tail : List Char) :
    Lexeme.number (sign :: tail) = unsigned false (sign :: tail) := by
  unfold Lexeme.number
  split
  · rename_i same
    exact absurd (List.cons.inj same).1 noSign
  · rfl

/-- A numeral is scanned to its end if something follows that ends it. -/
theorem number_append (delimited : Delimited rest)
    (scanned : Lexeme.number characters = ⟨.ok number, .ok []⟩) :
    Lexeme.number (characters ++ rest) = ⟨.ok number, .ok rest⟩ := by
  cases characters with
  | nil => simp [Lexeme.number, unsigned, digits, digitMissing] at scanned
  | cons sign tail =>
      by_cases minus : sign = '-'
      · subst minus
        exact unsigned_append delimited scanned
      · rw [number_of_ne minus] at scanned
        rw [List.cons_append, number_of_ne minus, ← List.cons_append]
        exact unsigned_append delimited scanned

/-- A numeral starts with a minus or with a digit. -/
theorem exists_of_number (scanned : Lexeme.number characters = ⟨.ok number, .ok []⟩) :
    ∃ first tail, characters = first :: tail ∧ (first = '-' ∨ first.isDigit = true) := by
  cases characters with
  | nil => simp [Lexeme.number, unsigned, digits, digitMissing] at scanned
  | cons first tail =>
      refine ⟨first, tail, rfl, ?_⟩
      by_contra neither
      rw [not_or] at neither
      rw [number_of_ne neither.1] at scanned
      simp [unsigned, digits, neither.2, digitMissing] at scanned

end Append

end Lexeme

namespace Number

/-- The text of a number is read back as the same number. -/
def ReadsBack (number : Number) : Prop :=
  Lexeme.number number.render.toList = ⟨.ok number, .ok []⟩

theorem digitsValue_toDigits (value : Nat) :
    Numeral.digitsValue (Nat.toDigits 10 value) = value := by
  have same := Nat.ofDigitChars_ten_toDigits (n := value)
  unfold Nat.ofDigitChars at same
  simpa only [Numeral.digitsValue, Numeral.digitValue, Nat.mul_comm 10] using same

/-- No number but zero is written with a zero in front. -/
theorem head?_toDigits_ne_zero {value : Nat} (positive : 0 < value) :
    (Nat.toDigits 10 value).head? ≠ some '0' := by
  induction value using Nat.strong_induction_on with
  | _ value ih =>
      by_cases small : value < 10
      · rw [Nat.toDigits_of_lt_base small]
        simpa using positive.ne'
      · have leading := ih (value / 10) (by omega) (by omega)
        rw [Nat.toDigits_of_base_le (by decide) (by omega)]
        cases digits : Nat.toDigits 10 (value / 10) with
        | nil => exact absurd digits Nat.toDigits_ne_nil
        | cons first rest => simpa [digits] using leading

/-- The digits of a number are scanned to their end. -/
theorem unsigned_toDigits (negative : Bool) (value : Nat) :
    Lexeme.unsigned negative (Nat.toDigits 10 value) =
      Lexeme.finish ⟨negative, Nat.toDigits 10 value, none, none⟩ [] := by
  have allDigits : ∀ digit ∈ Nat.toDigits 10 value, digit.isDigit = true :=
    fun _ member => Nat.isDigit_of_mem_toDigits (by decide) (by decide) member
  have split : Lexeme.digits (Nat.toDigits 10 value) = (Nat.toDigits 10 value, []) := by
    have taken : (Nat.toDigits 10 value ++ []).takeWhile Char.isDigit =
        Nat.toDigits 10 value ++ [] :=
      List.takeWhile_append_of_pos allDigits
    have dropped : (Nat.toDigits 10 value ++ []).dropWhile Char.isDigit = [] :=
      List.dropWhile_append_of_pos allDigits
    rw [List.append_nil] at taken dropped
    rw [Lexeme.digits, taken, dropped]
  rw [Lexeme.unsigned_eq, split]
  rcases digits : Nat.toDigits 10 value with - | ⟨first, rest⟩
  · exact absurd digits Nat.toDigits_ne_nil
  · change Lexeme.wholeThen negative (first :: rest) [] = _
    unfold Lexeme.wholeThen
    split
    · rename_i same
      obtain ⟨rfl, rfl⟩ := List.cons.inj same
      have isZero : value = 0 := by
        by_contra positive
        exact head?_toDigits_ne_zero (Nat.pos_of_ne_zero positive) (by rw [digits]; rfl)
      rw [isZero] at digits
      simp [Nat.toDigits_zero] at digits
    · rfl

/-- Every integer is read back. -/
theorem readsBack_integer (value : Int)
    (bounds : -0x8000000000000000 ≤ value ∧ value < 0x10000000000000000) :
    ReadsBack (.integer value bounds) := by
  cases value with
  | ofNat value =>
      have text : (toString (Int.ofNat value)).toList = Nat.toDigits 10 value := Nat.toList_repr
      have small : value < 0x10000000000000000 := by
        have below := bounds.2
        simp only [Int.ofNat_eq_natCast] at below
        omega
      have denotes : Numeral.toNumber? ⟨false, Nat.toDigits 10 value, none, none⟩ =
          some (.integer value bounds) := by
        simp only [Numeral.toNumber?, Numeral.toInteger?, Bool.false_eq_true, if_false, ofNat,
          digitsValue_toDigits, dif_pos small]
      have unsigned : Lexeme.number (Nat.toDigits 10 value) =
          Lexeme.unsigned false (Nat.toDigits 10 value) := by
        cases digits : Nat.toDigits 10 value with
        | nil => exact absurd digits Nat.toDigits_ne_nil
        | cons first rest =>
            refine Lexeme.number_of_ne ?_ rest
            rintro rfl
            have member : '-' ∈ Nat.toDigits 10 value := by simp [digits]
            have isDigit := Nat.isDigit_of_mem_toDigits (by decide) (by decide) member
            contradiction
      unfold ReadsBack render
      simp only [text]
      rw [unsigned, unsigned_toDigits, Lexeme.finish, denotes]
      rfl
  | negSucc value =>
      have text : (toString (Int.negSucc value)).toList = '-' :: Nat.toDigits 10 (value + 1) := by
        change ("-" ++ Nat.repr (value + 1)).toList = _
        rw [String.toList_append, Nat.toList_repr]
        rfl
      have denotes : Numeral.toNumber? ⟨true, Nat.toDigits 10 (value + 1), none, none⟩ =
          some (.integer (.negSucc value) bounds) := by
        have small : value + 1 ≤ 0x8000000000000000 := by omega
        simp [Numeral.toNumber?, Numeral.toInteger?, digitsValue_toDigits, small, Int.negSucc_eq]
      unfold ReadsBack render
      simp only [text]
      change Lexeme.unsigned true (Nat.toDigits 10 (value + 1)) = _
      rw [unsigned_toDigits, Lexeme.finish, denotes]

end Number

end PlanRunner
