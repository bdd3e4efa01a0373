/-!
# White space

The characters with the property `White_Space`, and what is left of a text when they are taken
off its ends.
-/

namespace PlanRunner.Text

/-- The twenty-five characters with the property `White_Space`. -/
def isBlank (character : Char) : Bool :=
  let code := character.toNat
  (0x09 ≤ code && code ≤ 0x0D) || code == 0x20 || code == 0x85 || code == 0xA0 ||
    code == 0x1680 || (0x2000 ≤ code && code ≤ 0x200A) || code == 0x2028 || code == 0x2029 ||
    code == 0x202F || code == 0x205F || code == 0x3000

/-- What follows the leading white space. -/
def trimLeft (characters : List Char) : List Char :=
  characters.dropWhile isBlank

/-- The characters between the white space at the two ends. -/
def trimmed (characters : List Char) : List Char :=
  (trimLeft (trimLeft characters).reverse).reverse

/-- The text between the white space at its two ends. -/
def trim (text : String) : String :=
  String.ofList (trimmed text.toList)

/-- Whether a text has nothing but white space. -/
def isBlankText (text : String) : Bool :=
  text.toList.all isBlank

theorem trimLeft_eq_nil_iff (characters : List Char) :
    trimLeft characters = [] ↔ ∀ character ∈ characters, isBlank character = true := by
  induction characters with
  | nil => simp [trimLeft]
  | cons character rest ih =>
      simp only [trimLeft, List.dropWhile_cons, List.mem_cons, forall_eq_or_imp] at ih ⊢
      split <;> simp_all

/-- Nothing is left of a text by trimming exactly when it is all white space. -/
theorem trimmed_eq_nil_iff (characters : List Char) :
    trimmed characters = [] ↔ ∀ character ∈ characters, isBlank character = true := by
  simp only [trimmed, List.reverse_eq_nil_iff, trimLeft_eq_nil_iff, List.mem_reverse]
  constructor
  · intro remaining
    rw [← trimLeft_eq_nil_iff]
    apply Classical.byContradiction
    intro (nonempty : trimLeft characters ≠ [])
    have present := List.head_mem nonempty
    have blank := remaining _ present
    have := List.head_dropWhile_not (p := isBlank) nonempty
    simp_all [trimLeft]
  · intro blank character member
    exact blank character ((List.dropWhile_sublist isBlank).subset member)

end PlanRunner.Text
