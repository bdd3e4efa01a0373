import Mathlib.Data.List.TakeWhile
import PlanRunner.Template.Reference

/-!
# The grammar of references

A reference is written between two pairs of braces, as an identifier with segments after it, with
white space at both ends. Reading a reference accepts just what the grammar writes. Between its
pairs of braces a reference has no brace, so that references in a text never overlap. Whatever
stands before and after, a text splits at every place where the grammar is met, and nowhere else.
-/

namespace PlanRunner

variable {source other inside before after characters rest : List Char} {character : Char}
  {target second : Reference} {path : List String}

namespace Reference

/-! ## What is written -/

/-- A name is not empty, and only the characters of names occur in it. -/
def IsName (name : String) : Prop :=
  name ≠ "" ∧ ∀ character ∈ name.toList, isNameCharacter character = true

/-- A path as it is written, each segment after a dot. -/
def pathSource (path : List String) : List Char :=
  path.flatMap fun segment => '.' :: segment.toList

/-- What stands between the pairs of braces. -/
inductive WrittenInside : List Char → Reference → Prop where
  | intro {before after : List Char} {id : String} {path : List String}
      (blankBefore : ∀ character ∈ before, Text.isBlank character = true)
      (name : IsName id) (names : ∀ segment ∈ path, IsName segment)
      (blankAfter : ∀ character ∈ after, Text.isBlank character = true) :
      WrittenInside (before ++ (id.toList ++ (pathSource path ++ after))) ⟨id, path⟩

/-- The ways to write a reference. -/
def Written (source : List Char) (target : Reference) : Prop :=
  ∃ inside, WrittenInside inside target ∧
    source = '\x7b' :: '\x7b' :: (inside ++ ['\x7d', '\x7d'])

/-! ## Kinds of characters -/

theorem trimLeft_append (blank : ∀ character ∈ before, Text.isBlank character = true)
    (stops : ∀ character ∈ rest.head?, Text.isBlank character = false) :
    Text.trimLeft (before ++ rest) = rest := by
  rw [Text.trimLeft, List.dropWhile_append_of_pos blank]
  cases rest with
  | nil => rfl
  | cons first more => simp [stops first rfl]

theorem code_of_isNameCharacter (isName : isNameCharacter character = true) :
    ((((65 ≤ character.toNat ∧ character.toNat ≤ 90) ∨
      (97 ≤ character.toNat ∧ character.toNat ≤ 122)) ∨
        (48 ≤ character.toNat ∧ character.toNat ≤ 57)) ∨ character = '_') ∨ character = '-' := by
  have ranges : (((decide ('A'.val ≤ character.val ∧ character.val ≤ 'Z'.val) ||
      decide ('a'.val ≤ character.val) && decide (character.val ≤ 'z'.val)) ||
        decide ('0'.val ≤ character.val) && decide (character.val ≤ '9'.val)) ||
          character == '_' || character == '-') = true := isName
  simp only [Bool.or_eq_true, Bool.and_eq_true, decide_eq_true_eq, beq_iff_eq,
    UInt32.le_iff_toNat_le] at ranges
  exact ranges

/-- White space does not occur in names. -/
theorem not_isNameCharacter_of_isBlank (blank : Text.isBlank character = true) :
    isNameCharacter character = false := by
  rw [Bool.eq_false_iff]
  intro isName
  simp only [Text.isBlank, Bool.or_eq_true, Bool.and_eq_true, decide_eq_true_eq,
    beq_iff_eq] at blank
  rcases code_of_isNameCharacter isName with (((upper | lower) | digit) | rfl) | rfl
  · omega
  · omega
  · omega
  · contradiction
  · contradiction

/-- No white space comes before a name. -/
theorem IsName.not_blank_head {name : String} (isName : IsName name) (rest : List Char) :
    ∀ character ∈ (name.toList ++ rest).head?, Text.isBlank character = false := by
  intro character isFirst
  have filled : name.toList ≠ [] := by simpa using isName.1
  rw [List.head?_append, Option.or_of_isSome (by simpa using filled)] at isFirst
  rw [Bool.eq_false_iff]
  intro isBlank
  have inName := isName.2 character (List.mem_of_mem_head? isFirst)
  rw [not_isNameCharacter_of_isBlank isBlank] at inName
  contradiction

/-- What follows a name and its path goes on with neither of them. -/
def EndsName (characters : List Char) : Prop :=
  ∀ character ∈ characters.head?, isNameCharacter character = false ∧ character ≠ '.'

theorem endsName_of_blank (blank : ∀ character ∈ after, Text.isBlank character = true) :
    EndsName (after ++ '\x7d' :: rest) := by
  intro character isFirst
  cases after with
  | nil =>
      cases isFirst
      exact ⟨by decide, by decide⟩
  | cons first more =>
      cases isFirst
      have isBlank := blank character List.mem_cons_self
      refine ⟨not_isNameCharacter_of_isBlank isBlank, ?_⟩
      rintro rfl
      contradiction

/-! ## Reading what is written -/

/-- The characters of a name are read as far as the name goes. -/
theorem takeWhile_name {name : String} (isName : IsName name)
    (stops : ∀ character ∈ rest.head?, isNameCharacter character = false) :
    (name.toList ++ rest).takeWhile isNameCharacter = name.toList ∧
      (name.toList ++ rest).dropWhile isNameCharacter = rest := by
  rw [List.takeWhile_append_of_pos isName.2, List.dropWhile_append_of_pos isName.2]
  cases rest with
  | nil => simp
  | cons first more =>
      have stop := stops first rfl
      simp [stop]

/-- A name ends where its path begins. -/
theorem stops_pathSource (ends : EndsName rest) (path : List String) :
    ∀ character ∈ (pathSource path ++ rest).head?, isNameCharacter character = false := by
  cases path with
  | nil => exact fun character isFirst => (ends character isFirst).1
  | cons segment path =>
      rintro _ ⟨⟩
      decide

theorem readPath_of_endsName (ends : EndsName rest) : readPath rest = ([], rest) := by
  cases rest with
  | nil => simp [readPath]
  | cons first more =>
      have notDot := (ends first rfl).2
      rw [readPath]
      rintro rest' ⟨⟩
      contradiction

/-- The segments of a path are read back as they were written. -/
theorem readPath_pathSource (names : ∀ segment ∈ path, IsName segment) (ends : EndsName rest) :
    readPath (pathSource path ++ rest) = (path, rest) := by
  induction path with
  | nil => exact readPath_of_endsName ends
  | cons segment path ih =>
      obtain ⟨name, names⟩ := List.forall_mem_cons.1 names
      have source : pathSource (segment :: path) ++ rest =
          '.' :: (segment.toList ++ (pathSource path ++ rest)) := by
        simp [pathSource]
      obtain ⟨taken, left⟩ := takeWhile_name name (stops_pathSource ends path)
      have filled : segment.toList.isEmpty = false := by
        simpa using name.1
      rw [source, readPath, taken, left, ih names]
      simp [filled]

/-- A written reference is read at the start of any text. -/
theorem read?_append (written : Written source target) (rest : List Char) :
    read? (source ++ rest) = some (target, rest) := by
  obtain ⟨_, ⟨blankBefore, name, names, blankAfter⟩, rfl⟩ := written
  rename_i before after id path
  have spelled : '\x7b' :: '\x7b' ::
        (before ++ (id.toList ++ (pathSource path ++ after)) ++ ['\x7d', '\x7d']) ++ rest =
      '\x7b' :: '\x7b' ::
        (before ++ (id.toList ++ (pathSource path ++ (after ++ '\x7d' :: '\x7d' :: rest)))) := by
    simp
  have ends : EndsName (after ++ '\x7d' :: '\x7d' :: rest) := endsName_of_blank blankAfter
  obtain ⟨taken, left⟩ := takeWhile_name name (stops_pathSource ends path)
  have filled : id.toList.isEmpty = false := by
    simpa using name.1
  have opened : Text.trimLeft
        (before ++ (id.toList ++ (pathSource path ++ (after ++ '\x7d' :: '\x7d' :: rest)))) =
      id.toList ++ (pathSource path ++ (after ++ '\x7d' :: '\x7d' :: rest)) :=
    trimLeft_append blankBefore (name.not_blank_head _)
  have closed : Text.trimLeft (after ++ '\x7d' :: '\x7d' :: rest) = '\x7d' :: '\x7d' :: rest := by
    refine trimLeft_append blankAfter ?_
    rintro _ ⟨⟩
    decide
  rw [spelled, read?]
  simp [opened, taken, left, filled, readPath_pathSource names ends, closed]

/-! ## What is read has been written -/

theorem isName_takeWhile (filled : (characters.takeWhile isNameCharacter).isEmpty ≠ true) :
    IsName (String.ofList (characters.takeWhile isNameCharacter)) := by
  refine ⟨fun isEmpty => filled ?_, fun character member => ?_⟩
  · have nothing := congrArg String.toList isEmpty
    rw [String.toList_ofList] at nothing
    rw [nothing]
    rfl
  · rw [String.toList_ofList] at member
    exact List.mem_takeWhile_imp member

/-- The segments that are read from a text stand at its start. -/
theorem readPath_eq (characters : List Char) :
    characters = pathSource (readPath characters).1 ++ (readPath characters).2 ∧
      ∀ segment ∈ (readPath characters).1, IsName segment := by
  fun_induction readPath characters with
  | case1 rest name isEmpty => simp [pathSource]
  | case2 rest name filled path after read ih =>
      rw [read] at ih
      obtain ⟨spelled, names⟩ := ih
      refine ⟨?_, List.forall_mem_cons.2 ⟨isName_takeWhile filled, names⟩⟩
      have parts : rest = name ++ (pathSource path ++ after) := by
        rw [← spelled, List.takeWhile_append_dropWhile]
      simp [pathSource] at parts ⊢
      exact parts
  | case3 characters => simp [pathSource]

theorem exists_blank (characters : List Char) :
    ∃ before, (∀ character ∈ before, Text.isBlank character = true) ∧
      characters = before ++ Text.trimLeft characters :=
  ⟨characters.takeWhile Text.isBlank, fun _ member => List.mem_takeWhile_imp member,
    List.takeWhile_append_dropWhile.symm⟩

/-- What is read at the start of a text is a written reference. -/
theorem exists_of_read? (found : read? characters = some (target, rest)) :
    ∃ source, Written source target ∧ characters = source ++ rest := by
  unfold read? at found
  split at found
  · rename_i inside
    obtain ⟨before, blankBefore, inner⟩ := exists_blank inside
    simp only at found
    generalize Text.trimLeft inside = trimmed at found inner
    obtain ⟨spelled, names⟩ := readPath_eq (trimmed.dropWhile isNameCharacter)
    obtain ⟨after, blankAfter, closing⟩ :=
      exists_blank (readPath (trimmed.dropWhile isNameCharacter)).2
    split at found
    · contradiction
    · rename_i filled
      split at found
      · rename_i more ended
        cases found
        have text : trimmed = trimmed.takeWhile isNameCharacter ++
            (pathSource (readPath (trimmed.dropWhile isNameCharacter)).1 ++
              (after ++ '\x7d' :: '\x7d' :: rest)) := by
          rw [← ended, ← closing, ← spelled, List.takeWhile_append_dropWhile]
        refine ⟨_, ⟨_, .intro blankBefore (isName_takeWhile filled) names blankAfter, rfl⟩, ?_⟩
        rw [inner, String.toList_ofList]
        simpa using text
      · contradiction
  · contradiction

theorem Written.length_pos (written : Written source target) : 0 < source.length := by
  obtain ⟨inside, -, rfl⟩ := written
  exact Nat.succ_pos _

/-! ## Labels -/

/-- The identifier of a reference and the segments of its path are names. -/
def Named (target : Reference) : Prop :=
  IsName target.id ∧ ∀ segment ∈ target.path, IsName segment

theorem Written.named (written : Written source target) : target.Named := by
  obtain ⟨_, ⟨-, name, names, -⟩, -⟩ := written
  exact ⟨name, names⟩

/-- A label is the identifier with the path as it is written. -/
theorem toList_label (target : Reference) :
    target.label.toList = target.id.toList ++ pathSource target.path := by
  obtain ⟨id, path⟩ := target
  simp only [label]
  induction path generalizing id with
  | nil => simp [pathSource]
  | cons segment path ih =>
      rw [String.toList_intercalate, List.map_cons, List.map_cons, List.intercalate_cons_cons,
        ← List.map_cons, ← String.toList_intercalate, ih]
      simp [pathSource]

/-- A label tells what it is the label of. -/
theorem Named.eq_of_label (first : target.Named) (other : second.Named)
    (same : target.label = second.label) : target = second := by
  obtain ⟨id, path⟩ := target
  obtain ⟨otherId, otherPath⟩ := second
  have ends : EndsName [] := by nofun
  have texts : id.toList ++ (pathSource path ++ []) =
      otherId.toList ++ (pathSource otherPath ++ []) := by
    simpa only [toList_label, List.append_nil] using congrArg String.toList same
  obtain ⟨isId, isPath⟩ := takeWhile_name first.1 (stops_pathSource ends path)
  obtain ⟨isOtherId, isOtherPath⟩ := takeWhile_name other.1 (stops_pathSource ends otherPath)
  have sameId : id = otherId := by
    rw [← String.toList_inj, ← isId, ← isOtherId, texts]
  have samePath : (path, ([] : List Char)) = (otherPath, []) := by
    rw [← readPath_pathSource first.2 ends, ← readPath_pathSource other.2 ends, ← isPath,
      ← isOtherPath, texts]
  cases samePath
  rw [sameId]

/-! ## References do not overlap -/

/-- Between the pairs of braces there is something, and no opening brace. -/
theorem WrittenInside.closed (written : WrittenInside inside target) :
    inside ≠ [] ∧ '\x7b' ∉ inside ++ ['\x7d', '\x7d'] := by
  obtain ⟨blankBefore, name, names, blankAfter⟩ := written
  have blank : ∀ source : List Char, (∀ character ∈ source, Text.isBlank character = true) →
      '\x7b' ∉ source := by
    intro source isBlank member
    have := isBlank _ member
    contradiction
  have ofName : ∀ name, IsName name → '\x7b' ∉ name.toList := by
    intro name isName member
    have := isName.2 _ member
    contradiction
  refine ⟨fun isNil => ?_, ?_⟩
  · simp only [List.append_eq_nil_iff] at isNil
    exact name.1 (by simpa using isNil.2.1)
  · simp only [List.mem_append, pathSource, List.mem_flatMap, List.mem_cons]
    rintro ((isBefore | inId | ⟨segment, inPath, isDot | inSegment⟩ | isAfter) | isClosing)
    · exact blank _ blankBefore isBefore
    · exact ofName _ name inId
    · contradiction
    · exact ofName segment (names segment inPath) inSegment
    · exact blank _ blankAfter isAfter
    · simp at isClosing

/-- A reference that begins before another one ends before it begins. -/
theorem Written.exists_append (written : Written source target) (next : Written other second)
    (nonempty : before ≠ []) (same : source ++ rest = before ++ (other ++ after)) :
    ∃ between, before = source ++ between := by
  obtain ⟨inside, isInside, rfl⟩ := written
  obtain ⟨otherInside, -, rfl⟩ := next
  obtain ⟨filled, closed⟩ := isInside.closed
  rcases List.append_eq_append_iff.1 same with ⟨between, ends, -⟩ | ⟨shared, begins, follows⟩
  · exact ⟨between, ends⟩
  -- What they share would begin with two opening braces behind the first character.
  cases shared with
  | nil => exact ⟨[], by simpa using begins.symm⟩
  | cons brace shared =>
      obtain ⟨isBrace, onwards⟩ := List.cons.inj follows
      subst isBrace
      cases before with
      | nil => contradiction
      | cons first before =>
          have begins := (List.cons.inj begins).2
          cases before with
          | nil =>
              have isShared := (List.cons.inj begins).2
              subst isShared
              cases inside with
              | nil => contradiction
              | cons head inside =>
                  have isBrace := (List.cons.inj onwards).1
                  subst isBrace
                  simp at closed
          | cons more before =>
              have inClosing := (List.cons.inj begins).2
              simp [inClosing] at closed

end Reference

/-! ## Texts split at their references -/

namespace Piece

open Reference

theorem split_of_not_read? (nothing : read? (character :: rest) = none) :
    split (character :: rest) = .literal character :: split rest := by
  rw [split]
  simp only [nothing]

/-- A reference at the start of a text is its first piece. -/
theorem split_append (written : Written source target) (rest : List Char) :
    split (source ++ rest) = .reference source target :: split rest := by
  have found := read?_append written rest
  obtain ⟨inside, -, rfl⟩ := written
  rw [List.cons_append] at found
  have size : ('\x7b' :: (inside ++ ['\x7d', '\x7d']) ++ rest).length - rest.length =
      ('\x7b' :: (inside ++ ['\x7d', '\x7d'])).length := by
    rw [List.length_append, Nat.add_sub_cancel]
  rw [List.cons_append, split]
  simp only [found]
  rw [size, List.take_left, List.drop_left]

/-- A text is empty, or it starts with a reference or with a character that starts none. -/
@[elab_as_elim]
theorem split_induction {motive : List Char → Prop} (nil : motive [])
    (reference : ∀ source target rest, Written source target → motive rest →
      motive (source ++ rest))
    (literal : ∀ character rest, read? (character :: rest) = none → motive rest →
      motive (character :: rest))
    (characters : List Char) : motive characters := by
  induction length : characters.length using Nat.strong_induction_on generalizing characters with
  | _ length ih =>
      subst length
      cases characters with
      | nil => exact nil
      | cons first rest =>
          cases found : read? (first :: rest) with
          | none => exact literal first rest found (ih rest.length (Nat.lt_succ_self _) rest rfl)
          | some reading =>
              obtain ⟨source, written, same⟩ := exists_of_read? found
              rw [same] at ih ⊢
              refine reference source reading.1 reading.2 written (ih _ ?_ reading.2 rfl)
              obtain ⟨inside, -, rfl⟩ := written
              simp only [List.length_append, List.length_cons]
              omega

/-- A text splits at every reference in it, whatever stands before and after. -/
theorem split_around (written : Written source target) (before after : List Char) :
    split (before ++ (source ++ after)) =
      split before ++ .reference source target :: split after := by
  induction before using split_induction with
  | nil => simpa [split] using split_append written after
  | reference earlier first rest isEarlier ih =>
      rw [List.append_assoc, split_append isEarlier, split_append isEarlier, ih]
      rfl
  | literal character rest nothing ih =>
      have still : read? (character :: (rest ++ (source ++ after))) = none := by
        rw [Option.eq_none_iff_forall_ne_some]
        rintro ⟨first, later⟩ reads
        obtain ⟨earlier, isEarlier, same⟩ := exists_of_read? reads
        obtain ⟨between, parts⟩ := isEarlier.exists_append written
          (List.cons_ne_nil character rest) same.symm
        rw [parts, read?_append isEarlier] at nothing
        contradiction
      rw [split_of_not_read? nothing, List.cons_append, split_of_not_read? still, ih]
      rfl

/-- The pieces of a text are all of it. -/
theorem flatMap_source_split (characters : List Char) :
    (split characters).flatMap Piece.source = characters := by
  induction characters using split_induction with
  | nil => simp [split]
  | reference source target rest written ih =>
      rw [split_append written, List.flatMap_cons, ih]
      rfl
  | literal character rest nothing ih =>
      rw [split_of_not_read? nothing, List.flatMap_cons, ih]
      rfl

/-- Each reference among the pieces of a text is a written one. -/
theorem written_of_mem_split (member : .reference source target ∈ split characters) :
    Written source target := by
  induction characters using split_induction with
  | nil => simp [split] at member
  | reference first second rest written ih =>
      rw [split_append written] at member
      rcases List.mem_cons.1 member with isFirst | later
      · cases isFirst
        exact written
      · exact ih later
  | literal character rest nothing ih =>
      rw [split_of_not_read? nothing] at member
      rcases List.mem_cons.1 member with isFirst | later
      · contradiction
      · exact ih later

/-- Each reference among the pieces of a text stands somewhere in it. -/
theorem exists_append_of_mem_split (member : .reference source target ∈ split characters) :
    ∃ before after, characters = before ++ (source ++ after) := by
  obtain ⟨earlier, later, pieces⟩ := List.append_of_mem member
  refine ⟨earlier.flatMap Piece.source, later.flatMap Piece.source, ?_⟩
  rw [← flatMap_source_split characters, pieces, List.flatMap_append, List.flatMap_cons]
  rfl

end Piece

end PlanRunner
