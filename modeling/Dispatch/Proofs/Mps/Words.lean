import Dispatch.Mps.Text
import Mathlib.Data.List.Basic
import Std.Data.String.ToNat

namespace Dispatch.Mps

/-! The lines of a text and the words of a line. A line that is put together from words, with
blanks before and between them, gives them back. -/

/-- The words of a line stand between blanks. -/
def words (line : List Char) : List String :=
  ((line.splitOnP Char.isWhitespace).filter fun word => !word.isEmpty).map String.ofList

def textLines (text : String) : List (List Char) :=
  text.toList.splitOn '\n'

/-- Nothing in the text is a blank. -/
def IsSolid (text : String) : Prop :=
  ∀ letter ∈ text.toList, letter.isWhitespace = false

-- Only the letters that are there are looked at, not all letters there are.
instance (text : String) : Decidable (IsSolid text) :=
  decidable_of_iff ((text.toList.all fun letter => !letter.isWhitespace) = true)
    (by simp [IsSolid])

/-- Something without a blank in it. -/
structure IsWord (word : String) : Prop where
  nonempty : word.toList ≠ []
  solid : IsSolid word

instance (word : String) : Decidable (IsWord word) :=
  decidable_of_iff (word.toList ≠ [] ∧ IsSolid word)
    ⟨fun ⟨nonempty, solid⟩ => ⟨nonempty, solid⟩, fun ⟨nonempty, solid⟩ => ⟨nonempty, solid⟩⟩

theorem words_cons_of_isWhitespace {blank : Char} (white : blank.isWhitespace = true)
    (line : List Char) : words (blank :: line) = words line := by
  have split : (blank :: line).splitOnP Char.isWhitespace =
      [] :: line.splitOnP Char.isWhitespace :=
    List.splitOnP_append_cons_of_forall_mem (List.forall_mem_nil _) blank white line
  rw [words, split]
  rfl

theorem IsWord.words_append {word : String} (isWord : IsWord word) {blank : Char}
    (white : blank.isWhitespace = true) (line : List Char) :
    words (word.toList ++ blank :: line) = word :: words line := by
  rw [words, List.splitOnP_append_cons_of_forall_mem isWord.solid blank white,
    List.filter_cons_of_pos (by simpa using isWord.nonempty), List.map_cons,
    String.ofList_toList]
  rfl

theorem IsWord.words_eq {word : String} (isWord : IsWord word) : words word.toList = [word] := by
  rw [words, List.splitOnP_eq_singleton isWord.solid,
    List.filter_cons_of_pos (by simpa using isWord.nonempty)]
  simp

/-- Words in a row, a blank between any two. -/
def joined (fields : List String) : List Char :=
  [' '].intercalate (fields.map String.toList)

theorem joined_cons_cons (field next : String) (rest : List String) :
    joined (field :: next :: rest) = field.toList ++ ' ' :: joined (next :: rest) := by
  simp [joined, List.intercalate]

theorem words_joined {fields : List String} (solid : ∀ field ∈ fields, IsWord field) :
    words (joined fields) = fields := by
  induction fields with
  | nil => rfl
  | cons field rest induction =>
      have isWord := solid field List.mem_cons_self
      have others := induction fun other member => solid other (List.mem_cons_of_mem _ member)
      cases rest with
      | nil => simpa [joined] using isWord.words_eq
      | cons next rest => rw [joined_cons_cons, isWord.words_append rfl, others]

theorem words_indented {fields : List String} (solid : ∀ field ∈ fields, IsWord field)
    (indent : Nat) : words (List.replicate indent ' ' ++ joined fields) = fields := by
  induction indent with
  | zero => exact words_joined solid
  | succ indent induction =>
      rw [List.replicate_succ, List.cons_append, words_cons_of_isWhitespace rfl, induction]

theorem IsWord.newline_not_mem {word : String} (isWord : IsWord word) :
    '\n' ∉ word.toList := by
  intro newline
  cases isWord.solid _ newline

theorem newline_not_mem_joined {fields : List String}
    (solid : ∀ field ∈ fields, IsWord field) : '\n' ∉ joined fields := by
  induction fields with
  | nil => exact List.not_mem_nil
  | cons field rest induction =>
      have first := (solid field List.mem_cons_self).newline_not_mem
      have others := induction fun other member => solid other (List.mem_cons_of_mem _ member)
      cases rest with
      | nil => simpa [joined] using first
      | cons next rest =>
          rw [joined_cons_cons, List.mem_append, List.mem_cons]
          rintro (own | blank | later)
          · exact first own
          · cases blank
          · exact others later

theorem newline_not_mem_indented {fields : List String}
    (solid : ∀ field ∈ fields, IsWord field) (indent : Nat) :
    '\n' ∉ List.replicate indent ' ' ++ joined fields := by
  rw [List.mem_append, List.mem_replicate]
  rintro (⟨-, blank⟩ | inside)
  · cases blank
  · exact newline_not_mem_joined solid inside

theorem textLines_join {lines : List String} (single : ∀ line ∈ lines, '\n' ∉ line.toList) :
    textLines (String.join (lines.map fun line => line ++ "\n")) =
      lines.map String.toList ++ [[]] := by
  rw [textLines, String.toList_join]
  induction lines with
  | nil => rfl
  | cons line rest induction =>
      have first : ∀ letters : List Char,
          (line ++ "\n").toList ++ letters = line.toList ++ '\n' :: letters := by simp
      rw [List.map_cons, List.flatMap_cons, first,
        List.splitOn_append_cons_self_of_not_mem (single line List.mem_cons_self),
        induction fun other member => single other (List.mem_cons_of_mem _ member)]
      rfl

theorem isWhitespace_eq_false_of_isDigit {letter : Char} (digit : letter.isDigit = true) :
    letter.isWhitespace = false := by
  simp only [Char.isDigit, Bool.and_eq_true, decide_eq_true_eq] at digit
  simp only [Char.isWhitespace, Bool.or_eq_false_iff, decide_eq_false_iff_not]
  refine ⟨⟨⟨?_, ?_⟩, ?_⟩, ?_⟩ <;> rintro rfl <;> exact absurd digit (by decide)

theorem isDigit_of_mem_toString {number : Nat} {letter : Char}
    (member : letter ∈ (toString number).toList) : letter.isDigit = true := by
  change letter ∈ number.repr.toList at member
  rw [Nat.toList_repr] at member
  exact Nat.isDigit_of_mem_toDigits (by decide) (by decide) member

theorem isWord_columnName (place : Nat) : IsWord (columnName place) := by
  constructor
  · simp [columnName]
  · intro letter member
    rw [columnName, String.toList_append, List.mem_append] at member
    cases member with
    | inl first =>
        have same : letter = 'x' := by simpa using first
        rw [same]
        rfl
    | inr digit => exact isWhitespace_eq_false_of_isDigit (isDigit_of_mem_toString digit)

theorem columnName_inj {first second : Nat} (same : columnName first = columnName second) :
    first = second := by
  have letters := congrArg String.toList same
  simp only [columnName, String.toList_append] at letters
  exact Nat.repr_inj.mp (String.toList_inj.mp (List.append_cancel_left letters))

theorem isWord_rowName {family : String}
    (solid : IsSolid family) (number : Nat) :
    IsWord (rowName family number) := by
  constructor
  · simp [rowName]
  · intro letter member
    simp only [rowName, String.toList_append, List.mem_append] at member
    rcases member with (own | underscore) | digit
    · exact solid letter own
    · have same : letter = '_' := by simpa using underscore
      rw [same]
      rfl
    · exact isWhitespace_eq_false_of_isDigit (isDigit_of_mem_toString digit)

theorem toList_rowName (family : String) (number : Nat) :
    (rowName family number).toList =
      family.toList ++ '_' :: (toString number).toList := by
  simp [rowName]

/-- The digits after the last underscore tell rows apart. -/
theorem rowName_inj {first second : String} {earlier later : Nat}
    (same : rowName first earlier = rowName second later) : earlier = later := by
  have digits (number : Nat) : ∀ letter ∈ (toString number).toList.reverse,
      (letter != '_') = true := by
    intro letter member
    have digit := isDigit_of_mem_toString (List.mem_reverse.mp member)
    rw [bne_iff_ne]
    rintro rfl
    cases digit
  have tail (family : String) (number : Nat) :
      ((rowName family number).toList.reverse.takeWhile (· != '_')) =
        (toString number).toList.reverse := by
    rw [toList_rowName, List.reverse_append, List.reverse_cons, List.append_assoc,
      List.singleton_append, List.takeWhile_append_of_pos (digits number)]
    simp
  have ends := tail first earlier
  rw [same, tail second later] at ends
  exact (Nat.repr_inj.mp (String.toList_inj.mp (List.reverse_injective ends))).symm

theorem rowName_ne_objectiveRow (family : String) (number : Nat) :
    rowName family number ≠ objectiveRow := by
  intro same
  have underscore : '_' ∈ (rowName family number).toList := by
    rw [toList_rowName]
    simp
  rw [same] at underscore
  exact absurd underscore (by decide)

end Dispatch.Mps
