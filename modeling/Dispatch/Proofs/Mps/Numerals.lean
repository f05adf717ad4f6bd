import Dispatch.Proofs.Mps.Reading
import Dispatch.Proofs.Number.Exact

namespace Dispatch

open Mps

/-! Numerals of exact numbers: whole numbers plainly, others as a fraction. -/

namespace Exact

def readNatural? (letters : List Char) : Option Nat :=
  if letters ≠ [] ∧ letters.all Char.isDigit then some (Nat.ofDigitChars 10 letters 0) else none

def readInteger? : List Char → Option Int
  | '-' :: letters => (readNatural? letters).map fun size => -Int.ofNat size
  | letters => (readNatural? letters).map Int.ofNat

def integerText (number : Int) : String :=
  if number < 0 then "-" ++ toString number.natAbs else toString number.natAbs

def write : Exact → String
  | .number value =>
      if value.den = 1 then integerText value.num
      else integerText value.num ++ "/" ++ toString value.den
  | .infinite false => "inf"
  | .infinite true => "-inf"
  | .undefined => "NaN"

def read? (text : String) : Option Exact :=
  if text = "inf" then some (.infinite false)
  else if text = "-inf" then some (.infinite true)
  else if text = "NaN" then some .undefined
  else
    match text.toList.splitOn '/' with
    | [whole] => (readInteger? whole).map fun (number : Int) => .number number
    | [numerator, denominator] => do
        let numerator ← readInteger? numerator
        let denominator ← readNatural? denominator
        some (.number (mkRat numerator denominator))
    | _ => none

theorem readNatural?_toString (number : Nat) :
    readNatural? (toString number).toList = some number := by
  have digits : ∀ letter ∈ (toString number).toList, letter.isDigit = true :=
    fun _ => isDigit_of_mem_toString
  have letters : (toString number).toList = Nat.toDigits 10 number := Nat.toList_repr
  rw [readNatural?, if_pos ⟨by simp, List.all_eq_true.mpr digits⟩, letters,
    Nat.ofDigitChars_toDigits (by decide) (by decide)]

theorem mem_integerText {number : Int} {letter : Char}
    (member : letter ∈ (integerText number).toList) : letter = '-' ∨ letter.isDigit = true := by
  unfold integerText at member
  split at member
  · rw [String.toList_append, List.mem_append] at member
    cases member with
    | inl sign => exact .inl (by simpa using sign)
    | inr digit => exact .inr (isDigit_of_mem_toString digit)
  · exact .inr (isDigit_of_mem_toString member)

theorem slash_not_mem_integerText (number : Int) : '/' ∉ (integerText number).toList := by
  intro member
  rcases mem_integerText member with slash | digit
  · cases slash
  · cases digit

theorem readInteger?_integerText (number : Int) :
    readInteger? (integerText number).toList = some number := by
  unfold integerText
  split
  · rename_i negative
    have letters : ("-" ++ toString number.natAbs).toList =
        '-' :: (toString number.natAbs).toList := by simp
    rw [letters, readInteger?, readNatural?_toString, Option.map_some]
    congr 1
    have size : Int.ofNat number.natAbs = number.natAbs := rfl
    omega
  · rename_i natural
    have unsigned : ∀ rest, (toString number.natAbs).toList ≠ '-' :: rest := by
      intro rest same
      have member : '-' ∈ (toString number.natAbs).toList := same ▸ List.mem_cons_self
      cases isDigit_of_mem_toString member
    rw [readInteger?, readNatural?_toString, Option.map_some]
    · congr 1
      have size : Int.ofNat number.natAbs = number.natAbs := rfl
      omega
    · exact unsigned

theorem mem_write_number {value : ℚ} {letter : Char}
    (member : letter ∈ (write (.number value)).toList) :
    letter = '-' ∨ letter = '/' ∨ letter.isDigit = true := by
  unfold write at member
  dsimp only at member
  split at member
  · exact (mem_integerText member).imp_right .inr
  · simp only [String.toList_append, List.mem_append] at member
    rcases member with (numerator | slash) | denominator
    · exact (mem_integerText numerator).imp_right .inr
    · exact .inr (.inl (by simpa using slash))
    · exact .inr (.inr (isDigit_of_mem_toString denominator))

/-- Letters other than digits spell what is not a number. -/
theorem write_number_ne {value : ℚ} {word : String} {letter : Char}
    (member : letter ∈ word.toList)
    (spells : ¬(letter = '-' ∨ letter = '/' ∨ letter.isDigit = true)) :
    write (.number value) ≠ word := by
  rintro rfl
  exact spells (mem_write_number member)

theorem read_write (value : Exact) : read? (write value) = some value := by
  rcases value with value | (_ | _) | _
  · rw [read?, if_neg (write_number_ne (.head _) (by decide)),
      if_neg (write_number_ne (.tail _ (.head _)) (by decide)),
      if_neg (write_number_ne (.head _) (by decide))]
    unfold write
    dsimp only
    by_cases whole : value.den = 1
    · rw [if_pos whole, List.splitOn_eq_singleton (slash_not_mem_integerText value.num)]
      dsimp only
      rw [readInteger?_integerText]
      exact congrArg (fun value => some (number value)) (Rat.coe_int_num_of_den_eq_one whole)
    · have letters : (integerText value.num ++ "/" ++ toString value.den).toList =
          (integerText value.num).toList ++ '/' :: (toString value.den).toList := by
        simp
      have slash : '/' ∉ (toString value.den).toList := by
        intro member
        cases isDigit_of_mem_toString member
      rw [if_neg whole, letters,
        List.splitOn_append_cons_self_of_not_mem (slash_not_mem_integerText _),
        List.splitOn_eq_singleton slash]
      dsimp only
      rw [readInteger?_integerText, readNatural?_toString]
      exact congrArg (fun value => some (number value)) (Rat.mkRat_self value)
  · rfl
  · rfl
  · rfl

theorem isWord_write (value : Exact) : IsWord (write value) := by
  rcases value with value | (_ | _) | _
  · constructor
    · unfold write integerText
      dsimp only
      split <;> split <;> simp
    · intro letter member
      rcases mem_write_number member with rfl | rfl | digit
      · rfl
      · rfl
      · exact isWhitespace_eq_false_of_isDigit digit
  · decide
  · decide
  · decide

def numerals : Numerals Exact := ⟨write, read?, read_write, isWord_write⟩

end Exact

/-! Numbers that are not read but left as the words they are written as. -/

def Word : Type := { word : String // IsWord word }

namespace Word

def read? (word : String) : Option Word :=
  if isWord : IsWord word then some ⟨word, isWord⟩ else none

theorem read_val (word : Word) : read? word.val = some word := dif_pos word.property

def numerals : Numerals Word := ⟨Subtype.val, read?, read_val, Subtype.property⟩

end Word

namespace Decimal.Style

/-- What a plain numeral is made of. -/
def IsNumeralLetter (letter : Char) : Prop :=
  letter.isDigit = true ∨ letter = '.' ∨ letter = '-'

theorem isNumeralLetter_zeros {count : Nat} {letter : Char}
    (member : letter ∈ (zeros count).toList) : IsNumeralLetter letter := by
  rw [zeros, String.toList_ofList] at member
  exact .inl (List.eq_of_mem_replicate member ▸ rfl)

theorem mem_plainText {digits : String} {point : Int} {letter : Char}
    (member : letter ∈ (plain.plainText digits point).toList) :
    letter ∈ digits.toList ∨ IsNumeralLetter letter := by
  unfold plainText at member
  dsimp only at member
  split at member
  · simp only [String.toList_append, List.mem_append] at member
    rcases member with (start | zero) | digit
    · refine .inr ?_
      have start : letter = '0' ∨ letter = '.' := by simpa using start
      rcases start with rfl | rfl
      · exact .inl rfl
      · exact .inr (.inl rfl)
    · exact .inr (isNumeralLetter_zeros zero)
    · exact .inl digit
  · split at member
    · simp only [String.toList_append, List.mem_append] at member
      rcases member with (whole | point) | fraction
      · exact .inl (List.mem_of_mem_take (by simpa using whole))
      · exact .inr (.inr (.inl (by simpa using point)))
      · exact .inl (List.mem_of_mem_drop (by simpa using fraction))
    · simp only [String.toList_append, List.mem_append] at member
      rcases member with (digit | zero) | none
      · exact .inl digit
      · exact .inr (isNumeralLetter_zeros zero)
      · cases none

theorem plainText_ne_nil {digits : String} (given : digits.toList ≠ []) (point : Int) :
    (plain.plainText digits point).toList ≠ [] := by
  unfold plainText
  dsimp only
  split
  · simp
  · split
    · simp
    · simpa using fun none _ => absurd none (by simpa using given)

theorem isWord_digitsText (decimal : Digits) : IsWord (plain.digitsText decimal) := by
  have given : (toString decimal.digits).toList ≠ [] := by simp
  refine ⟨plainText_ne_nil given _, fun letter member => ?_⟩
  have kind : IsNumeralLetter letter :=
    (mem_plainText member).elim (fun digit => .inl (isDigit_of_mem_toString digit)) id
  rcases kind with digit | rfl | rfl
  · exact isWhitespace_eq_false_of_isDigit digit
  · rfl
  · rfl

theorem isWord_signed {word : String} (isWord : IsWord word) (negative : Prop)
    [Decidable negative] : IsWord ((if negative then "-" else "") ++ word) := by
  constructor
  · simpa using fun _ none => isWord.nonempty (by rw [none]; rfl)
  · intro letter member
    rw [String.toList_append, List.mem_append] at member
    rcases member with sign | own
    · split at sign
      · have same : letter = '-' := by simpa using sign
        rw [same]
        rfl
      · cases sign
    · exact isWord.solid letter own

theorem isWord_text (value : Float) : IsWord (plain.text value) := by
  unfold text
  split
  · decide
  · refine isWord_signed ?_ _
    split
    · decide
    · split
      · decide
      · exact isWord_digitsText _

/-- The plain numeral of a double, as a word. -/
def word (value : Float) : Word := ⟨plain.text value, isWord_text value⟩

end Decimal.Style

end Dispatch
