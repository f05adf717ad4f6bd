import Dispatch.Json.Printer
import Dispatch.Json.Reader
import Mathlib.Data.List.TakeWhile
import Mathlib.Data.Nat.Digits.Defs

namespace Dispatch

/-! The words of a file: numerals, which end where no numeral goes on, and quoted strings,
which mean the text that was quoted. -/

namespace Decimal.Numeral

open Json (mayStandInNumber)

/-- The rest that is left when a piece of a numeral has been read. -/
def Leaves (characters rest : List Char) : Prop :=
  ∃ piece, characters = piece ++ rest ∧ ∀ letter ∈ piece, mayStandInNumber letter = true

theorem Leaves.refl (characters : List Char) : Leaves characters characters :=
  ⟨[], rfl, nofun⟩

theorem Leaves.trans {first second third : List Char} (early : Leaves first second)
    (late : Leaves second third) : Leaves first third := by
  obtain ⟨before, rfl, letters⟩ := early
  obtain ⟨after, rfl, more⟩ := late
  exact ⟨before ++ after, (List.append_assoc ..).symm,
    List.forall_mem_append.mpr ⟨letters, more⟩⟩

theorem Leaves.cons {letter : Char} {characters rest : List Char}
    (stands : mayStandInNumber letter = true) (leaves : Leaves characters rest) :
    Leaves (letter :: characters) rest :=
  .trans ⟨[letter], rfl, List.forall_mem_singleton.mpr stands⟩ leaves

theorem mayStandInNumber_of_isDigit {letter : Char} (digit : letter.isDigit = true) :
    mayStandInNumber letter = true := by
  simp [mayStandInNumber, digit]

theorem leaves_splitDigits (characters : List Char) :
    Leaves characters (splitDigits characters).2 := by
  refine ⟨_, List.takeWhile_append_dropWhile.symm, fun letter member => ?_⟩
  exact mayStandInNumber_of_isDigit (List.mem_takeWhile_imp member)

theorem leaves_splitFraction? {characters rest : List Char} {digits : List Nat}
    (split : splitFraction? characters = some (digits, rest)) : Leaves characters rest := by
  unfold splitFraction? at split
  split at split
  · rename_i after
    have run := leaves_splitDigits after
    split at split
    · cases split
    · rename_i cut
      cases split
      rw [cut] at run
      exact run.cons rfl
  · cases split
    exact .refl characters

theorem leaves_signedPower? {negative : Bool} {characters rest : List Char} {power : Int}
    (split : signedPower? negative characters = some (power, rest)) :
    Leaves characters rest := by
  have run := leaves_splitDigits characters
  unfold signedPower? at split
  split at split
  · cases split
  · rename_i cut
    cases split
    rw [cut] at run
    exact run

theorem leaves_splitPower? {characters rest : List Char} {power : Option Int}
    (split : splitPower? characters = some (power, rest)) : Leaves characters rest := by
  unfold splitPower? at split
  split at split
  · rename_i mark after
    split at split
    · rename_i exponent
      have stands : mayStandInNumber mark = true := by
        rcases exponent with rfl | rfl <;> rfl
      obtain ⟨⟨size, last⟩, signed, equality⟩ := Option.map_eq_some_iff.mp split
      cases equality
      refine .cons stands ?_
      split at signed
      · exact (leaves_signedPower? signed).cons rfl
      · exact (leaves_signedPower? signed).cons rfl
      · exact leaves_signedPower? signed
    · cases split
      exact .refl _
  · cases split
    exact .refl _

theorem leaves_splitUnsigned? {negative : Bool} {characters rest : List Char} {numeral : Numeral}
    (split : splitUnsigned? negative characters = some (numeral, rest)) :
    Leaves characters rest ∧ ∃ letter ∈ characters.head?, letter.isDigit = true := by
  unfold splitUnsigned? at split
  dsimp only at split
  split at split
  · rename_i whole
    obtain ⟨⟨fraction, middle⟩, fractional, split⟩ := Option.bind_eq_some_iff.mp split
    obtain ⟨⟨power, last⟩, powered, split⟩ := Option.bind_eq_some_iff.mp split
    cases split
    refine ⟨(leaves_splitDigits characters).trans
      ((leaves_splitFraction? fractional).trans (leaves_splitPower? powered)), ?_⟩
    cases characters with
    | nil => cases whole
    | cons letter rest =>
        refine ⟨letter, rfl, ?_⟩
        by_contra other
        rw [splitDigits, List.takeWhile_cons_of_neg other] at whole
        cases whole
  · cases split

/-- A numeral starts with a digit or a minus. -/
theorem leaves_split? {characters rest : List Char} {numeral : Numeral}
    (split : split? characters = some (numeral, rest)) :
    Leaves characters rest ∧
      ∃ letter ∈ characters.head?, letter = '-' ∨ letter.isDigit = true := by
  unfold split? at split
  split at split
  · exact ⟨(leaves_splitUnsigned? split).1.cons rfl, '-', rfl, .inl rfl⟩
  · obtain ⟨leaves, letter, head, digit⟩ := leaves_splitUnsigned? split
    exact ⟨leaves, letter, head, .inr digit⟩

theorem split?_of_read? {text : String} {numeral : Numeral} (read : read? text = some numeral) :
    split? text.toList = some (numeral, []) := by
  unfold read? at read
  split at read
  · rename_i split
    cases read
    exact split
  · cases read

end Decimal.Numeral

namespace Json

open Decimal (Numeral)

/-- A numeral cannot go on here. -/
def EndsNumber (rest : List Char) : Prop :=
  ∀ letter ∈ rest.head?, mayStandInNumber letter = false

theorem takeWhile_number {run rest : List Char} (letters : ∀ letter ∈ run,
    mayStandInNumber letter = true) (ends : EndsNumber rest) :
    (run ++ rest).takeWhile mayStandInNumber = run := by
  rw [List.takeWhile_append_of_pos letters]
  cases rest with
  | nil => rw [List.takeWhile_nil, List.append_nil]
  | cons letter later =>
      rw [List.takeWhile_cons_of_neg (by rw [ends letter rfl]; exact Bool.false_ne_true),
        List.append_nil]

/-- The characters of a numeral are cut off as they are. -/
theorem number?_append {text : String} {numeral : Numeral}
    (read : Numeral.read? text = some numeral) {rest : List Char} (ends : EndsNumber rest) :
    number? (text.toList ++ rest) = some (.number text, rest) := by
  have split := Numeral.split?_of_read? read
  obtain ⟨⟨run, whole, letters⟩, -⟩ := Numeral.leaves_split? split
  rw [List.append_nil] at whole
  rw [← whole] at letters
  unfold number?
  rw [takeWhile_number letters ends]
  dsimp only
  rw [split, Option.map_some, List.length_nil, Nat.sub_zero, List.take_length, List.drop_left,
    String.ofList_toList]

theorem digitValue_digitChar : ∀ digit < 10, Numeral.digitValue (Nat.digitChar digit) = digit := by
  decide

theorem isDigit_digitChar : ∀ digit < 10, (Nat.digitChar digit).isDigit = true := by
  decide

/-- The digits of a count say what it is, and the first is zero for zero alone. -/
structure Spells (digits : List Nat) (count : Nat) : Prop where
  value : Decimal.naturalFrom 0 digits = count
  whole : Numeral.isWholePart digits = true
  positive : 0 < count → digits.head? ≠ some 0

theorem Spells.snoc {digits : List Nat} {count : Nat} (spells : Spells digits count)
    (positive : 0 < count) (digit : Nat) :
    Spells (digits ++ [digit]) (10 * count + digit) := by
  have starts := spells.positive positive
  obtain ⟨value, whole, -⟩ := spells
  cases digits with
  | nil => cases whole
  | cons first rest =>
      have first_ne : first ≠ 0 := fun zero => starts (congrArg some zero)
      refine ⟨?_, ?_, fun _ => starts⟩
      · unfold Decimal.naturalFrom at value ⊢
        rw [List.foldl_append, value]
        rfl
      · rw [List.cons_append, Numeral.isWholePart]
        · exact bne_iff_ne.mpr first_ne
        · intro _ last
          exact absurd last (by simp)

theorem spells_toDigits (count : Nat) :
    (∀ letter ∈ Nat.toDigits 10 count, letter.isDigit = true) ∧
      Spells ((Nat.toDigits 10 count).map Numeral.digitValue) count := by
  induction count using Nat.strongRecOn with
  | ind count induction =>
      by_cases small : count < 10
      · rw [Nat.toDigits_of_lt_base small]
        refine ⟨List.forall_mem_singleton.mpr (isDigit_digitChar count small), ?_⟩
        rw [List.map_singleton, digitValue_digitChar count small]
        refine ⟨Nat.zero_add count, ?_, fun positive zero => ?_⟩
        · cases count <;> rfl
        · exact Nat.ne_of_gt positive (Option.some.inj zero)
      · have quotient : 0 < count / 10 := Nat.div_pos (Nat.le_of_not_lt small) (by decide)
        have remainder : count % 10 < 10 := Nat.mod_lt count (by decide)
        obtain ⟨letters, spells⟩ :=
          induction (count / 10) (Nat.div_lt_self (by omega) (by decide))
        rw [Nat.toDigits_of_base_le (by decide) (Nat.le_of_not_lt small)]
        refine ⟨List.forall_mem_append.mpr ⟨letters,
          List.forall_mem_singleton.mpr (isDigit_digitChar _ remainder)⟩, ?_⟩
        rw [List.map_append, List.map_singleton, digitValue_digitChar _ remainder]
        have together := spells.snoc quotient (count % 10)
        rwa [Nat.div_add_mod] at together

theorem read?_toString (count : Nat) :
    ∃ digits, Numeral.read? (toString count) = some ⟨false, digits, [], none⟩ ∧
      Decimal.naturalFrom 0 digits = count := by
  obtain ⟨letters, spells⟩ := spells_toDigits count
  have characters : (toString count).toList = Nat.toDigits 10 count := Nat.toList_repr
  refine ⟨_, ?_, spells.value⟩
  have run : Numeral.splitDigits (Nat.toDigits 10 count) =
      ((Nat.toDigits 10 count).map Numeral.digitValue, []) := by
    rw [Numeral.splitDigits, List.takeWhile_eq_self_iff.mpr letters,
      List.dropWhile_eq_nil_iff.mpr letters]
  have unsigned : Numeral.split? (Nat.toDigits 10 count) =
      Numeral.splitUnsigned? false (Nat.toDigits 10 count) := by
    unfold Numeral.split?
    split
    · rename_i minus
      rw [minus] at letters
      cases letters '-' List.mem_cons_self
    · rfl
  rw [Numeral.read?, characters, unsigned, Numeral.splitUnsigned?, run]
  simp only [spells.whole, if_true]
  rfl

theorem count?_count {count : Nat} (small : count < 2 ^ 64) :
    (Json.count count).count? = some count := by
  obtain ⟨digits, read, value⟩ := read?_toString count
  have bound : count < Nat.pow 2 64 := small
  rw [Json.count?, Json.count, numeral?, read, Option.bind_some, Numeral.toCount?]
  dsimp only
  rw [value, if_pos]
  simpa [Numeral.isWhole] using bound

theorem hexDigit?_hexLetter : ∀ digit < 16, hexDigit? (hexLetter digit) = some digit := by
  decide

theorem hexUnit?_control {unit : Nat} (control : unit < 32) :
    hexUnit? '0' '0' (hexLetter (unit / 16)) (hexLetter (unit % 16)) = some unit := by
  have high := hexDigit?_hexLetter (unit / 16) (by omega)
  have low := hexDigit?_hexLetter (unit % 16) (Nat.mod_lt unit (by decide))
  have zero : hexDigit? '0' = some 0 := by decide
  unfold hexUnit?
  rw [zero, high, low]
  simp only [Option.bind_eq_bind, Option.bind_some, pure]
  congr 1
  omega

theorem quoted?_letter {letter character : Char} (names : escaped? letter = some character)
    (characters : List Char) :
    quoted? ('\\' :: letter :: characters) = (quoted? characters).map (prepend character) := by
  have other : letter ≠ 'u' := by
    rintro rfl
    cases names
  rw [quoted?]
  · rw [names]
  · exact fun _ _ _ _ _ same _ => other same

theorem quoted?_control {unit : Nat} (control : unit < 32) (characters : List Char) :
    quoted? ('\\' :: 'u' :: '0' :: '0' :: hexLetter (unit / 16) :: hexLetter (unit % 16) ::
      characters) = (quoted? characters).map (prepend (Char.ofNat unit)) := by
  have low : isLowSurrogate unit = false := by
    simp only [isLowSurrogate, Bool.and_eq_false_iff, decide_eq_false_iff_not]
    omega
  have high : isHighSurrogate unit = false := by
    simp only [isHighSurrogate, Bool.and_eq_false_iff, decide_eq_false_iff_not]
    omega
  rw [quoted?, hexUnit?_control control]
  dsimp only
  rw [high, low]
  rfl

theorem quoted?_plain {character : Char} (quote : character ≠ '"') (escape : character ≠ '\\')
    (printable : 0x20 ≤ character.toNat) (characters : List Char) :
    quoted? (character :: characters) = (quoted? characters).map (prepend character) := by
  have stands : ¬(character.toNat < 0x20 ∨ character = '\\') :=
    not_or.mpr ⟨Nat.not_lt.mpr printable, escape⟩
  rw [quoted?.eq_def]
  split
  · rename_i empty
    cases empty
  · rename_i same
    cases same
    exact absurd rfl quote
  · rename_i same
    cases same
    exact absurd rfl escape
  · rename_i same
    cases same
    exact absurd rfl escape
  · rename_i same
    cases same
    exact if_neg stands

/-- What an escape stands for comes before the rest of the text. -/
theorem quoted?_escape (character : Char) (characters : List Char) :
    quoted? (escape character ++ characters) =
      (quoted? characters).map (prepend character) := by
  have named (letter : Char) (names : escaped? letter = some character) :
      quoted? (['\\', letter] ++ characters) = (quoted? characters).map (prepend character) :=
    quoted?_letter names characters
  have coded {unit : Nat} (code : character.toNat = unit) :
      some (Char.ofNat unit) = some character := by
    rw [← code, Char.ofNat_toNat]
  unfold escape
  split
  · rename_i same
    exact named '"' (congrArg some same.symm)
  split
  · rename_i same
    exact named '\\' (congrArg some same.symm)
  split
  · rename_i same
    exact named 'n' (congrArg some same.symm)
  split
  · rename_i same
    exact named 'r' (congrArg some same.symm)
  split
  · rename_i same
    exact named 't' (congrArg some same.symm)
  split
  · rename_i code
    exact named 'b' (coded code)
  split
  · rename_i code
    exact named 'f' (coded code)
  split
  · rename_i control
    have units := quoted?_control control characters
    rwa [Char.ofNat_toNat] at units
  · rename_i quote escape _ _ _ _ _ printable
    exact quoted?_plain quote escape (Nat.le_of_not_lt printable) characters

theorem quoted?_flatMap_escape (text rest : List Char) :
    quoted? (text.flatMap escape ++ '"' :: rest) = some (some text, rest) := by
  induction text with
  | nil => rw [List.flatMap_nil, List.nil_append, quoted?]
  | cons character text induction =>
      rw [List.flatMap_cons, List.append_assoc, quoted?_escape, induction]
      rfl

theorem toList_quote (text : String) :
    (quote text).toList = '"' :: (text.toList.flatMap escape ++ ['"']) :=
  String.toList_ofList

/-- A quoted text is read back. -/
theorem string?_quote (text : String) (rest : List Char) :
    string? (text.toList.flatMap escape ++ '"' :: rest) = some (some text, rest) := by
  rw [string?, quoted?_flatMap_escape]
  simp

end Json

end Dispatch
