import Dispatch.Proofs.Json.Tokens

namespace Dispatch.Json

/-! What is written with indentation is read back. The text of a value starts with a character
that tells its kind and ends where the text after it goes on, so reading it needs no more than
its own characters. -/

/-! Values with a text: strings that are text, and numbers that are numerals. -/

mutual
def IsWritten : Json → Prop
  | .null => True
  | .boolean _ => True
  | .number text => (Decimal.Numeral.read? text).isSome = true
  | .string text => text.isSome = true
  | .list items => AreWritten items
  | .object fields => FieldsAreWritten fields

def AreWritten : List Json → Prop
  | [] => True
  | item :: rest => IsWritten item ∧ AreWritten rest

def FieldsAreWritten : List (Option String × Json) → Prop
  | [] => True
  | (name, value) :: rest => name.isSome = true ∧ IsWritten value ∧ FieldsAreWritten rest
end

def IsBlankText (characters : List Char) : Prop :=
  ∀ character ∈ characters, isBlank character = true

theorem isBlankText_indentation (depth : Nat) : IsBlankText (indentation depth).toList := by
  intro character member
  rw [indentation, String.toList_ofList] at member
  cases List.mem_cons.mp member with
  | inl newline => rw [newline]; rfl
  | inr space => rw [List.eq_of_mem_replicate space]; rfl

theorem isBlankText_space : IsBlankText [' '] :=
  List.forall_mem_singleton.mpr rfl

theorem skipBlanks_append {blanks : List Char} (blank : IsBlankText blanks) (rest : List Char) :
    skipBlanks (blanks ++ rest) = skipBlanks rest := by
  induction blanks with
  | nil => rfl
  | cons character blanks induction =>
      obtain ⟨first, later⟩ := List.forall_mem_cons.mp blank
      rw [List.cons_append, skipBlanks, List.dropWhile_cons_of_pos first]
      exact induction later

theorem skipBlanks_cons {character : Char} (solid : isBlank character = false)
    (rest : List Char) : skipBlanks (character :: rest) = character :: rest := by
  rw [skipBlanks, List.dropWhile_cons_of_neg (by rw [solid]; exact Bool.false_ne_true)]

/-- Reading a value, an item or a field starts by skipping blanks. -/
theorem value?_blanks {blanks : List Char} (blank : IsBlankText blanks) (fuel : Nat)
    (rest : List Char) : value? fuel (blanks ++ rest) = value? fuel rest := by
  cases fuel with
  | zero => rw [value?, value?]
  | succ fuel => rw [value?, value?, skipBlanks_append blank]

theorem items?_blanks {blanks : List Char} (blank : IsBlankText blanks) (fuel : Nat)
    (rest : List Char) : items? fuel (blanks ++ rest) = items? fuel rest := by
  cases fuel with
  | zero => rw [items?, items?]
  | succ fuel => rw [items?, items?, value?_blanks blank]

theorem members?_blanks {blanks : List Char} (blank : IsBlankText blanks) (fuel : Nat)
    (rest : List Char) : members? fuel (blanks ++ rest) = members? fuel rest := by
  cases fuel with
  | zero => rw [members?, members?]
  | succ fuel => rw [members?, members?, skipBlanks_append blank]

/-- The character can start a value. -/
def Starts (character : Char) : Prop :=
  character ∈ ['"', '[', '{', 'n', 't', 'f', '-'] ∨ character.isDigit = true

theorem Starts.not_blank {character : Char} (starts : Starts character) :
    isBlank character = false := by
  rcases starts with listed | digit
  · simp only [List.mem_cons, List.not_mem_nil, or_false] at listed
    rcases listed with rfl | rfl | rfl | rfl | rfl | rfl | rfl <;> rfl
  · cases blank : isBlank character with
    | false => rfl
    | true =>
        simp only [isBlank, Bool.or_eq_true, beq_iff_eq] at blank
        rcases blank with ((rfl | rfl) | rfl) | rfl <;> cases digit

theorem Starts.ne {character other : Char} (starts : Starts character)
    (foreign : other ∉ ['"', '[', '{', 'n', 't', 'f', '-'] ∧ other.isDigit = false) :
    character ≠ other := by
  rintro rfl
  rcases starts with listed | digit
  · exact foreign.1 listed
  · rw [foreign.2] at digit
    cases digit

theorem toList_separated_cons (separator first second : String) (rest : List String) :
    (separated separator (first :: second :: rest)).toList =
      first.toList ++ (separator.toList ++ (separated separator (second :: rest)).toList) := by
  simp [separated, String.toList_intercalate, List.intercalate]

theorem toList_separated_singleton (separator part : String) :
    (separated separator [part]).toList = part.toList := by
  simp [separated]

/-- The characters between the brackets, up to the closing one. -/
def body (depth : Nat) (parts : List String) : List Char :=
  (separated ("," ++ indentation (depth + 1)) parts).toList ++ (indentation depth).toList

theorem toList_bracketed (opening closing : Char) (depth : Nat) {parts : List String}
    (several : parts ≠ []) :
    (bracketed opening.toString closing.toString depth parts).toList =
      opening :: ((indentation (depth + 1)).toList ++ (body depth parts ++ [closing])) := by
  rw [bracketed, if_neg (by simpa using several)]
  simp [body, Char.toString]

theorem body_singleton (depth : Nat) (part : String) :
    body depth [part] = part.toList ++ (indentation depth).toList := by
  rw [body, toList_separated_singleton]

theorem body_cons (depth : Nat) (first second : String) (rest : List String) :
    body depth (first :: second :: rest) =
      first.toList ++ (',' ::
        ((indentation (depth + 1)).toList ++ body depth (second :: rest))) := by
  rw [body, toList_separated_cons, body]
  simp

theorem starts_number {text : String} {numeral : Decimal.Numeral}
    (read : Decimal.Numeral.read? text = some numeral) :
    ∃ character rest, text.toList = character :: rest ∧
      (character = '-' ∨ character.isDigit = true) := by
  obtain ⟨-, character, head, starts⟩ :=
    Decimal.Numeral.leaves_split? (Decimal.Numeral.split?_of_read? read)
  obtain ⟨rest, characters⟩ := List.head?_eq_some_iff.mp head
  exact ⟨character, rest, characters, starts⟩

theorem starts_indented {value : Json} (written : value.IsWritten) (depth : Nat) :
    ∃ character rest, (indented depth value).toList = character :: rest ∧ Starts character := by
  cases value with
  | null => exact ⟨'n', ['u', 'l', 'l'], by simp [indented, leafText], .inl (by decide)⟩
  | boolean flag =>
      cases flag with
      | true => exact ⟨'t', ['r', 'u', 'e'], by simp [indented, leafText], .inl (by decide)⟩
      | false =>
          exact ⟨'f', ['a', 'l', 's', 'e'], by simp [indented, leafText], .inl (by decide)⟩
  | number text =>
      obtain ⟨numeral, read⟩ := Option.isSome_iff_exists.mp (by simpa [IsWritten] using written)
      obtain ⟨character, rest, characters, starts⟩ := starts_number read
      refine ⟨character, rest, by simpa [indented, leafText] using characters, ?_⟩
      rcases starts with rfl | digit
      · exact .inl (by decide)
      · exact .inr digit
  | string text =>
      obtain ⟨content, rfl⟩ := Option.isSome_iff_exists.mp (by simpa [IsWritten] using written)
      exact ⟨'"', _, toList_quote content, .inl (by decide)⟩
  | list items =>
      cases items with
      | nil => exact ⟨'[', [']'], by simp [indented, indentedItems, bracketed], .inl (by decide)⟩
      | cons item rest =>
          have several : indentedItems (depth + 1) (item :: rest) ≠ [] := by simp [indentedItems]
          exact ⟨'[', _, toList_bracketed '[' ']' depth several, .inl (by decide)⟩
  | object fields =>
      cases fields with
      | nil => exact ⟨'{', ['}'], by simp [indented, indentedFields, bracketed], .inl (by decide)⟩
      | cons field rest =>
          have several : indentedFields (depth + 1) (field :: rest) ≠ [] := by
            obtain ⟨name, value⟩ := field
            simp [indentedFields]
          exact ⟨'{', _, toList_bracketed '{' '}' depth several, .inl (by decide)⟩

/-! Reading. A value needs twice as much fuel as there are characters left, an item or a field
one more, since it starts with a value. -/

theorem word?_append (word : List Char) (value : Json) (rest : List Char) :
    word? word value (word ++ rest) = some (value, rest) := by
  rw [word?, List.take_left, if_pos rfl, List.drop_left]

/-- Where a number is read no other kind of value starts. -/
theorem value?_number {character : Char} (starts : character = '-' ∨ character.isDigit = true)
    (fuel : Nat) (rest : List Char) :
    value? (fuel + 1) (character :: rest) = number? (character :: rest) := by
  have solid : isBlank character = false :=
    Starts.not_blank (starts.imp (fun minus => by rw [minus]; decide) id)
  have other : ∀ letter ∈ ['"', '[', '{', 'n', 't', 'f'], character ≠ letter := by
    rintro letter listed rfl
    simp only [List.mem_cons, List.not_mem_nil, or_false] at listed
    rcases listed with rfl | rfl | rfl | rfl | rfl | rfl <;> simp at starts
  rw [value?, skipBlanks_cons solid]
  split
  · rename_i same
    cases same
    exact absurd rfl (other '"' (by decide))
  · rename_i same
    cases same
    exact absurd rfl (other '[' (by decide))
  · rename_i same
    cases same
    exact absurd rfl (other '{' (by decide))
  · rename_i same
    cases same
    exact absurd rfl (other 'n' (by decide))
  · rename_i same
    cases same
    exact absurd rfl (other 't' (by decide))
  · rename_i same
    cases same
    exact absurd rfl (other 'f' (by decide))
  · rfl

theorem endsNumber_cons {character : Char} (foreign : mayStandInNumber character = false)
    (rest : List Char) : EndsNumber (character :: rest) := by
  intro letter head
  cases head
  exact foreign

theorem endsNumber_indentation (depth : Nat) (rest : List Char) :
    EndsNumber ((indentation depth).toList ++ rest) := by
  rw [indentation, String.toList_ofList]
  exact endsNumber_cons (by decide) _

/-- A list opens with an item unless it closes at once. -/
theorem value?_bracket (fuel : Nat) (rest : List Char) :
    value? (fuel + 1) ('[' :: rest) =
      match skipBlanks rest with
      | ']' :: rest => some (.list [], rest)
      | _ => (items? fuel rest).map fun (items, rest) => (.list items, rest) := by
  rw [value?, skipBlanks_cons (by decide)]
  rfl

theorem value?_brace (fuel : Nat) (rest : List Char) :
    value? (fuel + 1) ('{' :: rest) =
      match skipBlanks rest with
      | '}' :: rest => some (.object [], rest)
      | _ => (members? fuel rest).map fun (fields, rest) => (.object fields, rest) := by
  rw [value?, skipBlanks_cons (by decide)]
  rfl

theorem value?_list_nil (fuel : Nat) (rest : List Char) :
    value? (fuel + 1) ('[' :: ']' :: rest) = some (.list [], rest) := by
  rw [value?_bracket, skipBlanks_cons (by decide)]
  rfl

theorem value?_object_nil (fuel : Nat) (rest : List Char) :
    value? (fuel + 1) ('{' :: '}' :: rest) = some (.object [], rest) := by
  rw [value?_brace, skipBlanks_cons (by decide)]
  rfl

theorem value?_list {blanks characters : List Char} {character : Char} {items : List Json}
    {rest : List Char} {fuel : Nat} (blank : IsBlankText blanks) (starts : Starts character)
    (read : items? fuel (character :: characters) = some (items, rest)) :
    value? (fuel + 1) ('[' :: (blanks ++ character :: characters)) = some (.list items, rest) := by
  have closing : character ≠ ']' := starts.ne (by decide)
  rw [value?_bracket, skipBlanks_append blank, skipBlanks_cons starts.not_blank,
    items?_blanks blank, read]
  split
  · rename_i same
    cases same
    exact absurd rfl closing
  · rfl

theorem value?_object {blanks characters : List Char} {fields : List (Option String × Json)}
    {rest : List Char} {fuel : Nat} (blank : IsBlankText blanks)
    (read : members? fuel ('"' :: characters) = some (fields, rest)) :
    value? (fuel + 1) ('{' :: (blanks ++ '"' :: characters)) = some (.object fields, rest) := by
  rw [value?_brace, skipBlanks_append blank, skipBlanks_cons (by decide),
    members?_blanks blank, read]
  rfl

theorem items?_last {text : List Char} {item : Json} {blanks rest : List Char} {fuel : Nat}
    (blank : IsBlankText blanks)
    (read : value? fuel (text ++ (blanks ++ ']' :: rest)) = some (item, blanks ++ ']' :: rest)) :
    items? (fuel + 1) (text ++ (blanks ++ ']' :: rest)) = some ([item], rest) := by
  rw [items?, read, Option.bind_eq_bind, Option.bind_some]
  dsimp only
  rw [skipBlanks_append blank, skipBlanks_cons (by decide)]
  rfl

theorem items?_next {text : List Char} {item : Json} {items : List Json}
    {characters rest : List Char} {fuel : Nat}
    (read : value? fuel (text ++ ',' :: characters) = some (item, ',' :: characters))
    (others : items? fuel characters = some (items, rest)) :
    items? (fuel + 1) (text ++ ',' :: characters) = some (item :: items, rest) := by
  rw [items?, read, Option.bind_eq_bind, Option.bind_some]
  dsimp only
  rw [skipBlanks_cons (by decide)]
  change (items? fuel characters).bind _ = _
  rw [others]
  rfl

/-- The text of a field, after the quote it starts with. -/
def fieldText (name : String) (value : List Char) : List Char :=
  name.toList.flatMap escape ++ '"' :: ':' :: ' ' :: value

theorem members?_field (name : String) (text tail : List Char) (fuel : Nat) :
    members? (fuel + 1) ('"' :: (fieldText name text ++ tail)) =
      (value? fuel (text ++ tail)).bind fun (value, rest) =>
        match skipBlanks rest with
        | ',' :: rest => (members? fuel rest).bind fun (fields, rest) =>
            some ((some name, value) :: fields, rest)
        | '}' :: rest => some ([(some name, value)], rest)
        | _ => none := by
  have quoted : fieldText name text ++ tail =
      name.toList.flatMap escape ++ '"' :: ':' :: ' ' :: (text ++ tail) := by
    simp [fieldText]
  have space : value? fuel (' ' :: (text ++ tail)) = value? fuel (text ++ tail) :=
    value?_blanks isBlankText_space fuel _
  rw [members?, skipBlanks_cons (by decide)]
  change (string? (fieldText name text ++ tail)).bind _ = _
  rw [quoted, string?_quote, Option.bind_some]
  dsimp only
  rw [skipBlanks_cons (by decide)]
  change (value? fuel (' ' :: (text ++ tail))).bind _ = _
  rw [space]
  rfl

theorem members?_last {name : String} {text : List Char} {value : Json}
    {blanks rest : List Char} {fuel : Nat} (blank : IsBlankText blanks)
    (read : value? fuel (text ++ (blanks ++ '}' :: rest)) = some (value, blanks ++ '}' :: rest)) :
    members? (fuel + 1) ('"' :: (fieldText name text ++ (blanks ++ '}' :: rest))) =
      some ([(some name, value)], rest) := by
  rw [members?_field, read, Option.bind_some]
  dsimp only
  rw [skipBlanks_append blank, skipBlanks_cons (by decide)]
  rfl

theorem members?_next {name : String} {text : List Char} {value : Json}
    {fields : List (Option String × Json)} {characters rest : List Char} {fuel : Nat}
    (read : value? fuel (text ++ ',' :: characters) = some (value, ',' :: characters))
    (others : members? fuel characters = some (fields, rest)) :
    members? (fuel + 1) ('"' :: (fieldText name text ++ ',' :: characters)) =
      some ((some name, value) :: fields, rest) := by
  rw [members?_field, read, Option.bind_some]
  dsimp only
  rw [skipBlanks_cons (by decide)]
  change (members? fuel characters).bind _ = _
  rw [others]
  rfl

theorem toList_field (name : String) (value : String) :
    (stringText (some name) ++ ": " ++ value).toList = '"' :: fieldText name value.toList := by
  simp [stringText, toList_quote, fieldText]

/-- Whatever comes after its text, the value is read from it. -/
def ReadsBack (value : Json) : Prop :=
  ∀ (depth fuel : Nat) (rest : List Char), EndsNumber rest →
    2 * ((indented depth value).toList ++ rest).length < fuel →
      value? fuel ((indented depth value).toList ++ rest) = some (value, rest)

theorem exists_fuel {length fuel : Nat} (enough : length < fuel) :
    ∃ less, fuel = less + 1 ∧ length ≤ less :=
  ⟨fuel - 1, by omega, by omega⟩

theorem readsBack_word {value : Json} (first : Char) (word : List Char)
    (text : ∀ depth, (indented depth value).toList = first :: word)
    (dispatches : ∀ fuel rest, value? (fuel + 1) (first :: (word ++ rest)) =
      word? word value (word ++ rest)) : value.ReadsBack := by
  intro depth fuel rest _ enough
  obtain ⟨fuel, rfl, -⟩ := exists_fuel enough
  rw [text, List.cons_append, dispatches, word?_append]

theorem readsBack_null : null.ReadsBack := by
  refine readsBack_word 'n' ['u', 'l', 'l'] (fun depth => by simp [indented, leafText])
    fun fuel rest => ?_
  rw [value?, skipBlanks_cons (by decide)]
  rfl

theorem readsBack_boolean (flag : Bool) : (boolean flag).ReadsBack := by
  cases flag with
  | true =>
      refine readsBack_word 't' ['r', 'u', 'e'] (fun depth => by simp [indented, leafText])
        fun fuel rest => ?_
      rw [value?, skipBlanks_cons (by decide)]
      rfl
  | false =>
      refine readsBack_word 'f' ['a', 'l', 's', 'e'] (fun depth => by simp [indented, leafText])
        fun fuel rest => ?_
      rw [value?, skipBlanks_cons (by decide)]
      rfl

theorem readsBack_number {text : String} {numeral : Decimal.Numeral}
    (read : Decimal.Numeral.read? text = some numeral) : (number text).ReadsBack := by
  intro depth fuel rest ends enough
  obtain ⟨fuel, rfl, -⟩ := exists_fuel enough
  obtain ⟨character, later, characters, starts⟩ := starts_number read
  have cut := number?_append read ends
  have same : (indented depth (number text)).toList = text.toList := by
    simp [indented, leafText]
  rw [same]
  rw [characters] at cut ⊢
  exact (value?_number starts fuel _).trans cut

theorem readsBack_string (text : String) : (string (some text)).ReadsBack := by
  intro depth fuel rest _ enough
  obtain ⟨fuel, rfl, -⟩ := exists_fuel enough
  have characters : (indented depth (string (some text))).toList ++ rest =
      '"' :: (text.toList.flatMap escape ++ '"' :: rest) := by
    simp [indented, leafText, stringText, toList_quote]
  rw [characters, value?, skipBlanks_cons (by decide)]
  change (string? (text.toList.flatMap escape ++ '"' :: rest)).map _ = _
  rw [string?_quote]
  rfl

theorem body_items_singleton (depth : Nat) (item : Json) (rest : List Char) :
    body depth (indentedItems (depth + 1) [item]) ++ rest =
      (indented (depth + 1) item).toList ++ ((indentation depth).toList ++ rest) := by
  rw [indentedItems, indentedItems, body_singleton, List.append_assoc]

theorem body_items_cons (depth : Nat) (item second : Json) (items : List Json)
    (rest : List Char) :
    body depth (indentedItems (depth + 1) (item :: second :: items)) ++ rest =
      (indented (depth + 1) item).toList ++ ',' :: ((indentation (depth + 1)).toList ++
        (body depth (indentedItems (depth + 1) (second :: items)) ++ rest)) := by
  rw [indentedItems, indentedItems, body_cons]
  simp

theorem body_fields_singleton (depth : Nat) (name : String) (value : Json) (rest : List Char) :
    body depth (indentedFields (depth + 1) [(some name, value)]) ++ rest =
      '"' :: (fieldText name (indented (depth + 1) value).toList ++
        ((indentation depth).toList ++ rest)) := by
  rw [indentedFields, indentedFields, body_singleton, toList_field]
  simp

theorem body_fields_cons (depth : Nat) (name : String) (value : Json)
    (second : Option String × Json) (fields : List (Option String × Json)) (rest : List Char) :
    body depth (indentedFields (depth + 1) ((some name, value) :: second :: fields)) ++ rest =
      '"' :: (fieldText name (indented (depth + 1) value).toList ++
        ',' :: ((indentation (depth + 1)).toList ++
          (body depth (indentedFields (depth + 1) (second :: fields)) ++ rest))) := by
  obtain ⟨next, other⟩ := second
  rw [indentedFields, indentedFields, body_cons, toList_field]
  simp

theorem starts_body_items {item : Json} (written : item.IsWritten) (depth : Nat)
    (items : List Json) (rest : List Char) :
    ∃ character characters,
      body depth (indentedItems (depth + 1) (item :: items)) ++ rest = character :: characters ∧
        Starts character := by
  obtain ⟨character, first, text, starts⟩ := starts_indented written (depth + 1)
  cases items with
  | nil => exact ⟨character, _, by rw [body_items_singleton, text]; rfl, starts⟩
  | cons second items => exact ⟨character, _, by rw [body_items_cons, text]; rfl, starts⟩

theorem starts_body_fields (depth : Nat) (name : String) (value : Json)
    (fields : List (Option String × Json)) (rest : List Char) :
    ∃ characters,
      body depth (indentedFields (depth + 1) ((some name, value) :: fields)) ++ rest =
        '"' :: characters := by
  cases fields with
  | nil => exact ⟨_, body_fields_singleton depth name value rest⟩
  | cons second fields => exact ⟨_, body_fields_cons depth name value second fields rest⟩

theorem items?_indented {item : Json} {items : List Json} (depth : Nat)
    (each : ∀ other ∈ item :: items, other.ReadsBack) (fuel : Nat) (rest : List Char)
    (enough : 2 * (body depth (indentedItems (depth + 1) (item :: items)) ++ ']' :: rest).length +
      1 < fuel) :
    items? fuel (body depth (indentedItems (depth + 1) (item :: items)) ++ ']' :: rest) =
      some (item :: items, rest) := by
  induction items generalizing item fuel with
  | nil =>
      obtain ⟨fuel, rfl, -⟩ := exists_fuel enough
      rw [body_items_singleton] at enough ⊢
      refine items?_last (isBlankText_indentation depth) ?_
      exact each item List.mem_cons_self (depth + 1) fuel _ (endsNumber_indentation depth _)
        (by omega)
  | cons second others induction =>
      obtain ⟨head, tail⟩ := List.forall_mem_cons.mp each
      obtain ⟨fuel, rfl, -⟩ := exists_fuel enough
      rw [body_items_cons] at enough ⊢
      simp only [List.length_cons, List.length_append] at enough
      refine items?_next ?_ ?_
      · refine head (depth + 1) _ _ (endsNumber_cons (by decide) _) ?_
        simp only [List.length_cons, List.length_append]
        omega
      · rw [items?_blanks (isBlankText_indentation (depth + 1))]
        refine induction tail fuel ?_
        simp only [List.length_cons, List.length_append]
        omega

theorem members?_indented {field : Option String × Json} {fields : List (Option String × Json)}
    (depth : Nat) (named : ∀ other ∈ field :: fields, other.1.isSome = true)
    (each : ∀ other ∈ field :: fields, other.2.ReadsBack) (fuel : Nat) (rest : List Char)
    (enough : 2 * (body depth (indentedFields (depth + 1) (field :: fields)) ++
      '}' :: rest).length + 1 < fuel) :
    members? fuel (body depth (indentedFields (depth + 1) (field :: fields)) ++ '}' :: rest) =
      some (field :: fields, rest) := by
  induction fields generalizing field fuel with
  | nil =>
      obtain ⟨fuel, rfl, -⟩ := exists_fuel enough
      obtain ⟨name, value⟩ := field
      obtain ⟨name, rfl⟩ := Option.isSome_iff_exists.mp (named _ List.mem_cons_self)
      rw [body_fields_singleton] at enough ⊢
      simp only [List.length_cons, List.length_append, fieldText] at enough
      refine members?_last (isBlankText_indentation depth) ?_
      refine each _ List.mem_cons_self (depth + 1) fuel _ (endsNumber_indentation depth _) ?_
      simp only [List.length_cons, List.length_append]
      omega
  | cons second others induction =>
      obtain ⟨head, tail⟩ := List.forall_mem_cons.mp each
      obtain ⟨fuel, rfl, -⟩ := exists_fuel enough
      obtain ⟨name, value⟩ := field
      obtain ⟨name, rfl⟩ := Option.isSome_iff_exists.mp (named _ List.mem_cons_self)
      rw [body_fields_cons] at enough ⊢
      simp only [List.length_cons, List.length_append, fieldText] at enough
      refine members?_next ?_ ?_
      · refine head (depth + 1) _ _ (endsNumber_cons (by decide) _) ?_
        simp only [List.length_cons, List.length_append]
        omega
      · rw [members?_blanks (isBlankText_indentation (depth + 1))]
        refine induction (List.forall_mem_cons.mp named).2 tail fuel ?_
        simp only [List.length_cons, List.length_append]
        omega

theorem readsBack_list {items : List Json} (written : ∀ item ∈ items, item.IsWritten)
    (each : ∀ item ∈ items, item.ReadsBack) : (list items).ReadsBack := by
  intro depth fuel rest _ enough
  obtain ⟨fuel, rfl, -⟩ := exists_fuel enough
  cases items with
  | nil =>
      have text : (indented depth (list [])).toList ++ rest = '[' :: ']' :: rest := by
        simp [indented, indentedItems, bracketed]
      rw [text, value?_list_nil]
  | cons item others =>
      have several : indentedItems (depth + 1) (item :: others) ≠ [] := by simp [indentedItems]
      have text : (indented depth (list (item :: others))).toList ++ rest =
          '[' :: ((indentation (depth + 1)).toList ++
            (body depth (indentedItems (depth + 1) (item :: others)) ++ ']' :: rest)) := by
        have characters := toList_bracketed '[' ']' depth several
        rw [indented]
        exact (congrArg (· ++ rest) characters).trans (by simp)
      rw [text] at enough ⊢
      simp only [List.length_cons, List.length_append] at enough
      have read := items?_indented depth each fuel rest (by
        simp only [List.length_cons, List.length_append]
        omega)
      obtain ⟨character, characters, start, starts⟩ :=
        starts_body_items (written item List.mem_cons_self) depth others (']' :: rest)
      rw [start] at read ⊢
      exact value?_list (isBlankText_indentation (depth + 1)) starts read

theorem readsBack_object {fields : List (Option String × Json)}
    (named : ∀ field ∈ fields, field.1.isSome = true)
    (each : ∀ field ∈ fields, field.2.ReadsBack) : (object fields).ReadsBack := by
  intro depth fuel rest _ enough
  obtain ⟨fuel, rfl, -⟩ := exists_fuel enough
  cases fields with
  | nil =>
      have text : (indented depth (object [])).toList ++ rest = '{' :: '}' :: rest := by
        simp [indented, indentedFields, bracketed]
      rw [text, value?_object_nil]
  | cons field others =>
      obtain ⟨name, value⟩ := field
      have several : indentedFields (depth + 1) ((name, value) :: others) ≠ [] := by
        simp [indentedFields]
      have text : (indented depth (object ((name, value) :: others))).toList ++ rest =
          '{' :: ((indentation (depth + 1)).toList ++
            (body depth (indentedFields (depth + 1) ((name, value) :: others)) ++
              '}' :: rest)) := by
        have characters := toList_bracketed '{' '}' depth several
        rw [indented]
        exact (congrArg (· ++ rest) characters).trans (by simp)
      rw [text] at enough ⊢
      simp only [List.length_cons, List.length_append] at enough
      have read := members?_indented depth named each fuel rest (by
        simp only [List.length_cons, List.length_append]
        omega)
      obtain ⟨name, rfl⟩ := Option.isSome_iff_exists.mp (named _ List.mem_cons_self)
      obtain ⟨characters, start⟩ := starts_body_fields depth name value others ('}' :: rest)
      rw [start] at read ⊢
      exact value?_object (isBlankText_indentation (depth + 1)) read

theorem areWritten_iff (items : List Json) :
    AreWritten items ↔ ∀ item ∈ items, item.IsWritten := by
  induction items with
  | nil => simp [AreWritten]
  | cons item items induction => simp [AreWritten, induction]

theorem fieldsAreWritten_iff (fields : List (Option String × Json)) :
    FieldsAreWritten fields ↔ ∀ field ∈ fields, field.1.isSome = true ∧ field.2.IsWritten := by
  induction fields with
  | nil => simp [FieldsAreWritten]
  | cons field fields induction =>
      obtain ⟨name, value⟩ := field
      rw [FieldsAreWritten, List.forall_mem_cons, induction, and_assoc]

mutual
theorem readsBack : ∀ value : Json, value.IsWritten → value.ReadsBack
  | .null, _ => readsBack_null
  | .boolean flag, _ => readsBack_boolean flag
  | .number text, written => by
      obtain ⟨numeral, read⟩ := Option.isSome_iff_exists.mp (by simpa [IsWritten] using written)
      exact readsBack_number read
  | .string text, written => by
      obtain ⟨content, rfl⟩ := Option.isSome_iff_exists.mp (by simpa [IsWritten] using written)
      exact readsBack_string content
  | .list items, written => by
      rw [IsWritten] at written
      exact readsBack_list ((areWritten_iff items).mp written) (readsBack_items items written)
  | .object fields, written => by
      rw [IsWritten] at written
      exact readsBack_object
        (fun field member => ((fieldsAreWritten_iff fields).mp written field member).1)
        (readsBack_fields fields written)

theorem readsBack_items : ∀ items : List Json, AreWritten items →
    ∀ item ∈ items, item.ReadsBack
  | [], _ => nofun
  | item :: items, written => by
      rw [AreWritten] at written
      exact List.forall_mem_cons.mpr
        ⟨readsBack item written.1, readsBack_items items written.2⟩

theorem readsBack_fields : ∀ fields : List (Option String × Json), FieldsAreWritten fields →
    ∀ field ∈ fields, field.2.ReadsBack
  | [], _ => nofun
  | (_, value) :: fields, written => by
      rw [FieldsAreWritten] at written
      exact List.forall_mem_cons.mpr
        ⟨readsBack value written.2.1, readsBack_fields fields written.2.2⟩
end

/-- A text that was written with indentation is read back. -/
theorem read?_pretty {value : Json} (written : value.IsWritten) :
    Json.read? value.pretty = some value := by
  have read := readsBack value written 0 (2 * value.pretty.toList.length + 2) [] nofun (by
    rw [List.append_nil, pretty]
    omega)
  rw [List.append_nil] at read
  rw [pretty] at read ⊢
  rw [Json.read?, read]
  rfl

end Dispatch.Json
