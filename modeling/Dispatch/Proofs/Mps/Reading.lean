import Dispatch.Proofs.Mps.Words

namespace Dispatch

/-! Free MPS text, read by the rules of the format. A line that begins with a blank is a record
of the section that it stands in, any other names a section. -/

/-- What stands in the bounds section about one column. -/
inductive Bound (K : Type)
  | lower (value : K)
  | upper (value : K)
  | fixed (value : K)
  | free
  | minusInfinity
  | binary

/-- What the sections of a text say, each in its order. A row without a sense is free. -/
structure Deck (K : Type) where
  sense : Sense
  rows : List (String × Option MpsSense)
  /-- A column, a row and the coefficient there. -/
  entries : List (String × String × K)
  rhs : List (String × K)
  ranges : List (String × K)
  bounds : List (String × Bound K)

/-- Numbers in a text are words and read back. -/
structure Numerals (K : Type) where
  write : K → String
  read? : String → Option K
  read_write : ∀ value, read? (write value) = some value
  isWord : ∀ value, Mps.IsWord (write value)

def Bound.map {K L : Type} (meaning : K → L) : Bound K → Bound L
  | .lower value => .lower (meaning value)
  | .upper value => .upper (meaning value)
  | .fixed value => .fixed (meaning value)
  | .free => .free
  | .minusInfinity => .minusInfinity
  | .binary => .binary

def Deck.map {K L : Type} (meaning : K → L) (deck : Deck K) : Deck L where
  sense := deck.sense
  rows := deck.rows
  entries := deck.entries.map fun entry => (entry.1, entry.2.1, meaning entry.2.2)
  rhs := deck.rhs.map fun pair => (pair.1, meaning pair.2)
  ranges := deck.ranges.map fun pair => (pair.1, meaning pair.2)
  bounds := deck.bounds.map fun bound => (bound.1, bound.2.map meaning)

@[simp] theorem Bound.map_id {K : Type} (bound : Bound K) : bound.map id = bound := by
  cases bound <;> rfl

@[simp] theorem Deck.map_id {K : Type} (deck : Deck K) : deck.map id = deck := by
  simp [Deck.map]

/-- A number is written as the one that it stands for. -/
def Numerals.through {K L : Type} (numerals : Numerals L) (meaning : K → L) (value : K) : String :=
  numerals.write (meaning value)

namespace Mps

variable {K : Type}

inductive Section
  | preamble
  | sense
  | rows
  | columns
  | rhs
  | ranges
  | bounds
  | finished
deriving DecidableEq, Repr

def sectionOf? : List String → Option Section
  | "NAME" :: _ => some .preamble
  | ["OBJSENSE"] => some .sense
  | ["ROWS"] => some .rows
  | ["COLUMNS"] => some .columns
  | ["RHS"] => some .rhs
  | ["RANGES"] => some .ranges
  | ["BOUNDS"] => some .bounds
  | ["ENDATA"] => some .finished
  | _ => none

def rowSense? : String → Option (Option MpsSense)
  | "N" => some none
  | "G" => some (some .greater)
  | "L" => some (some .less)
  | "E" => some (some .equal)
  | _ => none

def boundOf? : String → Option K → Option (Bound K)
  | "LO", some value => some (.lower value)
  | "UP", some value => some (.upper value)
  | "FX", some value => some (.fixed value)
  | "FR", none => some .free
  | "MI", none => some .minusInfinity
  | "BV", none => some .binary
  | _, _ => none

/-- Names and numbers in turn. -/
def readPairs (read? : String → Option K) : List String → Option (List (String × K))
  | [] => some []
  | name :: numeral :: rest => do
      let value ← read? numeral
      let pairs ← readPairs read? rest
      some ((name, value) :: pairs)
  | [_] => none

/-- The first word of a right-hand side, a range or the second of a bound names a set, of which
there is only one. -/
def readRecord (read? : String → Option K) : Section → List String → Deck K → Option (Deck K)
  | .sense, ["MIN"], deck => some { deck with sense := .minimise }
  | .sense, ["MAX"], deck => some { deck with sense := .maximise }
  | .rows, [code, name], deck =>
      (rowSense? code).map fun sense => { deck with rows := deck.rows ++ [(name, sense)] }
  | .columns, column :: pairs, deck =>
      (readPairs read? pairs).map fun pairs =>
        { deck with entries := deck.entries ++ pairs.map fun pair => (column, pair) }
  | .rhs, _ :: pairs, deck =>
      (readPairs read? pairs).map fun pairs => { deck with rhs := deck.rhs ++ pairs }
  | .ranges, _ :: pairs, deck =>
      (readPairs read? pairs).map fun pairs => { deck with ranges := deck.ranges ++ pairs }
  | .bounds, [code, _, column], deck =>
      (boundOf? code none).map fun bound =>
        { deck with bounds := deck.bounds ++ [(column, bound)] }
  | .bounds, [code, _, column, numeral], deck => do
      let value ← read? numeral
      let bound ← boundOf? code (some value)
      some { deck with bounds := deck.bounds ++ [(column, bound)] }
  | _, _, _ => none

/-- Nothing is read after the end, and a line without words says nothing. -/
def readLine (read? : String → Option K) (place : Section × Deck K) (line : List Char) :
    Option (Section × Deck K) :=
  if place.1 = .finished then some place
  else if words line = [] then some place
  else if line.head?.any Char.isWhitespace then
    (readRecord read? place.1 (words line) place.2).map fun deck => (place.1, deck)
  else (sectionOf? (words line)).map fun next => (next, place.2)

end Mps

namespace Deck

open Mps

variable {K : Type}

def empty : Deck K := ⟨.minimise, [], [], [], [], []⟩

/-- A text without an end is not read. -/
def read? (numerals : Numerals K) (text : String) : Option (Deck K) := do
  let (last, deck) ← (textLines text).foldlM (readLine numerals.read?) (.preamble, empty)
  if last = .finished then some deck else none

end Deck

/-- All values from `lower` to `upper`. -/
structure Bounds (K : Type) where
  lower : K
  upper : K
deriving DecidableEq

namespace Bounds

variable {K : Type} [Scalar K]

def Holds (bounds : Bounds K) (value : K) : Prop :=
  Scalar.atMost bounds.lower value = true ∧ Scalar.atMost value bounds.upper = true

end Bounds

/-- The values that a row allows, by its sense, its right-hand side and its range. -/
def MpsSense.bounds {K : Type} [Scalar K] (rhs : K) : MpsSense → Option K → Bounds K
  | .greater, none => ⟨rhs, Scalar.infinity⟩
  | .less, none => ⟨-Scalar.infinity, rhs⟩
  | .equal, none => ⟨rhs, rhs⟩
  | .greater, some range => ⟨rhs, rhs + Scalar.magnitude range⟩
  | .less, some range => ⟨rhs - Scalar.magnitude range, rhs⟩
  | .equal, some range =>
      if Scalar.below range 0 then ⟨rhs - Scalar.magnitude range, rhs⟩
      else ⟨rhs, rhs + Scalar.magnitude range⟩

/-- A column of a text: whether its values are whole, and where they lie. -/
structure DeckColumn (K : Type) where
  isInteger : Bool
  bounds : Bounds K

namespace DeckColumn

variable {K : Type} [Scalar K]

/-- What holds of a column about which nothing is said. -/
def default : DeckColumn K := ⟨false, 0, Scalar.infinity⟩

def bounded (column : DeckColumn K) : Bound K → DeckColumn K
  | .lower value => { column with bounds.lower := value }
  | .upper value => { column with bounds.upper := value }
  | .fixed value => { column with bounds := ⟨value, value⟩ }
  | .free => { column with bounds := ⟨-Scalar.infinity, Scalar.infinity⟩ }
  | .minusInfinity => { column with bounds.lower := -Scalar.infinity }
  | .binary => ⟨true, 0, 1⟩

end DeckColumn

namespace Mps

/-- Everything that is said of a key. -/
def said {κ α : Type} [DecidableEq κ] (key : κ) (about : List (κ × α)) : List α :=
  about.filterMap fun item => if item.1 = key then some item.2 else none

/-- Something that is said once at most. -/
def once? {α : Type} (absent : α) : List α → Option α
  | [] => some absent
  | [value] => some value
  | _ => none

end Mps

namespace Deck

variable {K : Type} [Scalar K] (deck : Deck K)

open Mps

def coefficient? (column row : String) : Option K :=
  once? 0 (said row (said column deck.entries))

def rhs? (row : String) : Option K :=
  once? 0 (said row deck.rhs)

def range? (row : String) : Option (Option K) :=
  once? none ((said row deck.ranges).map some)

def sense? (row : String) : Option MpsSense :=
  (once? none (said row deck.rows)).join

/-- A row that is free or not there has no bounds. -/
def bounds? (row : String) : Option (Bounds K) := do
  let sense ← deck.sense? row
  let rhs ← deck.rhs? row
  let range ← deck.range? row
  some (sense.bounds rhs range)

def column (name : String) : DeckColumn K :=
  (said name deck.bounds).foldl DeckColumn.bounded .default

/-- The first free row is the objective. -/
def objective? : Option String :=
  (deck.rows.find? fun row => row.2.isNone).map Prod.fst

/-- The right-hand side of the objective is what is taken off it. -/
def constant? : Option K := do
  let objective ← deck.objective?
  let rhs ← deck.rhs? objective
  some (-rhs)

/-- The rows that are not free, in their order. -/
def boundedRows : List String :=
  (deck.rows.filter fun row => row.2.isSome).map Prod.fst

end Deck

end Dispatch
