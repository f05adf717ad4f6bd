import Dispatch.Proofs.Attempt.Plant
import Dispatch.Proofs.Closure.Plant

namespace Dispatch

/-! Generation of a plant with all of its lookups: cells of grids, entries of profiles and
coefficients that were computed before. -/

open Attempt (current require revise)

variable {K : Type}

namespace Store

variable {store : Store K} {grid : Grid} {rows cols row col : Nat}

/-- There is no cell outside the grid. -/
def at? (store : Store K) (grid : Grid) (row col : Nat) : Option VarRef :=
  if row < grid.rows ∧ col < grid.cols then some (store.cell grid row col) else none

/-- A grid without slots is not looked into. -/
def optionalAt? (store : Store K) (grid : Grid) (row col : Nat) : Option (Option VarRef) :=
  if grid.isEmpty then some none else (store.at? grid row col).map some

theorem Lays.at? (lays : store.Lays grid rows cols) (row_lt : row < rows) (col_lt : col < cols) :
    store.at? grid row col = some (store.cell grid row col) :=
  if_pos ⟨lays.height.symm ▸ row_lt, lays.width.symm ▸ col_lt⟩

theorem LaysOrEmpty.optionalAt? (lays : store.LaysOrEmpty grid rows cols) (row_lt : row < rows)
    (col_lt : col < cols) :
    store.optionalAt? grid row col = some (store.cell? grid row col) := by
  unfold Store.optionalAt? Store.cell?
  split
  · rfl
  · rename_i present
    rw [(lays.resolve_left present).at? row_lt col_lt]
    rfl

end Store

namespace Plant

variable [Scalar K]

def capacityUse? (plant : Plant K) (generator instant : Nat) : Option (List (VarRef × K)) := do
  let power ← plant.store.at? plant.activePower generator instant
  let primary ← plant.store.optionalAt? plant.primaryReserve generator instant
  let secondary ← plant.store.optionalAt? plant.secondaryReserve generator instant
  return (power, 1) :: (weighted 1 primary ++ weighted 1 secondary)

/-- What one generator has at one instant: a box or a lower row, and an upper row. -/
structure CellRows (K : Type) where
  box? : Option (Box K)
  lower? : Option (Row K)
  upper? : Option (Row K)

def cellRows? (plant : Plant K) (generator instant : Nat) : Option (CellRows K) := do
  let power ← plant.store.at? plant.activePower generator instant
  let least ← plant.data.entry? plant.data.minPower generator instant
  let most ← plant.data.entry? plant.data.maxPower generator instant
  let use ← plant.capacityUse? generator instant
  match ← plant.store.optionalAt? plant.commitment generator instant with
  | some commitment =>
      return ⟨none,
        some ⟨.ofTerms [(power, 1), (commitment, -least)], 0, Scalar.infinity⟩,
        some ⟨.ofTerms (use ++ [(commitment, -most)]), -Scalar.infinity, 0⟩⟩
  | none =>
      return ⟨some ⟨power, least, most⟩, none,
        if plant.hasReserves then some ⟨.ofTerms use, -Scalar.infinity, most⟩ else none⟩

def withConstraints? (plant : Plant K) : Option (Plant K) := do
  let rows ← plant.data.cells.mapM fun cell => plant.cellRows? cell.1 cell.2
  return { plant with
    stage := .constraints
    powerBounds := { plant.powerBounds with items := rows.filterMap CellRows.box? }
    minPowerRows := { plant.minPowerRows with items := rows.filterMap CellRows.lower? }
    maxPowerRows := { plant.maxPowerRows with items := rows.filterMap CellRows.upper? } }

/-- The term of a cell, by its running number. -/
def costTerm? (plant : Plant K) (coefficients : List K) (entry : (Nat × Nat) × Nat) :
    Option (VarRef × K) := do
  let power ← plant.store.at? plant.activePower entry.1.1 entry.1.2
  return (power, ← coefficients[entry.2]?)

/-- The coefficients are computed before the terms that they go to. -/
def withObjective? (plant : Plant K) : Option (Plant K) := do
  let coefficients ← plant.costCoefficients?
  let terms ← plant.data.cells.zipIdx.mapM (plant.costTerm? coefficients)
  return { plant with stage := .objective, objective := some ⟨.ofTerms terms, .minimise⟩ }

def step? (target : Stage) (advance? : Plant K → Option (Plant K)) : Attempt (Plant K) PUnit := do
  let plant ← current
  match ← require (plant.stage.enter target) with
  | .skip => return ⟨⟩
  | .run => revise advance?

def generateVariables? : Attempt (Plant K) PUnit := step? .vars fun plant => plant.withVariables

def generateConstraints? : Attempt (Plant K) PUnit := step? .constraints withConstraints?

def generateObjective? : Attempt (Plant K) PUnit := step? .objective withObjective?

variable {plant : Plant K}

/-- The rows of one cell, as the families of the plant list them. -/
def cellRows (plant : Plant K) (generator instant : Nat) : CellRows K :=
  ⟨plant.powerBox? generator instant, plant.minPowerRow? generator instant,
    plant.maxPowerRow? generator instant⟩

section Lookups

variable (grounded : plant.Grounded) (shaped : plant.data.Shaped)
  (generated : plant.stage.hasVariables = true) {generator instant : Nat}
  (generator_lt : generator < plant.generators) (instant_lt : instant < plant.horizon)

include grounded generated generator_lt instant_lt in
omit [Scalar K] in
theorem power_at? : plant.store.at? plant.activePower generator instant =
    some (plant.power generator instant) :=
  (grounded.power generated).at? generator_lt instant_lt

include grounded generator_lt instant_lt in
omit [Scalar K] in
theorem grid_optionalAt? {grid : Grid} (member : grid ∈ plant.grids) :
    plant.store.optionalAt? grid generator instant =
      some (plant.store.cell? grid generator instant) :=
  (grounded.grids grid member).optionalAt? generator_lt instant_lt

include grounded generated generator_lt instant_lt in
theorem capacityUse?_eq :
    plant.capacityUse? generator instant = some (plant.capacityUse generator instant) := by
  have primary : plant.primaryReserve ∈ plant.grids := by simp [grids]
  have secondary : plant.secondaryReserve ∈ plant.grids := by simp [grids]
  unfold capacityUse?
  rw [power_at? grounded generated generator_lt instant_lt,
    grid_optionalAt? grounded generator_lt instant_lt primary,
    grid_optionalAt? grounded generator_lt instant_lt secondary]
  rfl

include grounded shaped generated generator_lt instant_lt in
theorem cellRows?_eq :
    plant.cellRows? generator instant = some (plant.cellRows generator instant) := by
  have least : plant.data.entry? plant.data.minPower generator instant =
      some (plant.minPower generator instant) :=
    shaped.entry_found (by simp [PlantData.profiles]) generator_lt instant_lt
  have most : plant.data.entry? plant.data.maxPower generator instant =
      some (plant.maxPower generator instant) :=
    shaped.entry_found (by simp [PlantData.profiles]) generator_lt instant_lt
  have commitment : plant.store.optionalAt? plant.commitment generator instant =
      some (plant.commitmentVar? generator instant) :=
    grid_optionalAt? grounded generator_lt instant_lt (by simp [grids])
  unfold cellRows? cellRows powerBox? minPowerRow? maxPowerRow?
  rw [power_at? grounded generated generator_lt instant_lt, least, most,
    capacityUse?_eq grounded generated generator_lt instant_lt, commitment]
  cases plant.commitmentVar? generator instant with
  | none => rfl
  | some commitment => rfl

end Lookups

theorem withConstraints?_eq (grounded : plant.Grounded) (shaped : plant.data.Shaped)
    (generated : plant.stage.hasVariables = true) :
    plant.withConstraints? = some plant.withConstraints := by
  have rows : (plant.data.cells.mapM fun cell => plant.cellRows? cell.1 cell.2) =
      some (plant.data.cells.map fun cell => plant.cellRows cell.1 cell.2) :=
    Lookup.mapM_eq_some fun cell member => by
      obtain ⟨generator_lt, instant_lt⟩ := PlantData.mem_cells.mp member
      exact cellRows?_eq grounded shaped generated generator_lt instant_lt
  unfold withConstraints? withConstraints collect
  rw [rows]
  simp only [Option.bind_eq_bind, Option.bind_some, List.filterMap_map, Function.comp_def]
  rfl

theorem withObjective?_eq (grounded : plant.Grounded) (shaped : plant.data.Shaped)
    (generated : plant.stage.hasVariables = true) :
    plant.withObjective? = some plant.withObjective := by
  have terms : plant.data.cells.zipIdx.mapM (plant.costTerm? plant.costCoefficients) =
      some (plant.data.cells.zipIdx.map fun entry =>
        (plant.power entry.1.1 entry.1.2, plant.costCoefficient entry.1.1 entry.1.2)) :=
    Lookup.mapM_eq_some fun entry member => by
      obtain ⟨cell, index⟩ := entry
      have found := List.mk_mem_zipIdx_iff_getElem?.mp member
      obtain ⟨generator_lt, instant_lt⟩ := PlantData.mem_cells.mp (List.mem_of_getElem? found)
      have coefficient : plant.costCoefficients[index]? =
          some (plant.costCoefficient cell.1 cell.2) := by
        rw [costCoefficients, List.getElem?_map, found]
        rfl
      unfold costTerm?
      rw [power_at? grounded generated generator_lt instant_lt, coefficient]
      rfl
  have listed : (plant.data.cells.zipIdx.map fun entry =>
        (plant.power entry.1.1 entry.1.2, plant.costCoefficient entry.1.1 entry.1.2)) =
      plant.data.cells.map fun cell =>
        (plant.power cell.1 cell.2, plant.costCoefficient cell.1 cell.2) := by
    conv_rhs => rw [← List.zipIdx_map_fst 0 plant.data.cells, List.map_map]
    rfl
  unfold withObjective? withObjective costFunction
  rw [costCoefficients?_eq shaped]
  simp only [Option.bind_eq_bind, Option.bind_some, terms, listed]
  rfl

omit [Scalar K] in
theorem completes_step {target : Stage} {advance? : Plant K → Option (Plant K)}
    {advance : Plant K → Plant K}
    (runs : plant.stage.enter target = .ok .run → advance? plant = some (advance plant)) :
    Attempt.Completes (step? target advance?) (step target advance) plant := by
  apply Attempt.Completes.current
  refine Attempt.Completes.require fun action entered => ?_
  cases action with
  | skip => rfl
  | run =>
      unfold Attempt.Completes revise
      dsimp only
      rw [runs entered]
      rfl

theorem completes_generateVariables (plant : Plant K) :
    Attempt.Completes generateVariables? generateVariables plant :=
  completes_step fun _ => rfl

theorem completes_generateConstraints (grounded : plant.Grounded) (shaped : plant.Shaped) :
    Attempt.Completes generateConstraints? generateConstraints plant :=
  completes_step fun entered => withConstraints?_eq grounded shaped.data (by
    rw [Stage.enter_constraints entered]
    rfl)

theorem completes_generateObjective (grounded : plant.Grounded) (shaped : plant.Shaped) :
    Attempt.Completes generateObjective? generateObjective plant :=
  completes_step fun entered => withObjective?_eq grounded shaped.data (by
    rw [Stage.enter_objective entered]
    rfl)

end Plant

end Dispatch
