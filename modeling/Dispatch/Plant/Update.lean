import Dispatch.Change.Selection
import Dispatch.Plant.Generation

namespace Dispatch.Plant

/-! Rescaling. The scale is the only entry of its vector, and the only generated part that
depends on it within the plant is the cost of each power variable. -/

variable {K : Type} [Scalar K]

def withCosts (plant : Plant K) : Except Error (Plant K) :=
  match plant.objective with
  | none => .ok plant
  | some objective => do
      let values := plant.costCoefficients
      let function ← objective.function.setCoefficients (List.range values.length) values
      return { plant with objective := some { objective with function } }

def patchCosts : Change (Plant K) PUnit := do
  let plant ← Change.current
  let plant ← Change.require plant.withCosts
  Change.write fun _ => plant

def updateScale (selection : Selection) (values : List K) (physical abstract : Mode) :
    Change (Plant K) Outcome := do
  let plant ← Change.current
  if !selection.differs [plant.scale] 1 values then return .unchanged
  if !physical.writes then return .dryRun
  let scale := (selection.write [plant.scale] 1 1 values).headD plant.scale
  Change.write fun plant => { plant with scale }
  if abstract.writes then patchCosts
  Change.report physical plant.notifier (selection.record plant.id .scale)
  return .applied

def setScaleAt (address : Address) (values : List K) (physical abstract : Mode) :
    Change (Plant K) Outcome := do
  match ← Change.require (address.select 1 values.length "scale") with
  | none => return .unchanged
  | some selection => updateScale selection values physical abstract

def setScale (scale : K) (physical abstract : Mode) : Change (Plant K) Outcome :=
  setScaleAt (.range 0 1) [scale] physical abstract

end Dispatch.Plant
