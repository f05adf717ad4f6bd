import Dispatch.Pipeline
import Dispatch.Proofs.Attempt.Export
import Dispatch.Proofs.Attempt.Filing

namespace Dispatch.Pipeline

/-! The way of a group through the library: it is read, generated, exported, listed and
written back. Nothing on the way looks up an entry that is not there. -/

/-- What comes out for a group that can be read, also where its generation is refused. -/
structure Products where
  generated : Except Error PUnit
  model : Except Error String
  constraintTable : String
  variableTable : String
  saved : Group

def process (group : Group) : Creation Products := do
  let schedule ← Schedule.ofGroup group
  let effect := schedule.generateAll
  let model := effect.state.model
  return {
    generated := effect.result
    model := model.mps "uc"
    constraintTable := model.constraintTable
    variableTable := model.variableTable
    saved := effect.state.write Group.empty }

/-- The same with all of its lookups. `none` is where the program would stop: an index past
the end of a list, a division by zero, or pieces of size zero. -/
def process? (group : Group) : Making Products := do
  let schedule ← Schedule.ofGroup? group
  let effect ← Making.look (Schedule.generateAll? schedule)
  let model := effect.state.model
  let text ← Making.look (model.mpsWith? Decimal.Style.plain.text "uc")
  let saved ← Making.look (effect.state.write? Group.empty)
  return {
    generated := effect.result
    model := text
    constraintTable := model.constraintTable
    variableTable := model.variableTable
    saved }

section Generated

open Schedule

variable {schedule : Schedule Float}

theorem sound_generateAll (sound : schedule.Sound) : (generateAll schedule).state.Sound :=
  generateAll_keeps Sound (fun _ => Sound.generateVariables) (fun _ => Sound.generateConstraints)
    (fun _ => Sound.generateObjective) sound

theorem closed_generateAll (grounded : schedule.Grounded) (distinct : schedule.members.Nodup) :
    (generateAll schedule).state.model.Closed :=
  Grounded.closed
    (generateAll_keeps Grounded (fun _ => Grounded.generateVariables)
      (fun _ => Grounded.generateConstraints) (fun _ => Grounded.generateObjective) grounded)
    ((members_generateAll schedule).symm ▸ distinct)

end Generated

/-- Whatever the group holds, the pipeline ends in its products or in an error. -/
theorem process?_eq_some (group : Group) (taken : Nat) :
    process? group taken = some (process group taken) := by
  refine Making.Completes.bind (Schedule.completes_ofGroupWith .plain group taken)
    fun schedule _ created => ?_
  have assembled := Schedule.assembled_ofGroupWith created
  have closed := closed_generateAll assembled.grounded
    (Schedule.nodup_members_ofGroupWith created)
  have generated := assembled.ready.completes_generateAll
  have text := closed.completes_mpsWith Decimal.Style.plain.text "uc"
  have saved := Schedule.write?_eq (sound_generateAll assembled.sound).stocked.filled Group.empty
  exact Making.Completes.look generated (.look text (.look saved rfl))

end Dispatch.Pipeline
