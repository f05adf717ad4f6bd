import Dispatch.Proofs.Frame.Network
import Dispatch.Proofs.Reachable.Current

namespace Dispatch

/-! What a new scale leaves alone. The positions that it writes are those of the term index, so
rows that have been left behind keep whatever else they hold. -/

variable {K : Type}

/-- Changes that each relate the states around them do so together. -/
theorem Change.forAll_related_of_mem {S α β : Type} {change : β → Change S α}
    (related : S → S → Prop) (refl : ∀ state, related state state)
    (trans : ∀ first second third, related first second → related second third →
      related first third) {items : List β}
    (relates : ∀ item ∈ items, ∀ state, related state (change item state).state) (state : S) :
    related state (forAll items change state).state := by
  induction items generalizing state with
  | nil => exact refl state
  | cons item rest induction =>
      obtain ⟨here, later⟩ := List.forall_mem_cons.mp relates
      rw [forAll_cons, bind_apply]
      split
      · exact here state
      · exact trans _ _ _ (here state) (induction later _)

namespace LinearFunction

theorem getElem?_foldl_setCoefficient {position : Nat} (patches : List (Nat × K))
    (elsewhere : ∀ patch ∈ patches, patch.1 ≠ position) (function : LinearFunction K) :
    (patches.foldl (fun function patch => function.setCoefficient patch.1 patch.2)
      function).terms[position]? = function.terms[position]? := by
  induction patches generalizing function with
  | nil => rfl
  | cons patch rest induction =>
      obtain ⟨here, later⟩ := List.forall_mem_cons.mp elsewhere
      rw [List.foldl_cons, induction later, setCoefficient]
      exact List.getElem?_modify_ne _ _ here

/-- A term at another position stays. -/
theorem getElem?_setCoefficients {function result : LinearFunction K} {positions : List Nat}
    {values : List K} (patched : function.setCoefficients positions values = .ok result)
    {position : Nat} (elsewhere : position ∉ positions) :
    result.terms[position]? = function.terms[position]? := by
  unfold setCoefficients at patched
  split at patched
  · cases patched
  · split at patched
    · cases patched
    · cases patched
      refine getElem?_foldl_setCoefficient _ (fun patch member same => ?_) function
      exact elsewhere (same ▸ (List.of_mem_zip member).1)

end LinearFunction

/-- At most coefficients are new. -/
structure Objective.Reweighed (before after : Objective K) : Prop where
  vars : after.function.terms.map Prod.fst = before.function.terms.map Prod.fst
  constant : after.function.constant = before.function.constant
  sense : after.sense = before.sense

namespace Plant

/-- At most the scale is new, and the coefficients of the objective. -/
structure ScalePatched (before after : Plant K) : Prop where
  rest : after = { before with scale := after.scale, objective := after.objective }
  objective : Option.Rel Objective.Reweighed before.objective after.objective

theorem reweighed_refl : ∀ objective : Option (Objective K),
    Option.Rel Objective.Reweighed objective objective
  | none => .none
  | some _ => .some ⟨rfl, rfl, rfl⟩

variable [Scalar K]

theorem reweighed_withCosts {plant result : Plant K} (moved : plant.withCosts = .ok result) :
    Option.Rel Objective.Reweighed plant.objective result.objective := by
  unfold withCosts at moved
  cases generated : plant.objective with
  | none =>
      rw [generated] at moved
      cases moved
      rw [generated]
      exact .none
  | some objective =>
      rw [generated] at moved
      obtain ⟨function, patched, rest⟩ := Except.bind_eq_ok.mp moved
      cases rest
      exact .some ⟨LinearFunction.vars_setCoefficients patched,
        LinearFunction.constant_setCoefficients patched, rfl⟩

theorem scalePatched_setScaleAt (address : Address) (values : List K) (physical abstract : Mode)
    (plant : Plant K) :
    let after := (Plant.setScaleAt address values physical abstract plant).state
    plant.ScalePatched after ∧ (abstract.writes = false → after.objective = plant.objective) := by
  have still (scale : K) : plant.ScalePatched (plant.rescaled scale) ∧
      (abstract.writes = false → (plant.rescaled scale).objective = plant.objective) :=
    ⟨⟨rfl, reweighed_refl _⟩, fun _ => rfl⟩
  dsimp only
  rw [setScaleAt_apply]
  split
  · exact still plant.scale
  · exact still plant.scale
  · rw [updateScale_apply]
    dsimp only
    split
    · exact still plant.scale
    · split
      · exact still plant.scale
      · split
        · exact still _
        · rename_i result moved
          unfold withScale at moved
          split at moved
          · rename_i writes
            have objective := reweighed_withCosts moved
            refine ⟨⟨?_, objective⟩, fun dry => ?_⟩
            · have rest := withScale_rest (show plant.withScale _ abstract = .ok result by
                rw [withScale, if_pos writes]
                exact moved)
              rw [rest]
            · rw [dry] at writes
              cases writes
          · cases moved
            exact still _

end Plant

/-- The same variables, with coefficients that are new at chosen positions, and bounds that are
new where the level may move. -/
structure Row.Rewritten (chosen : Nat → Prop) (level : Prop) (before after : Row K) : Prop where
  vars : after.function.terms.map Prod.fst = before.function.terms.map Prod.fst
  constant : after.function.constant = before.function.constant
  terms : ∀ position, ¬ chosen position →
    after.function.terms[position]? = before.function.terms[position]?
  bounds : ¬ level → after.lhs = before.lhs ∧ after.rhs = before.rhs

namespace Row.Rewritten

variable {chosen : Nat → Prop} {level : Prop} {first second third : Row K}

theorem trans (early : first.Rewritten chosen level second)
    (late : second.Rewritten chosen level third) : first.Rewritten chosen level third where
  vars := late.vars.trans early.vars
  constant := late.constant.trans early.constant
  terms position other := (late.terms position other).trans (early.terms position other)
  bounds fixed :=
    ⟨(late.bounds fixed).1.trans (early.bounds fixed).1,
      (late.bounds fixed).2.trans (early.bounds fixed).2⟩

theorem imp {wider : Nat → Prop} {looser : Prop} (positions : ∀ position, chosen position →
      wider position) (levels : level → looser) (rewritten : first.Rewritten chosen level second) :
    first.Rewritten wider looser second :=
  ⟨rewritten.vars, rewritten.constant,
    fun position other => rewritten.terms position fun here => other (positions position here),
    fun fixed => rewritten.bounds fun here => fixed (levels here)⟩

end Row.Rewritten

namespace Schedule

/-- The rows of a family, each as it was or rewritten by its own rule. -/
structure LinkRewritten (rows : List LinkRow) (chosen : LinkRow → Nat → Prop)
    (level : LinkRow → Prop) (before after : Link K) : Prop where
  rest : after = { before with rows := { before.rows with items := after.rows.items } }
  size : after.rows.items.length = before.rows.items.length
  items : ∀ (place : Nat) (item other : Row K), before.rows.items[place]? = some item →
    after.rows.items[place]? = some other →
      other = item ∨ ∃ row, rows[place]? = some row ∧ item.Rewritten (chosen row) (level row) other

namespace LinkRewritten

variable {rows : List LinkRow} {chosen : LinkRow → Nat → Prop} {level : LinkRow → Prop}
  {first second third : Link K}

theorem refl (link : Link K) : LinkRewritten rows chosen level link link := by
  refine ⟨rfl, rfl, fun place item other found again => .inl ?_⟩
  rw [found] at again
  exact (Option.some.inj again).symm

theorem trans (early : LinkRewritten rows chosen level first second)
    (late : LinkRewritten rows chosen level second third) :
    LinkRewritten rows chosen level first third := by
  refine ⟨?_, late.size.trans early.size, fun place item other found last => ?_⟩
  · have begun := early.rest
    rw [late.rest, begun]
  · have within : place < second.rows.items.length := by
      rw [early.size]
      exact (List.getElem?_eq_some_iff.mp found).1
    have middle := List.getElem?_eq_getElem within
    rcases early.items place item _ found middle with same | ⟨row, named, once⟩
    · exact late.items place item other (same ▸ middle) last
    · rcases late.items place _ other middle last with same | ⟨again, renamed, twice⟩
      · exact .inr ⟨row, named, same ▸ once⟩
      · rw [named] at renamed
        cases renamed
        exact .inr ⟨row, named, once.trans twice⟩

end LinkRewritten

theorem rewritten_applied {patch : RowPatch K} {row result : Row K}
    (applied : patch.applied row = .ok result) :
    row.Rewritten (· ∈ patch.span.positions) (patch.level ≠ none) result := by
  obtain ⟨function, patched, rest⟩ := Except.bind_eq_ok.mp applied
  have vars := LinearFunction.vars_setCoefficients patched
  have constant := LinearFunction.constant_setCoefficients patched
  dsimp only at rest
  cases level : patch.level with
  | none =>
      rw [level] at rest
      cases rest
      exact ⟨vars, constant, fun _ => LinearFunction.getElem?_setCoefficients patched,
        fun _ => ⟨rfl, rfl⟩⟩
  | some value =>
      rw [level] at rest
      cases rest
      exact ⟨vars, constant, fun _ => LinearFunction.getElem?_setCoefficients patched,
        fun fixed => absurd nofun fixed⟩

/-- A patch of one row, written at the place of that row. -/
def PatchesRow (schedule : Schedule K) (kind : LinkKind) (chosen : LinkRow → Nat → Prop)
    (level : LinkRow → Prop) (patch : RowPatch K) : Prop :=
  ∃ row ∈ schedule.linkRows kind, patch.place = schedule.rowPlace row ∧
    (∀ position ∈ patch.span.positions, chosen row position) ∧ (patch.level ≠ none → level row)

variable {schedule : Schedule K} {kind : LinkKind} {chosen : LinkRow → Nat → Prop}
  {level : LinkRow → Prop}

theorem rewritten_patchRow {patch : RowPatch K}
    (patches : schedule.PatchesRow kind chosen level patch) {link : Link K}
    (cols : link.rows.cols = schedule.linkCols kind) :
    LinkRewritten (schedule.linkRows kind) chosen level link (patchRow patch link).state := by
  obtain ⟨row, member, place, positions, levels⟩ := patches
  have listed : (schedule.linkRows kind)[schedule.rowIndex kind row]? = some row :=
    getElem?_linkRows.mpr ⟨member, rfl⟩
  have col_lt : (schedule.rowPlace row).2 < link.rows.cols := cols ▸ rowPlace_lt member
  have there : (schedule.rowPlace row).1 * link.rows.cols + (schedule.rowPlace row).2 =
      schedule.rowIndex kind row := by rw [cols, rowIndex]
  rw [patchRow_apply]
  split
  · exact .refl link
  · rename_i item found
    split
    · exact .refl link
    · rename_i new applied
      have rewritten := (rewritten_applied applied).imp positions levels
      rw [place] at found ⊢
      unfold Family.get? at found
      unfold Family.modify
      rw [if_pos col_lt, there] at found
      rw [if_pos col_lt, there]
      refine ⟨rfl, List.length_modify .., fun index old next stood last => ?_⟩
      dsimp only at last
      rw [List.getElem?_modify, stood] at last
      obtain rfl := Option.some.inj last
      dsimp only
      split
      · rename_i here
        rw [here] at found listed
        cases found.symm.trans stood
        exact .inr ⟨row, listed, rewritten⟩
      · exact .inl rfl

theorem rewritten_forAll {patches : List (RowPatch K)}
    (named : ∀ patch ∈ patches, schedule.PatchesRow kind chosen level patch) {link : Link K}
    (cols : link.rows.cols = schedule.linkCols kind) :
    LinkRewritten (schedule.linkRows kind) chosen level link
      (Change.forAll patches patchRow link).state := by
  refine Change.forAll_related_of_mem
    (fun before after => before.rows.cols = schedule.linkCols kind →
      LinkRewritten (schedule.linkRows kind) chosen level before after)
    (fun link _ => .refl link) (fun first second third early late cols => ?_)
    (fun patch member link cols => rewritten_patchRow (named patch member) cols) link cols
  have here := early cols
  refine here.trans (late ?_)
  rw [here.rest]
  exact cols

end Schedule

end Dispatch
