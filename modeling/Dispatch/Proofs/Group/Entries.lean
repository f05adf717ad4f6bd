import Dispatch.Group.Layouts
import Mathlib.Data.List.Nodup
import Mathlib.Tactic.SplitIfs

namespace Dispatch

/-! What a group holds under a name after it was written part by part, and groups that hold
nothing that another one lacks. -/

namespace Sorted

variable {α β : Type}

theorem get?_cons (first : String) (kept : α) (rest : Sorted α) (name : String) :
    get? ((first, kept) :: rest) name = if name = first then some kept else get? rest name := by
  by_cases same : name = first
  · simp [get?, same]
  · simp [get?, List.lookup_cons, beq_eq_false_iff_ne.mpr same, same]

theorem get?_insert (entries : Sorted α) (name : String) (value : α) (other : String) :
    get? (insert entries name value) other =
      if other = name then some value else get? entries other := by
  induction entries with
  | nil => exact get?_cons name value [] other
  | cons entry rest induction =>
      obtain ⟨first, kept⟩ := entry
      unfold insert
      split
      · rename_i equal
        subst equal
        rw [get?_cons, get?_cons]
        split <;> rfl
      · split
        · exact get?_cons name value _ other
        · rw [get?_cons, get?_cons, induction]
          split_ifs <;> simp_all

theorem get?_map (entries : Sorted α) (change : α → β) (name : String) :
    get? (entries.map fun entry => (entry.1, change entry.2)) name =
      (get? entries name).map change := by
  induction entries with
  | nil => rfl
  | cons entry rest induction =>
      rw [List.map_cons, get?_cons, get?_cons, induction]
      split <;> rfl

theorem contains_names (entries : Sorted α) (name : String) :
    (entries.map Prod.fst).contains name = (get? entries name).isSome := by
  induction entries with
  | nil => rfl
  | cons entry rest induction =>
      rw [List.map_cons, List.contains_cons, induction, get?_cons]
      by_cases same : name = entry.1 <;> simp [same]

/-- An entry that may be left out. -/
def fill (entries : Sorted α) (name : String) : Option α → Sorted α
  | none => entries
  | some value => insert entries name value

def fillAll (entries : Sorted α) (parts : List (String × Option α)) : Sorted α :=
  parts.foldl (fun entries part => fill entries part.1 part.2) entries

theorem get?_fill (entries : Sorted α) (name : String) (value : Option α) (other : String) :
    get? (fill entries name value) other =
      if other = name then value.or (get? entries name) else get? entries other := by
  cases value with
  | none => by_cases same : other = name <;> simp [fill, same]
  | some value => simp [fill, get?_insert]

theorem fillAll_append (entries : Sorted α) (first second : List (String × Option α)) :
    fillAll entries (first ++ second) = fillAll (fillAll entries first) second :=
  List.foldl_append

variable {entries : Sorted α} {name : String} {parts : List (String × Option α)}

theorem get?_fillAll_of_notMem (absent : name ∉ parts.map Prod.fst) :
    get? (fillAll entries parts) name = get? entries name := by
  induction parts generalizing entries with
  | nil => rfl
  | cons part rest induction =>
      rw [List.map_cons, List.mem_cons, not_or] at absent
      refine (induction absent.2).trans ?_
      rw [get?_fill, if_neg absent.1]

theorem get?_fillAll (distinct : (parts.map Prod.fst).Nodup) {value : Option α}
    (listed : (name, value) ∈ parts) :
    get? (fillAll entries parts) name = value.or (get? entries name) := by
  induction parts generalizing entries with
  | nil => cases listed
  | cons part rest induction =>
      obtain ⟨new, distinct⟩ := List.nodup_cons.mp distinct
      rcases List.mem_cons.mp listed with rfl | later
      · refine (get?_fillAll_of_notMem new).trans ?_
        rw [get?_fill, if_pos rfl]
      · refine (induction distinct later).trans ?_
        rw [get?_fill, if_neg]
        rintro rfl
        exact new (List.mem_map.mpr ⟨_, later, rfl⟩)

end Sorted

namespace Group

/-- A dimension that may be left out. -/
def fillDim (group : Group) (name : String) (value : Option Nat) : Group :=
  { group with dims := Sorted.fill group.dims name value }

/-- A field that may be left out. -/
def fill (group : Group) (name : String) (field : Option Field) : Group :=
  { group with fields := Sorted.fill group.fields name field }

/-! Parts under a condition are parts that may be left out. -/

theorem setDim_eq_fillDim (group : Group) (name : String) (value : Nat) :
    group.setDim name value = group.fillDim name (some value) := rfl

theorem putDoubles_eq_fill (group : Group) (layouts : Layouts) (name : String)
    (dims : List String) (values : List Float) :
    layouts.putDoubles group name dims values =
      group.fill name (some (layouts.fieldFor name dims values)) := rfl

theorem putCounts_eq_fill (group : Group) (name : String) (dims : List String)
    (values : List Nat) :
    group.putCounts name dims values = group.fill name (some ⟨dims, .counts values⟩) := rfl

theorem putTexts_eq_fill (group : Group) (name : String) (dims : List String)
    (values : List String) :
    group.putTexts name dims values = group.fill name (some ⟨dims, .texts values⟩) := rfl

theorem ite_fillDim (group : Group) (name : String) (value : Option Nat) (given : Prop)
    [Decidable given] :
    (if given then group.fillDim name value else group) =
      group.fillDim name (if given then value else none) := by
  cases group
  split <;> rfl

theorem ite_fill (group : Group) (name : String) (field : Option Field) (given : Prop)
    [Decidable given] :
    (if given then group.fill name field else group) =
      group.fill name (if given then field else none) := by
  cases group
  split <;> rfl

/-- Every dimension, array and member has one of its name in the other group, and a member
holds no more than that one does. -/
inductive Within : Group → Group → Prop
  | intro {inner outer : Group}
      (dims : ∀ name, (inner.dim? name).isSome → (outer.dim? name).isSome)
      (fields : ∀ name, (inner.field? name).isSome → (outer.field? name).isSome)
      (listed : ∀ name, (inner.member? name).isSome → (outer.member? name).isSome)
      (members : ∀ name member kept, inner.member? name = some member →
        outer.member? name = some kept → Within member kept) : Within inner outer

end Group

/-- Dimensions and arrays under their names; one without a value is left out. -/
@[ext] structure Page where
  dims : List (String × Option Nat)
  fields : List (String × Option Field)

namespace Page

instance : Append Page where
  append first second := ⟨first.dims ++ second.dims, first.fields ++ second.fields⟩

@[simp] theorem dims_append (first second : Page) :
    (first ++ second).dims = first.dims ++ second.dims := rfl

@[simp] theorem fields_append (first second : Page) :
    (first ++ second).fields = first.fields ++ second.fields := rfl

/-- A group with all that a page has. -/
def fillIn (page : Page) (group : Group) : Group :=
  { group with
    dims := Sorted.fillAll group.dims page.dims
    fields := Sorted.fillAll group.fields page.fields }

theorem fillIn_append (first second : Page) (group : Group) :
    (first ++ second).fillIn group = second.fillIn (first.fillIn group) := by
  simp only [fillIn, dims_append, fields_append, Sorted.fillAll_append]

/-- Under every name of the page the group has what the page has. -/
structure Stands (page : Page) (saved : Group) : Prop where
  dims : ∀ part ∈ page.dims, saved.dim? part.1 = part.2
  fields : ∀ part ∈ page.fields, saved.field? part.1 = part.2

/-- No name of the page is new to the group. -/
structure Fits (page : Page) (outer : Group) : Prop where
  dims : ∀ part ∈ page.dims, part.2.isSome → (outer.dim? part.1).isSome
  fields : ∀ part ∈ page.fields, part.2.isSome → (outer.field? part.1).isSome

variable {first second : Page} {group : Group}

theorem stands_append :
    (first ++ second).Stands group ↔ first.Stands group ∧ second.Stands group := by
  constructor
  · rintro ⟨dims, fields⟩
    obtain ⟨dimsFirst, dimsSecond⟩ := List.forall_mem_append.mp dims
    obtain ⟨fieldsFirst, fieldsSecond⟩ := List.forall_mem_append.mp fields
    exact ⟨⟨dimsFirst, fieldsFirst⟩, ⟨dimsSecond, fieldsSecond⟩⟩
  · rintro ⟨left, right⟩
    exact ⟨List.forall_mem_append.mpr ⟨left.dims, right.dims⟩,
      List.forall_mem_append.mpr ⟨left.fields, right.fields⟩⟩

theorem Fits.append (left : first.Fits group) (right : second.Fits group) :
    (first ++ second).Fits group :=
  ⟨List.forall_mem_append.mpr ⟨left.dims, right.dims⟩,
    List.forall_mem_append.mpr ⟨left.fields, right.fields⟩⟩

end Page

/-- All parts of a group under their names, which differ. -/
structure Sheet extends Page where
  members : List (String × Option Group)
  distinctDims : (dims.map Prod.fst).Nodup
  distinctFields : (fields.map Prod.fst).Nodup
  distinctMembers : (members.map Prod.fst).Nodup

namespace Sheet

def group (sheet : Sheet) : Group where
  dims := Sorted.fillAll [] sheet.dims
  fields := Sorted.fillAll [] sheet.fields
  groups := Sorted.fillAll [] sheet.members

variable {sheet : Sheet} {name : String}

theorem dim? {value : Option Nat} (listed : (name, value) ∈ sheet.dims) :
    sheet.group.dim? name = value :=
  (Sorted.get?_fillAll sheet.distinctDims listed).trans Option.or_none

theorem field? {field : Option Field} (listed : (name, field) ∈ sheet.fields) :
    sheet.group.field? name = field :=
  (Sorted.get?_fillAll sheet.distinctFields listed).trans Option.or_none

theorem member? {member : Option Group} (listed : (name, member) ∈ sheet.members) :
    sheet.group.member? name = member :=
  (Sorted.get?_fillAll sheet.distinctMembers listed).trans Option.or_none

theorem stands (sheet : Sheet) : sheet.toPage.Stands sheet.group :=
  ⟨fun _ listed => dim? listed, fun _ listed => field? listed⟩

theorem within {outer : Group} (page : sheet.toPage.Fits outer)
    (members : ∀ part ∈ sheet.members, ∀ member, part.2 = some member →
      ∃ kept, outer.member? part.1 = some kept ∧ member.Within kept) :
    sheet.group.Within outer := by
  have listed {α : Type} {parts : List (String × Option α)} (name : String)
      (given : (Sorted.get? (Sorted.fillAll [] parts) name).isSome) :
      ∃ part ∈ parts, part.1 = name := by
    by_contra absent
    rw [Sorted.get?_fillAll_of_notMem fun member => absent (List.mem_map.mp member)] at given
    cases given
  refine .intro (fun name given => ?_) (fun name given => ?_) (fun name given => ?_)
    fun name member kept found there => ?_
  · obtain ⟨part, member, rfl⟩ := listed name given
    exact page.dims part member (sheet.dim? member ▸ given)
  · obtain ⟨part, member, rfl⟩ := listed name given
    exact page.fields part member (sheet.field? member ▸ given)
  · obtain ⟨part, member, rfl⟩ := listed name given
    obtain ⟨inner, found⟩ := Option.isSome_iff_exists.mp (sheet.member? member ▸ given)
    obtain ⟨kept, there, -⟩ := members part member inner found
    rw [there]
    rfl
  · obtain ⟨part, entry, rfl⟩ := listed name (Option.isSome_of_eq_some found)
    obtain ⟨other, same, inside⟩ :=
      members part entry member ((sheet.member? entry).symm.trans found)
    cases same.symm.trans there
    exact inside

/-- Equal parts make equal groups. -/
theorem group_congr {first second : Sheet} (page : first.toPage = second.toPage)
    (members : first.members = second.members) : first.group = second.group := by
  rw [group, group, page, members]

end Sheet

def Field.layout (field : Field) : Layout :=
  ⟨field.dims, field.size, field.values.isCounts⟩

namespace Layouts

@[simp] theorem hasDim_ofGroup (group : Group) (name : String) :
    (ofGroup group).hasDim name = (group.dim? name).isSome :=
  Sorted.contains_names group.dims name

@[simp] theorem layout?_ofGroup (group : Group) (name : String) :
    (ofGroup group).layout? name = (group.field? name).map Field.layout :=
  Sorted.get?_map group.fields Field.layout name

@[simp] theorem hasField_ofGroup (group : Group) (name : String) :
    (ofGroup group).hasField name = (group.field? name).isSome := by
  simp [hasField]

theorem dimsOr_ofGroup (group : Group) (name : String) (default : List String) :
    (ofGroup group).dimsOr name default = ((group.field? name).map Field.dims).getD default := by
  simp only [dimsOr, layout?_ofGroup, Option.map_map]
  rfl

end Layouts

end Dispatch
