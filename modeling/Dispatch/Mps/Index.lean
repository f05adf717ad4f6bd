import Std.Data.HashMap
import Dispatch.Block

namespace Dispatch

/-! Values gathered by the variable they belong to. Looking a variable up gives its values
in the order of the list, as a search through the whole list would. -/

structure VarIndex (α : Type) where
  table : Std.HashMap VarRef (List α)

namespace VarIndex

variable {α : Type}

def ofEntries (entries : List (VarRef × α)) : VarIndex α :=
  ⟨entries.foldr (fun entry table =>
    table.insert entry.1 (entry.2 :: table.getD entry.1 [])) ∅⟩

def find (index : VarIndex α) (var : VarRef) : List α :=
  index.table.getD var []

def contains (index : VarIndex α) (var : VarRef) : Bool :=
  index.table.contains var

theorem find_ofEntries (entries : List (VarRef × α)) (var : VarRef) :
    (ofEntries entries).find var =
      entries.filterMap fun entry => if entry.1 = var then some entry.2 else none := by
  induction entries with
  | nil => simp [ofEntries, find]
  | cons entry rest ih =>
      simp only [ofEntries, find] at ih
      simp only [ofEntries, find, List.foldr_cons, Std.HashMap.getD_insert,
        List.filterMap_cons]
      by_cases same : entry.1 = var
      · subst same
        simp [ih]
      · simp [same, ih]

theorem contains_ofEntries (entries : List (VarRef × α)) (var : VarRef) :
    (ofEntries entries).contains var = (entries.map Prod.fst).contains var := by
  induction entries with
  | nil => simp [ofEntries, contains]
  | cons entry rest ih =>
      simp only [ofEntries, contains] at ih
      simp only [ofEntries, contains, List.foldr_cons, Std.HashMap.contains_insert,
        List.map_cons, List.contains_cons, ih]
      rw [BEq.comm]

end VarIndex

end Dispatch
