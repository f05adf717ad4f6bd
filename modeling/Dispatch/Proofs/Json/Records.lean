import Dispatch.Group.Codec
import Dispatch.Proofs.Json.Reading

namespace Dispatch

/-! What is looked up in a record that was written, and how deep its brackets go. -/

theorem mapM_map_eq_some {α β : Type} {read? : β → Option α} {write : α → β} {entries : List α}
    (each : ∀ entry ∈ entries, read? (write entry) = some entry) :
    (entries.map write).mapM read? = some entries := by
  induction entries with
  | nil => rfl
  | cons entry rest induction =>
      obtain ⟨first, later⟩ := List.forall_mem_cons.mp each
      rw [List.map_cons, List.mapM_cons, first, induction later]
      rfl

theorem mapM_eq_none {α β : Type} {read? : β → Option α} {entries : List β} {entry : β}
    (listed : entry ∈ entries) (refused : read? entry = none) : entries.mapM read? = none := by
  induction entries with
  | nil => cases listed
  | cons first rest induction =>
      rw [List.mapM_cons]
      rcases List.mem_cons.mp listed with rfl | later
      · rw [refused]
        rfl
      · rw [induction later]
        cases read? first <;> rfl

namespace Json

theorem fields?_record (fields : List (String × Json)) : (record fields).fields? = some fields :=
  mapM_map_eq_some fun _ _ => rfl

theorem parts?_record (names : List String) (fields : List (String × Json)) :
    (record fields).parts? names = names.mapM (part? fields) := by
  rw [record, parts?, ← record, fields?_record]
  · rfl
  · nofun

theorem isWritten_text (value : String) : (text value).IsWritten := by
  rw [text, IsWritten]
  rfl

theorem isWritten_count (value : Nat) : (count value).IsWritten := by
  obtain ⟨digits, read, -⟩ := read?_toString value
  rw [count, IsWritten]
  exact Option.isSome_of_eq_some read

theorem isWritten_list {items : List Json} (each : ∀ item ∈ items, item.IsWritten) :
    (list items).IsWritten := by
  rw [IsWritten]
  exact (areWritten_iff items).mpr each

theorem isWritten_record {fields : List (String × Json)}
    (each : ∀ field ∈ fields, field.2.IsWritten) : (record fields).IsWritten := by
  rw [record, IsWritten, fieldsAreWritten_iff]
  intro field member
  obtain ⟨named, listed, rfl⟩ := List.mem_map.mp member
  exact ⟨rfl, each named listed⟩

mutual
def brackets : Json → Nat
  | .list items => itemBrackets items + 1
  | .object fields => fieldBrackets fields + 1
  | _ => 0

def itemBrackets : List Json → Nat
  | [] => 0
  | item :: rest => max (brackets item) (itemBrackets rest)

def fieldBrackets : List (Option String × Json) → Nat
  | [] => 0
  | (_, value) :: rest => max (brackets value) (fieldBrackets rest)
end

theorem fieldBrackets_le_iff (fields : List (String × Json)) (depth : Nat) :
    fieldBrackets (fields.map fun field => (some field.1, field.2)) ≤ depth ↔
      ∀ field ∈ fields, field.2.brackets ≤ depth := by
  induction fields with
  | nil => simp [fieldBrackets]
  | cons field fields induction =>
      rw [List.map_cons, fieldBrackets, Nat.max_le, induction, List.forall_mem_cons]

theorem brackets_record_pos (fields : List (String × Json)) : 0 < (record fields).brackets := by
  rw [record, brackets]
  exact Nat.succ_pos _

theorem brackets_record_le_iff (fields : List (String × Json)) (depth : Nat) :
    (record fields).brackets ≤ depth + 1 ↔ ∀ field ∈ fields, field.2.brackets ≤ depth := by
  rw [record, brackets, Nat.add_le_add_iff_right, fieldBrackets_le_iff]

theorem isReadable_text (depth : Nat) (value : String) : (text value).isReadable depth = true := by
  cases depth <;> rfl

theorem isReadable_list {items : List Json} {depth : Nat}
    (each : ∀ item ∈ items, item.isReadable depth = true) :
    (list items).isReadable (depth + 1) = true :=
  List.all_eq_true.mpr each

theorem isReadable_record {fields : List (String × Json)} {depth : Nat}
    (each : ∀ field ∈ fields, field.2.isReadable depth = true) :
    (record fields).isReadable (depth + 1) = true := by
  refine List.all_eq_true.mpr fun field member => ?_
  obtain ⟨named, listed, rfl⟩ := List.mem_map.mp member
  exact each named listed

end Json

end Dispatch
