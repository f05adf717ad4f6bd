import Mathlib.Data.List.Basic
import Mathlib.Tactic.Ring
import Dispatch.Shape

namespace Dispatch

/-! Pieces of a list, the runs of equal values that they may be, and the short forms that
are read off runs. A list that was stretched has the list it was made from as its short form,
if it has one of that length at all. -/

section Pieces

variable {α : Type}

theorem ne_nil_of_mem_pieces {size : Nat} {values piece : List α}
    (member : piece ∈ pieces size values) : piece ≠ [] := by
  fun_induction pieces size values with
  | case1 => cases member
  | case2 => cases member
  | case3 size value rest induction =>
      rcases List.mem_cons.mp member with rfl | later
      · exact List.cons_ne_nil _ _
      · exact induction later

theorem flatten_pieces {size : Nat} (positive : 0 < size) (values : List α) :
    (pieces size values).flatten = values := by
  fun_induction pieces size values with
  | case1 => omega
  | case2 => rfl
  | case3 size value rest induction =>
      rw [List.flatten_cons, induction positive, List.cons_append, List.take_append_drop]

theorem length_pieces {size count : Nat} (positive : 0 < size) {values : List α}
    (whole : values.length = count * size) : (pieces size values).length = count := by
  fun_induction pieces size values generalizing count with
  | case1 => omega
  | case2 =>
      rcases Nat.mul_eq_zero.mp whole.symm with none | none
      · exact none.symm
      · omega
  | case3 size value rest induction =>
      cases count with
      | zero => simp at whole
      | succ count =>
          simp only [List.length_cons, Nat.succ_eq_add_one, Nat.succ_mul] at whole
          rw [List.length_cons, induction positive]
          rw [List.length_drop]
          omega

theorem pieces_append {size : Nat} (positive : 0 < size) {piece : List α}
    (length : piece.length = size) (rest : List α) :
    pieces size (piece ++ rest) = piece :: pieces size rest := by
  obtain ⟨size, rfl⟩ := Nat.exists_eq_succ_of_ne_zero positive.ne'
  cases piece with
  | nil => cases length
  | cons first others =>
      have short : others.length = size := Nat.succ.inj length
      rw [List.cons_append, pieces, ← short, List.take_left, List.drop_left]

/-- The first values of all pieces, of which none is empty. -/
def heads (size : Nat) (values : List α) : List α :=
  (pieces size values).filterMap List.head?

theorem length_heads {size count : Nat} (positive : 0 < size) {values : List α}
    (whole : values.length = count * size) : (heads size values).length = count := by
  rw [← length_pieces positive whole, heads, List.length_filterMap_eq_countP,
    List.countP_eq_length]
  exact fun piece member => List.isSome_head?.mpr (ne_nil_of_mem_pieces member)

theorem mem_of_mem_heads {size : Nat} (positive : 0 < size) {values : List α} {value : α}
    (member : value ∈ heads size values) : value ∈ values := by
  obtain ⟨piece, listed, first⟩ := List.mem_filterMap.mp member
  rw [← flatten_pieces positive values]
  exact List.mem_flatten_of_mem listed (List.mem_of_head? first)

theorem stretch_cons (count : Nat) (value : α) (rest : List α) :
    stretch count (value :: rest) = List.replicate count value ++ stretch count rest :=
  rfl

theorem stretch_singleton (count : Nat) (value : α) :
    stretch count [value] = List.replicate count value := by
  simp [stretch]

theorem stretch_one (values : List α) : stretch 1 values = values := by
  simp [stretch]

theorem length_stretch (count : Nat) (values : List α) :
    (stretch count values).length = values.length * count := by
  simp [stretch, List.length_flatMap]

theorem mem_of_mem_stretch {count : Nat} {values : List α} {value : α}
    (member : value ∈ stretch count values) : value ∈ values := by
  obtain ⟨source, listed, copied⟩ := List.mem_flatMap.mp member
  rwa [List.eq_of_mem_replicate copied]

theorem heads_stretch {count : Nat} (positive : 0 < count) (values : List α) :
    heads count (stretch count values) = values := by
  induction values with
  | nil =>
      obtain ⟨count, rfl⟩ := Nat.exists_eq_succ_of_ne_zero positive.ne'
      simp [heads, stretch, pieces]
  | cons value rest induction =>
      have first : (List.replicate count value).head? = some value := by
        rw [List.head?_replicate, if_neg positive.ne']
      rw [stretch_cons, heads, pieces_append positive List.length_replicate,
        List.filterMap_cons_some first]
      exact congrArg (value :: ·) induction

theorem stretch_self {count : Nat} {values : List α}
    (same : values.length * count = values.length) : stretch count values = values := by
  rcases Nat.eq_zero_or_pos values.length with empty | occupied
  · rw [List.eq_nil_of_length_eq_zero empty]
    rfl
  · obtain rfl : count = 1 :=
      Nat.eq_of_mul_eq_mul_left occupied (same.trans (Nat.mul_one _).symm)
    exact stretch_one values

theorem broadcast_self {values : List α} {size : Nat} (length : values.length = size)
    (what : String) : broadcast values size what = .ok values :=
  if_pos length

/-- Of a length that a broadcast takes, all values are repeated equally often. -/
theorem broadcast_eq_stretch {values : List α} {count size : Nat}
    (full : values.length * count = size) (form : values.length = 1 ∨ values.length = size)
    (what : String) : broadcast values size what = .ok (stretch count values) := by
  by_cases same : values.length = size
  · rw [broadcast_self same, stretch_self (full.trans same.symm)]
  · obtain ⟨value, rfl⟩ := List.length_eq_one_iff.mp (form.resolve_right same)
    obtain rfl : count = size := by simpa using full
    unfold broadcast
    rw [if_neg same, stretch_singleton]

/-- What a broadcast gives has the length asked for. -/
theorem broadcast_ok {values result : List α} {size : Nat} {what : String}
    (filled : broadcast values size what = .ok result) : result.length = size := by
  unfold broadcast at filled
  split at filled
  · cases filled
    assumption
  · split at filled
    · cases filled
      exact List.length_replicate
    · cases filled

theorem broadcast_stretched {values result : List α} {size : Nat} {what : String}
    (filled : broadcast values size what = .ok result) :
    ∃ count, result = stretch count values := by
  unfold broadcast at filled
  split at filled
  · cases filled
    exact ⟨1, (stretch_one values).symm⟩
  · split at filled
    · cases filled
      exact ⟨size, (stretch_singleton size _).symm⟩
    · cases filled

theorem expand_self {values : List α} {members horizon : Nat}
    (length : values.length = members * horizon) (what : String) :
    expand values members horizon what = .ok values := by
  unfold expand
  split
  · rename_i value
    rw [← length]
    rfl
  · exact if_pos length

/-- Of a length that an expansion takes, all values are repeated equally often. -/
theorem expand_eq_stretch {values : List α} {count members horizon : Nat}
    (full : values.length * count = members * horizon)
    (form : values.length = 1 ∨ values.length = members ∨ values.length = members * horizon)
    (what : String) : expand values members horizon what = .ok (stretch count values) := by
  by_cases same : values.length = members * horizon
  · rw [expand_self same, stretch_self (full.trans same.symm)]
  unfold expand
  split
  · rename_i value
    rw [stretch_singleton]
    simpa using full.symm
  · rename_i several
    have perMember : values.length = members := by
      rcases form with one | perMember | all
      · obtain ⟨value, rfl⟩ := List.length_eq_one_iff.mp one
        exact absurd rfl (several value)
      · exact perMember
      · exact absurd all same
    obtain rfl : count = horizon := by
      rcases Nat.eq_zero_or_pos members with none | some
      · exact absurd (by rw [perMember, none, Nat.zero_mul]) same
      · rw [perMember] at full
        exact Nat.eq_of_mul_eq_mul_left some full
    dsimp only
    rw [if_neg same, if_pos perMember]

theorem expand_stretched {values result : List α} {members horizon : Nat} {what : String}
    (expanded : expand values members horizon what = .ok result) :
    ∃ count, result = stretch count values := by
  unfold expand at expanded
  split at expanded
  · cases expanded
    exact ⟨_, (stretch_singleton _ _).symm⟩
  · dsimp only at expanded
    split at expanded
    · cases expanded
      exact ⟨1, (stretch_one values).symm⟩
    · split at expanded
      · cases expanded
        exact ⟨horizon, rfl⟩
      · cases expanded

theorem expand_ok {values result : List α} {members horizon : Nat} {what : String}
    (expanded : expand values members horizon what = .ok result) :
    result.length = members * horizon := by
  unfold expand at expanded
  split at expanded
  · cases expanded
    exact List.length_replicate
  · dsimp only at expanded
    split at expanded
    · cases expanded
      assumption
    · split at expanded
      · rename_i count
        cases expanded
        rw [length_stretch, count]
      · cases expanded

end Pieces

section ShortForms

variable {K : Type} [Scalar K]

theorem compact?_self (values : List K) : compact? values values.length = some values :=
  if_pos rfl

/-- A shorter form is the list of the first values of runs. -/
theorem compact?_cases {values short : List K} {size : Nat}
    (found : compact? values size = some short) :
    short = values ∧ size = values.length ∨
      ∃ length, 0 < length ∧ values.length = size * length ∧
        (pieces length values).all isRun = true ∧ short = heads length values := by
  unfold compact? at found
  split at found
  · rename_i full
    exact .inl ⟨(Option.some.inj found).symm, full⟩
  · split at found
    · cases found
    · rename_i even
      simp only [not_or, not_not] at even
      obtain ⟨positive, given, whole⟩ := even
      have divides : values.length = size * (values.length / size) :=
        (Nat.mul_div_cancel' (Nat.dvd_of_mod_eq_zero whole)).symm
      have long : 0 < values.length / size := by
        refine Nat.pos_of_ne_zero fun none => given ?_
        rw [none, Nat.mul_zero] at divides
        exact List.isEmpty_iff.mpr (List.eq_nil_of_length_eq_zero divides)
      dsimp only at found
      split at found
      · rename_i runs
        exact .inr ⟨_, long, divides, runs, (Option.some.inj found).symm⟩
      · cases found

/-- Whole pieces that are runs have their first values for a short form. -/
theorem compact?_of_runs {count size : Nat} (positive : 0 < count) {values : List K}
    (whole : values.length = size * count) (shorter : size ≠ values.length)
    (runs : (pieces count values).all isRun = true) :
    compact? values size = some (heads count values) := by
  have given : 0 < size :=
    Nat.pos_of_ne_zero fun none => shorter (by rw [whole, none, Nat.zero_mul])
  have occupied : values ≠ [] := by
    rintro rfl
    exact (Nat.mul_pos given positive).ne whole
  have regular : ¬(size = 0 ∨ values.isEmpty = true ∨ values.length % size ≠ 0) := by
    simp [given.ne', occupied, whole]
  have quotient : values.length / size = count := by
    rw [whole, Nat.mul_div_cancel_left _ given]
  unfold compact?
  rw [if_neg shorter, if_neg regular]
  dsimp only
  rw [quotient, if_pos runs]
  rfl

theorem length_of_compact? {values short : List K} {size : Nat}
    (found : compact? values size = some short) : short.length = size := by
  rcases compact?_cases found with ⟨rfl, rfl⟩ | ⟨length, positive, whole, -, rfl⟩
  · rfl
  · exact length_heads positive whole

theorem mem_of_compact? {values short : List K} {size : Nat}
    (found : compact? values size = some short) {value : K} (member : value ∈ short) :
    value ∈ values := by
  rcases compact?_cases found with ⟨rfl, -⟩ | ⟨length, positive, -, -, rfl⟩
  · exact member
  · exact mem_of_mem_heads positive member

theorem compact?_stretch {count : Nat} {values short : List K}
    (found : compact? (stretch count values) values.length = some short) : short = values := by
  rcases compact?_cases found with ⟨rfl, same⟩ | ⟨length, positive, whole, -, rfl⟩
  · rw [length_stretch] at same
    rcases Nat.eq_zero_or_pos values.length with empty | given
    · rw [List.eq_nil_of_length_eq_zero empty]
      rfl
    · obtain rfl : count = 1 := by
        have := Nat.eq_of_mul_eq_mul_left given (same.symm.trans (Nat.mul_one _).symm)
        exact this
      exact stretch_one values
  · rw [length_stretch] at whole
    rcases Nat.eq_zero_or_pos values.length with empty | given
    · rw [List.eq_nil_of_length_eq_zero empty]
      obtain ⟨length, rfl⟩ := Nat.exists_eq_succ_of_ne_zero positive.ne'
      simp [heads, stretch, pieces]
    · obtain rfl := Nat.eq_of_mul_eq_mul_left given whole
      exact heads_stretch positive values

end ShortForms

end Dispatch
