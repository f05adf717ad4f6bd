import Dispatch.Proofs.Group.Recovery

namespace Dispatch

/-! Short forms against the readers that complete them. A reader repeats all values that it is
given equally often. Among numbers the short form is its inverse: what has a short form is read
from it, nothing is read as what has none, and what was read has the given values as its short
form. -/

/-- Equal doubles, entry by entry. -/
def SameNumbers (left right : List Float) : Prop :=
  List.Forall₂ (fun left right => (left == right) = true) left right

theorem sameNumbers_of_alike {left right : List Float} (close : List.Forall₂ Alike left right)
    (numbers : ∀ value ∈ right, value.isNaN = false) : SameNumbers left right := by
  induction close with
  | nil => exact .nil
  | @cons first second _ _ alike _ induction =>
      have number : second.isNaN = false := numbers second List.mem_cons_self
      refine .cons (alike.resolve_right fun none => ?_)
        (induction fun value member => numbers value (List.mem_cons_of_mem _ member))
      rw [number] at none
      exact Bool.false_ne_true none.2

theorem isRun_of_copies {copy : Float} {piece : List Float}
    (copies : ∀ value ∈ piece, (copy == value) = true) : isRun piece = true := by
  cases piece with
  | nil => rfl
  | cons first rest =>
      refine List.all_eq_true.mpr fun value member => ?_
      have same : (value == copy) = true := Float.beq_comm copy value ▸ copies value member
      exact Float.beq_trans same (copies first List.mem_cons_self)

theorem all_isRun_of_repeats {count : Nat} (positive : 0 < count) {short values : List Float}
    (repeats : SameNumbers (stretch count short) values) :
    (pieces count values).all isRun = true := by
  induction short generalizing values with
  | nil =>
      cases repeats
      exact congrArg (fun pieces => pieces.all isRun) (pieces_stretch positive ([] : List Float))
  | cons copy rest induction =>
      -- The first piece repeats the first value, and all others repeat the rest.
      rw [stretch_cons] at repeats
      have first := List.forall₂_take_append _ _ _ repeats.flip
      have later := List.forall₂_drop_append _ _ _ repeats.flip
      rw [List.length_replicate] at first later
      have length : (values.take count).length = count := by simpa using first.length_eq
      rw [← List.take_append_drop count values, pieces_append positive length, List.all_cons,
        Bool.and_eq_true]
      have copies : ∀ value ∈ values.take count, (copy == value) = true := by
        intro value member
        obtain ⟨source, copied, same⟩ := Change.mem_of_forall₂ first.flip member
        exact List.eq_of_mem_replicate copied ▸ same
      exact ⟨isRun_of_copies copies, induction later.flip⟩

theorem compact?_of_repeats {count : Nat} (positive : 0 < count) {short values : List Float}
    (repeats : SameNumbers (stretch count short) values) :
    ∃ found, compact? values short.length = some found := by
  have whole : values.length = short.length * count := by
    rw [← repeats.length_eq, length_stretch]
  by_cases full : short.length = values.length
  · exact ⟨values, by rw [full, compact?_self]⟩
  · exact ⟨_, compact?_of_runs positive whole full (all_isRun_of_repeats positive repeats)⟩

/-- Given `size` values, the reader repeats each of them `count` times. -/
def Repeats (complete : List Float → Except Error (List Float)) (size count : Nat) : Prop :=
  ∀ given, given.length = size → complete given = .ok (stretch count given)

/-- Short forms of `size` values and the reader, which completes them to `full` values, are
inverse to each other. -/
structure Inverts (complete : List Float → Except Error (List Float)) (size full : Nat) : Prop where
  completed : ∀ {values short : List Float}, values.length = full →
    (∀ value ∈ values, value.isNaN = false) → compact? values size = some short →
      short.length = size ∧ ∃ whole, complete short = .ok whole ∧ SameNumbers whole values
  missing : ∀ {values : List Float}, values.length = full → compact? values size = none →
    ∀ given whole, given.length = size → complete given = .ok whole → ¬SameNumbers whole values
  restored : ∀ {given : List Float}, given.length = size →
    (∀ value ∈ given, value.isNaN = false) →
      ∃ whole, complete given = .ok whole ∧ compact? whole size = some given

theorem Repeats.inverts {complete : List Float → Except Error (List Float)} {size count : Nat}
    (repeats : Repeats complete size count) (occupied : 0 < size) (positive : 0 < count) :
    Inverts complete size (size * count) where
  completed {values short} length numbers found := by
    have sized := length_of_compact? found
    obtain ⟨times, expands⟩ := Expands.ofCompact? found
    obtain rfl : count = times := by
      refine Nat.eq_of_mul_eq_mul_left occupied ?_
      rw [← length, expands.length, sized]
    exact ⟨sized, _, repeats short sized, sameNumbers_of_alike expands.repeats numbers⟩
  missing {values} _ none given whole sized reads same := by
    cases (repeats given sized).symm.trans reads
    obtain ⟨found, short⟩ := compact?_of_repeats positive same
    rw [sized, none] at short
    cases short
  restored {given} sized numbers := by
    refine ⟨_, repeats given sized, ?_⟩
    rw [← sized]
    exact compact?_stretched positive
      (.inr fun value member => Float.beq_self (numbers value member))

theorem repeats_broadcast {size full : Nat} (form : size = 1 ∨ size = full) (what : String) :
    ∃ count, size * count = full ∧
      Repeats (fun given => broadcast given full what) size count := by
  have divides : size ∣ full := by
    rcases form with rfl | rfl
    · exact Nat.one_dvd full
    · exact Nat.dvd_refl size
  obtain ⟨count, rfl⟩ := divides
  exact ⟨count, rfl, fun given sized =>
    broadcast_eq_stretch (by rw [sized]) (by rwa [sized]) what⟩

theorem repeats_expand {members horizon size : Nat}
    (form : size = 1 ∨ size = members ∨ size = members * horizon) (what : String) :
    ∃ count, size * count = members * horizon ∧
      Repeats (fun given => expand given members horizon what) size count := by
  have divides : size ∣ members * horizon := by
    rcases form with rfl | rfl | rfl
    · exact Nat.one_dvd _
    · exact Nat.dvd_mul_right size horizon
    · exact Nat.dvd_refl _
  obtain ⟨count, whole⟩ := divides
  exact ⟨count, whole.symm, fun given sized =>
    expand_eq_stretch (by rw [sized, whole]) (by rwa [sized]) what⟩

/-- Short forms are inverse to both readers, for every length that the reader completes. -/
theorem compact?_inverts_readers :
    (∀ {members horizon size : Nat} (what : String), 0 < members → 0 < horizon →
      (size = 1 ∨ size = members ∨ size = members * horizon) →
        Inverts (fun given => expand given members horizon what) size (members * horizon)) ∧
    ∀ {full size : Nat} (what : String), 0 < full → (size = 1 ∨ size = full) →
      Inverts (fun given => broadcast given full what) size full := by
  constructor
  · intro members horizon size what peopled lasting form
    obtain ⟨count, whole, repeats⟩ := repeats_expand form what
    have positive : 0 < size * count := whole ▸ Nat.mul_pos peopled lasting
    rw [← whole]
    exact repeats.inverts (Nat.pos_of_mul_pos_right positive) (Nat.pos_of_mul_pos_left positive)
  · intro full size what positive form
    obtain ⟨count, rfl, repeats⟩ := repeats_broadcast form what
    exact repeats.inverts (Nat.pos_of_mul_pos_right positive) (Nat.pos_of_mul_pos_left positive)

/-- Two members over two instants: the sign of a zero does not break a run, and values that
change within one have no short form. -/
theorem compact?_inverts_readers_pair :
    compact? [0, -0, 3, 3] 2 = some [(0 : Float), 3] ∧
      (∃ whole, expand [(0 : Float), 3] 2 2 "MinPower" = .ok whole ∧
        SameNumbers whole [0, -0, 3, 3]) ∧
      compact? [1, 2, 3, 3] 2 = (none : Option (List Float)) ∧
      (∀ given whole : List Float, given.length = 2 → expand given 2 2 "MinPower" = .ok whole →
        ¬SameNumbers whole [1, 2, 3, 3]) ∧
      ∃ whole, broadcast [(5 : Float)] 3 "Kappa" = .ok whole ∧ compact? whole 1 = some [5] := by
  have expands := compact?_inverts_readers.1 "MinPower" (by decide : 0 < 2) (by decide : 0 < 2)
    (.inr (.inl rfl) : 2 = 1 ∨ 2 = 2 ∨ 2 = 2 * 2)
  have broadcasts := compact?_inverts_readers.2 "Kappa" (by decide : 0 < 3)
    (.inl rfl : 1 = 1 ∨ 1 = 3)
  have short : compact? [0, -0, 3, 3] 2 = some [(0 : Float), 3] := by decide +kernel
  have none : compact? [1, 2, 3, 3] 2 = (none : Option (List Float)) := by decide +kernel
  refine ⟨short, (expands.completed rfl ?_ short).2, none, expands.missing rfl none,
    broadcasts.restored rfl ?_⟩
  · decide +kernel
  · decide +kernel

end Dispatch
