import Mathlib.Data.List.Nodup
import SqlStore.Proofs.Database.Query
import SqlStore.Proofs.Value.Equality

/-!
# The pairs that a join merges

A joined row comes from one row on the left and one on the right. Told by their positions, the pairs
that are merged stand in left-then-right order, so none stands twice, and they are the pairs of rows
whose joined columns meet. Equality in a condition is symmetric, so the join the other way round
merges the transposed pairs.
-/

namespace SqlStore.Database

/-- The rows at two positions meet: the values in their joined columns are equal for a query. -/
def Meet (left right : Table) (j : Join) (p : Nat × Nat) : Prop :=
  ∃ x y, left.rows[p.1]? = some x ∧ right.rows[p.2]? = some y ∧
    (y.get j.right).sqlEq (x.get j.left) = true

/-- The pairs of rows that a join merges, in its order, each row with its position. -/
def joinedEntries (left right : Table) (j : Join) : List ((Row × Nat) × (Row × Nat)) :=
  left.rows.toList.zipIdx.flatMap fun l =>
    (right.rows.toList.zipIdx.filter fun r => (r.1.get j.right).sqlEq (l.1.get j.left)).map fun r =>
      (l, r)

def joinedPositions (left right : Table) (j : Join) : List (Nat × Nat) :=
  (joinedEntries left right j).map fun e => (e.1.2, e.2.2)

/-- The pairs come in left-then-right order, they are those that meet, and each joined row is the
left row of its pair merged with the right one. -/
structure Pairs (left right : Table) (j : Join) (ps : List (Nat × Nat)) : Prop where
  ordered : ps.Pairwise (Prod.Lex (· < ·) (· < ·))
  mem_iff : ∀ p, p ∈ ps ↔ Meet left right j p
  merged : List.Forall₂
    (fun p row => ∃ x y, left.rows[p.1]? = some x ∧ right.rows[p.2]? = some y ∧
      x.merge y right.name = row)
    ps (joinRows left right j)

theorem pairwise_position_zipIdx {α : Type} (as : List α) :
    as.zipIdx.Pairwise fun p q => p.2 < q.2 := by
  rw [← List.pairwise_map, List.zipIdx_map_snd]
  exact List.pairwise_lt_range'

section

variable (left right : Table) (j : Join)

theorem joinRows_eq_map :
    joinRows left right j =
      (joinedEntries left right j).map fun e => e.1.1.merge e.2.1 right.name := by
  have rows (t : Table) : t.rows.toList = t.rows.toList.zipIdx.map Prod.fst :=
    (List.zipIdx_map_fst 0 _).symm
  rw [joinRows, joinedEntries, List.map_flatMap, rows left, List.flatMap_map, ← rows left]
  refine List.flatMap_congr fun l _ => ?_
  rw [rows right, List.filter_map, ← rows right, List.map_map, List.map_map]
  rfl

theorem mem_joinedEntries_iff {e : (Row × Nat) × (Row × Nat)} :
    e ∈ joinedEntries left right j ↔ left.rows[e.1.2]? = some e.1.1 ∧
      right.rows[e.2.2]? = some e.2.1 ∧ (e.2.1.get j.right).sqlEq (e.1.1.get j.left) = true := by
  obtain ⟨l, r⟩ := e
  simp [joinedEntries, List.mem_zipIdx_iff_getElem?]

theorem mem_joinedPositions_iff (p : Nat × Nat) :
    p ∈ joinedPositions left right j ↔ Meet left right j p := by
  rw [joinedPositions, List.mem_map]
  constructor
  · rintro ⟨e, he, rfl⟩
    exact ⟨e.1.1, e.2.1, (mem_joinedEntries_iff left right j).mp he⟩
  · rintro ⟨x, y, meet⟩
    exact ⟨((x, p.1), (y, p.2)), (mem_joinedEntries_iff left right j).mpr meet, rfl⟩

theorem ordered_joinedPositions :
    (joinedPositions left right j).Pairwise (Prod.Lex (· < ·) (· < ·)) := by
  simp only [joinedPositions, joinedEntries, List.map_flatMap, List.map_map,
    List.pairwise_flatMap]
  constructor
  · intro l _
    rw [List.pairwise_map]
    exact ((pairwise_position_zipIdx _).filter _).imp fun later => .right _ later
  · refine (pairwise_position_zipIdx _).imp fun later p hp q hq => ?_
    obtain ⟨_, -, rfl⟩ := List.mem_map.mp hp
    obtain ⟨_, -, rfl⟩ := List.mem_map.mp hq
    exact .left _ _ later

theorem pairs_joinedPositions : Pairs left right j (joinedPositions left right j) where
  ordered := ordered_joinedPositions left right j
  mem_iff := mem_joinedPositions_iff left right j
  merged := by
    rw [joinRows_eq_map, joinedPositions, List.forall₂_map_left_iff, List.forall₂_map_right_iff,
      List.forall₂_same]
    intro e he
    obtain ⟨hl, hr, -⟩ := (mem_joinedEntries_iff left right j).mp he
    exact ⟨e.1.1, e.2.1, hl, hr, rfl⟩

end

/-- Rows meet whichever of them is on the left. -/
theorem meet_swap_iff {left right : Table} {a b table table' : String} (p : Nat × Nat) :
    Meet left right ⟨table, a, b⟩ p ↔ Meet right left ⟨table', b, a⟩ p.swap := by
  constructor
  · rintro ⟨x, y, hx, hy, meet⟩
    exact ⟨y, x, hy, hx, (Value.sqlEq_comm _ _).trans meet⟩
  · rintro ⟨y, x, hy, hx, meet⟩
    exact ⟨x, y, hx, hy, (Value.sqlEq_comm _ _).trans meet⟩

/-- Joining `left` with `right` where `a` equals `b` and joining `right` with `left` where `b`
equals `a`, whatever rows the tables have and whether or not there are such columns: each join
merges every pair of rows that meet once, in left-then-right order, the pairs of the one are the
transposed pairs of the other, and so both give equally many rows. -/
theorem joined_pairs_transpose (left right : Table) (a b : String) :
    let there : Join := ⟨right.name, a, b⟩
    let back : Join := ⟨left.name, b, a⟩
    Pairs left right there (joinedPositions left right there) ∧
      Pairs right left back (joinedPositions right left back) ∧
      (joinedPositions left right there).Nodup ∧ (joinedPositions right left back).Nodup ∧
      ((joinedPositions left right there).map Prod.swap).Perm (joinedPositions right left back) ∧
      (joinRows left right there).length = (joinRows right left back).length := by
  intro there back
  have pairs := pairs_joinedPositions left right there
  have pairs' := pairs_joinedPositions right left back
  have once := pairs.ordered.nodup
  have once' := pairs'.ordered.nodup
  have transposed : ((joinedPositions left right there).map Prod.swap).Perm
      (joinedPositions right left back) := by
    refine (List.perm_ext_iff_of_nodup (once.map Prod.swap_injective) once').mpr ?_
    intro p
    obtain ⟨i, k⟩ := p
    rw [List.mem_map_swap, pairs.mem_iff, pairs'.mem_iff]
    exact meet_swap_iff (k, i)
  refine ⟨pairs, pairs', once, once', transposed, ?_⟩
  rw [← pairs.merged.length_eq, ← pairs'.merged.length_eq, ← transposed.length_eq, List.length_map]

end SqlStore.Database
