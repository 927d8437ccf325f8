/- The bound of every walk that visits nothing twice: how many candidates it has not seen yet. -/
namespace InkWorkspace.Include

/-- How many members of `bound` have not been seen. -/
def fresh {α : Type} [DecidableEq α] (bound seen : List α) : Nat :=
  (bound.filter fun a => a ∉ seen).length

variable {α : Type} [DecidableEq α]

theorem fresh_le_length (bound seen : List α) : fresh bound seen ≤ bound.length :=
  List.length_filter_le _ _

/-- The first member counts if it has not been seen. -/
theorem fresh_cons (b : α) (bound seen : List α) :
    fresh (b :: bound) seen = fresh bound seen + if b ∈ seen then 0 else 1 := by
  by_cases h : b ∈ seen
  · simp [fresh, h]
  · simp [fresh, h]

/-- Seeing more never makes more members fresh. -/
theorem fresh_cons_le (bound seen : List α) (a : α) :
    fresh bound (a :: seen) ≤ fresh bound seen := by
  induction bound with
  | nil => exact Nat.le_refl 0
  | cons b bound ih =>
    rw [fresh_cons, fresh_cons]
    by_cases h : b ∈ seen
    · rw [if_pos h, if_pos (List.mem_cons_of_mem a h)]
      exact ih
    · rw [if_neg h]
      split
      · exact Nat.le_trans ih (Nat.le_succ _)
      · exact Nat.add_le_add_right ih 1

/-- Seeing a fresh member leaves fewer of them. -/
theorem fresh_cons_lt {bound seen : List α} {a : α} (ha : a ∈ bound) (hs : a ∉ seen) :
    fresh bound (a :: seen) < fresh bound seen := by
  induction bound with
  | nil => cases ha
  | cons b bound ih =>
    rw [fresh_cons, fresh_cons]
    by_cases hb : b = a
    · rw [hb, if_pos List.mem_cons_self, if_neg hs]
      exact Nat.lt_succ_of_le (fresh_cons_le bound seen a)
    · have hab : a ∈ bound := (List.mem_cons.1 ha).resolve_left (Ne.symm hb)
      have hiff : b ∈ a :: seen ↔ b ∈ seen := by simp [hb]
      simp only [hiff]
      exact Nat.add_lt_add_right (ih hab) _

/-- Seeing all that has been seen and more leaves no more members fresh. -/
theorem fresh_mono {bound seen more : List α} (h : ∀ a ∈ seen, a ∈ more) :
    fresh bound more ≤ fresh bound seen := by
  induction bound with
  | nil => exact Nat.le_refl 0
  | cons b bound ih =>
    rw [fresh_cons, fresh_cons]
    by_cases hb : b ∈ seen
    · rw [if_pos hb, if_pos (h b hb)]
      exact ih
    · rw [if_neg hb]
      split <;> omega

/-- It does not matter where a fresh member is put. -/
theorem fresh_concat_lt {bound seen : List α} {a : α} (ha : a ∈ bound) (hs : a ∉ seen) :
    fresh bound (seen ++ [a]) < fresh bound seen :=
  Nat.lt_of_le_of_lt (fresh_mono (by simp +contextual [or_comm])) (fresh_cons_lt ha hs)

end InkWorkspace.Include
