import Mathlib.Data.List.Nodup

/- Lists in order. A relation between each member of a list and those behind it tells members apart
   (`pairwise_cases`), and says what a search finds first (`find?_first`).

   If the members of a list stand in one order in which each comes strictly before those behind it,
   sorting gives this one, in whatever order they are to begin with (`mergeSort_eq_of_rising`). -/
namespace InkWorkspace

variable {α : Type} {R : α → α → Prop} {items : List α}

theorem pairwise_cases (h : items.Pairwise R) {a b : α} (ha : a ∈ items) (hb : b ∈ items) :
    a = b ∨ R a b ∨ R b a := by
  induction h with
  | nil => cases ha
  | cons hfirst _ ih =>
    rcases List.mem_cons.mp ha with rfl | hrest <;> rcases List.mem_cons.mp hb with rfl | hmore
    · exact Or.inl rfl
    · exact Or.inr (Or.inl (hfirst b hmore))
    · exact Or.inr (Or.inr (hfirst a hrest))
    · exact ih hrest hmore

/-- What a search finds comes first among all that it could have found. -/
theorem find?_first (h : items.Pairwise R) {p : α → Bool} {found other : α}
    (hfound : items.find? p = some found) (hother : other ∈ items) (hp : p other = true) :
    other = found ∨ R found other := by
  obtain ⟨-, front, back, rfl, hfront⟩ := List.find?_eq_some_iff_append.mp hfound
  rcases List.mem_append.mp hother with hother | hother
  · have := hfront other hother
    rw [hp] at this
    cases this
  · rcases List.mem_cons.mp hother with rfl | hother
    · exact Or.inl rfl
    · have hbehind := List.pairwise_cons.mp (List.pairwise_append.mp h).2.1
      exact Or.inr (hbehind.1 other hother)

/-! ## Sorting -/

section Sorting

variable {le : α → α → Bool}

theorem pairwise_mergeSort_key (key : α → Nat) (items : List α) :
    (items.mergeSort fun a b => key a ≤ key b).Pairwise fun a b => key a ≤ key b := by
  have hsorted := @List.pairwise_mergeSort _ (fun a b : α => decide (key a ≤ key b))
    (fun a b c hab hbc =>
      decide_eq_true (Nat.le_trans (of_decide_eq_true hab) (of_decide_eq_true hbc)))
    (fun a b => by simpa using Nat.le_total (key a) (key b))
  exact (hsorted items).imp of_decide_eq_true

/-- Whatever order items come in, sorted they are in the one order in which they rise. -/
theorem mergeSort_eq_of_rising {rising : List α}
    (hsorted : (items.mergeSort le).Pairwise (le · · = true)) (hperm : items.Perm rising)
    (hrising : rising.Pairwise fun a b => le a b = true ∧ le b a = false) :
    items.mergeSort le = rising := by
  have hsame : (items.mergeSort le).Perm rising := (List.mergeSort_perm items le).trans hperm
  refine List.Perm.eq_of_pairwise ?_ hsorted (hrising.imp And.left) hsame
  intro a b ha hb hab hba
  rcases pairwise_cases hrising (hsame.subset ha) hb with heq | ⟨-, hlt⟩ | ⟨-, hgt⟩
  · exact heq
  · cases hlt.symm.trans hba
  · cases hgt.symm.trans hab

end Sorting

end InkWorkspace
