/- Look-ups in lists of entries: what an entry in front answers, what is left when the entries of a key
   are taken out, and which keys have an answer. Maps from paths, open documents and the sessions of
   the ledger are all such lists. -/
namespace InkWorkspace.Lookup

variable {α β : Type} [BEq α] [LawfulBEq α] [DecidableEq α]

theorem lookup_cons (key other : α) (value : β) (rest : List (α × β)) :
    ((other, value) :: rest).lookup key = if key = other then some value else rest.lookup key := by
  rw [List.lookup_cons]
  by_cases h : key = other
  · simp [h]
  · simp [h, beq_eq_false_iff_ne.mpr h]

theorem lookup_filter_ne (key dropped : α) (entries : List (α × β)) :
    (entries.filter (·.1 ≠ dropped)).lookup key =
      if key = dropped then none else entries.lookup key := by
  induction entries with
  | nil => simp
  | cons entry rest ih =>
    obtain ⟨other, value⟩ := entry
    rw [List.filter_cons, lookup_cons]
    by_cases ho : other = dropped
    · rw [if_neg (by simp [ho]), ih]
      by_cases hk : key = dropped <;> simp [ho, hk]
    · rw [if_pos (by simp [ho]), lookup_cons, ih]
      by_cases hk : key = other
      · subst hk
        simp [ho]
      · simp [hk]

omit [DecidableEq α] in
theorem mem_of_lookup {key : α} {value : β} {entries : List (α × β)}
    (h : entries.lookup key = some value) : (key, value) ∈ entries := by
  obtain ⟨front, back, heq, -⟩ := List.lookup_eq_some_iff.mp h
  simp [heq]

theorem mem_keys_iff {key : α} {entries : List (α × β)} :
    key ∈ entries.map Prod.fst ↔ (entries.lookup key).isSome = true := by
  induction entries with
  | nil => simp
  | cons entry rest ih =>
    rw [lookup_cons]
    by_cases h : key = entry.1
    · simp [h]
    · simp [h, ih]

end InkWorkspace.Lookup
