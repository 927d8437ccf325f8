import InkWorkspace.PathMap
import InkWorkspace.Proofs.Lookup
import InkWorkspace.Proofs.Path

/- Maps from paths, seen through the answers they give. What a map answers after an insertion or a
   removal does not depend on how its entries are arranged (`find?_insert`, `find?_erase`). That
   nothing is stored twice does: an entry goes in front of the first path that is greater, so a
   second entry of the same path could hide behind it. `Ordered` excludes this, and every operation
   keeps it (`Ordered.insert`, `Ordered.erase`).

   The order of paths is transitive, irreflexive and total (`Path.before_total`), since a component is
   known by its bytes. -/
namespace InkWorkspace

/-! ## The order of paths -/

namespace Component

theorem before_irrefl (a : Component) : a.before a = false := by
  cases a with
  | here => rfl
  | up => rfl
  | name file => exact List.lex_eq_false_iff_ge.mpr (List.le_refl _)

theorem before_trans {a b c : Component} (hab : a.before b = true) (hbc : b.before c = true) :
    a.before c = true := by
  cases a <;> cases b <;> cases c <;>
    simp only [before, Bool.false_eq_true, List.lex_eq_true_iff_lt] at hab hbc ⊢
  exact List.lt_trans hab hbc

theorem before_total {a b : Component} (h : a ≠ b) : a.before b = true ∨ b.before a = true := by
  have total {front back : List UInt8} (hne : front ≠ back) :
      front.lex back = true ∨ back.lex front = true := by
    rw [List.lex_eq_true_iff_lt, List.lex_eq_true_iff_lt]
    by_cases hlt : front < back
    · exact Or.inl hlt
    · refine Or.inr (Decidable.by_contra fun hge => hne ?_)
      exact List.le_antisymm (List.not_lt.mp hge) (List.not_lt.mp hlt)
  cases a <;> cases b
  case here.here => exact absurd rfl h
  case up.up => exact absurd rfl h
  case name.name file other => exact total fun heq => h (bytes_inj heq)
  all_goals simp [before]

end Component

namespace Path

theorem lex_trans {as bs cs : List Component} (hab : as.lex bs Component.before = true)
    (hbc : bs.lex cs Component.before = true) : as.lex cs Component.before = true := by
  rw [List.lex_eq_true_iff_lex] at *
  exact List.lex_trans Component.before_trans hab hbc

theorem before_irrefl (p : Path) : p.before p = false := by
  obtain ⟨absolute, parts⟩ := p
  have h : parts.lex parts Component.before = false := by
    rw [List.lex_eq_false_iff_not_lex]
    exact List.lex_irrefl (fun a => by simp [Component.before_irrefl]) parts
  cases absolute <;> exact h

theorem before_trans {p q r : Path} (hpq : p.before q = true) (hqr : q.before r = true) :
    p.before r = true := by
  obtain ⟨pa, ps⟩ := p
  obtain ⟨qa, qs⟩ := q
  obtain ⟨ra, rs⟩ := r
  -- Only the empty relative path comes before the absolute ones, all others come behind.
  match pa, qa, ra with
  | true, true, true => exact lex_trans hpq hqr
  | false, false, false => exact lex_trans hpq hqr
  | true, true, false => exact hqr
  | false, true, true => exact hpq
  | true, false, true => simp_all [before]
  | false, true, false =>
    cases rs with
    | nil => simp [before] at hqr
    | cons c rs => simp_all [before]
  | true, false, false =>
    cases rs with
    | nil => simp [before] at hqr
    | cons c rs => rfl
  | false, false, true =>
    cases qs with
    | nil => simp [before] at hpq
    | cons c qs => simp [before] at hqr

theorem before_asymm {p q : Path} (h : p.before q = true) : q.before p = false := by
  cases hq : q.before p with
  | false => rfl
  | true =>
    have := before_trans h hq
    rw [before_irrefl] at this
    simp at this

theorem parts_total {as bs : List Component} (hne : as ≠ bs) :
    as.lex bs Component.before = true ∨ bs.lex as Component.before = true := by
  induction as generalizing bs with
  | nil =>
    cases bs with
    | nil => exact absurd rfl hne
    | cons b bs => exact Or.inl rfl
  | cons a as ih =>
    cases bs with
    | nil => exact Or.inr rfl
    | cons b bs =>
      simp only [List.lex, Bool.or_eq_true, Bool.and_eq_true, beq_iff_eq]
      by_cases hfirst : a = b
      · have hrest := ih fun heq => hne (by rw [hfirst, heq])
        exact hrest.imp (fun h => Or.inr ⟨hfirst, h⟩) fun h => Or.inr ⟨hfirst.symm, h⟩
      · exact (Component.before_total hfirst).imp Or.inl Or.inl

/-- Of two paths one comes first, unless they are the same. -/
theorem before_total {p q : Path} (hne : p ≠ q) : p.before q = true ∨ q.before p = true := by
  obtain ⟨pa, ps⟩ := p
  obtain ⟨qa, qs⟩ := q
  have hparts (hsame : pa = qa) : ps ≠ qs := by
    rintro rfl
    exact hne (by rw [hsame])
  match pa, qa with
  | true, true => exact parts_total (hparts rfl)
  | false, false => exact parts_total (hparts rfl)
  | true, false => cases qs <;> simp [before]
  | false, true => cases ps <;> simp [before]

end Path

namespace PathMap

variable {α β : Type}

/-! ## What a map answers -/

@[simp]
theorem find?_empty (p : Path) : (empty : PathMap α).find? p = none := rfl

theorem lookup_insertEntry (p q : Path) (value : α) (entries : List (Path × α)) :
    (insertEntry p value entries).lookup q = if q = p then some value else entries.lookup q := by
  induction entries with
  | nil => exact Lookup.lookup_cons q p value []
  | cons entry rest ih =>
    obtain ⟨other, old⟩ := entry
    simp only [insertEntry]
    split
    · next heq =>
      subst heq
      by_cases h : q = p <;> simp [Lookup.lookup_cons, h]
    · split
      · exact Lookup.lookup_cons q p value _
      · next hne _ =>
        rw [Lookup.lookup_cons, Lookup.lookup_cons, ih]
        by_cases h : q = other
        · subst h
          simp [Ne.symm hne]
        · simp [h]

theorem find?_insert (map : PathMap α) (p q : Path) (value : α) :
    (map.insert p value).find? q = if q = p then some value else map.find? q :=
  lookup_insertEntry p q value map.entries

theorem find?_insertNew (map : PathMap α) (p q : Path) (value : α) :
    (map.insertNew p value).find? q = (map.find? q).or (if q = p then some value else none) := by
  unfold insertNew
  split
  · next h =>
    by_cases hq : q = p
    · subst hq
      obtain ⟨old, hold⟩ := Option.isSome_iff_exists.mp h
      simp [hold]
    · simp [hq]
  · next h =>
    rw [find?_insert]
    by_cases hq : q = p
    · subst hq
      simp [contains] at h
      simp [h]
    · simp [hq]

theorem find?_erase (map : PathMap α) (p q : Path) :
    (map.erase p).find? q = if q = p then none else map.find? q :=
  Lookup.lookup_filter_ne q p map.entries

theorem contains_iff {map : PathMap α} {p : Path} :
    map.contains p = true ↔ ∃ value, map.find? p = some value :=
  Option.isSome_iff_exists

theorem mem_keys_iff {map : PathMap α} {p : Path} : p ∈ map.keys ↔ map.contains p = true :=
  Lookup.mem_keys_iff

theorem mem_entries_of_find? {map : PathMap α} {p : Path} {value : α}
    (h : map.find? p = some value) : (p, value) ∈ map.entries :=
  Lookup.mem_of_lookup h

/-! ## Ordered maps -/

/-- No path stands twice, and none behind a greater one. -/
def Ordered (map : PathMap α) : Prop :=
  map.entries.Pairwise fun a b => a.1 ≠ b.1 ∧ b.1.before a.1 = false

theorem Ordered.empty : (empty : PathMap α).Ordered := List.Pairwise.nil

theorem Ordered.keys_nodup {map : PathMap α} (h : map.Ordered) : map.keys.Nodup :=
  List.pairwise_map.mpr (h.imp fun hab => hab.1)

/-- In an ordered map nothing is hidden: every entry is an answer. -/
theorem Ordered.find?_of_mem {map : PathMap α} (h : map.Ordered) {p : Path} {value : α}
    (hm : (p, value) ∈ map.entries) : map.find? p = some value := by
  obtain ⟨entries⟩ := map
  simp only [Ordered, find?] at h hm ⊢
  induction entries with
  | nil => simp at hm
  | cons entry rest ih =>
    obtain ⟨other, old⟩ := entry
    rw [List.pairwise_cons] at h
    obtain ⟨hfirst, hrest⟩ := h
    rw [Lookup.lookup_cons]
    rcases List.mem_cons.mp hm with heq | hm
    · cases heq
      simp
    · rw [if_neg (Ne.symm (hfirst _ hm).1)]
      exact ih hrest hm

theorem mem_insertEntry {p : Path} {value : α} {entries : List (Path × α)} {entry : Path × α}
    (h : entry ∈ insertEntry p value entries) : entry = (p, value) ∨ entry ∈ entries := by
  induction entries with
  | nil => exact Or.inl (List.mem_singleton.mp h)
  | cons first rest ih =>
    obtain ⟨other, old⟩ := first
    simp only [insertEntry] at h
    split at h
    · rcases List.mem_cons.mp h with heq | hm
      · exact Or.inl heq
      · exact Or.inr (List.mem_cons_of_mem _ hm)
    · split at h
      · exact List.mem_cons.mp h
      · rcases List.mem_cons.mp h with heq | hm
        · exact Or.inr (heq ▸ List.mem_cons_self)
        · rcases ih hm with heq | hm
          · exact Or.inl heq
          · exact Or.inr (List.mem_cons_of_mem _ hm)

theorem ne_of_before_first {p other : Path} {old : α} {rest : List (Path × α)}
    (h : ((other, old) :: rest).Pairwise fun a b => a.1 ≠ b.1 ∧ b.1.before a.1 = false)
    (hp : p.before other = true) :
    ∀ entry ∈ (other, old) :: rest, p ≠ entry.1 ∧ entry.1.before p = false := by
  rw [List.pairwise_cons] at h
  intro entry hm
  have hentry : entry.1.before p = false := by
    rcases List.mem_cons.mp hm with rfl | hm
    · exact Path.before_asymm hp
    · cases hb : entry.1.before p with
      | false => rfl
      | true =>
        have := Path.before_trans hb hp
        rw [(h.1 entry hm).2] at this
        simp at this
  refine ⟨?_, hentry⟩
  rintro rfl
  rcases List.mem_cons.mp hm with heq | hm
  · rw [heq, Path.before_irrefl] at hp
    simp at hp
  · rw [(h.1 entry hm).2] at hp
    simp at hp

theorem Ordered.insert {map : PathMap α} (h : map.Ordered) (p : Path) (value : α) :
    (map.insert p value).Ordered := by
  obtain ⟨entries⟩ := map
  simp only [Ordered, PathMap.insert] at h ⊢
  induction entries with
  | nil => exact List.pairwise_singleton _ _
  | cons entry rest ih =>
    obtain ⟨other, old⟩ := entry
    simp only [insertEntry]
    split
    · next heq =>
      subst heq
      rw [List.pairwise_cons] at h ⊢
      exact h
    · next hne =>
      split
      · next hp =>
        exact List.pairwise_cons.mpr ⟨ne_of_before_first h hp, h⟩
      · next hp =>
        rw [List.pairwise_cons] at h ⊢
        refine ⟨?_, ih h.2⟩
        intro later hm
        rcases mem_insertEntry hm with rfl | hm
        · exact ⟨Ne.symm hne, by simpa using hp⟩
        · exact h.1 later hm

theorem Ordered.insertNew {map : PathMap α} (h : map.Ordered) (p : Path) (value : α) :
    (map.insertNew p value).Ordered := by
  unfold PathMap.insertNew
  split
  · exact h
  · exact h.insert p value

theorem Ordered.erase {map : PathMap α} (h : map.Ordered) (p : Path) : (map.erase p).Ordered :=
  List.Pairwise.filter _ h

theorem Ordered.insert_eq_self {map : PathMap α} (h : map.Ordered) {p : Path} {value : α}
    (hp : map.find? p = some value) : map.insert p value = map := by
  obtain ⟨entries⟩ := map
  simp only [Ordered, find?, PathMap.insert, PathMap.mk.injEq] at h hp ⊢
  induction entries with
  | nil => cases hp
  | cons entry rest ih =>
    obtain ⟨other, old⟩ := entry
    rw [Lookup.lookup_cons] at hp
    simp only [insertEntry]
    split
    · next heq =>
      rw [if_pos heq] at hp
      cases hp
      rw [heq]
    · next hne =>
      rw [if_neg hne] at hp
      split
      · next hbefore =>
        -- The path stands further behind, so it does not come first.
        have hmem : (p, value) ∈ (other, old) :: rest :=
          List.mem_cons_of_mem _ (Lookup.mem_of_lookup hp)
        exact absurd rfl (ne_of_before_first h hbefore (p, value) hmem).1
      · rw [ih (List.pairwise_cons.mp h).2 hp]

/-- Replacing a value by one that looks the same through `f` changes nothing of the map as it is
    seen through `f`: the new value takes the place of the old one. -/
theorem Ordered.map_insert {map : PathMap α} (h : map.Ordered) {p : Path} {old value : α}
    {f : α → β} (hold : map.find? p = some old) (hf : f value = f old) :
    (map.insert p value).values.map f = map.values.map f := by
  obtain ⟨entries⟩ := map
  simp only [Ordered, find?, PathMap.insert, values, List.map_map] at h hold ⊢
  induction entries with
  | nil => simp at hold
  | cons entry rest ih =>
    obtain ⟨other, first⟩ := entry
    rw [Lookup.lookup_cons] at hold
    simp only [insertEntry]
    split
    · next heq =>
      rw [if_pos heq] at hold
      cases hold
      simp [hf]
    · next hne =>
      rw [if_neg hne] at hold
      split
      · next hp =>
        -- The old value is stored behind `other`, so `p` cannot come before it.
        have hm : (p, old) ∈ (⟨rest⟩ : PathMap α).entries := mem_entries_of_find? hold
        exact absurd rfl (ne_of_before_first h hp _ (List.mem_cons_of_mem _ hm)).1
      · rw [List.pairwise_cons] at h
        simp only [List.map_cons, ih h.2 hold]

theorem Ordered.entries_perm {a b : PathMap α} (ha : a.Ordered) (hb : b.Ordered)
    (h : ∀ p, a.find? p = b.find? p) : a.entries.Perm b.entries := by
  have nodup {map : PathMap α} (hmap : map.Ordered) : map.entries.Nodup :=
    hmap.imp fun hne heq => hne.1 (congrArg Prod.fst heq)
  rw [List.perm_ext_iff_of_nodup (nodup ha) (nodup hb)]
  rintro ⟨p, value⟩
  constructor
  · intro hm
    exact mem_entries_of_find? ((h p).symm.trans (ha.find?_of_mem hm))
  · intro hm
    exact mem_entries_of_find? ((h p).trans (hb.find?_of_mem hm))

end PathMap

end InkWorkspace
