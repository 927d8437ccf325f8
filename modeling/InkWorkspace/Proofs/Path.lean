import InkWorkspace.Path
import InkWorkspace.Proofs.Text.Utf8

/- Components are read from bytes and are known by them (`Component.ofBytes?_eq_some_iff`); a piece of a
   text that has no slash and is no dot is read as the name of its bytes (`isFileName_utf8`).

   Normal paths. Folding the components of a path from the left leaves names, perhaps behind one
   `..` (`folded_foldl`): a `..` takes back whatever stands last, also another `..`, so two of them
   never meet. Folding leaves such a list as it is (`Folded.foldl_eq`), hence a normal path is its own
   normal form (`normalize_normalize`), and so is every path that an include names
   (`normalize_resolve`). Folding never makes a path longer (`foldl_sublist`). -/
namespace InkWorkspace

open Text

/-! ## Components and their bytes -/

/-- A component is read from its own bytes and from no others. -/
theorem Component.ofBytes?_eq_some_iff {piece : List UInt8} {c : Component} :
    ofBytes? piece = some c ↔ c.bytes = piece := by
  constructor
  · intro h
    unfold ofBytes? at h
    split at h
    · next hdot => cases h; exact hdot.symm
    · split at h
      · next hdots => cases h; exact hdots.symm
      · split at h
        · cases h; rfl
        · cases h
  · rintro rfl
    cases c with
    | here => rfl
    | up => rfl
    | name file =>
      have hname := file.isName
      rw [bytes, ofBytes?, if_neg hname.2.2.1, if_neg hname.2.2.2, dif_pos hname]

theorem Component.bytes_inj {a b : Component} (h : a.bytes = b.bytes) : a = b := by
  have hread : ofBytes? a.bytes = some b := ofBytes?_eq_some_iff.mpr h.symm
  rw [ofBytes?_eq_some_iff.mpr rfl] at hread
  exact Option.some.inj hread

theorem Component.bytes_ne_nil (c : Component) : c.bytes ≠ [] := by
  cases c with
  | here => exact List.cons_ne_nil _ _
  | up => exact List.cons_ne_nil _ _
  | name file => exact file.isName.1

theorem slash_of_mem_utf8 {cs : List Char} (h : slashByte ∈ utf8 cs) : '/' ∈ cs := by
  obtain ⟨c, hc, hbyte⟩ := List.mem_flatMap.mp h
  have hnat : c.toNat = '/'.toNat := toNat_of_mem_utf8EncodeChar hbyte (by decide)
  rwa [← Char.toNat_inj.mp hnat]

theorem isFileName_utf8 {cs : List Char} (hne : cs ≠ []) (hslash : '/' ∉ cs) (hdot : cs ≠ ['.'])
    (hdots : cs ≠ ['.', '.']) : IsFileName (utf8 cs) :=
  ⟨fun h => hne (utf8_inj h), fun h => hslash (slash_of_mem_utf8 h), fun h => hdot (utf8_inj h),
    fun h => hdots (utf8_inj h)⟩

end InkWorkspace

namespace InkWorkspace.Path

/-! ## Folding -/

/-- A component that leads down by a name. -/
def Named (c : Component) : Prop := c ≠ .here ∧ c ≠ .up

/-- What folding leaves: names, perhaps behind one `..`. -/
def Folded (parts : List Component) : Prop :=
  ∃ names, (∀ c ∈ names, Named c) ∧ (parts = names ∨ parts = .up :: names)

theorem fold_named {c : Component} (h : Named c) (done : List Component) :
    fold done c = done ++ [c] := by
  cases c with
  | here => exact absurd rfl h.1
  | up => exact absurd rfl h.2
  | name file => rfl

theorem foldl_named {names : List Component} (h : ∀ c ∈ names, Named c) (done : List Component) :
    names.foldl fold done = done ++ names := by
  induction names generalizing done with
  | nil => simp
  | cons c names ih =>
    rw [List.foldl_cons, fold_named (h c List.mem_cons_self),
      ih (fun x hx => h x (List.mem_cons_of_mem c hx))]
    simp

theorem Folded.foldl_eq {parts : List Component} (h : Folded parts) :
    parts.foldl fold [] = parts := by
  obtain ⟨names, hnames, rfl | rfl⟩ := h
  · exact foldl_named hnames []
  · exact foldl_named hnames [.up]

theorem Folded.dropLast {parts : List Component} (h : Folded parts) : Folded parts.dropLast := by
  obtain ⟨names, hnames, rfl | rfl⟩ := h
  · exact ⟨_, fun c hc => hnames c ((List.dropLast_sublist _).subset hc), Or.inl rfl⟩
  · cases names with
    | nil => exact ⟨[], by simp, Or.inl rfl⟩
    | cons c names =>
      refine ⟨(c :: names).dropLast, ?_, Or.inr rfl⟩
      intro x hx
      exact hnames x ((List.dropLast_sublist _).subset hx)

theorem Folded.concat {parts : List Component} (h : Folded parts) {c : Component} (hc : Named c) :
    Folded (parts ++ [c]) := by
  obtain ⟨names, hnames, hparts⟩ := h
  refine ⟨names ++ [c], ?_, ?_⟩
  · intro x hx
    rcases List.mem_append.mp hx with hx | hx
    · exact hnames x hx
    · rw [List.mem_singleton.mp hx]
      exact hc
  · rcases hparts with rfl | rfl
    · exact Or.inl rfl
    · exact Or.inr rfl

theorem Folded.fold {parts : List Component} (h : Folded parts) (c : Component) :
    Folded (fold parts c) := by
  cases c with
  | here => exact h
  | up =>
    simp only [Path.fold]
    split
    · exact ⟨[], by simp, Or.inr rfl⟩
    · exact h.dropLast
  | name file => exact h.concat ⟨by simp, by simp⟩

theorem folded_foldl (parts : List Component) : Folded (parts.foldl fold []) := by
  have run : ∀ (parts done : List Component), Folded done → Folded (parts.foldl fold done) := by
    intro parts
    induction parts with
    | nil => intro done h; exact h
    | cons c parts ih => intro done h; exact ih _ (h.fold c)
  exact run parts [] ⟨[], by simp, Or.inl rfl⟩

/-- A folded list ends with a name, or it is a lone `..`. -/
theorem Folded.last_named {front : List Component} {last : Component}
    (h : Folded (front ++ [last])) : Named last ∨ front = [] ∧ last = .up := by
  obtain ⟨names, hnames, heq | heq⟩ := h
  · exact Or.inl (hnames last (heq ▸ List.mem_append_right front List.mem_cons_self))
  · cases front with
    | nil =>
      cases heq
      exact Or.inr ⟨rfl, rfl⟩
    | cons c front =>
      have hrest : front ++ [last] = names := (List.cons.inj heq).2
      exact Or.inl (hnames last (hrest ▸ List.mem_append_right front List.mem_cons_self))

theorem foldl_sublist (parts done : List Component) :
    (parts.foldl fold done).Sublist (done ++ parts) := by
  induction parts generalizing done with
  | nil => simp
  | cons c parts ih =>
    have hstep : (fold done c).Sublist (done ++ [c]) := by
      cases c with
      | here => exact List.sublist_append_left done _
      | up =>
        simp only [fold]
        split
        · exact List.sublist_append_right done _
        · exact (List.dropLast_sublist done).trans (List.sublist_append_left done _)
      | name file => exact List.Sublist.refl _
    rw [List.append_cons]
    exact (ih (fold done c)).trans (hstep.append_right parts)

theorem length_le_of_sublist {front back : List Component} (h : front.Sublist back)
    (absolute : Bool) : (⟨absolute, front⟩ : Path).length ≤ (⟨absolute, back⟩ : Path).length := by
  have run {front back : List Component} (h : front.Sublist back) : ∀ {a b : Nat}, a ≤ b →
      front.foldl (fun total part => total + part.bytes.length + 1) a ≤
        back.foldl (fun total part => total + part.bytes.length + 1) b := by
    induction h with
    | slnil => intro a b hab; exact hab
    | cons c _ ih => intro a b hab; exact ih (by dsimp only; omega)
    | cons_cons c _ ih => intro a b hab; exact ih (by dsimp only; omega)
  exact Nat.sub_le_sub_right (run h (Nat.le_refl 0)) _

theorem dropInnerDots_sublist (absolute : Bool) (parts : List Component) :
    (dropInnerDots absolute parts).Sublist parts := by
  cases parts with
  | nil => exact List.Sublist.refl []
  | cons c cs =>
    simp only [dropInnerDots]
    split
    · exact List.filter_sublist.cons c
    · exact List.filter_sublist.cons_cons c

/-! ## Normal paths -/

@[simp]
theorem normalize_absolute (p : Path) : p.normalize.absolute = p.absolute := by
  unfold normalize
  dsimp only
  split
  · next h => simp_all
  · rfl

theorem normalize_of_folded {p : Path} (h : Folded p.parts)
    (hp : (p.parts.isEmpty && !p.absolute) = false) : p.normalize = p := by
  unfold normalize
  dsimp only
  rw [h.foldl_eq, hp]
  rfl

theorem normalize_normalize (p : Path) : p.normalize.normalize = p.normalize := by
  have h := folded_foldl p.parts
  cases hp : (p.parts.foldl fold []).isEmpty && !p.absolute with
  | true =>
    have : p.normalize = ⟨false, [.here]⟩ := by simp only [normalize, hp, if_true]
    rw [this]
    rfl
  | false =>
    have : p.normalize = ⟨p.absolute, p.parts.foldl fold []⟩ := by
      simp only [normalize, hp]
      rfl
    rw [this]
    exact normalize_of_folded h hp

/-- A normal path has folded components, or it is a lone dot. -/
theorem normal_cases {p : Path} (hp : p.normalize = p) :
    p = ⟨false, [.here]⟩ ∨ Folded p.parts := by
  unfold normalize at hp
  dsimp only at hp
  split at hp
  · exact Or.inl hp.symm
  · refine Or.inr ?_
    rw [← hp]
    exact folded_foldl p.parts

theorem folded_of_normal {p : Path} (hp : p.normalize = p) (habs : p.absolute = true) :
    Folded p.parts := by
  rcases normal_cases hp with rfl | hfolded
  · cases habs
  · exact hfolded

@[simp]
theorem normalize_resolve (p q : Path) : (p.resolve q).normalize = p.resolve q :=
  normalize_normalize (p.join q)

theorem resolve_absolute {p : Path} (h : p.absolute = true) (q : Path) :
    (p.resolve q).absolute = true := by
  simp only [resolve, normalize_absolute, join]
  split
  · next hq => exact hq
  · simp [h]

/-- A normal absolute path stands for itself, wherever it is seen from. -/
theorem resolve_eq_self (p : Path) {q : Path} (hq : q.absolute = true) (hn : q.normalize = q) :
    p.resolve q = q := by
  simp only [resolve, join, hq, if_true]
  exact hn

theorem normalize_of_absolute {p : Path} (h : p.absolute = true) :
    p.normalize = ⟨true, p.parts.foldl fold []⟩ := by
  simp [normalize, h]

theorem resolve_of_relative {p q : Path} (h : p.absolute = true) (hq : q.absolute = false) :
    p.resolve q = ⟨true, (q.parts.filter (· ≠ .here)).foldl fold (p.parts.foldl fold [])⟩ := by
  have hjoin : p.join q = ⟨true, p.parts ++ q.parts.filter (· ≠ .here)⟩ := by simp [join, h, hq]
  rw [resolve, hjoin, normalize_of_absolute rfl, List.foldl_append]

theorem resolve_normalize {p : Path} (h : p.absolute = true) (q : Path) :
    p.normalize.resolve q = p.resolve q := by
  cases hq : q.absolute with
  | true => simp only [resolve, join, hq, if_true]
  | false =>
    have hnormal : p.normalize.absolute = true := (normalize_absolute p).trans h
    rw [resolve_of_relative hnormal hq, resolve_of_relative h hq, normalize_of_absolute h,
      (folded_foldl p.parts).foldl_eq]

end InkWorkspace.Path
