import InkWorkspace.Proofs.Path
import InkWorkspace.Proofs.PathMap
import InkWorkspace.Uri

/- One path, one address. Percent codes can be read back one at a time: what stands for a byte is a
   percent sign with two digits or a character other than the percent sign (`encodeByte_append_inj`).
   No slash stands for a byte of a name, so the slashes of an address separate its names
   (`names_inj`). Hence two paths have different addresses (`ofPath?_inj`). The other way, an address
   names a path from the root (`absolute_of_toSpelling?`). -/
namespace InkWorkspace

namespace Uri

/-! ## Percent codes -/

/-- The digit of a percent code. -/
def hexDigit (n : Nat) : Char :=
  ((Nat.toDigits 16 n).headD '0').toUpper

theorem hexDigit_inj : ∀ m < 16, ∀ n < 16, hexDigit m = hexDigit n → m = n := by
  decide

theorem hexDigit_ne_slash : ∀ n < 16, hexDigit n ≠ '/' := by
  decide

theorem percentCode_eq (byte : UInt8) :
    percentCode byte = ['%', hexDigit (byte.toNat / 16), hexDigit (byte.toNat % 16)] := rfl

theorem percentCode_inj {a b : UInt8} (h : percentCode a = percentCode b) : a = b := by
  have ha := a.toNat_lt
  have hb := b.toNat_lt
  simp only [percentCode_eq, List.cons.injEq, true_and, and_true] at h
  have hhigh := hexDigit_inj _ (by omega) _ (by omega) h.1
  have hlow := hexDigit_inj _ (by omega) _ (by omega) h.2
  exact UInt8.toNat_inj.mp (by omega)

variable {keep : Char → Bool}

theorem encodeByte_cases (hpercent : keep '%' = false) (byte : UInt8) :
    (∃ c, encodeByte keep byte = [c] ∧ c ≠ '%' ∧ c = Char.ofNat byte.toNat ∧ keep c = true) ∨
      encodeByte keep byte = percentCode byte := by
  unfold encodeByte
  dsimp only
  split
  · next hkeep =>
    simp only [Bool.and_eq_true] at hkeep
    refine Or.inl ⟨_, rfl, ?_, rfl, hkeep.2⟩
    intro heq
    rw [heq, hpercent] at hkeep
    exact Bool.false_ne_true hkeep.2
  · exact Or.inr rfl

theorem ofNat_byte_inj {a b : UInt8} (h : Char.ofNat a.toNat = Char.ofNat b.toNat) : a = b := by
  have toNat_ofNat (byte : UInt8) : (Char.ofNat byte.toNat).toNat = byte.toNat := by
    have hlt := byte.toNat_lt
    have hvalid : byte.toNat.isValidChar := Or.inl (by omega)
    unfold Char.ofNat
    rw [dif_pos hvalid]
    rfl
  have hnat := congrArg Char.toNat h
  rw [toNat_ofNat, toNat_ofNat] at hnat
  exact UInt8.toNat_inj.mp hnat

/-- The first byte can be read back from what follows it. -/
theorem encodeByte_append_inj (hpercent : keep '%' = false) {a b : UInt8} {front back : List Char}
    (h : encodeByte keep a ++ front = encodeByte keep b ++ back) : a = b ∧ front = back := by
  rcases encodeByte_cases hpercent a with ⟨c, ha, hc, hca, -⟩ | ha <;>
    rcases encodeByte_cases hpercent b with ⟨d, hb, hd, hdb, -⟩ | hb
  · rw [ha, hb] at h
    obtain ⟨hcd, hrest⟩ := List.cons.inj h
    exact ⟨ofNat_byte_inj (hca.symm.trans (hcd.trans hdb)), hrest⟩
  · rw [ha, hb] at h
    exact absurd (List.cons.inj h).1 hc
  · rw [ha, hb] at h
    exact absurd (List.cons.inj h).1.symm hd
  · rw [ha, hb] at h
    obtain ⟨hcode, hrest⟩ := List.append_inj h rfl
    exact ⟨percentCode_inj hcode, hrest⟩

theorem flatMap_encodeByte_inj (hpercent : keep '%' = false) {a b : List UInt8}
    (h : a.flatMap (encodeByte keep) = b.flatMap (encodeByte keep)) : a = b := by
  have hne (byte : UInt8) : encodeByte keep byte ≠ [] := by
    rcases encodeByte_cases hpercent byte with ⟨c, hc, -⟩ | hc <;> simp [hc, percentCode_eq]
  induction a generalizing b with
  | nil =>
    cases b with
    | nil => rfl
    | cons y b => exact absurd (List.append_eq_nil_iff.mp h.symm).1 (hne y)
  | cons x a ih =>
    cases b with
    | nil => exact absurd (List.append_eq_nil_iff.mp h).1 (hne x)
    | cons y b =>
      rw [List.flatMap_cons, List.flatMap_cons] at h
      obtain ⟨rfl, hrest⟩ := encodeByte_append_inj hpercent h
      rw [ih hrest]

/-! ## Names between slashes -/

theorem keepInName_percent : keepInName '%' = false := by
  decide

theorem slash_not_mem_encodeByte (byte : UInt8) : '/' ∉ encodeByte keepInName byte := by
  have hlt := byte.toNat_lt
  rcases encodeByte_cases keepInName_percent byte with ⟨c, hc, -, -, hkeep⟩ | hcode
  · rw [hc, List.mem_singleton]
    rintro rfl
    exact absurd hkeep (by decide)
  · rw [hcode, percentCode_eq]
    simp only [List.mem_cons, List.not_mem_nil, or_false, not_or]
    exact ⟨by decide, (hexDigit_ne_slash _ (by omega)).symm, (hexDigit_ne_slash _ (by omega)).symm⟩

/-- The characters of an address that stand for a name. -/
def nameChars (component : Component) : List Char :=
  component.bytes.flatMap (encodeByte keepInName)

theorem slash_not_mem_nameChars (component : Component) : '/' ∉ nameChars component := by
  intro h
  obtain ⟨byte, -, hbyte⟩ := List.mem_flatMap.mp h
  exact slash_not_mem_encodeByte byte hbyte

theorem nameChars_inj {a b : Component} (h : nameChars a = nameChars b) : a = b :=
  Component.bytes_inj (flatMap_encodeByte_inj keepInName_percent h)

theorem names_inj {a b : List Component}
    (h : a.flatMap (fun c => '/' :: nameChars c) = b.flatMap (fun c => '/' :: nameChars c)) :
    a = b := by
  induction a generalizing b with
  | nil =>
    cases b with
    | nil => rfl
    | cons y b => cases h
  | cons x a ih =>
    cases b with
    | nil => cases h
    | cons y b =>
      rw [List.flatMap_cons, List.flatMap_cons, List.cons_append, List.cons_append] at h
      -- A name reaches up to the next slash.
      have upTo (c : Component) (rest : List Component) :
          (nameChars c ++ rest.flatMap fun c => '/' :: nameChars c).takeWhile (· ≠ '/') =
            nameChars c := by
        rw [List.takeWhile_append_of_pos]
        · cases rest <;> simp
        · intro char hchar
          simp only [decide_eq_true_eq]
          rintro rfl
          exact slash_not_mem_nameChars c hchar
      have htail := (List.cons.inj h).2
      have hname : nameChars x = nameChars y := by
        rw [← upTo x a, ← upTo y b, htail]
      rw [hname] at htail
      rw [nameChars_inj hname, ih (List.append_cancel_left htail)]

/-! ## Addresses of paths -/

theorem names_ne_root (parts : List Component) :
    parts.flatMap (fun c => '/' :: nameChars c) ≠ ['/'] := by
  cases parts with
  | nil => simp
  | cons c cs =>
    intro hroot
    obtain ⟨hnil, -⟩ := List.append_eq_nil_iff.mp (List.cons.inj hroot).2
    exact c.bytes_ne_nil (flatMap_encodeByte_inj keepInName_percent hnil)

theorem ofPath?_cases {path : Path} {uri : Uri} (h : ofPath? path = some uri) :
    path.absolute = true ∧ (path.parts = [] ∧ uri.path.toList = ['/'] ∨
      uri.path.toList = path.parts.flatMap fun c => '/' :: nameChars c) := by
  unfold ofPath? at h
  split at h
  · next habs =>
    cases h
    refine ⟨habs, ?_⟩
    cases path.parts with
    | nil => exact Or.inl ⟨rfl, rfl⟩
    | cons c cs =>
      refine Or.inr ?_
      simp [String.toList_join, List.flatMap_map, encodeBytes, nameChars]
  · cases h

/-- Paths are the same if their addresses are. -/
theorem ofPath?_inj {p q : Path} {uri : Uri} (hpuri : ofPath? p = some uri)
    (hquri : ofPath? q = some uri) : p = q := by
  obtain ⟨hpabs, hpchars⟩ := ofPath?_cases hpuri
  obtain ⟨hqabs, hqchars⟩ := ofPath?_cases hquri
  obtain ⟨pabs, ps⟩ := p
  obtain ⟨qabs, qs⟩ := q
  have hparts : ps = qs := by
    rcases hpchars with ⟨hnil, hroot⟩ | hnames <;> rcases hqchars with ⟨hother, hroot'⟩ | hnames'
    · exact hnil.trans hother.symm
    · exact absurd (hnames'.symm.trans hroot) (names_ne_root qs)
    · exact absurd (hnames.symm.trans hroot') (names_ne_root ps)
    · exact names_inj (hnames.symm.trans hnames')
  cases hpabs
  cases hqabs
  rw [hparts]

/-- What an address names lies below the root. -/
theorem absolute_of_toSpelling? {uri : Uri} {spelling : Spelling}
    (h : uri.toSpelling? = some spelling) : spelling.path.absolute = true := by
  unfold toSpelling? at h
  dsimp only at h
  split at h
  · next hslash =>
    simp only [Bool.and_eq_true, decide_eq_true_eq] at hslash
    obtain ⟨rest, hpath⟩ : ∃ rest, uri.path.toList = '/' :: rest :=
      List.head?_eq_some_iff.mp hslash.1
    have hbytes : decodeBytes uri.path.toList = slashByte :: decodeBytes rest := by
      rw [hpath]
      rfl
    cases h
    rw [hbytes]
    split <;> rfl
  · cases h

end Uri

end InkWorkspace
