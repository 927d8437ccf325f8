import InkWorkspace.Text.Utf8

/- Texts and their bytes. A text is read back from its bytes (`decode?_utf8`), so texts are known by
   them, and an ASCII byte comes from its own character only (`toNat_of_mem_utf8EncodeChar`): a slash
   among the bytes is a slash in the text. -/
namespace InkWorkspace.Text

theorem toByteArray_ofList (cs : List Char) :
    (String.ofList cs).toByteArray = ⟨(utf8 cs).toArray⟩ := by
  rw [String.toByteArray_ofList, List.utf8Encode]
  apply ByteArray.ext
  apply Array.toList_inj.mp
  rw [List.toList_data_toByteArray]
  rfl

/-- Bytes of a text are read as that text. -/
theorem decode?_utf8 (cs : List Char) : decode? (utf8 cs) = some (String.ofList cs) := by
  rw [decode?, ← toByteArray_ofList, String.fromUTF8?, dif_pos (String.ofList cs).isValidUTF8]
  rfl

theorem utf8_inj {a b : List Char} (h : utf8 a = utf8 b) : a = b := by
  have hdecode := decode?_utf8 a
  rw [h, decode?_utf8] at hdecode
  exact (String.ofList_injective (Option.some.inj hdecode)).symm

theorem toNat_of_mem_utf8EncodeChar {c : Char} {byte : UInt8}
    (h : byte ∈ String.utf8EncodeChar c) (hbyte : byte.toNat < 0x80) : c.toNat = byte.toNat := by
  unfold String.utf8EncodeChar at h
  dsimp only at h
  split at h
  · next hascii =>
    rw [List.mem_singleton.mp h, UInt8.toNat_ofNat']
    exact (Nat.mod_eq_of_lt (show c.val.toNat < 256 by omega)).symm
  · -- All bytes of the longer forms have their highest bit set.
    exfalso
    split at h
    · simp only [List.mem_cons, List.not_mem_nil, or_false] at h
      rcases h with rfl | rfl <;> simp only [UInt8.toNat_ofNat'] at hbyte <;> omega
    · split at h
      · simp only [List.mem_cons, List.not_mem_nil, or_false] at h
        rcases h with rfl | rfl | rfl <;> simp only [UInt8.toNat_ofNat'] at hbyte <;> omega
      · simp only [List.mem_cons, List.not_mem_nil, or_false] at h
        rcases h with rfl | rfl | rfl | rfl <;> simp only [UInt8.toNat_ofNat'] at hbyte <;> omega

end InkWorkspace.Text
