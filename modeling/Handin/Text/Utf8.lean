namespace Handin

abbrev Bytes := List UInt8

namespace Text

def utf8 (s : String) : Bytes := s.toUTF8.data.toList

def ofUtf8? (b : Bytes) : Option String := String.fromUTF8? ⟨b.toArray⟩

theorem ofUtf8?_utf8 (s : String) : ofUtf8? (utf8 s) = some s := by
  have h : (⟨(utf8 s).toArray⟩ : ByteArray) = s.toUTF8 := by simp [utf8]
  unfold ofUtf8?
  rw [h]
  simp [String.fromUTF8?, String.fromUTF8, String.toUTF8, s.isValidUTF8]

theorem utf8_inj {s t : String} : utf8 s = utf8 t ↔ s = t := by
  constructor
  · intro same
    have back := ofUtf8?_utf8 s
    rw [same, ofUtf8?_utf8] at back
    exact (Option.some.inj back).symm
  · exact congrArg utf8

theorem utf8_append (s t : String) : utf8 (s ++ t) = utf8 s ++ utf8 t := by
  simp [utf8, String.toUTF8]

end Text

end Handin
