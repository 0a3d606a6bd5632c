namespace ReceiverLog.Text

/-! Text as bytes in files. -/

def utf8 (text : String) : List UInt8 :=
  text.toUTF8.data.toList

def ofUtf8? (bytes : List UInt8) : Option String :=
  String.fromUTF8? ⟨bytes.toArray⟩

@[simp] theorem ofUtf8?_utf8 (text : String) : ofUtf8? (utf8 text) = some text := by
  simp only [ofUtf8?, utf8, String.fromUTF8?, Array.toArray_toList]
  exact dif_pos text.isValidUTF8

end ReceiverLog.Text
