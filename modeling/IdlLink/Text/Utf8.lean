/-
Text as bytes.
-/

namespace IdlLink.Text

/-- The text that bytes spell in UTF-8, if they do. -/
def ofBytes? (bs : List UInt8) : Option String :=
  bs.toByteArray.utf8Decode?.map fun cs => String.ofList cs.toList

/-- A text in UTF-8. -/
def toBytes (s : String) : List UInt8 := s.toUTF8.toList

end IdlLink.Text
