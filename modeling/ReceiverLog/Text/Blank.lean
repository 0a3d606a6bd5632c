namespace ReceiverLog.Text

/-! Blank characters around a field. Fields come from frames that hold ASCII
alone, so the class lists the ASCII members of the white-space property. -/

def isBlank (character : Char) : Bool :=
  character == ' ' || ('\t' ≤ character && character ≤ '\r')

def trim (text : List Char) : List Char :=
  ((text.dropWhile isBlank).reverse.dropWhile isBlank).reverse

example : trim " \t4807.038\r".toList = "4807.038".toList := by decide

end ReceiverLog.Text
