namespace ReceiverLog.Text

/-! Quoted text in diagnostics. The quoted values are pieces of a frame, so
they are ASCII: a quote and a backslash are escaped, a control character is
written by its escape letter or its code, and all else stands for itself. -/

def hexadecimal (value : Nat) : List Char :=
  Nat.toDigits 16 value

def quotedCharacter (character : Char) : List Char :=
  if character = '"' then ['\\', '"']
  else if character = '\\' then ['\\', '\\']
  else if character = '\t' then ['\\', 't']
  else if character = '\n' then ['\\', 'n']
  else if character = '\r' then ['\\', 'r']
  else if character = '\x00' then ['\\', '0']
  else if character < ' ' || character = '\x7f' then
    ['\\', 'u', '\x7b'] ++ hexadecimal character.toNat ++ ['\x7d']
  else [character]

def quoted (text : List Char) : List Char :=
  ['"'] ++ text.flatMap quotedCharacter ++ ['"']

example : quoted "a\"\x1b".toList = "\"a\\\"\\u\x7b1b\x7d\"".toList := by decide

end ReceiverLog.Text
