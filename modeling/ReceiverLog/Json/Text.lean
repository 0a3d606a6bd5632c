import ReceiverLog.Number.Numeral

namespace ReceiverLog.Json

/-! Strings as they are quoted in JSON. An escape may stand for half of a
surrogate pair, so a quoted string is first read as pieces; only if every
half meets its other half is it a text. -/

def escaped (character : Char) : List Char :=
  if character = '"' then ['\\', '"']
  else if character = '\\' then ['\\', '\\']
  else if character = '\x08' then ['\\', 'b']
  else if character = '\x0c' then ['\\', 'f']
  else if character = '\n' then ['\\', 'n']
  else if character = '\r' then ['\\', 'r']
  else if character = '\t' then ['\\', 't']
  else if character < ' ' then
    let digits := Nat.toDigits 16 character.toNat
    ['\\', 'u'] ++ List.replicate (4 - digits.length) '0' ++ digits
  else [character]

/-- A quoted string. One that is no text is written as half a pair. -/
def quote : Option String → List Char
  | some text => '"' :: text.toList.flatMap escaped ++ ['"']
  | none => "\"\\ud800\"".toList

inductive Piece where
  | character (character : Char)
  | half (unit : Nat)
  deriving DecidableEq

namespace Piece

def isHigh (unit : Nat) : Bool :=
  0xD800 ≤ unit && unit < 0xDC00

def isLow (unit : Nat) : Bool :=
  0xDC00 ≤ unit && unit < 0xE000

def ofUnit (unit : Nat) : Piece :=
  if isHigh unit || isLow unit then .half unit else .character (Char.ofNat unit)

/-- The text that pieces spell, with each pair of halves as one character. -/
def join? : List Piece → Option (List Char)
  | [] => some []
  | .character single :: rest => (join? rest).map (single :: ·)
  | .half high :: .half low :: rest =>
      if isHigh high && isLow low then
        (join? rest).map
          (Char.ofNat (0x10000 + (high - 0xD800) * 0x400 + (low - 0xDC00)) :: ·)
      else none
  | .half _ :: _ => none

end Piece

def unescaped? : Char → Option Char
  | '"' => some '"'
  | '\\' => some '\\'
  | '/' => some '/'
  | 'b' => some '\x08'
  | 'f' => some '\x0c'
  | 'n' => some '\n'
  | 'r' => some '\r'
  | 't' => some '\t'
  | _ => none

/-- The pieces up to the closing quote, and what follows it. The first
argument holds the pieces so far, last one first. -/
def scanString (pieces : List Piece) : List Char → Option (List Piece × List Char)
  | [] => none
  | '"' :: rest => some (pieces.reverse, rest)
  | '\\' :: 'u' :: first :: second :: third :: fourth :: rest =>
      match Number.digitsFrom 16 0 [first, second, third, fourth] with
      | some unit => scanString (.ofUnit unit :: pieces) rest
      | none => none
  | '\\' :: letter :: rest =>
      match unescaped? letter with
      | some character => scanString (.character character :: pieces) rest
      | none => none
  | character :: rest =>
      if character < ' ' ∨ character = '\\' then none
      else scanString (.character character :: pieces) rest

theorem length_lt_of_scanString {pieces found : List Piece} {text rest : List Char}
    (scanned : scanString pieces text = some (found, rest)) : rest.length < text.length := by
  fun_induction scanString pieces text <;> simp_all <;> omega

end ReceiverLog.Json
