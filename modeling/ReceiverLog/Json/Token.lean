import ReceiverLog.Json.Number
import ReceiverLog.Json.Text

namespace ReceiverLog.Json

/-! The tokens of a JSON text. -/

inductive Token where
  | openArray | closeArray | openObject | closeObject | comma | colon
  | null
  | boolean (value : Bool)
  | number (literal : String)
  | string (text : Option String)
  deriving DecidableEq

def isBlank (character : Char) : Bool :=
  character ∈ [' ', '\t', '\n', '\r']

inductive Lexeme where
  | finished
  | blank (rest : List Char)
  | token (token : Token) (rest : List Char)
  | unreadable

namespace Lexeme

def ofString (text : List Char) : Lexeme :=
  match scanString [] text with
  | some (pieces, rest) => .token (.string ((Piece.join? pieces).map String.ofList)) rest
  | none => .unreadable

def ofNumber (text : List Char) : Lexeme :=
  let literal := text.takeWhile isNumeric
  if isLiteral literal then .token (.number (String.ofList literal)) (text.dropWhile isNumeric)
  else .unreadable

def of : List Char → Lexeme
  | [] => .finished
  | '[' :: rest => .token .openArray rest
  | ']' :: rest => .token .closeArray rest
  | '\x7b' :: rest => .token .openObject rest
  | '\x7d' :: rest => .token .closeObject rest
  | ',' :: rest => .token .comma rest
  | ':' :: rest => .token .colon rest
  | 'n' :: 'u' :: 'l' :: 'l' :: rest => .token .null rest
  | 't' :: 'r' :: 'u' :: 'e' :: rest => .token (.boolean true) rest
  | 'f' :: 'a' :: 'l' :: 's' :: 'e' :: rest => .token (.boolean false) rest
  | '"' :: rest => ofString rest
  | character :: rest =>
      if isBlank character then .blank rest
      else if isNumeric character then ofNumber (character :: rest)
      else .unreadable

def rest : Lexeme → List Char
  | .blank rest => rest
  | .token _ rest => rest
  | _ => []

theorem length_rest_ofString (text : List Char) :
    (ofString text).rest.length < text.length + 1 := by
  unfold ofString
  split
  · next scanned => exact Nat.lt_succ_of_lt (length_lt_of_scanString scanned)
  · simp [rest]

theorem length_rest_ofNumber {character : Char} (numeric : isNumeric character) (text : List Char) :
    (ofNumber (character :: text)).rest.length < text.length + 1 := by
  have dropped := (List.dropWhile_suffix isNumeric (l := text)).length_le
  simp only [ofNumber, List.dropWhile_cons, numeric, if_true]
  split <;> simp only [rest, List.length_nil] <;> omega

theorem length_rest_of (text : List Char) (some : text ≠ []) :
    (of text).rest.length < text.length := by
  fun_cases of text
  case case1 => contradiction
  case case11 => exact length_rest_ofString _
  case case13 => exact length_rest_ofNumber ‹_› _
  all_goals simp only [rest, List.length_cons, List.length_nil]
  all_goals omega

end Lexeme

namespace Token

def scan (tokens : List Token) (text : List Char) : Option (List Token) :=
  match _ : Lexeme.of text with
  | .finished => some tokens.reverse
  | .blank rest => scan tokens rest
  | .token token rest => scan (token :: tokens) rest
  | .unreadable => none
termination_by text.length
decreasing_by
  all_goals
    have shorter := Lexeme.length_rest_of text (by rintro rfl; simp [Lexeme.of] at *)
    simp_all [Lexeme.rest]

def all? (text : List Char) : Option (List Token) :=
  scan [] text

end Token

end ReceiverLog.Json
