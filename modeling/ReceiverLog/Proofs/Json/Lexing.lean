import ReceiverLog.Json.Token
import ReceiverLog.Proofs.Json.Literals

namespace ReceiverLog.Json

/-! Written texts and their tokens. A number goes on as long as characters of
numbers come, so what a text lexes into is said for every continuation that
begins with none. -/

/-! ## Strings -/

private theorem length_unit_digits :
    ∀ unit < 32, (List.replicate (4 - (Nat.toDigits 16 unit).length) '0'
      ++ Nat.toDigits 16 unit).length = 4 := by
  decide

private theorem digitsFrom_unit_digits :
    ∀ unit < 32, Number.digitsFrom 16 0 (List.replicate (4 - (Nat.toDigits 16 unit).length) '0'
      ++ Nat.toDigits 16 unit) = some unit := by
  decide

private theorem ofUnit_toNat {character : Char} (control : character < ' ') :
    Piece.ofUnit character.toNat = .character character := by
  have small : character.toNat < 32 := control
  have whole : ¬ (Piece.isHigh character.toNat || Piece.isLow character.toNat) := by
    simp only [Piece.isHigh, Piece.isLow, Bool.or_eq_true, Bool.and_eq_true, decide_eq_true_eq]
    omega
  rw [Piece.ofUnit, if_neg whole, Char.ofNat_toNat]

private theorem scanString_unit {character : Char} (control : character < ' ') (pieces : List Piece)
    (rest : List Char) :
    scanString pieces (['\\', 'u'] ++ List.replicate (4 - (Nat.toDigits 16 character.toNat).length) '0'
        ++ Nat.toDigits 16 character.toNat ++ rest)
      = scanString (.character character :: pieces) rest := by
  have small : character.toNat < 32 := control
  have four := length_unit_digits character.toNat small
  have read := digitsFrom_unit_digits character.toNat small
  rw [List.append_assoc ['\\', 'u']]
  match written : List.replicate (4 - (Nat.toDigits 16 character.toNat).length) '0'
      ++ Nat.toDigits 16 character.toNat with
  | [first, second, third, fourth] =>
    rw [written] at read
    simp only [List.cons_append, List.nil_append, scanString, read, ofUnit_toNat control]
  | [] | [_] | [_, _] | [_, _, _] | _ :: _ :: _ :: _ :: _ :: _ => simp [written] at four

private theorem scanString_itself {character : Char} (no_quote : character ≠ '"')
    (no_backslash : character ≠ '\\') (no_control : ¬ character < ' ') (pieces : List Piece)
    (rest : List Char) :
    scanString pieces (character :: rest) = scanString (.character character :: pieces) rest := by
  rw [scanString, if_neg (not_or.mpr ⟨no_control, no_backslash⟩)]
  all_goals simp_all

private theorem scanString_letter {letter character : Char}
    (unescaped : unescaped? letter = some character) (no_unit : letter ≠ 'u')
    (pieces : List Piece) (rest : List Char) :
    scanString pieces ('\\' :: letter :: rest)
      = scanString (.character character :: pieces) rest := by
  rw [scanString, unescaped]
  simp_all

private theorem scanString_escaped (character : Char) (pieces : List Piece) (rest : List Char) :
    scanString pieces (escaped character ++ rest)
      = scanString (.character character :: pieces) rest := by
  unfold escaped
  split_ifs with no_quote no_backslash _ _ _ _ _ control
  all_goals try
    subst character
    exact scanString_letter rfl (by decide) pieces rest
  · exact scanString_unit control pieces rest
  · exact scanString_itself no_quote no_backslash control pieces rest

private theorem scanString_flatMap_escaped (text : List Char) (pieces : List Piece)
    (rest : List Char) :
    scanString pieces (text.flatMap escaped ++ '"' :: rest)
      = some (pieces.reverse ++ text.map .character, rest) := by
  induction text generalizing pieces with
  | nil => simp [scanString]
  | cons head tail induction =>
    rw [List.flatMap_cons, List.append_assoc, scanString_escaped, induction]
    simp

private theorem join?_map_character (text : List Char) :
    Piece.join? (text.map .character) = some text := by
  induction text with
  | nil => rfl
  | cons head tail induction => simp [Piece.join?, induction]

theorem quote_none : quote none = ['"', '\\', 'u', 'd', '8', '0', '0', '"'] := by
  decide

private theorem quote_some (text : String) :
    quote (some text) = '"' :: (text.toList.flatMap escaped ++ ['"']) := rfl

theorem Lexeme.of_quote (text : Option String) (rest : List Char) :
    Lexeme.of (quote text ++ rest) = .token (.string text) rest := by
  cases text with
  | none =>
    have unit : Number.digitsFrom 16 0 ['d', '8', '0', '0'] = some 0xD800 := by decide
    have half : Piece.ofUnit 0xD800 = .half 0xD800 := by decide
    have scanned : scanString [] ('\\' :: 'u' :: 'd' :: '8' :: '0' :: '0' :: '"' :: rest)
        = some ([.half 0xD800], rest) := by
      simp only [scanString, unit, half, List.reverse_singleton]
    simp only [quote_none, List.cons_append, List.nil_append, Lexeme.of, Lexeme.ofString, scanned,
      Piece.join?, Option.map_none]
  | some text =>
    have scanned := scanString_flatMap_escaped text.toList [] rest
    simp only [quote_some, List.cons_append, List.append_assoc, List.nil_append, Lexeme.of,
      Lexeme.ofString, scanned, List.reverse_nil, join?_map_character, Option.map_some,
      String.ofList_toList]

/-! ## Numbers -/

/-- Texts behind which a number has ended. -/
def EndsNumber (text : List Char) : Prop :=
  ∀ character ∈ text.head?, ¬ isNumeric character

theorem endsNumber_nil : EndsNumber [] := by
  simp [EndsNumber]

theorem endsNumber_cons {character : Char} (ends : ¬ isNumeric character) (text : List Char) :
    EndsNumber (character :: text) := by
  simpa [EndsNumber] using ends

theorem EndsNumber.append {text more : List Char} (first : EndsNumber text)
    (second : EndsNumber more) : EndsNumber (text ++ more) := by
  cases text with
  | nil => exact second
  | cons head tail => exact first

private theorem Lexeme.of_numeric {character : Char} (numeric : isNumeric character)
    (rest : List Char) :
    Lexeme.of (character :: rest) = .ofNumber (character :: rest) := by
  have not_blank : ¬ isBlank character := by
    simp only [isBlank, List.mem_cons, List.not_mem_nil, or_false, decide_eq_true_eq]
    rintro (rfl | rfl | rfl | rfl) <;> contradiction
  unfold Lexeme.of
  split
  case h_12 first _ _ _ _ _ _ _ _ _ _ _ same =>
    cases same
    rw [if_neg not_blank, if_pos numeric]
  all_goals
    next same =>
    first
      | contradiction
      | cases same; contradiction

theorem Lexeme.of_literal {literal rest : List Char} (isLiteral_literal : isLiteral literal)
    (ends : EndsNumber rest) :
    Lexeme.of (literal ++ rest) = .token (.number (String.ofList literal)) rest := by
  have numeric := IsNumericText.of_isLiteral isLiteral_literal
  rcases span_append numeric ends with ⟨taken, dropped⟩
  cases literal with
  | nil => contradiction
  | cons head tail =>
    rw [List.cons_append, Lexeme.of_numeric (numeric head (by simp)), ← List.cons_append,
      Lexeme.ofNumber, taken, dropped, if_pos isLiteral_literal]

/-! ## Tokens -/

theorem Token.scan_finished (before : List Token) : Token.scan before [] = some before.reverse := by
  rw [Token.scan]
  rfl

theorem Token.scan_blank {text rest : List Char} (lexed : Lexeme.of text = .blank rest)
    (before : List Token) : Token.scan before text = Token.scan before rest := by
  rw [Token.scan]
  split <;> simp_all

theorem Token.scan_token {text rest : List Char} {token : Token}
    (lexed : Lexeme.of text = .token token rest) (before : List Token) :
    Token.scan before text = Token.scan (token :: before) rest := by
  rw [Token.scan]
  split <;> simp_all

/-- A text gives tokens, whatever comes before it, and whatever comes behind it
that does not lengthen a number at its end. -/
def Spells (text : List Char) (tokens : List Token) : Prop :=
  ∀ before rest, EndsNumber rest →
    Token.scan before (text ++ rest) = Token.scan (tokens.reverse ++ before) rest

namespace Spells

theorem nil : Spells [] [] :=
  fun _ _ _ => rfl

theorem append {text more : List Char} {tokens others : List Token} (first : Spells text tokens)
    (second : Spells more others) (ends : EndsNumber more) :
    Spells (text ++ more) (tokens ++ others) := by
  intro before rest rest_ends
  rw [List.append_assoc, first before _ (ends.append rest_ends), second _ rest rest_ends,
    List.reverse_append, List.append_assoc]

theorem cons (lexeme : List Char) {text : List Char} {token : Token} {tokens : List Token}
    (lexed : ∀ rest, Lexeme.of (lexeme ++ rest) = .token token rest) (tail : Spells text tokens) :
    Spells (lexeme ++ text) (token :: tokens) := by
  intro before rest ends
  rw [List.append_assoc, Token.scan_token (lexed _), tail _ rest ends]
  simp

theorem single (lexeme : List Char) {token : Token}
    (lexed : ∀ rest, Lexeme.of (lexeme ++ rest) = .token token rest) : Spells lexeme [token] := by
  simpa using cons lexeme lexed nil

theorem blank {character : Char} {text : List Char} {tokens : List Token}
    (lexed : ∀ rest, Lexeme.of (character :: rest) = .blank rest) (tail : Spells text tokens) :
    Spells (character :: text) tokens := by
  intro before rest ends
  rw [List.cons_append, Token.scan_blank (lexed _), tail before rest ends]

theorem literal {literal : String} (isLiteral_literal : isLiteral literal.toList) :
    Spells literal.toList [.number literal] := by
  intro before rest ends
  rw [Token.scan_token (Lexeme.of_literal isLiteral_literal ends), String.ofList_toList]
  rfl

theorem quote (text : Option String) : Spells (quote text) [.string text] :=
  single _ (Lexeme.of_quote text)

theorem all? {text : List Char} {tokens : List Token} (spells : Spells text tokens) :
    Token.all? text = some tokens := by
  have scanned := spells [] [] endsNumber_nil
  simpa [Token.all?, Token.scan_finished] using scanned

end Spells

end ReceiverLog.Json
