import ReceiverLog.Sentence
import ReceiverLog.Text.Quoted

namespace ReceiverLog

/-- The most bytes a frame may hold between its start marker and its star. -/
def longestBody : Nat := 256

inductive Malformed where
  | checksumMismatch (expected computed : UInt8)
  | invalidChecksum (digits : List Char)
  /-- A new start marker came before the star. -/
  | truncated
  | tooLong
  | notAscii
  | missingFields (kind : SentenceKind) (found : Nat)
  | invalidField (kind : SentenceKind) (field : Nat) (value : List Char)
  deriving DecidableEq

namespace Malformed

def byteText (byte : UInt8) : String :=
  let digits := (Nat.toDigits 16 byte.toNat).map Char.toUpper
  String.ofList (List.replicate (2 - digits.length) '0' ++ digits)

def message : Malformed → String
  | .checksumMismatch expected computed =>
      "checksum mismatch: expected " ++ byteText expected ++
        ", computed " ++ byteText computed
  | .invalidChecksum digits =>
      "invalid checksum digits " ++ String.ofList (Text.quoted digits)
  | .truncated => "sentence truncated by a new start marker"
  | .tooLong => s!"sentence exceeds {longestBody} bytes"
  | .notAscii => "sentence contains non-ASCII bytes"
  | .missingFields kind found =>
      s!"{kind.code} has {found} fields, {kind.fieldCount} required"
  | .invalidField kind field value =>
      s!"{kind.code} field {field} has invalid value " ++ String.ofList (Text.quoted value)

end Malformed

end ReceiverLog
