import ReceiverLog.Decoder

namespace ReceiverLog

/-! What can go wrong outside a sentence. The wording of causes that come from
the system is carried along as text. -/

inductive SettingsProblem where
  | unreadable
  | unparsable
  | noDirectory
  | unwritable
  | unavailable (path : String)
  | other (text : String)
  deriving DecidableEq

def SettingsProblem.message : SettingsProblem → String
  | .unreadable => "Failed to read config file"
  | .unparsable => "Failed to parse config file"
  | .noDirectory => "Failed to create config directory"
  | .unwritable => "Failed to write config file"
  | .unavailable path => "config file not available: " ++ path
  | .other text => text

inductive Failure where
  /-- Reading or writing a file failed. -/
  | file (cause : String)
  | json (cause : String)
  /-- Watching a directory failed. -/
  | watch (cause : String)
  | fileNotFound (path : String)
  | decoder (error : FeedError)
  | settings (problem : SettingsProblem)
  | other (text : String)
  deriving DecidableEq

namespace Failure

def message : Failure → String
  | .file cause => "IO error: " ++ cause
  | .json cause => "JSON error: " ++ cause
  | .watch cause => "Watch error: " ++ cause
  | .fileNotFound path => "Could not open file: " ++ path
  | .decoder error => "Decoder error: " ++ error.message
  | .settings problem => "Config error: " ++ problem.message
  | .other text => "Error: " ++ text

def cause? : Failure → Option String
  | .file cause => some cause
  | .json cause => some cause
  | .watch cause => some cause
  | .decoder error => some error.message
  | _ => none

end Failure

end ReceiverLog
