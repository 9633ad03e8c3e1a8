namespace LaneQuota

inductive FileFault where
  | notFound
  | exists
  | notDirectory
  | isDirectory
  | notEmpty
  | nameTooLong
  | notText
  | zeroByte
deriving DecidableEq, Repr

def FileFault.message : FileFault → String
  | .notFound => "No such file or directory (os error 2)"
  | .exists => "File exists (os error 17)"
  | .notDirectory => "Not a directory (os error 20)"
  | .isDirectory => "Is a directory (os error 21)"
  | .nameTooLong => "File name too long (os error 36)"
  | .notEmpty => "Directory not empty (os error 39)"
  | .notText => "stream did not contain valid UTF-8"
  | .zeroByte => "file name contained an unexpected NUL byte"

inductive Fault where
  | file (cause : FileFault)
  | document (text : String)
  | network (text : String)
  | settings (text : String)
  | persistence (text : String)
  | sync (key text : String)
  | other (text : String)
  /-- A state file that was not accepted. Its message ends where the reader of the file would say
  what it stumbled over. -/
  | corruptState (path : String)
  | overflow
deriving DecidableEq, Repr

def Fault.message : Fault → String
  | .file cause => "IO: " ++ cause.message
  | .document text => "JSON: " ++ text
  | .network text => "HTTP: " ++ text
  | .settings text => "config: " ++ text
  | .persistence text => "persistence: " ++ text
  | .sync key text => "usage sync " ++ key ++ ": " ++ text
  | .other text => text
  | .corruptState path => "persistence: corrupt ledger state " ++ path
  | .overflow => "attempt to add with overflow"

end LaneQuota
