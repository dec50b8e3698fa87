/-!
# `Host.OsError` — refusals of the operating system
-/

namespace CassetteGate

/-- Why the operating system refused something. -/
inductive OsError where
  /-- Nothing has that name. -/
  | notFound
  /-- It is not allowed, as running a directory is not. -/
  | permissionDenied
  /-- There is more text in the arguments or variables than a process can be handed. -/
  | argumentListTooLong
  /-- Something has that name already. -/
  | alreadyExists
  /-- A file stands where a directory is needed. -/
  | notADirectory
  /-- A directory stands where a file is needed. -/
  | isADirectory
  /-- It cannot be meant, as the removal of "here" is. -/
  | invalidArgument
  /-- The path or a part of it is too long. -/
  | nameTooLong
  /-- The null character stands in a command. -/
  | nulInCommand
  /-- The null character stands in a path. -/
  | nulInPath
  /-- Anything else. -/
  | other (text : String)
  deriving DecidableEq

/-- The text of a refusal. -/
def OsError.message : OsError → String
  | .notFound => "No such file or directory (os error 2)"
  | .argumentListTooLong => "Argument list too long (os error 7)"
  | .permissionDenied => "Permission denied (os error 13)"
  | .alreadyExists => "File exists (os error 17)"
  | .notADirectory => "Not a directory (os error 20)"
  | .isADirectory => "Is a directory (os error 21)"
  | .invalidArgument => "Invalid argument (os error 22)"
  | .nameTooLong => "File name too long (os error 36)"
  | .nulInCommand => "nul byte found in provided data"
  | .nulInPath => "file name contained an unexpected NUL byte"
  | .other text => text

end CassetteGate
