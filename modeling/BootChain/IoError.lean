namespace BootChain

/-- Why the host refused an operation on a file or a program. -/
inductive IoError where
  | notFound
  | argumentsTooLong
  | badFormat
  | badDescriptor
  | permissionDenied
  | alreadyExists
  | notADirectory
  | isADirectory
  | deviceFull
  | nameTooLong
  | tooManyLinks
  | nulInPath
  | nulInArgument
  | wholeTree
  deriving DecidableEq, Repr

namespace IoError

/-- The host's wording of an error, with its number where it has one. -/
def message : IoError → String
  | notFound => "No such file or directory (os error 2)"
  | argumentsTooLong => "Argument list too long (os error 7)"
  | badFormat => "Exec format error (os error 8)"
  | badDescriptor => "Bad file descriptor (os error 9)"
  | permissionDenied => "Permission denied (os error 13)"
  | alreadyExists => "File exists (os error 17)"
  | notADirectory => "Not a directory (os error 20)"
  | isADirectory => "Is a directory (os error 21)"
  | deviceFull => "No space left on device (os error 28)"
  | nameTooLong => "File name too long (os error 36)"
  | tooManyLinks => "Too many levels of symbolic links (os error 40)"
  | nulInPath => "file name contained an unexpected NUL byte"
  | nulInArgument => "nul byte found in provided data"
  | wholeTree => "failed to create whole tree"

end IoError

end BootChain
