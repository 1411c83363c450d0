/-! The causes for which a file cannot be read or written, and the wording of each. -/

namespace LineEditor

/-- Why a file operation failed. -/
inductive FileFault where
  | notFound
  | notDirectory
  | isDirectory
  | invalidName
  | nameTooLong
  | nulInName
  | notText
  /-- The root of all files cannot be replaced. -/
  | busy
  /-- The rights do not allow it. -/
  | denied
  /-- The system does not allow it, whatever the rights are. -/
  | notPermitted
  | tooManyLinks
  /-- All names for a draft are taken. -/
  | tooManyDrafts
  | noSpace
  | readOnly
  /-- The system fails for another reason. -/
  | failed
  deriving DecidableEq, Repr

/-- The wording of a fault, with the number by which the system knows it. -/
def FileFault.message : FileFault → String
  | notFound => "No such file or directory (os error 2)"
  | notDirectory => "Not a directory (os error 20)"
  | isDirectory => "Is a directory (os error 21)"
  | invalidName => "Invalid argument (os error 22)"
  | nameTooLong => "File name too long (os error 36)"
  | nulInName => "file name contained an unexpected NUL byte"
  | notText => "stream did not contain valid UTF-8"
  | busy => "Device or resource busy (os error 16)"
  | denied => "Permission denied (os error 13)"
  | notPermitted => "Operation not permitted (os error 1)"
  | tooManyLinks => "Too many levels of symbolic links (os error 40)"
  | tooManyDrafts => "too many temporary files exist"
  | noSpace => "No space left on device (os error 28)"
  | readOnly => "Read-only file system (os error 30)"
  | failed => "Input/output error (os error 5)"

/-- A fault at a path. -/
structure FileError where
  path : String
  fault : FileFault
  deriving DecidableEq, Repr

/-- The path and what is wrong with it. -/
def FileError.message (error : FileError) : String :=
  error.path ++ ": " ++ error.fault.message

end LineEditor
