/-! Errors of the file system. -/
namespace TypedQuery

inductive OsError where
  | notFound
  | alreadyExists
  | notADirectory
  | isADirectory
  | nameTooLong
  | tooManyLinks
  | notUtf8
  | nulInPath
  deriving DecidableEq, Repr

def OsError.message : OsError → String
  | notFound => "No such file or directory (os error 2)"
  | alreadyExists => "File exists (os error 17)"
  | notADirectory => "Not a directory (os error 20)"
  | isADirectory => "Is a directory (os error 21)"
  | nameTooLong => "File name too long (os error 36)"
  | tooManyLinks => "Too many levels of symbolic links (os error 40)"
  | notUtf8 => "stream did not contain valid UTF-8"
  | nulInPath => "file name contained an unexpected NUL byte"

end TypedQuery
