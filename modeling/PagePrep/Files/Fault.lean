/-!
# Faults of file access

Why a path cannot be read or written, in the words of the operating system.
-/

set_option autoImplicit false

namespace PagePrep

/-- Why a file or folder cannot be used. -/
inductive FileFault where
  | notFound
  | alreadyThere
  /-- Something that is no folder stands where one is needed. -/
  | notFolder
  /-- A folder stands where a file is needed. -/
  | isFolder
  /-- The links on the way are too many or lead in a circle. -/
  | tooManyLinks
  | nameTooLong
  /-- The path holds a character that no path can hold. -/
  | badPath
  /-- The content is not UTF-8. -/
  | notText
  deriving DecidableEq, Repr

/-- The fault in words. -/
def FileFault.message : FileFault → String
  | notFound => "No such file or directory (os error 2)"
  | alreadyThere => "File exists (os error 17)"
  | notFolder => "Not a directory (os error 20)"
  | isFolder => "Is a directory (os error 21)"
  | tooManyLinks => "Too many levels of symbolic links (os error 40)"
  | nameTooLong => "File name too long (os error 36)"
  | badPath => "file name contained an unexpected NUL byte"
  | notText => "stream did not contain valid UTF-8"

end PagePrep
