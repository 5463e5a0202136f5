import Asn1Constraints.Files.Path

/-!
What is asked of a file system, whichever monad it lives in.
-/

namespace Asn1Constraints

inductive FileError where
  | notFound
  | busy
  | alreadyExists
  | notDirectory
  | isDirectory
  | nameTooLong
  /-- No file name holds a NUL. -/
  | namelessByte
  | notText
  | other (reason : String)
deriving DecidableEq, Repr

def FileError.message : FileError → String
  | .notFound => "No such file or directory (os error 2)"
  | .busy => "Device or resource busy (os error 16)"
  | .alreadyExists => "File exists (os error 17)"
  | .notDirectory => "Not a directory (os error 20)"
  | .isDirectory => "Is a directory (os error 21)"
  | .nameTooLong => "File name too long (os error 36)"
  | .namelessByte => "file name contained an unexpected NUL byte"
  | .notText => "stream did not contain valid UTF-8"
  | .other reason => reason

structure FileSystem (m : Type → Type) where
  isPresent : FilePath → m Bool
  read : FilePath → m (Except FileError String)
  /-- Open a file for appending; one that is not there is created. -/
  append : FilePath → m (Except FileError Unit)
  /-- Make a directory and all directories on the way to it. -/
  makeDirectories : FilePath → m (Except FileError Unit)
  /-- Give a file new content; one that is not there is created. -/
  write : FilePath → String → m (Except FileError Unit)
  /-- Move a file to another path, over the file that is there. -/
  rename : FilePath → FilePath → m (Except FileError Unit)

end Asn1Constraints
