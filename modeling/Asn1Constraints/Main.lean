import Asn1Constraints.Command.Run

/-!
The command on the files of the machine. Logging is left to whoever runs it: the
log file is opened, and nothing is written to it.
-/

namespace Asn1Constraints

/-- Error numbers come with either sign. -/
def errorNumber (code : UInt32) : UInt32 := min code (0 - code)

def FileError.ofIo : IO.Error → FileError
  | .noFileOrDirectory _ _ _ => .notFound
  | .resourceBusy _ _ => .busy
  | .alreadyExists _ _ _ => .alreadyExists
  | .inappropriateType _ code details =>
    if errorNumber code = 20 then .notDirectory
    else if errorNumber code = 21 then .isDirectory
    else .other details
  | .invalidArgument _ code details =>
    if errorNumber code = 36 then .nameTooLong else .other details
  | error => .other error.toString

def attempt {α : Type} (action : IO α) : IO (Except FileError α) := do
  try
    return .ok (← action)
  catch error =>
    return .error (.ofIo error)

def readText (path : FilePath) : IO (Except FileError String) := do
  match ← attempt (IO.FS.readBinFile path.text) with
  | .error error => return .error error
  | .ok bytes =>
    match String.fromUTF8? bytes with
    | some text => return .ok text
    | none => return .error .notText

def openAs (mode : IO.FS.Mode) (path : FilePath) : IO Unit := do
  let _ ← IO.FS.Handle.mk path.text mode

/-- The directories of an empty path are there already. -/
def makeMissing (path : FilePath) : IO Unit := do
  unless path.text = "" do
    IO.FS.createDirAll path.text

def machineFiles : FileSystem IO where
  isPresent path := return (← attempt (openAs .read path)).toBool
  read := readText
  append path := attempt (openAs .append path)
  makeDirectories path := attempt (makeMissing path)
  write path content := attempt (IO.FS.writeFile path.text content)
  rename source target := attempt (IO.FS.rename source.text target.text)

def runOnMachine (arguments : List String) : IO UInt32 := do
  let outcome ← (CommandLine.ofArguments arguments).run machineFiles
  (← IO.getStdout).putStr outcome.output
  (← IO.getStderr).putStr outcome.errors
  return outcome.exitCode.toUInt32

end Asn1Constraints

def main (arguments : List String) : IO UInt32 := Asn1Constraints.runOnMachine arguments
