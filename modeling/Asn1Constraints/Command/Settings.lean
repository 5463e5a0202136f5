import Asn1Constraints.Json.Basic
import Asn1Constraints.Toml.Entries

/-!
Settings of the command: what its options stand at when they are not given.
Every key may be left out, and a key that is not known is refused.
-/

namespace Asn1Constraints

structure Settings where
  logLevel : String
  logJson : Bool
  logFile : Option String
  testCaseSeed : UInt64
  testCaseCount : UInt64
  maxCollectionLen : UInt64
deriving DecidableEq, Repr

inductive SettingsError where
  /-- The text is not a list of known settings. -/
  | unreadable
  /-- Runs of no test cases cannot be the default. -/
  | noTestCases
deriving DecidableEq, Repr

/-- What is printed of settings. Where in a text its reader stumbled is left out. -/
def SettingsError.message : SettingsError → String
  | .unreadable => "unreadable settings"
  | .noTestCases => "testcase_count must be at least 1"

namespace Settings

def standard : Settings := ⟨"info", false, none, 42, 10, 16⟩

/-- Words in a settings file are integers, so they end at the largest integer. -/
def word? (n : Int64) : Option UInt64 := if 0 ≤ n then some n.toUInt64 else none

def put (settings : Settings) : Toml.Entry → Option Settings
  | ("log_level", .string text) => some { settings with logLevel := text }
  | ("log_json", .boolean value) => some { settings with logJson := value }
  | ("log_file", .string text) => some { settings with logFile := some text }
  | ("testcase_seed", .integer n) =>
    (word? n).map fun seed => { settings with testCaseSeed := seed }
  | ("testcase_count", .integer n) =>
    (word? n).map fun count => { settings with testCaseCount := count }
  | ("max_collection_len", .integer n) =>
    (word? n).map fun length => { settings with maxCollectionLen := length }
  | _ => none

def ofText (text : String) : Except SettingsError Settings :=
  match (Toml.entries? text).bind fun entries => entries.foldlM put standard with
  | none => .error .unreadable
  | some settings =>
    if settings.testCaseCount = 0 then .error .noTestCases else .ok settings

def toJson (settings : Settings) : Json :=
  .object [("log_level", .string settings.logLevel), ("log_json", .boolean settings.logJson),
    ("log_file", (settings.logFile.map Json.string).getD .null),
    ("testcase_seed", .ofUInt64 settings.testCaseSeed),
    ("testcase_count", .ofUInt64 settings.testCaseCount),
    ("max_collection_len", .ofUInt64 settings.maxCollectionLen)]

end Settings

end Asn1Constraints
