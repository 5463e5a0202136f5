import Asn1Constraints.Files.Path

/-!
The arguments of the command. Options that every command has may stand before
or after its name; the later place wins. An option is given once in a place, its
value follows it or an equals sign, and a value of its own does not start with a
dash. After two dashes everything is a plain argument.
-/

namespace Asn1Constraints

inductive SchemaKind where
  | model
  | plan
deriving DecidableEq, Repr

/-- A type of the model in a file. -/
structure Target where
  model : FilePath
  typeName : String
deriving DecidableEq, Repr

structure ValidateRequest where
  target : Target
  instances : FilePath
  batch : Bool
  all : Bool
  report : Option FilePath
  metrics : Option FilePath
  maxExamples : Nat
deriving DecidableEq, Repr

structure TestCasesRequest where
  target : Target
  count : Option UInt64
  seed : Option UInt64
  maxCollectionLen : Option UInt64
  output : Option FilePath
deriving DecidableEq, Repr

inductive Command where
  | check (model : FilePath)
  | plan (target : Target) (output : Option FilePath)
  | defaultInstance (target : Target)
  | validate (request : ValidateRequest)
  | testCases (request : TestCasesRequest)
  | schema (kind : SchemaKind)
deriving DecidableEq, Repr

structure Invocation where
  config : FilePath
  logLevel : Option String
  logJson : Bool
  logFile : Option FilePath
  command : Command
deriving DecidableEq, Repr

inductive CommandLine where
  | help
  | version
  | invoke (invocation : Invocation)
  /-- The arguments fit no command. -/
  | misused
deriving DecidableEq, Repr

/-! Options. -/

inductive OptionKind where
  | flag
  | text
  | path
  | word
deriving DecidableEq, Repr

abbrev OptionTable := List (String × OptionKind)

def sharedOptions : OptionTable :=
  [("--config", .path), ("--log-level", .text), ("--log-json", .flag), ("--log-file", .path)]

def wordOfDigits? (digits : List Char) : Option UInt64 :=
  if digits ≠ [] && digits.all Char.isDigit then
    let value := digits.foldl (fun value digit => value * 10 + (digit.toNat - 48)) 0
    if value < UInt64.size then some (UInt64.ofNat value) else none
  else none

/-- Decimal digits, with a plus sign at most. -/
def word? (text : String) : Option UInt64 :=
  match text.toList with
  | '+' :: digits => wordOfDigits? digits
  | digits => wordOfDigits? digits

def OptionKind.accepts (kind : OptionKind) (value : String) : Bool :=
  match kind with
  | .flag => false
  | .text => true
  | .path => value ≠ ""
  | .word => (word? value).isSome

/-- Options that were given, with their values, and plain arguments in order. -/
structure Given where
  options : List (String × String)
  words : List String
deriving DecidableEq, Repr

namespace Given

def empty : Given := ⟨[], []⟩

def has (given : Given) (name : String) : Bool := (given.options.lookup name).isSome

def text? (given : Given) (name : String) : Option String := given.options.lookup name

def path? (given : Given) (name : String) : Option FilePath := (given.text? name).map .mk

def word? (given : Given) (name : String) : Option UInt64 :=
  (given.text? name).bind Asn1Constraints.word?

def addOption (given : Given) (name value : String) : Given :=
  { given with options := given.options ++ [(name, value)] }

def addWord (given : Given) (word : String) : Given :=
  { given with words := given.words ++ [word] }

/-- The options of a later place come first. -/
def after (given earlier : Given) : Given :=
  { given with options := given.options ++ earlier.options }

end Given

/-- An argument split at its first equals sign. -/
def splitAtEquals (argument : String) : String × Option String :=
  let chars := argument.toList
  match chars.dropWhile (· ≠ '=') with
  | [] => (argument, none)
  | _ :: value => (String.ofList (chars.takeWhile (· ≠ '=')), some (String.ofList value))

inductive ArgumentKind where
  | terminator
  | long
  | short (letter : Char)
  | plain

/-- A single dash is a plain argument. -/
def argumentKind (argument : String) : ArgumentKind :=
  match argument.toList with
  | ['-', '-'] => .terminator
  | '-' :: '-' :: _ => .long
  | '-' :: letter :: _ => .short letter
  | _ => .plain

/-- What scanning one place of the arguments comes to. -/
inductive ScanResult where
  | finished (given : Given)
  /-- The name of a command, and what is left for it. -/
  | entered (name : String) (given : Given) (rest : List String)
  | help
  | version
  | misused

/-- What may stand in a place: its options, how many plain arguments, and
whether it is the place in front of the name of the command. -/
structure Grammar where
  table : OptionTable
  words : Nat
  isOuter : Bool

def takeOption (given : Given) (name : String) (kind : OptionKind) (value : String) :
    Option Given :=
  if given.has name || !kind.accepts value then none else some (given.addOption name value)

def takeFlag (given : Given) (name : String) (value : Option String) : Option Given :=
  if given.has name || value.isSome then none else some (given.addOption name "")

def takeWord (grammar : Grammar) (given : Given) (word : String) : Option Given :=
  if given.words.length < grammar.words then some (given.addWord word) else none

def finishWords (grammar : Grammar) (given : Given) (words : List String) : ScanResult :=
  match words.foldlM (takeWord grammar) given with
  | some given => .finished given
  | none => .misused

/-- What an argument with two dashes comes to. -/
inductive LongArgument where
  | taken (given : Given)
  /-- An option whose value is the next argument. -/
  | awaits (name : String) (kind : OptionKind)
  | help
  | version
  | misused

def LongArgument.ofTaken : Option Given → LongArgument
  | some given => .taken given
  | none => .misused

def longArgument (grammar : Grammar) (given : Given) (argument : String) : LongArgument :=
  let (name, attached) := splitAtEquals argument
  match grammar.table.lookup name, attached with
  | some .flag, value => .ofTaken (takeFlag given name value)
  | some kind, some value => .ofTaken (takeOption given name kind value)
  | some kind, none => .awaits name kind
  | none, some _ => .misused
  | none, none =>
    if name = "--help" then .help
    else if grammar.isOuter && name = "--version" then .version
    else .misused

/-- Scan one place, with the option that waits for its value, if one does. -/
def scanArguments (grammar : Grammar) (waiting : Option (String × OptionKind))
    (given : Given) : List String → ScanResult
  | [] => if waiting.isSome then .misused else .finished given
  | argument :: rest =>
    match waiting, argumentKind argument with
    | some (name, kind), .plain =>
      match takeOption given name kind argument with
      | some given => scanArguments grammar none given rest
      | none => .misused
    | some _, _ => .misused
    | none, .terminator => finishWords grammar given rest
    | none, .plain =>
      if grammar.isOuter then .entered argument given rest
      else
        match takeWord grammar given argument with
        | some given => scanArguments grammar none given rest
        | none => .misused
    | none, .short 'h' => .help
    | none, .short 'V' => if grammar.isOuter then .version else .misused
    | none, .short _ => .misused
    | none, .long =>
      match longArgument grammar given argument with
      | .taken given => scanArguments grammar none given rest
      | .awaits name kind => scanArguments grammar (some (name, kind)) given rest
      | .help => .help
      | .version => .version
      | .misused => .misused

/-! Commands. -/

def Target.ofWords? (model typeName : String) : Option Target :=
  if model = "" then none else some ⟨⟨model⟩, typeName⟩

def SchemaKind.ofName? : String → Option SchemaKind
  | "model" => some .model
  | "plan" => some .plan
  | _ => none

def checkOf? (given : Given) : Option Command :=
  match given.words with
  | [model] => if model = "" then none else some (.check ⟨model⟩)
  | _ => none

def planOf? (given : Given) : Option Command :=
  match given.words with
  | [model, typeName] =>
    (Target.ofWords? model typeName).map fun target => .plan target (given.path? "--out")
  | _ => none

def defaultInstanceOf? (given : Given) : Option Command :=
  match given.words with
  | [model, typeName] => (Target.ofWords? model typeName).map .defaultInstance
  | _ => none

def validateOf? (given : Given) : Option Command :=
  match given.words with
  | [model, typeName, instances] =>
    if instances = "" then none
    else
      (Target.ofWords? model typeName).map fun target =>
        .validate
          { target
            instances := ⟨instances⟩
            batch := given.has "--batch"
            all := given.has "--all"
            report := given.path? "--report"
            metrics := given.path? "--metrics"
            maxExamples := ((given.word? "--max-examples").getD 20).toNat }
  | _ => none

def testCasesOf? (given : Given) : Option Command :=
  match given.words with
  | [model, typeName] =>
    (Target.ofWords? model typeName).map fun target =>
      .testCases
        { target
          count := given.word? "--count"
          seed := given.word? "--seed"
          maxCollectionLen := given.word? "--max-collection-len"
          output := given.path? "--out" }
  | _ => none

def schemaOf? (given : Given) : Option Command :=
  match given.words with
  | [] => some (.schema .model)
  | [kind] => (SchemaKind.ofName? kind).map .schema
  | _ => none

/-- A command by its name: what may follow the name, and what that makes. -/
structure CommandForm where
  options : OptionTable
  words : Nat
  build : Given → Option Command

def commandForm? : String → Option CommandForm
  | "check" => some ⟨[], 1, checkOf?⟩
  | "plan" => some ⟨[("--out", .path)], 2, planOf?⟩
  | "init" => some ⟨[], 2, defaultInstanceOf?⟩
  | "validate" =>
    some ⟨[("--batch", .flag), ("--all", .flag), ("--report", .path), ("--metrics", .path),
      ("--max-examples", .word)], 3, validateOf?⟩
  | "testcases" =>
    some ⟨[("--count", .word), ("--seed", .word), ("--max-collection-len", .word),
      ("--out", .path)], 2, testCasesOf?⟩
  | "schema" => some ⟨[], 1, schemaOf?⟩
  | _ => none

def defaultConfig : FilePath := ⟨"asn1rt.toml"⟩

def Invocation.of (shared : Given) (command : Command) : Invocation where
  config := (shared.path? "--config").getD defaultConfig
  logLevel := shared.text? "--log-level"
  logJson := shared.has "--log-json"
  logFile := shared.path? "--log-file"
  command := command

/-- Help can be asked for on the whole, on one command, or on help itself;
everything that follows is taken for the name of a command. -/
def helpOn : List String → CommandLine
  | [] => .help
  | [name] => if name = "help" || (commandForm? name).isSome then .help else .misused
  | _ => .misused

def commandLineAfter (name : String) (outer : Given) (rest : List String) : CommandLine :=
  match commandForm? name with
  | none => if name = "help" then helpOn rest else .misused
  | some form =>
    match scanArguments ⟨form.options ++ sharedOptions, form.words, false⟩ none .empty rest with
    | .finished given =>
      match form.build given with
      | some command => .invoke (.of (given.after outer) command)
      | none => .misused
    | .help => .help
    | _ => .misused

def CommandLine.ofArguments (arguments : List String) : CommandLine :=
  match scanArguments ⟨sharedOptions, 0, true⟩ none .empty arguments with
  | .entered name outer rest => commandLineAfter name outer rest
  | .help => .help
  | .version => .version
  | .finished _ => .misused
  | .misused => .misused

end Asn1Constraints
