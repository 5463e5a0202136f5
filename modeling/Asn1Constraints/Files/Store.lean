import Asn1Constraints.Files.System

/-!
A file system that is a value: directories and files by their steps from the
root, and the working directory, where relative paths start. Outside of the
working directory there is little more than the directories on the way to it.
-/

namespace Asn1Constraints

structure FileStore where
  home : List String
  directories : List (List String)
  files : List (List String × String)
deriving DecidableEq, Repr

/-- What an entry of a directory is. -/
inductive Entry where
  | directory
  | file (content : String)
  | vacant
deriving DecidableEq, Repr

/-- Where a path leads: a directory that is there, and the entry of it that the
path names last, if it does not end at the directory itself. -/
structure Lead where
  directory : List String
  step : Option String
deriving DecidableEq, Repr

namespace FileStore

/-- Bytes of the longest name of an entry. -/
def nameLimit : Nat := 255

/-- Bytes that no path reaches. -/
def pathLimit : Nat := 4096

/-- The directories of every machine. -/
def systemDirectories : List (List String) :=
  [["bin"], ["boot"], ["dev"], ["etc"], ["home"], ["lib"], ["media"], ["mnt"], ["opt"], ["proc"],
    ["root"], ["run"], ["sbin"], ["srv"], ["sys"], ["tmp"], ["usr"], ["var"]]

/-- The files that are on every machine: one that is empty, and the list of users. -/
def systemFiles : List (List String × String) :=
  [(["dev", "null"], ""), (["etc", "passwd"], "root:x:0:0:root:/root:/bin/bash\n")]

/-- A working directory without files. -/
def empty : FileStore where
  home := ["tmp", "run"]
  directories := ["tmp", "run"] :: systemDirectories
  files := systemFiles

def isDirectory (store : FileStore) (steps : List String) : Bool :=
  steps = [] || store.directories.contains steps

def entry (store : FileStore) (directory : List String) (step : String) :
    Except FileError Entry :=
  let steps := directory ++ [step]
  if nameLimit < step.utf8ByteSize then .error .nameTooLong
  else if store.isDirectory steps then .ok .directory
  else
    match store.files.lookup steps with
    | some content => .ok (.file content)
    | none => .ok .vacant

/-- Follow parts of a path from one directory to another. -/
def descend (store : FileStore) (current : List String) :
    List String → Except FileError (List String)
  | [] => .ok current
  | part :: rest =>
    if part = "." then store.descend current rest
    else if part = ".." then store.descend current.dropLast rest
    else
      match store.entry current part with
      | .error error => .error error
      | .ok .directory => store.descend (current ++ [part]) rest
      | .ok (.file _) => .error .notDirectory
      | .ok .vacant => .error .notFound

def lead (store : FileStore) (path : FilePath) : Except FileError Lead :=
  let start := if path.isAbsolute then [] else store.home
  if path.text.toList.contains '\x00' then .error .namelessByte
  else if path.text = "" then .error .notFound
  else if pathLimit ≤ path.text.utf8ByteSize then .error .nameTooLong
  else
    (store.descend start path.parts.dropLast).map fun directory =>
      match path.parts.getLast? with
      | none => ⟨directory, none⟩
      | some "." => ⟨directory, none⟩
      | some ".." => ⟨directory.dropLast, none⟩
      | some step => ⟨directory, some step⟩

/-- What is found under a path that is followed to its end. -/
def find (store : FileStore) (path : FilePath) : Except FileError Entry :=
  match store.lead path with
  | .error error => .error error
  | .ok ⟨_, none⟩ => .ok .directory
  | .ok ⟨directory, some step⟩ =>
    match store.entry directory step with
    | .ok (.file content) =>
      if path.endsInSlash then .error .notDirectory else .ok (.file content)
    | found => found

def put (store : FileStore) (steps : List String) (content : String) : FileStore :=
  { store with files := (store.files.filter fun file => file.1 ≠ steps) ++ [(steps, content)] }

def remove (store : FileStore) (steps : List String) : FileStore :=
  { store with files := store.files.filter fun file => file.1 ≠ steps }

/-! Directories. -/

def makeDirectory (store : FileStore) (path : FilePath) : Except FileError FileStore :=
  match store.lead path with
  | .error error => .error error
  | .ok ⟨_, none⟩ => .error .alreadyExists
  | .ok ⟨directory, some step⟩ =>
    match store.entry directory step with
    | .error error => .error error
    | .ok .vacant =>
      .ok { store with directories := store.directories ++ [directory ++ [step]] }
    | .ok _ => .error .alreadyExists

def holdsDirectory (store : FileStore) (path : FilePath) : Bool :=
  match store.find path with
  | .ok .directory => true
  | _ => false

/-- Make the directory nearest to the end of a path whose own directory is
there. What is left are the paths behind it, the shortest first. -/
def makeNearest (store : FileStore) (missing : List FilePath) :
    List FilePath → Except FileError (FileStore × List FilePath)
  | [] => .ok (store, missing)
  | path :: shorter =>
    match store.makeDirectory path with
    | .ok store => .ok (store, missing)
    | .error .notFound => store.makeNearest (path :: missing) shorter
    | .error .alreadyExists =>
      if store.holdsDirectory path then .ok (store, missing) else .error .alreadyExists
    | .error error => .error error

def makeMissing (store : FileStore) : List FilePath → Except FileError Unit × FileStore
  | [] => (.ok (), store)
  | path :: longer =>
    match store.makeDirectory path with
    | .ok store => store.makeMissing longer
    | .error error =>
      if error = .alreadyExists && store.holdsDirectory path then store.makeMissing longer
      else (.error error, store)

/-- Make a directory with those on the way to it. -/
def withDirectories (store : FileStore) (path : FilePath) :
    Except FileError Unit × FileStore :=
  match store.makeNearest [] path.ancestors with
  | .error error => (.error error, store)
  | .ok (store, missing) => store.makeMissing missing

/-! A store made from files, and what has become of it. -/

def addFile (store : FileStore) (file : String × String) : FileStore :=
  let path : FilePath := ⟨file.1⟩
  let directory := path.withSteps path.steps.dropLast
  (store.withDirectories directory).2.put (store.home ++ path.steps) file.2

/-- A working directory with files under their names. -/
def ofFiles (files : List (String × String)) : FileStore := files.foldl addFile empty

/-- The name of a file in the working directory. -/
def nameOf? (store : FileStore) (steps : List String) : Option String :=
  if store.home.isPrefixOf steps then
    some (String.intercalate "/" (steps.drop store.home.length))
  else none

/-- The files of the working directory that another store does not hold with
the same content. -/
def newSince (store before : FileStore) : List (String × String) :=
  store.files.filterMap fun file =>
    if before.files.lookup file.1 = some file.2 then none
    else (store.nameOf? file.1).map fun name => (name, file.2)

/-! The file system. -/

def isPresent (path : FilePath) : StateM FileStore Bool := fun store =>
  match store.find path with
  | .ok .vacant => (false, store)
  | .ok _ => (true, store)
  | .error _ => (false, store)

def read (path : FilePath) : StateM FileStore (Except FileError String) := fun store =>
  match store.find path with
  | .ok (.file content) => (.ok content, store)
  | .ok .directory => (.error .isDirectory, store)
  | .ok .vacant => (.error .notFound, store)
  | .error error => (.error error, store)

/-- Open a file to write, with the content it is to have made of what it has. -/
def openWith (content : String → String) (path : FilePath) :
    StateM FileStore (Except FileError Unit) := fun store =>
  match store.lead path with
  | .error error => (.error error, store)
  | .ok ⟨_, none⟩ => (.error .isDirectory, store)
  | .ok ⟨directory, some step⟩ =>
    if path.endsInSlash then (.error .isDirectory, store)
    else
      match store.entry directory step with
      | .error error => (.error error, store)
      | .ok .directory => (.error .isDirectory, store)
      | .ok (.file old) => (.ok (), store.put (directory ++ [step]) (content old))
      | .ok .vacant => (.ok (), store.put (directory ++ [step]) (content ""))

def makeDirectories (path : FilePath) : StateM FileStore (Except FileError Unit) := fun store =>
  store.withDirectories path

/-- Move a file of a directory to where a path leads. -/
def moveTo (store : FileStore) (source : List String) (content : String) (target : FilePath) :
    Except FileError FileStore :=
  match store.lead target with
  | .error error => .error error
  | .ok ⟨_, none⟩ => .error .busy
  | .ok ⟨directory, some step⟩ =>
    match store.entry directory step with
    | .error error => .error error
    | .ok found =>
      if target.endsInSlash then .error .notDirectory
      else if found = .directory then .error .isDirectory
      else .ok ((store.remove source).put (directory ++ [step]) content)

def rename (source target : FilePath) : StateM FileStore (Except FileError Unit) := fun store =>
  match store.lead source, store.find source with
  | .ok ⟨directory, some step⟩, .ok (.file content) =>
    match store.moveTo (directory ++ [step]) content target with
    | .ok store => (.ok (), store)
    | .error error => (.error error, store)
  | .error error, _ => (.error error, store)
  | _, .error error => (.error error, store)
  | _, _ => (.error .notFound, store)

def system : FileSystem (StateM FileStore) where
  isPresent := isPresent
  read := read
  append := openWith id
  makeDirectories := makeDirectories
  write path content := openWith (fun _ => content) path
  rename := rename

end FileStore

end Asn1Constraints
