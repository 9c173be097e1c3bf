import Testbed.Clock
import Testbed.Store.Members

/-!
What commands reach of the machine they run on: files and folders, the time, and fresh names.  `Host` is
given by its operations, so that commands run on a real machine and on a `Desktop`, a few files held as a
value.
-/

namespace Testbed

/-- Why a file cannot be read. -/
structure ReadFailure where
  details : String
  code : Nat
deriving Repr, Inhabited, DecidableEq

namespace ReadFailure

/-- The wording of a failure. -/
def message (f : ReadFailure) : String := s!"{f.details} (os error {f.code})"

/-- Nothing is there. -/
def missing : ReadFailure := ⟨"No such file or directory", 2⟩

/-- Something on the way is no folder. -/
def notFolder : ReadFailure := ⟨"Not a directory", 20⟩

/-- What is there is a folder. -/
def isFolder : ReadFailure := ⟨"Is a directory", 21⟩

end ReadFailure

/-- The operations of a machine. -/
structure Host (m : Type → Type) where
  readFile : String → m (Except ReadFailure String)
  writeFile : String → String → m Unit
  /-- Make sure that a folder exists, with the folders around it; whether it does. -/
  createFolder : String → m Bool
  clock : m Clock
  /-- The count of tokens from which a command draws its own. -/
  firstToken : m Nat

/-- A few files and folders. -/
structure Desktop where
  /-- The files by path. -/
  files : Table String
  folders : Members
  /-- How many commands were run. -/
  commands : Nat
deriving Repr, Inhabited

namespace Desktop

/-- The names on a path.  The root is a name of its own; a dot leads nowhere, and two dots lead back. -/
def names (path : String) : List String :=
  let parts := path.splitOn "/"
  let root := if path.startsWith "/" then ["/"] else []
  root ++ (parts.foldl (fun names part =>
    if part = "" ∨ part = "." then names
    else if part = ".." then names.drop 1
    else part :: names) []).reverse

/-- The path of some names. -/
def pathOf (names : List String) : String := "/".intercalate names

/-- The paths of the folders around some names, from the outside in. -/
def around (names : List String) : List String :=
  (List.range names.length).tail.map fun n => pathOf (names.take n)

/-- Add a file, with the folders around it. -/
def addFile (d : Desktop) (path content : String) : Desktop :=
  let names := names path
  { d with
    files := d.files.insert (pathOf names) content
    folders := (d.folders.addAll (around names)).2 }

/-- Some files and nothing else. -/
def ofFiles (files : List (String × String)) : Desktop :=
  files.foldl (fun d file => d.addFile file.1 file.2) ⟨.empty, .empty, 0⟩

/-- Read a file. -/
def readFile (d : Desktop) (path : String) : Except ReadFailure String :=
  let names := names path
  let key := pathOf names
  if (around names).any d.files.contains then .error .notFolder
  else
    match d.files.get? key with
    | some content => if path.endsWith "/" then .error .notFolder else .ok content
    | none =>
      if names.isEmpty ∧ path ≠ "" ∨ d.folders.contains key then .error .isFolder
      else .error .missing

/-- Make sure that a folder exists. -/
def createFolder (d : Desktop) (path : String) : Bool × Desktop :=
  let names := names path
  let all := around names ++ [pathOf names]
  if all.any d.files.contains then (false, d)
  else (true, { d with folders := (d.folders.addAll all).2 })

/-- How many tokens a command may draw. -/
def tokensPerCommand : Nat := UInt32.size

/-- Files held as a value, as a machine.  Its clock always begins at the same time. -/
def host : Host (StateM Desktop) where
  readFile path := do return (← get).readFile path
  writeFile path content := modify (·.addFile path content)
  createFolder path := modifyGet (·.createFolder path)
  clock := pure ⟨0, 1700000000000, true⟩
  firstToken := modifyGet fun d => (d.commands * tokensPerCommand, { d with commands := d.commands + 1 })

end Desktop

end Testbed
