import ImageFreshness.Config.File
import ImageFreshness.Files.Path

/-!
# Files

What a run of the program does with files: it reads some and opens one for lines of the log.
`Storage` says how that is done; `FileTree.storage` does it in a tree of files that is a value.
-/

namespace ImageFreshness

inductive LogFault where
  | noDirectory
  | notWritable
  deriving DecidableEq, Repr

structure Storage (m : Type → Type) where
  /-- The bytes of the file at a path. -/
  read : String → m (Except ReadFault ByteArray)
  /-- Opens a file, given by its directory and its name, for lines at its end.  The directory and
      the file are made if they are missing. -/
  openLog : String → String → m (Except LogFault Unit)

/-- A place, by the way to it from the current directory: so many directories up, and then down by
    names. -/
structure Place where
  up : Nat
  names : List String
  deriving DecidableEq, Repr

structure FileTree where
  files : List (Place × ByteArray)
  /-- The directories that were made, apart from those around the files. -/
  directories : List Place

namespace Place

def step (p : Place) (piece : String) : Place :=
  if FilePath.isIdle piece then p
  else if piece = ".." then
    if p.names.isEmpty then { p with up := p.up + 1 } else { p with names := p.names.dropLast }
  else { p with names := p.names ++ [piece] }

def here : Place := ⟨0, []⟩

def leadsTo (p q : Place) : Bool := p.up = q.up && p.names.isPrefixOf q.names

end Place

namespace FileTree

def ofTexts (files : List (String × String)) : FileTree :=
  let place (path : String) : Place := (FilePath.ofText path).pieces.foldl .step .here
  ⟨files.map fun (path, text) => (place path, text.toUTF8), []⟩

def isFile (t : FileTree) (place : Place) : Bool := (t.files.lookup place).isSome

/-- Whether there is a directory at a place: the current one, one above it, one that was made, or
    one around a file.  Nothing else is known to be there. -/
def isDirectory (t : FileTree) (place : Place) : Bool :=
  place.names.isEmpty || t.directories.any place.leadsTo ||
    t.files.any fun (file, _) => file ≠ place && place.leadsTo file

/-- Follows pieces of a path from a place.  Every piece has to start from a directory. -/
def follow (t : FileTree) (place : Place) : List String → Except ReadFault Place
  | [] => .ok place
  | piece :: rest =>
    if t.isFile place then .error .notDirectory
    else if t.isDirectory place then t.follow (place.step piece) rest
    else .error .missing

/-- Follows a path from the current directory.  The tree does not know where absolute paths lead. -/
def locate (t : FileTree) (path : String) : Except ReadFault Place :=
  let path := FilePath.ofText path
  if path.first = "" then .error (if path.rest.all FilePath.isIdle then .isDirectory else .missing)
  else t.follow .here path.pieces

def read (t : FileTree) (path : String) : Except ReadFault ByteArray := do
  let place ← t.locate path
  match t.files.lookup place with
  | some bytes => return bytes
  | none => .error (if t.isDirectory place then .isDirectory else .missing)

def makeDirectories (t : FileTree) (place : Place) :
    List String → Except LogFault (Place × FileTree)
  | [] => .ok (place, t)
  | piece :: rest =>
    let place := place.step piece
    if t.isFile place then .error .noDirectory
    else makeDirectories { t with directories := place :: t.directories } place rest

def openLog (t : FileTree) (directory name : String) : Except LogFault FileTree := do
  let directory := FilePath.ofText directory
  if directory.first = "" then .error .noDirectory
  else
    let (place, t) ← t.makeDirectories .here directory.pieces
    let file := place.step name
    if t.isFile file then return t
    else if t.isDirectory file then .error .notWritable
    else return { t with files := t.files ++ [(file, .empty)] }

def storage : Storage (StateM FileTree) where
  read path := do return (← get).read path
  openLog directory name := do
    match (← get).openLog directory name with
    | .ok t => set t; return .ok ()
    | .error fault => return .error fault

/-- The paths of the files below the current directory that are in a tree but not in an earlier
    one. -/
def newFiles (t earlier : FileTree) : List String :=
  (t.files.filter fun (place, _) => place.up = 0 && !earlier.isFile place).map fun (place, _) =>
    String.intercalate "/" place.names

end FileTree

end ImageFreshness
