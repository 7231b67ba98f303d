/-!
# Paths

A path is a text whose pieces stand between slashes.  Empty pieces and single dots lead nowhere;
the first piece counts even so, since it says where a path starts.
-/

namespace ImageFreshness

/-- A path by its pieces; the first piece of an absolute path is empty. -/
structure FilePath where
  first : String
  rest : List String
  deriving DecidableEq, Repr

namespace FilePath

def ofText (text : String) : FilePath :=
  match text.splitOn "/" with
  | first :: rest => ⟨first, rest⟩
  | [] => ⟨"", []⟩

def pieces (p : FilePath) : List String := p.first :: p.rest

def text (p : FilePath) : String :=
  if p.first = "" ∧ p.rest = [] then "/" else String.intercalate "/" p.pieces

/-- Whether a piece leads nowhere. -/
def isIdle (piece : String) : Bool := piece = "" || piece = "."

def dropIdleEnd (p : FilePath) : FilePath :=
  { p with rest := (p.rest.reverse.dropWhile isIdle).reverse }

/-- The directory of a file and the name of the file in it.  There is none if the path does not end
    in a name.  A path that is a name alone leads to a file in the current directory. -/
def split? (p : FilePath) : Option (String × String) :=
  let p := p.dropIdleEnd
  match p.rest.getLast? with
  | none => if isIdle p.first || p.first = ".." then none else some (".", p.first)
  | some name =>
    if name = ".." then none else some (({ p with rest := p.rest.dropLast }.dropIdleEnd).text, name)

end FilePath

end ImageFreshness
