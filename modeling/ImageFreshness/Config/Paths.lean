import ImageFreshness.Config.Basic

/-!
# Where data is kept

Specification: section 10, `data_dir` and `log_path`.
-/

namespace ImageFreshness

/-- Appends a relative path to another path, with a slash between them where one is missing. -/
def joinPath (left right : String) : String :=
  if left = "" ∨ left.toList.getLast? = some '/' then left ++ right else left ++ "/" ++ right

/-- The directory for the data of the program: below the data directory of the user if that is
    set, below the usual place in the home directory otherwise. -/
def dataDirectory (userData home : Option String) : String :=
  let base :=
    match userData, home with
    | some dir, _ => dir
    | none, some home => joinPath home ".local/share"
    | none, none => "."
  joinPath base programName

def defaultLogPath (userData home : Option String) : String :=
  joinPath (dataDirectory userData home) (programName ++ ".log")

end ImageFreshness
