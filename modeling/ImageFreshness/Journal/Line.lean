import ImageFreshness.Journal.Filter
import ImageFreshness.Json.Value

/-!
# Lines of the log

Specification: section 11, text and JSON formatting.
-/

namespace ImageFreshness

def Severity.color : Severity → String
  | .debug => "34"
  | .info => "32"
  | .warning => "33"
  | .error => "31"

/-- A text between the signs for a terminal that switch a style on and off. -/
def styled (style text : String) : String := "\x1b[" ++ style ++ "m" ++ text ++ "\x1b[0m"

namespace Notice

def textLine (colored : Bool) (n : Notice) : String :=
  let label := n.severity.label
  let padded := (if label.length < 5 then " " else "") ++ label
  if colored then
    styled n.severity.color padded ++ " " ++ styled "2" n.origin.path ++ styled "2" ":" ++ " " ++
      n.message
  else padded ++ " " ++ n.origin.path ++ ": " ++ n.message

def jsonLine (n : Notice) : String :=
  (Json.object [("level", .string n.severity.label),
    ("fields", .object [("message", .string n.message)]), ("target", .string n.origin.path)]).text

def line (format : LogFormat) (colored : Bool) (n : Notice) : String :=
  match format with
  | .text => n.textLine colored
  | .json => n.jsonLine

end Notice

end ImageFreshness
