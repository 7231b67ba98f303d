import ImageFreshness.Journal.Notice
import ImageFreshness.Text.Cut

/-!
# Which notices are written

A filter is a list of directives.  Each of them names the least serious notices to write, from one
part of the program or from all of them.  On a notice the most specific directive decides that
covers the part it comes from; without one the notice is not written.

Specification: section 11, the filter of `init`.
-/

namespace ImageFreshness

open Text

def Severity.rank : Severity → Nat
  | .debug => 0
  | .info => 1
  | .warning => 2
  | .error => 3

def Severity.label : Severity → String
  | .debug => "DEBUG"
  | .info => "INFO"
  | .warning => "WARN"
  | .error => "ERROR"

/-- The path by which filters and lines of the log name a part of the program. -/
def Origin.path : Origin → String
  | .logging => "version_checker::logging"
  | .scan => "version_checker::scan"
  | .cache => "version_checker::version::cache"
  | .checker => "version_checker::version::checker"
  | .registries => "version_checker::version::registries"
  | .distribution => "version_checker::version::registries::oci"

/-- The least serious notices that are written, or none if no notice is. -/
abbrev Threshold := Option Severity

namespace Threshold

def admits (t : Threshold) (s : Severity) : Bool :=
  match t with
  | none => false
  | some least => least.rank ≤ s.rank

/-- Reads a threshold, given as a word in any case or as a digit.  No notice is less serious than
    a debug notice, so tracing is the same as debugging. -/
def parse? (cs : List Char) : Option Threshold :=
  match String.ofList (cs.map Char.toLower) with
  | "off" | "0" => some none
  | "error" | "1" => some (some .error)
  | "warn" | "2" => some (some .warning)
  | "info" | "3" => some (some .info)
  | "debug" | "4" | "trace" | "5" => some (some .debug)
  | _ => none

end Threshold

structure Directive where
  /-- How the paths start; every path starts with the empty one. -/
  path : List Char
  threshold : Threshold
  deriving DecidableEq, Repr

namespace Directive

def isStart (c : Char) : Bool := c.isAlphanum || c = '-' || c = ':' || c = '_'

/-- Reads a directive: a threshold for all parts, the path of a part all of whose notices are
    written, or a path and the threshold for it. -/
def parse? (cs : List Char) : Option Directive :=
  if cs.head?.any isStart then
    match cutFirst '=' cs with
    | some (path, []) => some ⟨path, some .debug⟩
    | some (path, threshold) => (Threshold.parse? threshold).map (⟨path, ·⟩)
    | none =>
      match Threshold.parse? cs with
      | some threshold => some ⟨[], threshold⟩
      | none => some ⟨cs, some .debug⟩
  else none

def covers (d : Directive) (origin : Origin) : Bool := d.path.isPrefixOf origin.path.toList

end Directive

structure NoticeFilter where
  directives : List Directive
  deriving DecidableEq, Repr

namespace NoticeFilter

def default : NoticeFilter := ⟨[⟨[], some .info⟩]⟩

/-- Reads a filter: directives with commas between them.  If all of them are empty, only errors are
    written. -/
def parse? (s : String) : Option NoticeFilter := do
  let parts := (s.splitOn ",").filter (· ≠ "")
  let directives ← parts.mapM fun part => Directive.parse? part.toList
  return ⟨if directives.isEmpty then [⟨[], some .error⟩] else directives⟩

/-- The filter that two variables give.  The first one that is not empty counts, and one that
    cannot be read counts as the default. -/
def choose (own shared : Option String) : NoticeFilter :=
  match own.filter (· ≠ "") |>.or (shared.filter (· ≠ "")) with
  | some text => (parse? text).getD default
  | none => default

/-- The more specific of a directive and a later one; of two for one path the later one counts. -/
def moreSpecific (best : Option Directive) (d : Directive) : Option Directive :=
  match best with
  | none => some d
  | some earlier => if d.path.length < earlier.path.length then best else some d

def deciding? (f : NoticeFilter) (origin : Origin) : Option Directive :=
  (f.directives.filter (·.covers origin)).foldl moreSpecific none

def admits (f : NoticeFilter) (notice : Notice) : Bool :=
  (f.deciding? notice.origin).any (·.threshold.admits notice.severity)

end NoticeFilter

end ImageFreshness
