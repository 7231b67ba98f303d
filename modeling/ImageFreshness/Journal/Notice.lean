import ImageFreshness.Check.Error
import ImageFreshness.Policy.Annotations
import ImageFreshness.Time.Span

/-!
# Notices

What the program tells about its work, apart from its results.  Each notice has a severity, the
part of the program that gives it, and a message.

Specification: section 11.
-/

namespace ImageFreshness

open Text

inductive Severity where
  | debug
  | info
  | warning
  | error
  deriving DecidableEq, Repr

/-- A part of the program that gives notices. -/
inductive Origin where
  | logging
  | scan
  | cache
  | checker
  | registries
  | distribution
  deriving DecidableEq, Repr

inductive LogFormat where
  | text
  | json
  deriving DecidableEq, Repr

inductive Notice where
  | loggingReady (format : LogFormat)
  | cacheHit (key : String)
  | cacheMiss (key : String)
  | fetchCancelled (key : String)
  | cacheFlushed (entries : Nat)
  | collectorDisabled
  | collectorStarted (interval : Nat)
  | collectorStopped
  | collected (entries : Nat)
  | notRunning (pod container : String)
  | fetchingTags (name host : String)
  | resolvingCancelled (url digest : String)
  | resolved (url digest tag : String)
  | resolvingFailed (url digest : String) (error : RegistryError)
  | lookingElsewhere (elsewhere url : String)
  | clientChosen (client host : String)
  | unexpectedStatus (status url : String)
  | tooManyPages (name : String) (pages : Nat)
  | unreadablePage (name reason : String)
  | repeatedPage (page name : String)
  | tagsFound (count : Nat) (host name : String)
  | notEnabled (pod container : String)
  | invalidPolicy (pod container : String) (error : PolicyError)
  | nothingFound (pod container : String) (error : CheckError)
  | checkCancelled (pod container : String)
  | checkFailed (pod container : String) (error : CheckError)
  | someCancelled (count : Nat)
  | scanFinished (reported notFound failed : Nat)
  deriving DecidableEq, Repr

namespace Notice

def severity : Notice → Severity
  | .invalidPolicy .. | .checkFailed .. => .error
  | .collectorDisabled | .resolvingFailed .. | .unexpectedStatus .. | .tooManyPages ..
  | .unreadablePage .. | .repeatedPage .. | .nothingFound .. => .warning
  | .cacheFlushed _ | .collectorStarted _ | .collectorStopped | .someCancelled _
  | .scanFinished .. => .info
  | _ => .debug

def origin : Notice → Origin
  | .loggingReady _ => .logging
  | .cacheHit _ | .cacheMiss _ | .fetchCancelled _ | .cacheFlushed _ | .collectorDisabled
  | .collectorStarted _ | .collectorStopped | .collected _ => .cache
  | .notRunning .. | .fetchingTags .. | .resolvingCancelled .. | .resolved ..
  | .resolvingFailed .. | .lookingElsewhere .. => .checker
  | .clientChosen .. => .registries
  | .unexpectedStatus .. | .tooManyPages .. | .unreadablePage .. | .repeatedPage ..
  | .tagsFound .. => .distribution
  | .notEnabled .. | .invalidPolicy .. | .nothingFound .. | .checkCancelled ..
  | .checkFailed .. | .someCancelled _ | .scanFinished .. => .scan

def count (n : Nat) : String := String.ofList (Decimal.ofNat n)

def message : Notice → String
  | .loggingReady .text => "Logging initialized with format: Text"
  | .loggingReady .json => "Logging initialized with format: Json"
  | .cacheHit key => "Cache hit for key " ++ key
  | .cacheMiss key => "Cache miss for key " ++ key ++ ", fetching"
  | .fetchCancelled key => "Fetch for key " ++ key ++ " cancelled"
  | .cacheFlushed n => "Flushing " ++ count n ++ " cache entries"
  | .collectorDisabled => "Cache garbage collector disabled: interval is zero"
  | .collectorStarted ms => "Starting cache garbage collector every " ++ Span.text ms
  | .collectorStopped => "Stopping cache garbage collector"
  | .collected n => "Garbage collected " ++ count n ++ " expired cache entries"
  | .notRunning pod container =>
    "Container " ++ pod ++ "/" ++ container ++ " has no running digest yet"
  | .fetchingTags name host => "Fetching tags for " ++ name ++ " from " ++ host
  | .resolvingCancelled url digest => "Resolving " ++ url ++ "@" ++ digest ++ " cancelled"
  | .resolved url digest tag => "Resolved " ++ url ++ "@" ++ digest ++ " to tag " ++ tag
  | .resolvingFailed url digest error =>
    "Failed to resolve " ++ url ++ "@" ++ digest ++ " to a tag: " ++ error.message
  | .lookingElsewhere elsewhere url => "Looking up " ++ elsewhere ++ " instead of " ++ url
  | .clientChosen client host => "Using " ++ client ++ " registry client for host " ++ host
  | .unexpectedStatus status url => "Registry returned status " ++ status ++ " for " ++ url
  | .tooManyPages name pages =>
    "Stopping tag listing for " ++ name ++ " after " ++ count pages ++ " pages"
  | .unreadablePage name reason => "Failed to parse tag list for " ++ name ++ ": " ++ reason
  | .repeatedPage page name => "Registry repeated tag page " ++ page ++ " for " ++ name
  | .tagsFound n host name => "Found " ++ count n ++ " tags for " ++ host ++ "/" ++ name
  | .notEnabled pod container => "Skipping " ++ pod ++ "/" ++ container ++ ": not enabled"
  | .invalidPolicy pod container error =>
    "Invalid policy for " ++ pod ++ "/" ++ container ++ ": " ++ error.message container
  | .nothingFound pod container error => pod ++ "/" ++ container ++ ": " ++ error.message
  | .checkCancelled pod container => "Check of " ++ pod ++ "/" ++ container ++ " cancelled"
  | .checkFailed pod container error =>
    "Failed to check " ++ pod ++ "/" ++ container ++ ": " ++ error.message
  | .someCancelled n => count n ++ " container checks cancelled"
  | .scanFinished reported notFound failed =>
    "Checked " ++ count (reported + notFound + failed) ++ " containers: " ++ count reported ++
      " reported, " ++ count notFound ++ " without candidates, " ++ count failed ++ " failed"

end Notice

end ImageFreshness
