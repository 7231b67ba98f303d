/-!
# Configuration

What can be configured, and the values that count where nothing is.

Specification: section 10, `Config`.
-/

namespace ImageFreshness

/-- How the cache keeps tag lists; all times are in milliseconds. -/
structure CacheConfig where
  timeout : Nat
  sweepInterval : Nat
  deriving DecidableEq, Repr

structure RegistryConfig where
  insecureHosts : List String
  userAgent : String
  deriving DecidableEq, Repr

structure Config where
  cache : CacheConfig
  registry : RegistryConfig
  /-- Whether containers are checked that no annotation enables. -/
  testAllContainers : Bool
  deriving DecidableEq, Repr

def version : String := "0.5.1"

def programName : String := "version-checker"

/-- Tag lists stay fresh for half an hour and are swept every five minutes. -/
def CacheConfig.default : CacheConfig := ⟨1800000, 300000⟩

def RegistryConfig.default : RegistryConfig := ⟨[], programName ++ "/" ++ version⟩

def Config.default : Config := ⟨.default, .default, false⟩

end ImageFreshness
