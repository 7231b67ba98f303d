import ImageFreshness.Config.Basic
import ImageFreshness.Json.Reader

/-!
# Configuration files

`Config.load` reads a configuration from the bytes of a JSON file.  A file gives some of the
values; the others are the ones that count without a file.  A configuration that loads has a sweep
interval other than zero.

Specification: section 10, `load`.
-/

namespace ImageFreshness

open Json

inductive ReadFault where
  | missing
  | isDirectory
  /-- The path leads through a file. -/
  | notDirectory
  | notText
  deriving DecidableEq, Repr

def ReadFault.message : ReadFault → String
  | .missing => "No such file or directory (os error 2)"
  | .isDirectory => "Is a directory (os error 21)"
  | .notDirectory => "Not a directory (os error 20)"
  | .notText => "stream did not contain valid UTF-8"

def readText (file : Except ReadFault ByteArray) : Except ReadFault String := do
  match String.fromUTF8? (← file) with
  | some text => return text
  | none => .error .notText

theorem readText_toUTF8 (text : String) : readText (.ok text.toUTF8) = .ok text := by
  have hvalid : String.fromUTF8? text.toUTF8 = some text := dif_pos text.isValidUTF8
  simp only [readText, bind, Except.bind, hvalid]
  rfl

inductive ConfigError where
  | read (fault : ReadFault)
  | parse (fault : Fault)
  | zeroInterval
  deriving DecidableEq, Repr

/-- The message about a configuration at this path.  Where the text does not parse it says no
    more than that. -/
def ConfigError.message (path : String) : ConfigError → String
  | .read fault => "Failed to read config " ++ path ++ ": " ++ fault.message
  | .parse _ => "Failed to parse config " ++ path
  | .zeroInterval => "Invalid config " ++ path ++ ": cache.gcInterval must be greater than zero"

def CacheConfig.reader : Reader CacheConfig :=
  .record [
    .optional "timeout" .unsigned fun c ms => { c with timeout := ms },
    .optional "gcInterval" .unsigned fun c ms => { c with sweepInterval := ms }] .default

def RegistryConfig.reader : Reader RegistryConfig :=
  .record [
    .optional "insecureHosts" .strings fun c hosts => { c with insecureHosts := hosts },
    .optional "userAgent" .string fun c s => { c with userAgent := s }] .default

namespace Config

def reader : Reader Config :=
  .record [
    .optional "cache" CacheConfig.reader fun c cache => { c with cache },
    .optional "registry" RegistryConfig.reader fun c registry => { c with registry },
    .optional "testAllContainers" .bool fun c b => { c with testAllContainers := b }] .default

/-- Loads the configuration in a file, or the one that counts without a file. -/
def load (file : Option (Except ReadFault ByteArray)) : Except ConfigError Config :=
  match file with
  | none => .ok .default
  | some file =>
    match readText file with
    | .error fault => .error (.read fault)
    | .ok text =>
      match reader.run text with
      | .error fault => .error (.parse fault)
      | .ok config =>
        if config.cache.sweepInterval = 0 then .error .zeroInterval else .ok config

end Config

end ImageFreshness
