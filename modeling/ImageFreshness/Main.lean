import ImageFreshness.Command.Run
import ImageFreshness.Journal.Line
import ImageFreshness.Pattern.Compile

/-!
# The program

Files, variables and streams of the system are accessed here and nowhere else.  The program is
built without a network, so no registry can be reached.
-/

namespace ImageFreshness

/-- The transport without a network. -/
def unreachable : Transport Unit := ⟨fun _ state => (none, state)⟩

def readFault : IO.Error → ReadFault
  | .inappropriateType _ code _ => if code = 21 then .isDirectory else .notDirectory
  | _ => .missing

def systemStorage : Storage IO where
  read path := do
    try return .ok (← IO.FS.readBinFile path)
    catch error => return .error (readFault error)
  openLog directory name := do
    try IO.FS.createDirAll directory
    catch _ => return .error .noDirectory
    try
      let _ ← IO.FS.Handle.mk (joinPath directory name) .append
      return .ok ()
    catch _ => return .error .notWritable

def writeLog (log : LogSetup) (notices : List Notice) : IO Unit := do
  let lines := notices.map (·.line log.format log.isColored)
  match log.file with
  | none => for line in lines do IO.eprintln line
  | some path =>
    let handle ← IO.FS.Handle.mk path .append
    for line in lines do handle.putStrLn line

end ImageFreshness

open ImageFreshness

def main (arguments : List String) : IO UInt32 := do
  let values ← Variables.names.mapM fun name => do return (name, ← IO.getEnv name)
  let vars : Variables := fun name => (values.lookup name).join
  let report ← runProgram systemStorage vars unreachable arguments ()
  for line in report.output do IO.println line
  if let some log := report.log then writeLog log report.logged
  if let some failure := report.failure then IO.eprintln ("Error: " ++ failure.message)
  return .ofNat report.exitCode
