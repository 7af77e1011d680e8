import EndpointProfile.CommandLine.Run

/-! The command as a program: its arguments, one variable, and at most one file to read. -/
namespace EndpointProfile.CommandLine

/-- The fault that an error tells. Codes of the system come with either sign. -/
private def fileFault : IO.Error → ReadFault
  | .noFileOrDirectory .. => .missing
  | .permissionDenied .. => .forbidden
  | .inappropriateType _ code _ => if code = 21 ∨ code = -21 then .isDirectory else .notDirectory
  | e => .other (toString e).toList

private def fileContent (file : Text) : IO (Except ReadFault Bytes) := do
  match ← (IO.FS.readBinFile (String.ofList file)).toBaseIO with
  | .error e => return .error (fileFault e)
  | .ok bytes => return .ok bytes.toList

def runProcess (arguments : List Text) : IO UInt32 := do
  let setting ← IO.getEnv (String.ofList variantVariable)
  let content ←
    match readArguments arguments with
    | .ok { check := some file, .. } => fileContent file
    | _ => pure (.error .missing)
  let o := run (fun _ => fileText content) (setting.map String.toList) arguments
  IO.print (String.ofList o.output)
  for e in o.events do IO.eprintln (String.ofList e.line)
  if let some message := o.error then IO.eprintln (String.ofList message)
  return UInt32.ofNat o.code

end EndpointProfile.CommandLine

def main (arguments : List String) : IO UInt32 :=
  EndpointProfile.CommandLine.runProcess (arguments.map String.toList)
