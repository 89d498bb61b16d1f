import EndpointDocs.CommandLine

/-!
# The program

Reads the files that the arguments name, and prints what the request comes to.
-/

namespace EndpointDocs

def readFileText (path : String) : IO (Except FileFault Text) := do
  try
    let bytes ← IO.FS.readBinFile path
    match String.fromUTF8? bytes with
    | some text => return .ok text.toList
    | none => return .error .notText
  catch _ => return .error .missing

def Request.paths : Request → List Text
  | .extract command => command.metadataPath :: command.configPath.toList
  | _ => []

end EndpointDocs

open EndpointDocs in
def main (arguments : List String) : IO UInt32 := do
  let request := Request.ofArguments (arguments.map String.toList)
  let files ← request.paths.mapM fun path ↦ do
    return (path, ← readFileText (String.ofList path))
  let outcome := request.run fun path ↦ (files.lookup path).getD (.error .missing)
  IO.print (String.ofList outcome.output)
  match outcome.errorLine with
  | some line => IO.eprintln (String.ofList line)
  | none => if outcome.exitCode != 0 then IO.eprint (String.ofList usageLine)
  return UInt32.ofNat outcome.exitCode
