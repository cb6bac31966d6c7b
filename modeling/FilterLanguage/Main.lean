import FilterLanguage.Command.Run

/-!
# The program

Reads what the command line asks for, runs the command, and prints its answer.
-/

namespace FilterLanguage

def Command.paths : Command → List String
  | .parse (.file path) _ _ => [path]
  | .parse _ _ _ => []
  | .check schema (.file path) _ => [schema, path]
  | .check schema _ _ => [schema]
  | .narrow options => [options.schema]

def Command.readsStdin : Command → Bool
  | .parse .stdin _ _ | .check _ .stdin _ => true
  | _ => false

def textOfBytes (bytes : ByteArray) : Except ReadFault String :=
  match String.fromUTF8? bytes with
  | some text => .ok text
  | none => .error .notText

def readFault : IO.Error → ReadFault
  | .noFileOrDirectory _ _ _ => .notFound
  | .inappropriateType _ 20 _ => .other "Not a directory (os error 20)"
  | .inappropriateType _ _ _ => .isDirectory
  | .permissionDenied _ code _ =>
    .other ("Permission denied (os error " ++ code.toNat.repr ++ ")")
  | e => .other e.toString

def readFile (path : String) : IO (Except ReadFault String) := do
  try
    let bytes ← IO.FS.readBinFile path
    pure (textOfBytes bytes)
  catch e => pure (.error (readFault e))

partial def readStream (stream : IO.FS.Stream) (bytes : ByteArray) :
    IO ByteArray := do
  let chunk ← stream.read 65536
  if chunk.isEmpty then pure bytes else readStream stream (bytes ++ chunk)

/-- Reads ahead whatever the command line may look at. -/
def gather (arguments : List String) : IO Surroundings := do
  let command := (Invocation.ofArguments? arguments).map Invocation.command
  let paths := (command.map Command.paths).getD []
  let files ← paths.mapM fun path => do
    let content ← readFile path
    pure (path, content)
  let input ←
    if (command.map Command.readsStdin).getD false then
      readStream (← IO.getStdin) .empty
    else pure .empty
  let settings ← ["QFILTER_LOG", "RUST_LOG"].mapM fun name => do
    let value ← IO.getEnv name
    pure (name, value)
  let terminal ← (← IO.getStderr).isTty
  pure
    { file := fun path => (files.lookup path).getD (.error .notFound)
      stdin := textOfBytes input
      setting := fun name => (settings.lookup name).getD none
      terminal }

end FilterLanguage

open FilterLanguage in
def main (arguments : List String) : IO UInt32 := do
  let surroundings ← gather arguments
  let outcome := Command.runArguments surroundings arguments
  IO.eprint outcome.stderr
  IO.print outcome.stdout
  pure outcome.code.toUInt32
