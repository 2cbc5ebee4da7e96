import LayerMarkup.Command.Run

/-!
# The command line program

Reads the real files and streams, and leaves everything else to `Command`.
-/

namespace LayerMarkup.Command

/-- All bytes of a stream. -/
partial def readAll (stream : IO.FS.Stream) (read : ByteArray) : IO ByteArray := do
  let chunk ← stream.read 65536
  if chunk.isEmpty then return read else readAll stream (read ++ chunk)

/-- The number of a system error, which some operations report negated. -/
def systemErrorNumber (code : UInt32) : Nat := (min code (0 - code)).toNat

/-- The failure of a file operation, by its cause. -/
def fileErrorOf (path : String) : IO.Error → FileError
  | .inappropriateType _ code _ =>
    if systemErrorNumber code = 20 then .notDirectory path else .isDirectory path
  | .invalidArgument _ code _ =>
    if systemErrorNumber code = 36 then .nameTooLong path else .nullInPath
  | _ => .notFound path

/-- The text of the snapshot that a request names. -/
def sourceOf (r : Request) : IO (Except Problem String) := do
  if r.source = "-" then
    let bytes ← readAll (← IO.getStdin) .empty
    return (Text.decodeUtf8 bytes.toList).mapError .encoding
  let path := (Path.ofString r.source).text
  try
    let bytes ← IO.FS.readBinFile path
    return fileText bytes.toList
  catch error => return .error (.file (fileErrorOf path error))

/-- Puts a result into the file that the request names, or leaves it for standard output. -/
def deliverTo (r : Request) (result : String) : IO (Except Problem (String × List Event)) := do
  match r.outputPath? with
  | none => return .ok (result ++ "\n", [])
  | some output =>
    let path := (Path.ofString output).text
    try
      IO.FS.writeFile path (result ++ "\n")
      return .ok ("", [.wrote output])
    catch error => return .error (.file (fileErrorOf path error))

/-- The real files and streams. -/
def realWorld : World IO where
  source := sourceOf
  deliver := deliverTo

end LayerMarkup.Command

open LayerMarkup.Command in
/-- The program.  What a run does not report ends it. -/
def main (arguments : List String) : IO UInt32 := do
  match ← runIn realWorld arguments with
  | .error problem => throw (IO.userError problem.message)
  | .ok ending =>
    for line in ending.log do
      IO.eprintln line
    IO.print ending.stdout
    IO.eprint ending.stderr
    return UInt32.ofNat ending.exit
