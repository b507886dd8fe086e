import FirmwareUpdate.CommandLine.Run

/-! The command line tool. It looks at the disk where its arguments point, asks if it has to, and
prints what the run comes to. It has no network, so every device is out of reach. -/

namespace FirmwareUpdate.Main

open CommandLine

def lookUp (pairs : List (String × String)) (name : String) : Option String :=
  pairs.lookup name

def readVariables : IO Settings.Variables := do
  let pairs ← Settings.names.filterMapM fun (name : String) => do
    return (← IO.getEnv name).map (name, ·)
  return lookUp pairs

def ancestors (path : String) : List String :=
  let parts := Text.parts '/' path.toList
  (List.range parts.length).map fun (n : Nat) =>
    String.ofList (['/'].intercalate (parts.take (n + 1)))

def look (path : String) : IO (List Files.Change) := do
  if path = "" then return []
  try
    let place ← IO.FS.realPath path
    if ← place.isDir then return [.makeDirectory path]
    else if ← place.pathExists then return [.write path (← IO.FS.readBinFile path)]
    else return []
  catch _ => return []

def readFiles (args : List String) : IO Files := do
  let changes ← (args.flatMap ancestors).mapM look
  return Files.empty.applyAll changes.flatten

def printOutput (o : Terminal.Output) : IO Unit := do
  IO.print o.out
  IO.eprint o.err
  (← IO.getStdout).flush

def withoutFirst (shown o : Terminal.Output) : Terminal.Output :=
  ⟨String.ofList (o.out.toList.drop shown.out.length),
    String.ofList (o.err.toList.drop shown.err.length)⟩

def readAnswer : IO (List UInt8) := do
  let input ← (← IO.getStdin).read 4096
  return input.toList

end FirmwareUpdate.Main

open FirmwareUpdate FirmwareUpdate.Main in
def main (args : List String) : IO UInt32 := do
  let x : CommandLine.Surroundings := ⟨← readVariables, [], ← readFiles args, .unreachable⟩
  let (shown, x) ←
    match CommandLine.question? x args with
    | none => pure (Terminal.Output.none, x)
    | some o =>
        printOutput o
        pure (o, { x with input := ← readAnswer })
  let r := CommandLine.run x args
  printOutput (withoutFirst shown r.output)
  if r.status = some 2 then IO.eprintln (CommandLine.helpText .program)
  return (r.status.getD 1).toUInt32
