import FlowAtlas.CommandLine.Run

/-!
# The program

Reads the files that a command line names, runs, and writes what the run has written. There is no
layout program and no Python module at hand here, so that targets are documents, and drawings are
written in the DOT language.
-/

namespace FlowAtlas

/-- What stands at a path. Only a directory has an entry for itself. -/
def entryAt? (path : String) : IO (Option Entry) := do
  try
    discard (IO.FS.realPath (path ++ "/."))
    return some .directory
  catch _ =>
    try return some (.file (← IO.FS.readBinFile path) [])
    catch _ => return none

/-- What stands at a path and on the way to it. -/
def entriesAlong (p : Path) : IO (List (Place × Entry)) := do
  let mut entries := []
  let mut place := Place.start p
  for k in List.range p.names.length do
    place := Place.step place (p.names[k]?.getD "")
    match ← entryAt? { p with names := p.names.take (k + 1) }.text with
    | some e => entries := entries ++ [(place, e)]
    | none => break
  return entries

/-- The variables of the environment that the configuration is read from. -/
def environment : IO (List (String × String)) := do
  let mut found := []
  for name in ["CODEVIZ_DOT", "CODEVIZ_FONTNAME"] do
    if let some value ← IO.getEnv name then found := found ++ [(name, value)]
  return found

/-- Runs the program and gives its exit status. -/
def runProgram (i : CommandLine.Invocation) : IO UInt32 := do
  let input ← entriesAlong (Path.ofString i.target)
  let output ← match i.outputPath? with
    | some p => entriesAlong p
    | none => pure []
  let base := Layout.Config.ofEnvironment (← environment)
  let files : Files := ⟨input ++ output⟩
  let (conclusion, w) := CommandLine.run base i { files }
  match conclusion with
  | .exit status complaint => do
    (← IO.getStderr).putStr complaint
    (← IO.getStdout).write w.printed
    if let some p := i.outputPath? then
      if let .ok (contents, _) := w.files.read p then
        let before := (files.read p).toOption.map fun (contents, _) => contents.toList
        if before ≠ some contents.toList then IO.FS.writeBinFile p.text contents
    return status.toUInt32
  | .failure f => do
    let reason := match f with
      | .file flaw => flaw.message
      | _ => "the run was broken off"
    (← IO.getStderr).putStr ("codeviz: " ++ reason ++ "\n")
    return 1

/-- How the program is used. -/
def usage : String :=
  "usage: codeviz [-h] [-v] (show | cfg | dom | domtree | bytecode) [options] target\n"

end FlowAtlas

open FlowAtlas in
/-- The program. -/
def main (arguments : List String) : IO UInt32 := do
  match CommandLine.invocation arguments with
  | .ok i => runProgram i
  | .error .help => do
    (← IO.getStdout).putStr usage
    return 0
  | .error .misused => do
    (← IO.getStderr).putStr usage
    return 2
