import Bundler.Cli.Footprint

/-!
# The program
-/

namespace Bundler.Disk

/-- What an open file holds; a folder can be opened but not read. -/
def contents (path : Path) (handle : IO.FS.Handle) : IO Node := do
  try
    let _ ← handle.read 1
    return .file (← IO.FS.readBinFile path.text)
  catch _ => return .folder []

/-- What is at a path on disk. -/
def lookAt (path : Path) : IO (Option Node) := do
  try
    return some (← contents path (← IO.FS.Handle.mk path.text .read))
  catch _ => return none

/-- Adds what a command depends on until nothing new is asked for. -/
partial def gather (current : Path) (command : Cli.Command) (asked : List Path) (files : Files) :
    IO Files := do
  let new := ((Cli.footprint files current command).filter fun p => !asked.contains p).eraseDups
  if new.isEmpty then return files
  let mut files := files
  for path in new do
    match ← lookAt path with
    | some (.folder _) => if !files.isFolder path then files := files.put path (.folder [])
    | some node => files := files.put path node
    | none => pure ()
  gather current command (new ++ asked) files

/-- Puts a file or a folder on disk. -/
def store (path : Path) : Option ByteArray → IO Unit
  | none => IO.FS.createDirAll path.text
  | some bytes => IO.FS.writeBinFile path.text bytes

/-- A time in words. -/
def duration (milliseconds : Nat) : String := s!"{milliseconds}.00ms"

def usageText : String :=
  "rpack - bundle CommonJS modules into one script per entry\n\n" ++
  "Usage: rpack <COMMAND>\n\n" ++
  "Commands:\n" ++
  "  build  Build every entry into the output directory\n" ++
  "  info   Show bundler information\n" ++
  "  help   Print this message or the help of the given subcommand(s)\n"

end Bundler.Disk

open Bundler Disk

def main (args : List String) : IO UInt32 := do
  let current : Path := ⟨toString (← IO.currentDir)⟩
  let environment ← IO.getEnv "RUST_LOG"
  let start ← IO.monoMsNow
  let empty : Files := { current := current.components.filterMap fun
    | .name s => some s
    | _ => none }
  let files ← match Cli.Command.ofArgs args with
    | .ok command => gather current command [] empty
    | .error _ => pure empty
  let time := duration ((← IO.monoMsNow) - start)
  let (ending, after) := Cli.run time environment current args files
  for (path, content) in files.changesFrom after do
    store path content
  for line in ending.printed do
    IO.println line
  match ending.usage, ending.error with
  | some .help, _ => IO.print usageText
  | some _, _ => IO.eprint usageText
  | none, some e => IO.eprintln e.report
  | none, none => pure ()
  return ending.code.toUInt32
