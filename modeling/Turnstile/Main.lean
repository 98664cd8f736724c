/-
# The program

The command run in the world outside: the files it may look at are read
beforehand, and what it prints and writes is passed on.
-/
import Turnstile.Command
import Turnstile.Yaml.Read
import Std.Time.Format

namespace Turnstile.Program

/-- What stands at a path outside. -/
def look (path : String) : IO (Option Entry) := do
  let path := (← IO.currentDir) / path
  if ← path.isDir then return some .directory
  else if ← path.pathExists then
    let bytes ← IO.FS.readBinFile path
    return some (.file bytes)
  else return none

/-- The disk with what stands outside at the places that lead to a path. -/
def snapshot (disk : Disk) (path : Path) : IO Disk := do
  let mut disk := disk
  let mut place : Place := []
  for name in path.parts do
    place := if name = ".." then place.tail else name :: place
    match ← look ("/" ++ "/".intercalate place.reverse) with
    | some entry => disk := disk.put place entry
    | none => pure ()
  return disk

/-- The variables of the environment. -/
def environment : IO (List (String × String)) := do
  let bytes ← try IO.FS.readBinFile "/proc/self/environ" catch _ => pure ByteArray.empty
  let text := (String.fromUTF8? bytes).getD ""
  return (text.splitOn "\x00").filterMap fun line =>
    match Argument.splitEquals? line.toList with
    | some (name, value) => some (String.ofList name, String.ofList value)
    | none => none

/-- The request of arguments, if they make one. -/
def request? (arguments : List String) : Option Request :=
  match Request.ofArguments arguments with
  | .ok (.work r) => some r
  | _ => none

/-- The world outside, as far as a request may look at it. -/
def world (r : Option Request) : IO World := do
  let env ← environment
  let cwd := Path.ofText (toString (← IO.currentDir))
  let value (f : Request → Option OptionValue) : Option String :=
    (r.bind f).bind OptionValue.text?
  let home := (Entries.get? "HOME" env).getD "/"
  let named := [Entries.get? "GENTZEN_CONFIG" env, value Request.file, value Request.json]
  let texts := ["gentzen.yaml", home ++ "/.gentzen/config.yaml"] ++ named.filterMap id
  let disk ← (texts.map fun s => cwd.join (.ofText s)).foldlM snapshot Disk.empty
  return ⟨disk, cwd, Path.ofText "/", env⟩

/-- Passes on what was written to a file. -/
def passOn (w : World) (path : Path) : IO Unit :=
  match w.readBytes path.render with
  | .ok bytes => IO.FS.writeBinFile (w.cwd.join path).render bytes
  | .error _ => pure ()

end Turnstile.Program

open Turnstile in
/-- Runs the command. -/
def main (arguments : List String) : IO UInt32 := do
  let r := Program.request? arguments
  let w ← Program.world r
  let now ← Std.Time.PlainDateTime.now
  let time := now.format "uuuu-MM-dd HH:mm:ss,SSS"
  let outcome := Command.run Yaml.parse .increasing w time arguments
  IO.print outcome.stdout
  IO.eprint outcome.stderr.nearest
  match outcome.ending with
  | .exited code => return code.toUInt32
  | .returned code =>
    match (r.bind Request.json).bind OptionValue.text? with
    | some path => if code < 2 then Program.passOn outcome.world (.ofText path)
    | none => pure ()
    return code.toUInt32
  | .failed e =>
    IO.eprintln e.message.nearest
    return 1
