import DocMend.Command.Run
import DocMend.Shell.Runner
import Std.Time.DateTime.Timestamp
/-!
The command line program. It takes a picture of the working folder, carries out the request on that
picture, prints what the console shows and writes back the files that have changed.
-/

set_option autoImplicit false
set_option relaxedAutoImplicit false

namespace DocMend.Main

/-- The largest number of folders that one picture holds. -/
def folderLimit : Nat := 100000

/-- Adds the contents of folders to a disk, folder by folder; files that cannot be read are left out. -/
def photograph (fuel : Nat) (disk : Disk) (queue : List IO.FS.DirEntry) : IO Disk := do
  match fuel, queue with
  | 0, _ => return disk
  | _, [] => return disk
  | fuel + 1, entry :: rest =>
    let path := Path.resolve [] entry.path.toString
    if ← entry.path.isDir then
      let inner ← entry.path.readDir
      photograph fuel (disk.addFolder path) (inner.toList ++ rest)
    else
      let disk ← try
          let bytes ← IO.FS.readBinFile entry.path
          pure (disk.addFile path bytes.toList)
        catch _ => pure disk
      photograph fuel disk rest

/-- The variables that the program looks at. -/
def watched : List String :=
  [Settings.repositoryVariable, Command.revisionVariable, Command.Host.debugVariable]

/-- Runs the program. -/
def run (arguments : List String) : IO UInt32 := do
  let folder ← IO.currentDir
  let path := Path.resolve [] folder.toString
  let entries ← folder.readDir
  let disk ← photograph folderLimit (({} : Disk).addFolder path) entries.toList
  let environment ← watched.filterMapM fun name => do
    return (← IO.getEnv name).map fun value => (name, value)
  let now ← Std.Time.Timestamp.now
  let host : Command.Host (List Shell.Program) :=
    { tree := ⟨disk, path⟩, runner := [], environment, clock := now.toMillisecondsSinceUnixEpoch.toInt }
  let (status, after) := (Command.execute arguments).run host
  for (path, bytes) in after.tree.disk.files do
    if disk.files.lookup path ≠ some bytes then
      IO.FS.writeBinFile path.text ⟨bytes.toArray⟩
  IO.print after.console.stdout
  IO.eprint after.console.stderr
  return UInt32.ofNat status

end DocMend.Main

/-- The entry of the program. -/
def main (arguments : List String) : IO UInt32 :=
  DocMend.Main.run arguments
