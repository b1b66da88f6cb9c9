import PartialCnf.Files
import PartialCnf.Log

/-!
A world as a value: a workspace of files and the log records emitted so far. Programs that are
generic in their file system and log run in `WorldM` without any outside effect.
-/

namespace PartialCnf

/-- Files and log records. -/
structure World where
  workspace : Workspace := {}
  records : Array Log.Record := #[]

abbrev WorldM := StateM World

instance : FileSystem WorldM where
  readBytes path := do
    pure ((← get).workspace.read path |>.map fun s => s.toUTF8.toList)
  writeText path text := do
    let w ← get
    match w.workspace.write path text with
    | .ok ws => set { w with workspace := ws }; pure (.ok ())
    | .error e => pure (.error e)

instance : LogSink WorldM where
  emit r := modify fun w => { w with records := w.records.push r }

end PartialCnf
