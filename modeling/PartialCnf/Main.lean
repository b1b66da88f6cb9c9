import PartialCnf.Cli.Program

/-!
The `cnfstate` executable: the program run on the real file system, with its log directives
taken from `RUST_LOG`.
-/

open PartialCnf

/-- The library's error for an error of the operating system. -/
def ioErrorOf : IO.Error → IoError
  | .noFileOrDirectory _ _ _ => IoError.notFound
  | .inappropriateType _ 21 _ => IoError.isDirectory
  | .inappropriateType _ 20 _ => IoError.notDirectory
  | .otherError 21 _ => IoError.isDirectory
  | .invalidArgument _ 36 _ => IoError.nameTooLong
  | .otherError 36 _ => IoError.nameTooLong
  | e => .other (toString e)

instance : FileSystem IO where
  readBytes path := do
    if path.contains (Char.ofNat 0) then return .error IoError.nulByte
    try
      let bytes ← IO.FS.readBinFile path
      pure (.ok bytes.toList)
    catch e => pure (.error (ioErrorOf e))
  writeText path text := do
    if path.contains (Char.ofNat 0) then return .error IoError.nulByte
    try
      IO.FS.writeFile path text
      pure (.ok ())
    catch e => pure (.error (ioErrorOf e))

def main (args : List String) : IO UInt32 := do
  let outcome ← Cli.run args (← IO.getEnv "RUST_LOG")
  IO.print outcome.stdout
  IO.eprint outcome.stderr
  pure outcome.status.toUInt32
