import OpeningTerms.Program

/-!
# The command

The program in its real surroundings: it finds out what these are, and brings about what
`Surroundings.outcome` says of them. Nothing is decided here.
-/

namespace OpeningTerms

/-- What is found at a path. A path through a file is refused when it is looked up, and a
    directory only when it is read, where the path is no longer named. A failure that no
    `Place` stands for is passed on. -/
def lookUp (path : String) : IO Place := do
  try
    return .file (← IO.FS.readBinFile path)
  catch
    | .noFileOrDirectory .. => return .vacant
    | .inappropriateType (some _) .. => return .blocked
    | .inappropriateType none .. => return .directory
    | e => throw e

/-- The value of a variable in the block of the environment, in which each entry is a name, an
    equals sign, a value and a zero byte. -/
def valueIn (block : List UInt8) (name : String) : Option ByteArray :=
  (block.splitBy fun b _ => b != 0).findSome? fun entry =>
    ((name ++ "=").toUTF8.toList.isPrefixOf? entry).map fun value =>
      ⟨(value.takeWhile (· != 0)).toArray⟩

/-- The filter in the environment, byte by byte, as it need not be text. Where the system does not
    show the block of the environment, the filter is taken for text. -/
def lookUpFilter (name : String) : IO (Option ByteArray) := do
  try
    return valueIn (← IO.FS.readBinFile "/proc/self/environ").toList name
  catch _ =>
    return (← IO.getEnv name).map String.toUTF8

/-- The home directory that the environment names. If it names none, the system would have to be
    asked who the user is. This is left out, and the command ends. -/
def lookUpHome : IO String := do
  match (← IO.getEnv "HOME").filter (· ≠ "") with
  | some home => return home
  | none => throw (.userError "no home directory in the environment")

/-- Prints the opening terms of a sequence as the settings in the home directory ask for. -/
def command (arguments : List String) : IO UInt32 := do
  let home ← lookUpHome
  let w : Surroundings := {
    home := home
    place := ← lookUp (Settings.pathIn home)
    filter := ← lookUpFilter "RUST_LOG"
    arguments := arguments }
  let output ← IO.getStdout
  let outcome ←
    try
      output.putStr w.outcome.output
      output.flush
      pure w.outcome
    catch _ => pure { w with output := { isFull := true } : Surroundings }.outcome
  (← IO.getStderr).putStr outcome.errors
  return outcome.code

end OpeningTerms

/-- The command. -/
def main : List String → IO UInt32 := OpeningTerms.command
