import TagSearch.Repl

/-!
# The program

The files and the lines of the standard input are read here; what they mean is said elsewhere.
-/

namespace TagSearch.Main

/-- What is found at a path. -/
def readFile (path : String) : IO DataFile := do
  try
    return .content (← IO.FS.readBinFile path)
  catch e =>
    match e with
    | .noFileOrDirectory .. => return .missing
    | .inappropriateType .. => return .directory
    | e => return .unreadable (toString e)

/-- The next line of the input, without its line break. -/
partial def readLine (input : IO.FS.Stream) (line : ByteArray) : IO (Option ByteArray) := do
  let chunk ← input.read 1
  if chunk.isEmpty then
    return if line.isEmpty then none else some line
  else if chunk.toList = [10] then
    return some line
  else
    readLine input (line ++ chunk)

/-- Answers the lines of the input as they come. -/
partial def loop (config : Config) (input : IO.FS.Stream) (resolver : OnDemand Resolver) :
    IO UInt32 := do
  match ← readLine input ByteArray.empty with
  | none => return 0
  | some line =>
    match String.fromUTF8? line with
    | none => return 1
    | some line =>
      match Repl.Command.ofLine line with
      | .quit => return 0
      | command =>
        let (printed, resolver) := (Repl.answer config command).run resolver
        for text in printed do
          IO.println text
        loop config input resolver

end TagSearch.Main

/-- Reads the configuration and answers the lines of the standard input. -/
def main : IO UInt32 := do
  let (config, configLine) := TagSearch.Repl.startConfig
    (← TagSearch.Main.readFile TagSearch.Repl.configPath)
  for text in TagSearch.Repl.banner configLine do
    IO.println text
  let presets ← TagSearch.Main.readFile TagSearch.Repl.presetsPath
  TagSearch.Main.loop config (← IO.getStdin) (TagSearch.Repl.startResolver presets)
