import TagSearch.DataFile
import TagSearch.Request
import TagSearch.Session
import TagSearch.Text.Blank

/-!
# Line by line

The program reads requests line by line and prints for each the document, or what is wrong and how
the search may be repaired.  Presets are loaded when the first phrase is looked up.
-/

namespace TagSearch.Repl

/-- The path of the configuration. -/
def configPath : String := "wizard.json"

/-- The path of the presets. -/
def presetsPath : String := "presets.json"

/-- A request that shows the form of requests. -/
def exampleRequest : String :=
  "\x7b\"search\":\"Cafee in Berlin\",\"parsed\":\x7b\"query\":\x7b\"query\":\"free form\"," ++
    "\"free\":\"Cafee\"\x7d,\"bounds\":\"area\",\"area\":\"Berlin\"\x7d\x7d"

/-- The configuration that is used, and the line that tells where it comes from. -/
def startConfig (file : DataFile) : Config × String :=
  match Config.load configPath file with
  | .ok config => (config, "✅ 成功从JSON配置文件加载配置: " ++ configPath)
  | .error e => ({}, "⚠️ 无法加载JSON配置文件 (" ++ e.message ++ "), 使用默认配置")

/-- The presets that are used: none, if they cannot be loaded. -/
def startPresets (file : DataFile) : PresetTable :=
  match PresetTable.load presetsPath file with
  | .ok table => table
  | .error _ => .empty

/-- The resolver that loads the presets on demand. -/
def startResolver (file : DataFile) : OnDemand Resolver where
  build _ := (startPresets file).resolver

/-- What is printed before the first line is read. -/
def banner (configLine : String) : List String :=
  ["--- FFS Wizard: 搜索到 Overpass 查询编译器 ---", configLine,
    "每行输入一个JSON请求, :help 查看示例, :quit 退出"]

/-- The meaning of a line of input. -/
inductive Command where
  | nothing
  | quit
  | help
  | request (text : String)
  deriving DecidableEq, Repr

/-- The meaning of a line, without the blanks at its ends. -/
def Command.ofLine (line : String) : Command :=
  match Text.trim line with
  | "" => .nothing
  | ":quit" => .quit
  | ":q" => .quit
  | ":help" => .help
  | text => .request text

/-- What is printed for a request that cannot be read.  An error of the tree or the bounds has a
message of its own; for any other, `<json>` stands in place of the JSON library's own message, whose
wording is left open here. -/
def unreadable (e : ReadError) : String :=
  "✗ 无法解析请求: " ++ e.message?.getD "<json>"

/-- What is printed for a search without a document. -/
def failureReport (e : CompileError) : String :=
  "✗ 编译失败: " ++ e.message

/-- What is printed to offer a repaired search. -/
def repairOffer (fragments : List Fragment) : String :=
  "你是不是要找: " ++ Repair.repairedSearch fragments

/-- What is printed for a search without a document, with the repaired search if there is one. -/
def explain (parser : Preparsed) (search : String) (e : CompileError) :
    StateM (OnDemand Resolver) (List String) := do
  let fragments ← OnDemand.repair parser search
  return failureReport e :: (fragments.map repairOffer).toList

/-- What is printed for a request. -/
def handle (config : Config) (request : Request) : StateM (OnDemand Resolver) (List String) := do
  let parser : Preparsed := ⟨request.search, request.parsed⟩
  match ← OnDemand.construct config parser request.search request.comment with
  | .ok document => return [document.render]
  | .error e => explain parser request.search e

/-- What is printed for a command. -/
def answer (config : Config) : Command → StateM (OnDemand Resolver) (List String)
  | .nothing => return []
  | .quit => return []
  | .help => return ["示例请求:\n" ++ exampleRequest]
  | .request text =>
    match Request.ofText text with
    | .ok request => handle config request
    | .error e => return [unreadable e]

/-- What a run of the program prints, and its exit status. -/
structure Transcript where
  printed : List String
  status : Nat
  deriving DecidableEq, Repr

/-- Answers lines up to the first that asks to quit. A line that is no text ends the program with an
error. -/
def runLines (config : Config) : List (Option String) → StateM (OnDemand Resolver) Transcript
  | [] => return ⟨[], 0⟩
  | none :: _ => return ⟨[], 1⟩
  | some line :: lines =>
    match Command.ofLine line with
    | .quit => return ⟨[], 0⟩
    | command => do
      let printed ← answer config command
      let rest ← runLines config lines
      return { rest with printed := printed ++ rest.printed }

/-- A run of the program on the given files and lines. -/
def run (configFile presetsFile : DataFile) (lines : List (Option String)) : Transcript :=
  let (config, configLine) := startConfig configFile
  let (rest, _) := (runLines config lines).run (startResolver presetsFile)
  { rest with printed := banner configLine ++ rest.printed }

/-- The lines of an input. The last one need not be ended. -/
def splitLines : List UInt8 → List (List UInt8)
  | [] => []
  | b :: bytes =>
    if b = 10 then [] :: splitLines bytes
    else match splitLines bytes with
      | [] => [[b]]
      | line :: lines => (b :: line) :: lines

/-- The lines of an input as texts, where a line that is not encoded in UTF-8 is none. -/
def decodeLines (input : ByteArray) : List (Option String) :=
  (splitLines input.toList).map fun line => String.fromUTF8? ⟨line.toArray⟩

end TagSearch.Repl
