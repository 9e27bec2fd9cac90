import TagSearch.Config
import TagSearch.Preset.Table

/-!
# Data files

Configuration and presets are kept in files, which may be missing, unreadable or wrong.
-/

namespace TagSearch

/-- What is found at the path of a file. -/
inductive DataFile where
  | missing
  /-- Something that cannot be read, for this reason. -/
  | unreadable (reason : String)
  | content (bytes : ByteArray)

namespace DataFile

/-- A directory, which cannot be read like a file. -/
def directory : DataFile := .unreadable "Is a directory (os error 21)"

/-- A file with the given text. -/
def ofText (text : String) : DataFile := .content text.toUTF8

end DataFile

/-- Why a file could not be loaded. -/
inductive LoadError where
  | notFound (path : String)
  | read (path reason : String)
  | parse (path : String)
  deriving DecidableEq, Repr

/-- The message for a file that could not be loaded.  For a text that is no JSON, or not of the
required shape, `<json>` stands in place of the JSON library's own message, whose wording is left
open here. -/
def LoadError.message : LoadError → String
  | notFound path => "配置文件不存在: " ++ path
  | read path reason => "无法读取配置文件 " ++ path ++ ": " ++ reason
  | parse path => "无法解析JSON配置文件 " ++ path ++ ": <json>"

namespace DataFile

/-- The text of a file, which has to be encoded in UTF-8. -/
def text (path : String) : DataFile → Except LoadError String
  | missing => .error (.notFound path)
  | unreadable reason => .error (.read path reason)
  | content bytes =>
    match String.fromUTF8? bytes with
    | some text => .ok text
    | none => .error (.read path "stream did not contain valid UTF-8")

/-- Loads a file whose text is read by `read`. -/
def load {α : Type} (read : String → Option α) (path : String) (file : DataFile) :
    Except LoadError α := do
  match read (← file.text path) with
  | some a => return a
  | none => .error (.parse path)

end DataFile

/-- Loads a configuration. -/
def Config.load (path : String) (file : DataFile) : Except LoadError Config :=
  file.load Config.ofText? path

/-- Loads a preset table. -/
def PresetTable.load (path : String) (file : DataFile) : Except LoadError PresetTable :=
  file.load PresetTable.ofText? path

end TagSearch
