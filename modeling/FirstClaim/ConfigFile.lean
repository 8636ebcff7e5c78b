import FirstClaim.Config
import FirstClaim.FileTree
import FirstClaim.Json.Reader
import FirstClaim.Yaml.Reader

/-!
# Rule set files

A file holds a rule set in one of two formats, which the name of the file tells. `Config.parse` and
`Config.render` turn a text into a rule set and back; `Config.load` and `Config.save` do so for a
file.
-/

set_option autoImplicit false

namespace FirstClaim

/-! ## Texts -/

inductive ConfigFormat where
  | json
  | yaml
deriving DecidableEq, Repr

def ConfigFormat.ofPath (path : String) : ConfigFormat :=
  if (Path.extension? path).map (·.map Char.toLower) = some "json" then .json else .yaml

/-- Why a text holds no rule set. -/
inductive ParseError where
  | json (error : Json.Error)
  | yaml (error : Yaml.Error)
deriving DecidableEq, Repr

def ParseError.message : ParseError → String
  | json error => s!"json error: {error.message}"
  | yaml error => s!"yaml error: {error.message}"

def Config.parse (format : ConfigFormat) (text : String) : Except ParseError Config :=
  match format with
  | .json => (Json.parse Config.read text).mapError .json
  | .yaml => (Yaml.parse Config.read text).mapError .yaml

def Config.render (format : ConfigFormat) (c : Config) : String :=
  match format with
  | .json => c.toValue.pretty
  | .yaml => c.toYaml

/-! ## Files -/

/-- Why no rule set could be had from a file. -/
inductive LoadError where
  | io (error : IoError)
  | parse (error : ParseError)
deriving DecidableEq, Repr

def LoadError.message : LoadError → String
  | io error => s!"io error: {error.message}"
  | parse error => error.message

def Config.load (files : FileTree) (path : String) : Except LoadError Config := do
  let text ← (files.readText path).mapError .io
  (Config.parse (.ofPath path) text).mapError .parse

/-- Reads a rule set from a file if a path is given. The built-in one takes the place of a file
that cannot be read, and the error is told. -/
def Config.loadOrBuiltin (files : FileTree) (path : Option String) : Config × Option LoadError :=
  match path with
  | none => (.builtin, none)
  | some path =>
    match Config.load files path with
    | .ok c => (c, none)
    | .error e => (.builtin, some e)

def Config.save (files : FileTree) (path : String) (c : Config) : Except IoError FileTree :=
  files.write path (c.render (.ofPath path)).toUTF8

end FirstClaim
