import FirstClaim.ConfigFile
import FirstClaim.Proofs.FileTree.Directories
import FirstClaim.Proofs.Json.Records
import FirstClaim.Proofs.Yaml.Records

/-!
# Rule set files read back

A rule set that is written reads back in either format (`Config.parse_render`), so a file that a
rule set is saved in is loaded as that rule set (`Config.load_of_save`). For JSON the fingerprint is
told with it (`Config.json_round_trip`).
-/

set_option autoImplicit false

namespace FirstClaim.Config

/-! ## Texts -/

/-- **A rule set reads back as it was written**, in either format. -/
theorem parse_render (format : ConfigFormat) (c : Config) :
    Config.parse format (c.render format) = .ok c := by
  cases format with
  | json =>
    have hread := (c.reads_pretty 0).parse
    exact congrArg (·.mapError ParseError.json) hread
  | yaml => exact congrArg (·.mapError ParseError.yaml) c.parse_toYaml

/-- **A rule set in JSON reads back as the same rule set**, with its fingerprint. -/
theorem json_round_trip (c : Config) :
    Config.parse .json (c.render .json) = .ok c ∧
      (Config.parse .json (c.render .json)).map fingerprint = .ok c.fingerprint := by
  rw [parse_render]
  exact ⟨rfl, rfl⟩

/-! ## Files -/

variable {files files' : FileTree} {path : String} {c : Config}

/-- **A file that holds a written rule set** is loaded as that rule set. -/
theorem load_eq (h : files.readText path = .ok (c.render (.ofPath path))) :
    Config.load files path = .ok c := by
  unfold load
  rw [h]
  exact congrArg (·.mapError LoadError.parse) (parse_render _ c)

/-- Nothing takes the place of a rule set that its file holds. -/
theorem loadOrBuiltin_eq (h : files.readText path = .ok (c.render (.ofPath path))) :
    Config.loadOrBuiltin files (some path) = (c, none) := by
  unfold loadOrBuiltin
  dsimp only
  rw [load_eq h]

/-- **A rule set that is saved is the one that is loaded**, whatever the file is called. -/
theorem load_of_save (h : c.save files path = .ok files') : Config.load files' path = .ok c :=
  load_eq (FileTree.readText_of_write h)

end FirstClaim.Config
