import PathSchema.Configuration.Format
import PathSchema.Failure
import PathSchema.FileTree
import PathSchema.Json.Reading
import PathSchema.Toml.Reading
import PathSchema.Yaml.Node.Alias

/-!
# Loading configurations

The ending of a file's name tells its format.  A file that is asked for has to be
there and to be right; of the files in the usual places the first one that is there
and right is taken.
-/

namespace PathSchema

inductive ConfigurationFormat where
  | json
  | yaml
  | toml
  deriving DecidableEq

namespace ConfigurationFormat

/-- The format of a file; one with any other ending is JSON. -/
def ofPath (path : String) : ConfigurationFormat :=
  match FileTree.extension? path with
  | some "yaml" | some "yml" => yaml
  | some "toml" => toml
  | _ => json

/-- What a format lets stand for the parts of a configuration. -/
def rules : ConfigurationFormat → ConfigurationRules
  | json => ⟨false, false, true, false, 125⟩
  | yaml => ⟨true, true, false, false, 126⟩
  | toml => ⟨false, false, true, true, 79⟩

/-- The document of a text; a text without documents is like an empty one. -/
def document? : ConfigurationFormat → String → Option Document
  | json, text => Json.read? text
  | yaml, text =>
    (Yaml.read? text).bind fun documents =>
      match documents with
      | [] => some (.scalar "" .null)
      | [document] => some document
      | _ => none
  | toml, text => Toml.read? text

def failure (path : String) : ConfigurationFormat → Failure
  | json => .json path
  | yaml => .yaml path
  | toml => .toml path

end ConfigurationFormat

namespace Configuration

def ofText (path text : String) : Except Failure Configuration :=
  let format := ConfigurationFormat.ofPath path
  match (format.document? text).bind format.rules.configuration? with
  | none => .error (format.failure path)
  | some configuration =>
    match Input.repeated? configuration.inputs with
    | some name => .error (.config ("input '" ++ name ++ "' is defined more than once"))
    | none => .ok configuration

def ofFile (surroundings : Surroundings) (path : String) : Except Failure Configuration :=
  match surroundings.read path with
  | .error .absent => .error (.fileNotFound path)
  | .error .unreadable => .error (.unreadable path)
  | .ok text => ofText path text

def usualPlaces (configHome : Option String) : List String :=
  ["schematic.yaml", "schematic.yml", "schematic.toml", "schematic.json"] ++
    (configHome.toList.flatMap fun home =>
      ["config.yaml", "config.toml", "config.json"].map fun name =>
        FileTree.joinPath (FileTree.joinPath home "schematic") name)

def firstOf (surroundings : Surroundings) : List String → Option Configuration
  | [] => none
  | path :: rest =>
    match ofFile surroundings path with
    | .ok configuration => some configuration
    | .error _ => firstOf surroundings rest

/-- The configuration of the file that is asked for, or of one in the usual places. -/
def load (surroundings : Surroundings) : Option String → Except Failure Configuration
  | some path => ofFile surroundings path
  | none => .ok ((firstOf surroundings (usualPlaces surroundings.configHome)).getD {})

/-- The text of the schema; the one that is asked for goes before the configured one. -/
def schemaText (configuration : Configuration) (asked : Option String) :
    Except Failure String :=
  match asked.or configuration.schema with
  | some text => .ok text
  | none => .error .missingSchema

end Configuration

end PathSchema
