import PathSchema.Failure
import PathSchema.FileTree
import PathSchema.Placeholder
import PathSchema.Yaml.Node.Alias

/-!
# Harvesting placeholders

A manifest is a YAML file.  Its placeholders are those of its texts, in the order in
which the texts stand in the file; a directory is searched in the order of the names.
-/

namespace PathSchema

/-- A placeholder with the file it was found in. -/
structure Finding where
  file : String
  placeholder : Placeholder
  deriving DecidableEq

namespace Harvest

/-- How deep the documents of a manifest may be nested. -/
def nestingLimit : Nat := 128

def isManifest (path : String) : Bool :=
  FileTree.extension? path == some "yaml" || FileTree.extension? path == some "yml"

/-- The manifests below a directory, in the order of the names. -/
def manifests (surroundings : Surroundings) (directory : String) :
    Except Failure (List (String × ByteArray)) :=
  match surroundings.files directory with
  | none => .error (.fileNotFound directory)
  | some tree => .ok ((tree.sorted.files directory).filter fun file => isManifest file.1)

/-- The texts of a manifest, if all of its documents are sound. -/
def texts? (manifest : String) : Option (List String) :=
  (Yaml.read? manifest).bind fun documents =>
    if documents.all fun document => document.isSound && document.depth ≤ nestingLimit then
      some (documents.flatMap Document.texts)
    else none

def ofManifest (path : String) (content : ByteArray) : Except Failure (List Finding) :=
  match String.fromUTF8? content with
  | none => .error (.unreadable path)
  | some text =>
    match texts? text with
    | none => .error (.invalidFormat path "YAML" "not well formed")
    | some texts => .ok ((texts.flatMap Placeholder.find).map (Finding.mk path))

/-- The placeholders of some manifests; the first one that cannot be read ends the search. -/
def ofManifests : List (String × ByteArray) → Except Failure (List Finding)
  | [] => .ok []
  | (path, content) :: rest =>
    (ofManifest path content).bind fun findings =>
      (ofManifests rest).map (findings ++ ·)

/-- The placeholders of the manifests below a directory. -/
def ofDirectory (surroundings : Surroundings) (directory : String) :
    Except Failure (List Finding) :=
  (manifests surroundings directory).bind ofManifests

end Harvest

end PathSchema
