/-!
# Paths

A path is a text of segments separated by slashes.  Values of variables are split
at every slash, so they may have empty segments; input paths drop the empty ones.
-/

namespace PathSchema

namespace Path

/-- The texts between the slashes of a text, empty ones included. -/
def splitAll (text : String) : List String :=
  (text.toList.splitOn '/').map String.ofList

/-- The segments of a path: the texts between its slashes that are not empty. -/
def split (path : String) : List String :=
  ((path.toList.splitOn '/').filter (!·.isEmpty)).map String.ofList

/-- Segments with a slash between neighbours. -/
def join (segments : List String) : String :=
  String.intercalate "/" segments

end Path

end PathSchema
