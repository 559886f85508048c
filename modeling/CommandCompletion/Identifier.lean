import CommandCompletion.Text

namespace CommandCompletion

-- The namespace that identifiers may leave out.
def defaultNamespace : Text := "minecraft"

-- An identifier without its namespace, if that is `space`.
def dropNamespace (space identifier : Text) : Text :=
  let start := space ++ ":"
  if start.isPrefixOf identifier then identifier.drop start.length else identifier

def stripNamespace (identifier : Text) : Text :=
  dropNamespace defaultNamespace identifier

end CommandCompletion
