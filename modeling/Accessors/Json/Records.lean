import Accessors.Declaration.Property
import Accessors.Json.Reader
import Accessors.Text.Position

/-!
# Properties and positions in JSON

Lists of properties are read and written, lists of positions are read. A property has the keys
`name` and `type`, a position the keys `line` and `character`.
-/

namespace Accessors

namespace Property

/-- The properties in a JSON text. -/
def ofJson? (text : String) : Option (List Property) :=
  Json.list? (fun cs =>
    (Json.record? "name" "type" Json.Quoted.read? cs).map fun ((name, type), rest) =>
      (⟨name, type⟩, rest)) text

/-- A property as an object over several lines, inside a list. -/
def toJson (property : Property) : String :=
  "  \x7b\n    \"name\": " ++ Json.Quoted.encode property.name
    ++ ",\n    \"type\": " ++ Json.Quoted.encode property.type ++ "\n  \x7d"

/-- Properties as a JSON text, with every field on a line of its own. -/
def listToJson : List Property → String
  | [] => "[]"
  | properties => "[\n" ++ ",\n".intercalate (properties.map toJson) ++ "\n]"

end Property

namespace Text.Position

/-- The positions in a JSON text. -/
def ofJson? (text : String) : Option (List Position) :=
  Json.list? (fun cs =>
    (Json.record? "line" "character" Json.readWord? cs).map fun ((line, character), rest) =>
      (⟨line, character⟩, rest)) text

end Text.Position

end Accessors
