import GuardedProxy.Description.Basic
import GuardedProxy.Json.Quote

/-!
# Writing a description

A description is written as a compact JSON object with every field present, in a fixed order.
-/

namespace GuardedProxy

namespace Json

def listText {α : Type} (text : α → String) (values : List α) : String :=
  "[" ++ String.intercalate "," (values.map text) ++ "]"

def optionText {α : Type} (text : α → String) : Option α → String
  | none => "null"
  | some value => text value

/-- An object with the given keys and the texts of their values. -/
def objectText (fields : List (String × String)) : String :=
  "\x7b" ++ String.intercalate "," (fields.map fun (key, value) ↦ quote key ++ ":" ++ value) ++
    "\x7d"

end Json

namespace Description

def parameterText (parameter : Parameter) : String :=
  Json.objectText [("name", Json.quote parameter.name), ("type", Json.quote parameter.type)]

def memberText : MemberDescription → String
  | .method method =>
    Json.objectText [("kind", Json.quote "method"), ("name", Json.quote method.name),
      ("return_type", Json.quote method.returnType),
      ("parameters", Json.listText parameterText method.parameters),
      ("clauses", Json.listText Json.quote method.clauses)]
  | .property property =>
    Json.objectText [("kind", Json.quote "property"), ("name", Json.quote property.name),
      ("type", Json.quote property.type),
      ("getter", Json.optionText (Json.listText Json.quote) property.getter),
      ("setter", Json.optionText (Json.listText Json.quote) property.setter)]

def text (description : Description) : String :=
  Json.objectText [("interface", Json.quote description.interfaceName),
    ("contract_class", Json.optionText Json.quote description.contractClass),
    ("namespace", Json.optionText Json.quote description.namespaceName),
    ("members", Json.listText memberText description.members)]

end Description

end GuardedProxy
