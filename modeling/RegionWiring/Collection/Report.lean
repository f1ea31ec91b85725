import RegionWiring.Collection.Members
import RegionWiring.Collection.Table
import RegionWiring.Json.Value
import RegionWiring.Text.Quoted

namespace RegionWiring

def braced (items : List String) : String := "\x7b" ++ String.intercalate ", " items ++ "\x7d"

def bracketed (items : List String) : String := "[" ++ String.intercalate ", " items ++ "]"

def Table.report {β : Type} (t : Table String β) (value : β → String) : String :=
  braced (t.entries.map fun (key, v) => Text.reported key ++ ": " ++ value v)

def Members.report (s : Members String) : String := braced (s.items.map Text.reported)

def listReport (items : List String) : String := bracketed (items.map Text.reported)

def Table.form {β : Type} (t : Table String β) (value : β → Json) : Json :=
  .record (t.entries.map fun (key, v) => (key, value v))

def Members.form (s : Members String) : Json := .texts s.items

end RegionWiring
