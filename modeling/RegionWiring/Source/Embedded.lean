import RegionWiring.Collection.Table

namespace RegionWiring

structure EmbeddedDocuments where
  texts : Table String String

namespace EmbeddedDocuments

def normalPath (path : String) : String := String.ofList (path.toList.dropWhile (· == '/'))

def empty : EmbeddedDocuments := ⟨.empty⟩

def add (docs : EmbeddedDocuments) (path text : String) : EmbeddedDocuments :=
  ⟨docs.texts.insert (normalPath path) text⟩

def ofList (items : List (String × String)) : EmbeddedDocuments :=
  items.foldl (fun docs item => docs.add item.1 item.2) empty

def get? (docs : EmbeddedDocuments) (path : String) : Option String := docs.texts.get? (normalPath path)

def size (docs : EmbeddedDocuments) : Nat := docs.texts.size

def isEmpty (docs : EmbeddedDocuments) : Bool := docs.texts.isEmpty

theorem get?_add (docs : EmbeddedDocuments) (path other text : String) :
    (docs.add path text).get? other = if normalPath path = normalPath other then some text else docs.get? other :=
  Table.get?_insert docs.texts (normalPath path) (normalPath other) text

end EmbeddedDocuments
end RegionWiring
