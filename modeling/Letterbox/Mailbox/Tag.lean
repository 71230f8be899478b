import Letterbox.Text.Blank
import Letterbox.Text.Lines
import Letterbox.Text.Lowercase
import Letterbox.Text.Order

namespace Letterbox.Tag

open Text

def key (name : String) : String :=
  String.ofList (lower name.toList)

def collapsed (name : String) : String :=
  String.ofList (collapse name.toList)

def firstOfEach (names : List String) : List String :=
  names.foldl (fun kept n => if kept.any fun k => key k == key n then kept else kept ++ [n]) []

def sortNames (names : List String) : List String :=
  sortBy (fun n => (key n).toList) names

def normalize (names : List String) : List String :=
  sortNames (firstOfEach ((names.map collapsed).filter fun n => !n.isEmpty))

def ofField (value : String) : List String :=
  (((splitAt (· == ',') value.toList).map trim).filter fun t => !t.isEmpty).map String.ofList

end Letterbox.Tag
