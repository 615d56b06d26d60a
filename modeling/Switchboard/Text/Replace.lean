/-! Filling a fixed marker in a text. Occurrences are found from the left and do not overlap, and
what is put in is not searched again. -/
namespace Switchboard.Text

/-- The first `skip` characters belong to an occurrence that is already replaced. -/
def replaceFrom (marker value : List Char) : Nat → List Char → List Char
  | _, [] => []
  | skip + 1, _ :: rest => replaceFrom marker value skip rest
  | 0, c :: rest =>
    if marker.isPrefixOf (c :: rest) then
      value ++ replaceFrom marker value (marker.length - 1) rest
    else c :: replaceFrom marker value 0 rest

def replace (marker value text : String) : String :=
  String.ofList (replaceFrom marker.toList value.toList 0 text.toList)

end Switchboard.Text
