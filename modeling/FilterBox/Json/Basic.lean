import FilterBox.Number.Basic

/-!
JSON values. Whole numbers written without point and exponent stay integers.
-/

namespace FilterBox

/-- The fields of an object stand in the order in which they are written. -/
inductive Json
  | null
  | bool (flag : Bool)
  | integer (whole : Int)
  | number (amount : Number)
  | string (text : String)
  | array (items : List Json)
  | object (fields : List (String × Json))

namespace Json

def field? (key : String) : Json → Option Json
  | .object fields => fields.lookup key
  | _ => none

/-- The fields with one more among them, in the order of the keys; a key that is there already gets
the new value. -/
def insertField (key : String) (value : Json) :
    List (String × Json) → List (String × Json)
  | [] => [(key, value)]
  | (key', value') :: fields =>
      if key < key' then (key, value) :: (key', value') :: fields
      else if key = key' then (key, value) :: fields
      else (key', value') :: insertField key value fields

end Json

end FilterBox
