import AdsControl.Lib.DigitText

/-!
# Documents

The JSON values that replies are made of. A number is known by its text, an object by its fields.

* `Document`: the values;
* `asObject`, `asArray`, `asString`, `asBool`, `asU64`, `asI64`: views that fail on values of another kind;
* `index`: a field of any value, `null` where there is none.
-/

/-- A JSON value; a number is known by its text. -/
inductive Document
  | null
  | bool (value : Bool)
  | number (text : String)
  | string (text : String)
  | array (items : List Document)
  | object (fields : List (String × Document))
  deriving Inhabited

namespace Document

/-- The fields of an object. -/
def asObject : Document → Option (List (String × Document))
  | object fields => some fields
  | _ => none

/-- The entries of an array. -/
def asArray : Document → Option (List Document)
  | array items => some items
  | _ => none

/-- The text of a string. -/
def asString : Document → Option String
  | string text => some text
  | _ => none

/-- The value of a boolean. -/
def asBool : Document → Option Bool
  | bool value => some value
  | _ => none

/-- An unsigned 64-bit number. -/
def asU64 : Document → Option ℕ
  | number text => DigitText.parseUnsigned 64 text.toList
  | _ => none

/-- A signed 64-bit number. -/
def asI64 : Document → Option ℤ
  | number text => DigitText.parseSigned 64 text.toList
  | _ => none

/-- The value is null. -/
def isNull : Document → Bool
  | null => true
  | _ => false

/-- A field of an object. -/
def get (value : Document) (name : String) : Option Document :=
  value.asObject.bind fun fields => fields.lookup name

/-- A field, `null` where there is none. -/
def index (value : Document) (name : String) : Document := (value.get name).getD null

variable {value : Document} {fields : List (String × Document)} {items : List Document} {name : String}

theorem asObject_eq_some : value.asObject = some fields ↔ value = object fields := by
  cases value <;> simp [asObject]

theorem get_object : (object fields).get name = fields.lookup name := rfl

theorem asString_index (value : Document) (name : String) :
    (value.index name).asString = (value.get name).bind asString := by
  rw [index]
  cases value.get name <;> rfl

theorem asBool_index (value : Document) (name : String) :
    (value.index name).asBool = (value.get name).bind asBool := by
  rw [index]
  cases value.get name <;> rfl

theorem asArray_index (value : Document) (name : String) :
    (value.index name).asArray = (value.get name).bind asArray := by
  rw [index]
  cases value.get name <;> rfl

end Document
