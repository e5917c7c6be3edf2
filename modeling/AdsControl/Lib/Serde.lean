import Mathlib

/-!
# Stored values

Structured values and codecs for them. A codec carries the proof that what was encoded decodes to the
value it came from.

* `Json`: structured values;
* `Codec`: an encoding with its inverse;
* `Codec.list`, `Codec.option`, `Codec.pair`, `Codec.entries`: codecs of compound types;
* `Json.field`, `Json.optional`: the fields of a record, with rules for lookups;
* `Reader`: how the values of a response are read.
-/

namespace Serde

/-- A stored value. -/
inductive Json
  | null
  | bool (b : Bool)
  | num (n : ℤ)
  | str (s : String)
  | arr (items : List Json)
  | obj (fields : List (String × Json))

/-! ## Equality -/

mutual

/-- Equality of values. -/
def Json.beq : Json → Json → Bool
  | .null, .null => true
  | .bool a, .bool b => a == b
  | .num a, .num b => a == b
  | .str a, .str b => a == b
  | .arr a, .arr b => Json.beqItems a b
  | .obj a, .obj b => Json.beqFields a b
  | _, _ => false

/-- Equality of entries. -/
def Json.beqItems : List Json → List Json → Bool
  | [], [] => true
  | a :: as, b :: bs => a.beq b && Json.beqItems as bs
  | _, _ => false

/-- Equality of fields. -/
def Json.beqFields : List (String × Json) → List (String × Json) → Bool
  | [], [] => true
  | (k, a) :: as, (l, b) :: bs => k == l && a.beq b && Json.beqFields as bs
  | _, _ => false

end

mutual

theorem Json.beq_iff : ∀ a b : Json, a.beq b = true ↔ a = b
  | .null, b => by cases b <;> simp [Json.beq]
  | .bool a, b => by cases b <;> simp [Json.beq]
  | .num a, b => by cases b <;> simp [Json.beq]
  | .str a, b => by cases b <;> simp [Json.beq]
  | .arr a, b => by cases b <;> simp [Json.beq, Json.beqItems_iff a]
  | .obj a, b => by cases b <;> simp [Json.beq, Json.beqFields_iff a]

theorem Json.beqItems_iff : ∀ a b : List Json, Json.beqItems a b = true ↔ a = b
  | [], b => by cases b <;> simp [Json.beqItems]
  | a :: as, b => by cases b <;> simp [Json.beqItems, Json.beq_iff a, Json.beqItems_iff as]

theorem Json.beqFields_iff : ∀ a b : List (String × Json), Json.beqFields a b = true ↔ a = b
  | [], b => by cases b <;> simp [Json.beqFields]
  | (k, a) :: as, b => by
    cases b with
    | nil => simp [Json.beqFields]
    | cons e b => simp [Json.beqFields, Json.beq_iff a, Json.beqFields_iff as, Prod.ext_iff]

end

instance Json.decidableEq : DecidableEq Json := fun a b => decidable_of_iff _ (Json.beq_iff a b)

/-- An encoding that can be undone. -/
structure Codec (α : Type) where
  encode : α → Json
  decode : Json → Option α
  decode_encode : ∀ a, decode (encode a) = some a

attribute [simp] Codec.decode_encode

variable {α β : Type}

/-! ## Fields -/

/-- The fields of an object. -/
def Json.fields : Json → Option (List (String × Json))
  | obj fields => some fields
  | _ => none

/-- The fields of a record that has no others. -/
def Json.known (names : List String) (value : Json) : Option (List (String × Json)) :=
  value.fields.bind fun fields =>
    if fields.all fun field => names.contains field.1 then some fields else none

/-- A required field. -/
def Json.field (c : Codec α) (fields : List (String × Json)) (name : String) : Option α :=
  (fields.lookup name).bind c.decode

/-- A field that may be missing. -/
def Json.optional (c : Codec (Option α)) (fields : List (String × Json)) (name : String) :
    Option (Option α) :=
  match fields.lookup name with
  | none => some none
  | some value => c.decode value

namespace Json

variable {name name' : String} {fields : List (String × Json)}

@[simp] theorem fields_obj : (obj fields).fields = some fields := rfl

@[simp] theorem field_self {c : Codec α} {a : α} :
    field c ((name, c.encode a) :: fields) name = some a := by
  simp [field]

theorem field_other {c : Codec α} {value : Json} (h : name ≠ name') :
    field c ((name', value) :: fields) name = field c fields name := by
  rw [field, List.lookup_cons, beq_false_of_ne h]
  rfl

@[simp] theorem optional_self {c : Codec (Option α)} {a : Option α} :
    optional c ((name, c.encode a) :: fields) name = some a := by
  simp [optional]

theorem optional_other {c : Codec (Option α)} {value : Json} (h : name ≠ name') :
    optional c ((name', value) :: fields) name = optional c fields name := by
  rw [optional, List.lookup_cons, beq_false_of_ne h]
  rfl

end Json

namespace Codec

theorem encode_injective (c : Codec α) : Function.Injective c.encode := by
  intro a b h
  have hdecode := congrArg c.decode h
  simpa using hdecode

/-! ## Codecs -/

/-- A value as it is. -/
def json : Codec Json where
  encode := id
  decode := some
  decode_encode _ := rfl

/-- A natural number. -/
def nat : Codec ℕ where
  encode n := .num n
  decode
    | .num n => if 0 ≤ n then some n.toNat else none
    | _ => none
  decode_encode n := by simp

/-- A whole number. -/
def int : Codec ℤ where
  encode := .num
  decode
    | .num n => some n
    | _ => none
  decode_encode _ := rfl

/-- A text. -/
def string : Codec String where
  encode := .str
  decode
    | .str s => some s
    | _ => none
  decode_encode _ := rfl

theorem mapM_map {f : α → β} {g : β → Option α} (h : ∀ a, g (f a) = some a) (l : List α) :
    (l.map f).mapM g = some l := by
  induction l with
  | nil => rfl
  | cons a l ih =>
    rw [List.map_cons, List.mapM_cons, ih, h]
    rfl

/-- A list, entry by entry. -/
def list (c : Codec α) : Codec (List α) where
  encode l := .arr (l.map c.encode)
  decode
    | .arr items => items.mapM c.decode
    | _ => none
  decode_encode l := mapM_map c.decode_encode l

/-- A pair, as a list of two. -/
def pair (c : Codec α) (d : Codec β) : Codec (α × β) where
  encode p := .arr [c.encode p.1, d.encode p.2]
  decode
    | .arr [a, b] => do return (← c.decode a, ← d.decode b)
    | _ => none
  decode_encode p := by simp

/-- An option is its value or null. -/
def option (c : Codec α) (h : ∀ a, c.encode a ≠ .null) : Codec (Option α) where
  encode
    | some a => c.encode a
    | none => .null
  decode
    | .null => some none
    | value => (c.decode value).map some
  decode_encode
    | none => rfl
    | some a => by
      have hdecode := c.decode_encode a
      cases hvalue : c.encode a with
      | null => exact absurd hvalue (h a)
      | _ =>
        rw [hvalue] at hdecode
        simp [hvalue, hdecode]

/-- A map as an object, its keys as texts. -/
def entries (key : α → String) (parse : String → Option α) (hkey : ∀ a, parse (key a) = some a)
    (c : Codec β) : Codec (List (α × β)) where
  encode l := .obj (l.map fun e => (key e.1, c.encode e.2))
  decode
    | .obj fields => fields.mapM fun e => do return (← parse e.1, ← c.decode e.2)
    | _ => none
  decode_encode l := mapM_map (fun e => by simp [hkey]) l

end Codec

/-! ## Responses -/

/-- How the values of a response are read. -/
structure Reader (V : Type) where
  isObject : V → Bool
  get : V → String → Option V
  asArray : V → Option (List V)
  asU64 : V → Option ℕ
  asI64 : V → Option ℤ
  asStr : V → Option String

/-- Structured values are read as they are. -/
def Json.reader : Reader Json where
  isObject value := value.fields.isSome
  get value name := value.fields.bind fun fields => fields.lookup name
  asArray
    | .arr items => some items
    | _ => none
  asU64
    | .num n => if 0 ≤ n ∧ n < 2 ^ 64 then some n.toNat else none
    | _ => none
  asI64
    | .num n => if -2 ^ 63 ≤ n ∧ n < 2 ^ 63 then some n else none
    | _ => none
  asStr
    | .str text => some text
    | _ => none

end Serde
