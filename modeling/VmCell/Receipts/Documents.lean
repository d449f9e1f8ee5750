import VmCell.Guest.Agent

/-! JSON as the library reads it: in the order of the text, with every key it meets,
up to an error if there is one.

From it come the check for repeated keys, the value in which the last of some repeated
keys stands, and the typed values that derived decoders take out of that one.
-/

set_option autoImplicit false
namespace VmCell

/-- A value of a text. A fault is the message of the library where it finds no further
element or no end. -/
inductive RawJson where
  | null
  | bool (value : Bool)
  | number (value : Int)
  | fraction (digits : String)
  | string (value : String)
  | array (items : List RawJson) (fault : Option String)
  | object (members : List (String × RawJson)) (fault : Option String)
  | broken (message : String)

/-- The first value of a text, and whether nothing but white space follows it. -/
structure RawDocument where
  root : RawJson
  ended : Bool

section Duplicates

def duplicateKeySentinel : String := "vmcell_duplicate_json_key"

/-- `contains` of two texts. -/
def containsText (text pattern : List Char) : Bool := text.tails.any fun rest => pattern.isPrefixOf rest

def endsWith (fault : Option String) : Except String Unit :=
  match fault with
  | some message => .error message
  | none => .ok ()

mutual

/-- `DuplicateFreeJson::deserialize`, with the message of its error. -/
def duplicateFree : RawJson → Except String Unit
  | .null | .bool _ | .number _ | .fraction _ | .string _ => .ok ()
  | .broken message => .error message
  | .array items fault => do
      duplicateFreeItems items
      endsWith fault
  | .object members fault => do
      duplicateFreeMembers [] members
      endsWith fault

def duplicateFreeItems : List RawJson → Except String Unit
  | [] => .ok ()
  | item :: items => do
      duplicateFree item
      duplicateFreeItems items

def duplicateFreeMembers (keys : List String) : List (String × RawJson) → Except String Unit
  | [] => .ok ()
  | (key, value) :: members =>
      if key ∈ keys then .error duplicateKeySentinel
      else do
        duplicateFree value
        duplicateFreeMembers (key :: keys) members

end

/-- Whether an error is about a repeated key. -/
def rejectDuplicateJsonKeys (document : RawDocument) : Except Bool Unit :=
  match duplicateFree document.root with
  | .error message => .error (containsText message.toList duplicateKeySentinel.toList)
  | .ok () => if document.ended then .ok () else .error false

end Duplicates

section Values

/-- `BTreeMap::insert`. -/
def insertKey (key : String) (value : Json) : List (String × Json) → List (String × Json)
  | [] => [(key, value)]
  | (other, held) :: members =>
      if key = other then (key, value) :: members
      else if key < other then (key, value) :: (other, held) :: members
      else (other, held) :: insertKey key value members

mutual

/-- `Value::deserialize`. -/
def RawJson.value : RawJson → Option Json
  | .null => some .null
  | .bool value => some (.bool value)
  | .number value => some (.number value)
  | .fraction digits => some (.fraction digits)
  | .string value => some (.string value)
  | .broken _ => none
  | .array items fault => do
      let items ← valueItems items
      if fault.isSome then none else some (.array items)
  | .object members fault => do
      let members ← valueMembers [] members
      if fault.isSome then none else some (.object members)

def valueItems : List RawJson → Option (List Json)
  | [] => some []
  | item :: items => do
      let first ← item.value
      let rest ← valueItems items
      some (first :: rest)

def valueMembers (read : List (String × Json)) :
    List (String × RawJson) → Option (List (String × Json))
  | [] => some read
  | (key, value) :: members => do
      let held ← value.value
      valueMembers (insertKey key held read) members

end

/-- `serde_json::from_slice`. -/
def RawDocument.value (document : RawDocument) : Option Json := do
  let value ← document.root.value
  if document.ended then some value else none

end Values

section Decoding

def Json.asString : Json → Option String
  | .string value => some value
  | _ => none

def Json.asU32 : Json → Option Nat
  | .number value => if 0 ≤ value ∧ value < 2 ^ 32 then some value.toNat else none
  | _ => none

/-- `Option::deserialize`. -/
def Json.orNull {A : Type} (decode : Json → Option A) : Json → Option (Option A)
  | .null => some none
  | value => (decode value).map some

/-- A derived decoder of a structure without unknown fields: it takes an object or, in the
order of the fields, an array. -/
def Json.fields (names : List String) : Json → Option (List (Option Json))
  | .object members =>
      if members.all fun member => names.contains member.1 then
        some (names.map fun name => members.lookup name)
      else none
  | .array items => if items.length = names.length then some (items.map some) else none
  | _ => none

/-- The field with the given index. -/
def field {A : Type} (decode : Json → Option A) (fields : List (Option Json)) (index : Nat) :
    Option A := do
  let found ← fields[index]?
  decode (← found)

/-- A field that may be left out. -/
def optionalField {A : Type} (decode : Json → Option A) (fields : List (Option Json))
    (index : Nat) : Option (Option A) := do
  match ← fields[index]? with
  | none => some none
  | some value => value.orNull decode

/-- A derived decoder of a variant without content: its name, or an object that has it
as the only key. -/
def Json.variant {A : Type} (variants : List (String × A)) : Json → Option A
  | .string name => variants.lookup name
  | .object [(name, .null)] => variants.lookup name
  | _ => none

end Decoding

end VmCell
