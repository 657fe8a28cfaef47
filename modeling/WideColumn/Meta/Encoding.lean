import WideColumn.Json.Reader
import WideColumn.Json.Writer
import WideColumn.Meta.Property
import WideColumn.Value

/-!
# Encoding of attribute values

Between the values that a program holds and the values that travel to the cluster. A document of a
custom type travels as its JSON text; everything else travels as it is. Collections are encoded
item by item, keys component by component.
-/

namespace WideColumn

/-- How the value of a property is encoded. -/
inductive Encoding where
  | simple
  | compound
  | list
  | set
  | map
deriving Repr, DecidableEq

namespace Encoding

/-- The encoding of a kind of property. -/
def ofKind : PropertyKind → Encoding
  | .embeddedId => compound
  | .list => list
  | .set => set
  | .map => map
  | .id | .simple | .counter => simple

/-- What a value of this encoding is called in error texts. -/
def expected : Encoding → String
  | simple => "scalar"
  | compound => "key components"
  | list => "list"
  | set => "set"
  | map => "map"

end Encoding

/-- Encode a single value of the given type. -/
def CqlType.encode (type : CqlType) (v : Value) : Value :=
  match v with
  | .json document => if type.isCustom then .text document.render else v
  | _ => v

/-- Decode a single value of the given type. -/
def CqlType.decode (type : CqlType) (v : Value) : Except Error Value :=
  match v with
  | .text s =>
    if type.isCustom then
      match Json.read s with
      | some document => .ok (.json document)
      | none => .error (.serialization "invalid JSON")
    else .ok v
  | _ => .ok v

/-- Encode a value of a type that may be unknown. -/
def encodeAs (type : Option CqlType) (v : Value) : Value :=
  match type with
  | some type => type.encode v
  | none => v

/-- Decode a value of a type that may be unknown. -/
def decodeAs (type : Option CqlType) (v : Value) : Except Error Value :=
  match type with
  | some type => type.decode v
  | none => .ok v

namespace PropertyMeta

/-- The encoding of the property. -/
def encoding (pm : PropertyMeta) : Encoding := Encoding.ofKind pm.kind

/-- Encode the components of a key. Each one has to be there and not be null. -/
def encodeEach (pm : PropertyMeta) : List (String × CqlType) → List Value →
    Except Error (List Value)
  | (name, type) :: columns, v :: rest =>
    if v.isNull then
      .error (.ofViolation name .missingKeyComponent
        s!"The primary key component '{name}' of entity '{pm.entityClass}' should not be null")
    else do
      return type.encode v :: (← encodeEach pm columns rest)
  | _, _ => .ok []

/-- Encode a key given by its components, which have to be as many as the key has columns. -/
def encodeComponents (pm : PropertyMeta) (components : List Value) : Except Error (List Value) :=
  let names := pm.columnNames
  if components.length != names.length then
    let expected := ",".intercalate names
    .error (.ofViolation pm.name .missingKeyComponent
      s!"The primary key of entity '{pm.entityClass}' expects {names.length} component(s) ({expected}), got {components.length}")
  else pm.encodeEach (names.zip pm.columnTypes) components

/-- Encode the value of the property. Null stays null. -/
def encode (pm : PropertyMeta) (v : Value) : Except Error Value :=
  match pm.encoding, v with
  | _, .null => .ok .null
  | .simple, v => .ok (pm.type.encode v)
  | .list, .list items => .ok (.list (items.map (encodeAs pm.type.element?)))
  | .set, .set items | .set, .list items => .ok (.set (items.map (encodeAs pm.type.element?)))
  | .map, .map entries =>
    .ok (.map (entries.map fun (k, x) =>
      (encodeAs pm.type.key? k, encodeAs pm.type.element? x)))
  | .compound, .list components => (pm.encodeComponents components).map .list
  | encoding, v => .error (.type encoding.expected v.typeName (some pm.name))

/-- Decode the value of the property. Null stays null; a collection is decoded item by item where
one is expected, anything else as a single value. -/
def decode (pm : PropertyMeta) (v : Value) : Except Error Value :=
  match pm.encoding, v with
  | _, .null => .ok .null
  | .list, .list items => (items.mapM (decodeAs pm.type.element?)).map .list
  | .set, .set items | .set, .list items => (items.mapM (decodeAs pm.type.element?)).map .set
  | .map, .map entries =>
    (entries.mapM fun (k, x) => do
      return (← decodeAs pm.type.key? k, ← decodeAs pm.type.element? x)).map .map
  | _, v => pm.type.decode v

end PropertyMeta

end WideColumn
