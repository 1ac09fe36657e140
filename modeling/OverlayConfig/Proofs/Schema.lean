import OverlayConfig.Proofs.Fields
import OverlayConfig.Crd
set_option autoImplicit false

namespace OverlayConfig

namespace SchemaDocument

def allowsType (document : Json) (types : List String) : Bool :=
  match document.get? ["type"] with
  | some (.string name) => types.contains name
  | _ => true

def numberTypes : Number → List String
  | .int _ => ["integer", "number"]
  | .double _ => ["number"]

def isAtLeast (n : Number) : (low : Number) → Bool
  | .int low =>
    match n with
    | .int n => low ≤ n
    | .double d => Double.compareInt low d ≠ .gt
  | .double low =>
    match n with
    | .int n => Double.compareInt n low ≠ .lt
    | .double d => (Double.compare? d low).any (· ≠ .lt)

def allowsSize (document : Json) (n : Number) : Bool :=
  match document.get? ["minimum"] with
  | some (.number low) => isAtLeast n low
  | _ => true

def allowsFormat (document : Json) (n : Number) : Bool :=
  match document.get? ["format"], n with
  | some (.string "uint32"), .int n => 0 ≤ n && n < 4294967296
  | some (.string "uint32"), .double _ => false
  | _, _ => true

def hasRequired (document : Json) (fields : Fields Json) : Bool :=
  match document.get? ["required"] with
  | some (.array names) => names.all fun name => (name.text?.map fields.contains).getD false
  | _ => true

def field? (document : Json) (name : String) : Option Json :=
  (document.get? ["properties", name]).or (document.get? ["additionalProperties"])

mutual
/-- Whether a value is one that a document describes. Fields that the document does not know are
allowed, and null is one of the values only where the document says so. -/
def allows : (v document : Json) → Bool
  | .null, document => document.get? ["nullable"] = some (.bool true)
  | .bool _, document => allowsType document ["boolean"]
  | .string _, document => allowsType document ["string"]
  | .number n, document =>
    allowsType document (numberTypes n) && allowsSize document n && allowsFormat document n
  | .array items, document =>
    allowsType document ["array"] &&
      match document.get? ["items"] with
      | some item => allowsItems items item
      | none => true
  | .object fields, document =>
    allowsType document ["object"] && hasRequired document fields && allowsFields fields document

def allowsItems : List Json → (item : Json) → Bool
  | [], _ => true
  | v :: rest, item => allows v item && allowsItems rest item

def allowsFields : List (String × Json) → (document : Json) → Bool
  | [], _ => true
  | (name, v) :: rest, document =>
    (match field? document name with
      | some inner => allows v inner
      | none => true) && allowsFields rest document
end

end SchemaDocument

theorem compareInt_zero (n : Int) (negative : Bool) (exponent : Int) :
    Double.compareInt n (.finite negative 0 exponent) = .lt ↔ n < 0 := by
  have hunits : Double.unitsAt negative 0 exponent (min exponent 0) = 0 := by
    cases negative <;> simp [Double.unitsAt]
  have hpos : 0 < Int.pow 2 (-(min exponent 0)).toNat := Int.pow_pos (by decide)
  have hlt : n * Int.pow 2 (-(min exponent 0)).toNat < 0 ↔ n < 0 := by
    refine ⟨fun h => ?_, fun h => Int.mul_neg_of_neg_of_pos h hpos⟩
    by_cases hn : n < 0
    · exact hn
    · exact absurd h (Int.not_lt.mpr (Int.mul_nonneg (Int.not_lt.mp hn) (Int.le_of_lt hpos)))
  rw [Double.compareInt, hunits, ← hlt]
  exact Int.compare_eq_lt

def SchemaKind.typeName : SchemaKind → String
  | .text => "string"
  | .flag => "boolean"
  | .uint32 => "integer"
  | .list _ => "array"
  | .table _ | .record .. => "object"

/-- What the document of a schema says of the kind of its values, beside their type. -/
def SchemaKind.details : SchemaKind → Fields Json
  | .text | .flag => []
  | .uint32 => [("format", .string "uint32"), ("minimum", .number (.double .zero))]
  | .list items => [("items", items.toJson)]
  | .table values => [("additionalProperties", values.toJson)]
  | .record title properties required =>
    [("properties", .object (Schema.propertiesToJson properties))] ++
      Schema.member "required" (if required.isEmpty then none
        else some (.array (required.map .string))) ++
      Schema.member "title" (title.map .string)

/-- What the document of a schema says of the kind of its values. -/
def SchemaKind.keywords (kind : SchemaKind) : Fields Json :=
  kind.details ++ [("type", .string kind.typeName)]

namespace Schema

open SchemaDocument

section Parts

theorem acceptsItems_iff {item : Schema} {items : List Json} :
    acceptsItems item items = true ↔ ∀ w ∈ items, item.accepts w = true := by
  induction items with
  | nil => simp [acceptsItems]
  | cons w rest ih => rw [acceptsItems, Bool.and_eq_true, ih, List.forall_mem_cons]

theorem acceptsValues_iff {value : Schema} {fields : Fields Json} :
    acceptsValues value fields = true ↔ ∀ p ∈ fields, value.accepts p.2 = true := by
  induction fields with
  | nil => simp [acceptsValues]
  | cons p rest ih => rw [acceptsValues, Bool.and_eq_true, ih, List.forall_mem_cons]

theorem acceptsFields_iff {properties : List (String × Schema)} {fields : Fields Json}
    (hfields : (fields.map Prod.fst).Nodup) (hproperties : (properties.map Prod.fst).Nodup) :
    acceptsFields properties fields = true ↔
      ∀ p ∈ properties, ∀ w, fields.get? p.1 = some w → p.2.accepts w = true := by
  have hall (rest : Fields Json) : acceptsFields properties rest = true ↔
      ∀ q ∈ rest, ∀ schema, Fields.get? q.1 properties = some schema →
        schema.accepts q.2 = true := by
    induction rest with
    | nil => simp [acceptsFields]
    | cons q rest ih =>
      rw [acceptsFields, Bool.and_eq_true, ih, List.forall_mem_cons]
      cases Fields.get? q.1 properties <;> simp
  rw [hall]
  constructor
  · intro h p hp w hw
    exact h _ (Fields.mem_of_get? hw) p.2 (Fields.get?_of_mem hproperties hp)
  · intro h q hq schema hschema
    exact h _ (Fields.mem_of_get? hschema) q.2 (Fields.get?_of_mem hfields hq)

theorem accepts_record {schema : Schema} {title : Option String}
    {properties : List (String × Schema)} {required : List String} {fields : Fields Json}
    (hkind : schema.kind = .record title properties required)
    (hfields : (fields.map Prod.fst).Nodup) (hproperties : (properties.map Prod.fst).Nodup) :
    schema.accepts (.object fields) = true ↔
      (∀ name ∈ required, ∃ w, fields.get? name = some w) ∧
        ∀ p ∈ properties, ∀ w, fields.get? p.1 = some w → p.2.accepts w = true := by
  rw [accepts, hkind, Bool.and_eq_true, List.all_eq_true, acceptsFields_iff hfields hproperties]
  simp only [Fields.contains_iff]

end Parts

section Keywords

variable {schema : Schema}

theorem get?_member (k key : String) (o : Option Json) :
    Fields.get? k (member key o) = if key = k then o else none := by
  cases o with
  | none => simp [member]
  | some v => rfl

theorem get?_propertiesToJson (name : String) (properties : List (String × Schema)) :
    Fields.get? name (propertiesToJson properties) =
      (Fields.get? name properties).map toJson := by
  induction properties with
  | nil => rfl
  | cons p rest ih =>
    rw [propertiesToJson, Fields.get?, Fields.get?, ih]
    split <;> rfl

/-- What every schema can say of its values, whatever their kind is. -/
def commonKeywords : List String := ["default", "description", "nullable"]

theorem get?_toJson (schema : Schema) {key : String} (hkey : key ∉ commonKeywords)
    (rest : List String) :
    schema.toJson.get? (key :: rest) = (schema.kind.keywords.get? key).bind (Json.get? rest) := by
  obtain ⟨description, nullable, default, kind⟩ := schema
  simp only [commonKeywords, List.mem_cons, List.not_mem_nil, or_false, not_or] at hkey
  obtain ⟨hdefault, hdescription, hnullable⟩ := hkey
  have hcommon (k : String) (o : Option Json) (hk : key ≠ k) :
      Fields.get? key (member k o) = none := by
    rw [get?_member, if_neg (Ne.symm hk)]
  cases kind <;>
    simp only [toJson, Json.get?, Json.fields?, Option.bind_eq_bind, Option.bind_some, Schema.kind,
      SchemaKind.keywords, SchemaKind.details, SchemaKind.typeName, Fields.get?_append,
      hcommon _ _ hdefault, hcommon _ _ hdescription, hcommon _ _ hnullable, Option.none_or,
      Option.or_none, Fields.get?]

theorem get?_nullable (schema : Schema) :
    schema.toJson.get? ["nullable"] = if schema.acceptsNull then some (.bool true) else none := by
  obtain ⟨_, nullable, _, kind⟩ := schema
  cases kind <;> cases nullable <;>
    simp [toJson, Json.get?, Json.fields?, Fields.get?, Fields.get?_append, get?_member, acceptsNull]

theorem allowsType_toJson (schema : Schema) (types : List String) :
    allowsType schema.toJson types = types.contains schema.kind.typeName := by
  have htype : schema.toJson.get? ["type"] = some (.string schema.kind.typeName) := by
    rw [get?_toJson schema (by decide)]
    cases schema.kind <;>
      simp [SchemaKind.keywords, SchemaKind.details, Fields.get?, Fields.get?_append, get?_member,
        Json.get?]
  rw [allowsType, htype]

theorem get?_items {item : Schema} (h : schema.kind = .list item) :
    schema.toJson.get? ["items"] = some item.toJson := by
  rw [get?_toJson schema (by decide), h]
  rfl

theorem get?_uint32 (h : schema.kind = .uint32) :
    schema.toJson.get? ["minimum"] = some (.number (.double .zero)) ∧
      schema.toJson.get? ["format"] = some (.string "uint32") := by
  rw [get?_toJson schema (by decide), get?_toJson schema (by decide), h]
  exact ⟨rfl, rfl⟩

theorem field?_table {values : Schema} (h : schema.kind = .table values) (name : String) :
    field? schema.toJson name = some values.toJson := by
  rw [field?, get?_toJson schema (by decide), get?_toJson schema (by decide), h]
  rfl

theorem hasRequired_table {values : Schema} (h : schema.kind = .table values)
    (fields : Fields Json) : hasRequired schema.toJson fields = true := by
  rw [hasRequired, get?_toJson schema (by decide), h]
  rfl

section Record

variable {title : Option String} {properties : List (String × Schema)} {required : List String}

theorem field?_record (h : schema.kind = .record title properties required) (name : String) :
    field? schema.toJson name = (Fields.get? name properties).map toJson := by
  have hadditional : schema.toJson.get? ["additionalProperties"] = none := by
    rw [get?_toJson schema (by decide), h]
    simp [SchemaKind.keywords, SchemaKind.details, Fields.get?, Fields.get?_append, get?_member]
  rw [field?, hadditional, Option.or_none, get?_toJson schema (by decide), h]
  change (Fields.get? name (propertiesToJson properties)).bind (Json.get? []) = _
  rw [get?_propertiesToJson]
  cases Fields.get? name properties <;> rfl

theorem hasRequired_record (h : schema.kind = .record title properties required)
    (fields : Fields Json) :
    hasRequired schema.toJson fields = required.all fun name => fields.contains name := by
  rw [hasRequired, get?_toJson schema (by decide), h]
  cases required with
  | nil => cases title <;> rfl
  | cons name rest =>
    change ((name :: rest).map Json.string).all _ = _
    simp [Json.text?, Function.comp_def]

end Record

theorem allows_number (schema : Schema) (n : Number) :
    allows (.number n) schema.toJson = accepts (.number n) schema := by
  simp only [allows, allowsType_toJson, accepts]
  cases hkind : schema.kind with
  | uint32 =>
    obtain ⟨hminimum, hformat⟩ := get?_uint32 hkind
    cases n with
    | int n =>
      have hzero : isAtLeast (.int n) (.double .zero) = decide (0 ≤ n) := by
        simp [isAtLeast, Double.zero, compareInt_zero]
      by_cases hn : 0 ≤ n <;>
        simp [acceptsLeaf, hkind, allowsSize, allowsFormat, hminimum, hformat, hzero, hn,
          SchemaKind.typeName, numberTypes]
    | double d => simp [acceptsLeaf, SchemaKind.typeName, numberTypes]
  | _ => cases n <;> simp [acceptsLeaf, hkind, SchemaKind.typeName, numberTypes]

end Keywords

mutual
theorem allows_toJson : (v : Json) → (schema : Schema) →
    allows v schema.toJson = accepts v schema
  | .null, schema => by
    simp [allows, get?_nullable, accepts, acceptsLeaf]
  | .bool _, schema => by
    obtain ⟨_, _, _, kind⟩ := schema
    cases kind <;> simp [allows, allowsType_toJson, accepts, acceptsLeaf, kind, SchemaKind.typeName]
  | .string _, schema => by
    obtain ⟨_, _, _, kind⟩ := schema
    cases kind <;> simp [allows, allowsType_toJson, accepts, acceptsLeaf, kind, SchemaKind.typeName]
  | .number n, schema => allows_number schema n
  | .array items, schema => by
    rw [allows, allowsType_toJson, accepts]
    cases hkind : schema.kind with
    | list item => simp [SchemaKind.typeName, get?_items hkind, allowsItems_toJson items item]
    | _ => simp [SchemaKind.typeName]
  | .object fields, schema => by
    rw [allows, allowsType_toJson, accepts]
    cases hkind : schema.kind with
    | table values =>
      simp [SchemaKind.typeName, hasRequired_table hkind, allowsFields_table fields hkind]
    | record title properties required =>
      simp [SchemaKind.typeName, hasRequired_record hkind, allowsFields_record fields hkind]
    | _ => simp [SchemaKind.typeName]

theorem allowsItems_toJson : (items : List Json) → (item : Schema) →
    allowsItems items item.toJson = acceptsItems item items
  | [], _ => rfl
  | v :: rest, item => by
    rw [allowsItems, acceptsItems, allows_toJson v item, allowsItems_toJson rest item]

theorem allowsFields_table : (fields : List (String × Json)) → {schema values : Schema} →
    schema.kind = .table values →
    allowsFields fields schema.toJson = acceptsValues values fields
  | [], _, _, _ => rfl
  | (name, v) :: rest, schema, values, hkind => by
    rw [allowsFields, acceptsValues, field?_table hkind, allowsFields_table rest hkind,
      ← allows_toJson v values]

theorem allowsFields_record : (fields : List (String × Json)) → {schema : Schema} →
    {title : Option String} → {properties : List (String × Schema)} → {required : List String} →
    schema.kind = .record title properties required →
    allowsFields fields schema.toJson = acceptsFields properties fields
  | [], _, _, _, _, _ => rfl
  | (name, v) :: rest, schema, _, properties, _, hkind => by
    rw [allowsFields, acceptsFields, field?_record hkind, allowsFields_record rest hkind]
    cases Fields.get? name properties with
    | none => rfl
    | some property => simp [allows_toJson v property]
end

end Schema

end OverlayConfig
