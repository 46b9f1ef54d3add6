import OpenApi.Proofs.Json.Records

/-!
Reading schemas again. What a value says as a schema is read again, at every depth, from what is
written for it: the schemas inside it are so by induction over the value, and the keywords around
them are written under different names.
-/

namespace OpenApi

namespace Schema

/-- What is written for the schema is read as the schema. -/
def IsReread (s : Schema) : Prop := decode? s.encode = some s

theorem IsReread.ref (target : String) : IsReread (.ref target) := rfl

theorem IsReread.bool (accepts : Bool) : IsReread (.bool accepts) := rfl

end Schema

/-- What is written for `additionalProperties` is read as it. A boolean is read as no schema there. -/
def Additional.IsReread : Additional Schema → Prop
  | .any _ => True
  | .schema s => s.IsReread ∧ ∀ accepts, s ≠ .bool accepts

/-- What is written for every keyword is read as its value. -/
structure Keywords.IsReread (k : Keywords Schema) : Prop where
  type : ∀ t ∈ k.type, SchemaType.ofName t.name = t
  properties : ∀ m ∈ k.properties, m.2.IsReread
  additional : ∀ a ∈ k.additionalProperties, a.IsReread
  items : ∀ s ∈ k.items, s.IsReread
  allOf : ∀ s ∈ k.allOf, s.IsReread
  oneOf : ∀ s ∈ k.oneOf, s.IsReread
  anyOf : ∀ s ∈ k.anyOf, s.IsReread
  constant : ∀ value ∈ k.constant, value ≠ .null
  minLength : ∀ n ∈ k.minLength, n ≤ Text.maxWord64
  maxLength : ∀ n ∈ k.maxLength, n ≤ Text.maxWord64

namespace Schema

/-- The schemas that a value can be read as, by itself or as the value of a keyword, are reread. -/
structure Rereads (value : Json) : Prop where
  schema : ∀ {s}, decode? value = some s → s.IsReread
  list : ∀ {schemas}, list? value = some schemas → ∀ s ∈ schemas, s.IsReread
  properties : ∀ {members}, properties? value = some members → ∀ m ∈ members, m.2.IsReread

/-! ## What is read -/

theorem optional?_eq_some {α : Type} {read : Json → Option α} {value : Json} {a : α}
    (h : optional? read value = some (some a)) : value ≠ .null ∧ read value = some a := by
  cases value <;> simp_all [optional?]

theorem isReread_type {name : Option String} {type : SchemaType}
    (h : name.map SchemaType.ofName = some type) : SchemaType.ofName type.name = type := by
  obtain ⟨name, -, rfl⟩ := Option.map_eq_some_iff.1 h
  have hname : (SchemaType.ofName name).name = name := by
    unfold SchemaType.ofName
    split <;> rfl
  rw [hname]

theorem isReread_constant {value : Json} {constant : Option Json}
    (h : optional? some value = some constant) : ∀ c ∈ constant, c ≠ .null := by
  rintro c rfl
  obtain ⟨hnull, hc⟩ := optional?_eq_some h
  cases hc
  exact hnull

theorem isReread_length {value : Json} {length : Option Nat}
    (h : optional? length? value = some length) : ∀ n ∈ length, n ≤ Text.maxWord64 := by
  rintro n rfl
  obtain ⟨-, h⟩ := optional?_eq_some h
  unfold length? at h
  repeat' split at h
  all_goals cases h
  omega

theorem isReread_any {value : Json} {additional : Option (Additional Schema)}
    (h : boolOrNull? value = some additional) : ∀ a ∈ additional, a.IsReread := by
  unfold boolOrNull? at h
  split at h
  · cases h; exact nofun
  · cases h; rintro _ ⟨⟩; trivial
  · cases h

theorem isReread_additional {value : Json} {s : Schema} (hvalue : Rereads value)
    (hbool : boolOrNull? value = none) (h : decode? value = some s) :
    ∀ a ∈ some (Additional.schema s), a.IsReread := by
  rintro _ ⟨⟩
  refine ⟨hvalue.schema h, ?_⟩
  rintro accepts rfl
  cases value with
  | object members =>
    rw [decode?] at h
    split at h <;> simp at h
  | array values => simp [decode?] at h
  | bool b => cases hbool
  | _ => cases h

theorem isReread_items {value : Json} {s : Schema} (hvalue : Rereads value)
    (h : decode? value = some s) : ∀ s' ∈ some s, s'.IsReread := by
  rintro _ ⟨⟩
  exact hvalue.schema h

/-- What a member adds to the keywords that are read from the members after it, by its name. -/
inductive Adds (value : Json) (k : Keywords Schema) : String → Keywords Schema → Prop
  | type {name : Option String} (h : optional? Json.string? value = some name) :
      Adds value k "type" { k with type := name.map SchemaType.ofName }
  | format {format : Option String} (h : optional? Json.string? value = some format) :
      Adds value k "format" { k with format }
  | title {title : Option String} (h : optional? Json.string? value = some title) :
      Adds value k "title" { k with title }
  | description {description : Option String} (h : optional? Json.string? value = some description) :
      Adds value k "description" { k with description }
  | nullable {nullable : Option Bool} (h : optional? bool? value = some nullable) :
      Adds value k "nullable" { k with nullable }
  | properties {properties : List (String × Schema)} (h : properties? value = some properties) :
      Adds value k "properties" { k with properties }
  | required {required : List String} (h : strings? value = some required) :
      Adds value k "required" { k with required }
  | additional {additional : Option (Additional Schema)} (h : boolOrNull? value = some additional) :
      Adds value k "additionalProperties" { k with additionalProperties := additional }
  | additionalSchema {s : Schema} (hbool : boolOrNull? value = none) (h : decode? value = some s) :
      Adds value k "additionalProperties" { k with additionalProperties := some (.schema s) }
  | items {s : Schema} (h : decode? value = some s) : Adds value k "items" { k with items := some s }
  | allOf {allOf : List Schema} (h : list? value = some allOf) : Adds value k "allOf" { k with allOf }
  | oneOf {oneOf : List Schema} (h : list? value = some oneOf) : Adds value k "oneOf" { k with oneOf }
  | anyOf {anyOf : List Schema} (h : list? value = some anyOf) : Adds value k "anyOf" { k with anyOf }
  | discriminator {d : Option Discriminator} (h : optional? discriminator? value = some d) :
      Adds value k "discriminator" { k with discriminator := d }
  | enumeration {values : List Json} (h : values? value = some values) :
      Adds value k "enum" { k with enumeration := values }
  | constant {constant : Option Json} (h : optional? some value = some constant) :
      Adds value k "const" { k with constant }
  | minimum {bound : Option Binary64} (h : optional? number? value = some bound) :
      Adds value k "minimum" { k with minimum := bound }
  | maximum {bound : Option Binary64} (h : optional? number? value = some bound) :
      Adds value k "maximum" { k with maximum := bound }
  | exclusiveMinimum {bound : Option ExclusiveBound} (h : optional? exclusive? value = some bound) :
      Adds value k "exclusiveMinimum" { k with exclusiveMinimum := bound }
  | exclusiveMaximum {bound : Option ExclusiveBound} (h : optional? exclusive? value = some bound) :
      Adds value k "exclusiveMaximum" { k with exclusiveMaximum := bound }
  | multipleOf {step : Option Binary64} (h : optional? number? value = some step) :
      Adds value k "multipleOf" { k with multipleOf := step }
  | minLength {length : Option Nat} (h : optional? length? value = some length) :
      Adds value k "minLength" { k with minLength := length }
  | maxLength {length : Option Nat} (h : optional? length? value = some length) :
      Adds value k "maxLength" { k with maxLength := length }
  | pattern {pattern : Option String} (h : optional? Json.string? value = some pattern) :
      Adds value k "pattern" { k with pattern }
  | nothing {name : String} : Adds value k name k

theorem keywords?_cons {name : String} {value : Json} {rest : List (String × Json)}
    {k : Keywords Schema} (h : keywords? ((name, value) :: rest) = some k) :
    ∃ k₀, keywords? rest = some k₀ ∧ Adds value k₀ name k := by
  rw [keywords?, Option.bind_eq_bind, Option.bind_eq_some_iff] at h
  obtain ⟨k₀, hk, h⟩ := h
  refine ⟨k₀, hk, ?_⟩
  split at h
  -- first the keywords whose values are read in several ways, and the names that are no keywords
  case h_8 =>
    split at h
    case h_1 hadditional => cases h; exact .additional hadditional
    case h_2 hadditional =>
      obtain ⟨schema, hschema, h⟩ := Option.bind_eq_some_iff.1 h
      cases h
      exact .additionalSchema hadditional hschema
  case h_9 =>
    split at h
    · cases h; exact .nothing
    · obtain ⟨schema, hschema, h⟩ := Option.bind_eq_some_iff.1 h
      cases h
      exact .items hschema
  case h_24 => cases h; exact .nothing
  all_goals
    obtain ⟨_, hread, h⟩ := Option.bind_eq_some_iff.1 h
    cases h
    constructor
    exact hread

theorem keywords?_isReread {members : List (String × Json)} {k : Keywords Schema}
    (hmembers : ∀ m ∈ members, Rereads m.2) (h : keywords? members = some k) : k.IsReread := by
  induction members generalizing k with
  | nil =>
    rw [keywords?] at h
    cases h
    constructor <;> simp
  | cons m rest ih =>
    obtain ⟨name, value⟩ := m
    have hvalue : Rereads value := hmembers _ List.mem_cons_self
    obtain ⟨k₀, hk, hadds⟩ := keywords?_cons h
    replace ih := ih (fun m hm => hmembers m (List.mem_cons_of_mem _ hm)) hk
    cases hadds with
    | type _ => exact { ih with type := fun t => isReread_type }
    | properties hread => exact { ih with properties := hvalue.properties hread }
    | additional hread => exact { ih with additional := isReread_any hread }
    | additionalSchema hbool hread =>
      exact { ih with additional := isReread_additional hvalue hbool hread }
    | items hread => exact { ih with items := isReread_items hvalue hread }
    | allOf hread => exact { ih with allOf := hvalue.list hread }
    | oneOf hread => exact { ih with oneOf := hvalue.list hread }
    | anyOf hread => exact { ih with anyOf := hvalue.list hread }
    | constant hread => exact { ih with constant := isReread_constant hread }
    | minLength hread => exact { ih with minLength := isReread_length hread }
    | maxLength hread => exact { ih with maxLength := isReread_length hread }
    -- the others are written as they were read
    | _ => exact { ih with }

/-- A value for every keyword, `null` for those that are absent. -/
structure Listed where
  type : Json
  format : Json
  title : Json
  description : Json
  nullable : Json
  properties : Json
  required : Json
  additional : Json
  items : Json
  allOf : Json
  oneOf : Json
  anyOf : Json
  discriminator : Json
  enumeration : Json
  constant : Json
  minimum : Json
  maximum : Json
  exclusiveMinimum : Json
  exclusiveMaximum : Json
  multipleOf : Json
  minLength : Json
  maxLength : Json
  pattern : Json

namespace Listed

/-- The list that writes the values, in the order of the keywords. -/
def values (l : Listed) : List Json :=
  [l.type, l.format, l.title, l.description, l.nullable, l.properties, l.required, l.additional,
    l.items, l.allOf, l.oneOf, l.anyOf, l.discriminator, l.enumeration, l.constant, l.minimum,
    l.maximum, l.exclusiveMinimum, l.exclusiveMaximum, l.multipleOf, l.minLength, l.maxLength,
    l.pattern]

/-- The values are read as the keywords. -/
structure ReadAs (l : Listed) (k : Keywords Schema) : Prop where
  type : ∃ name, optional? Json.string? l.type = some name ∧ name.map SchemaType.ofName = k.type
  format : optional? Json.string? l.format = some k.format
  title : optional? Json.string? l.title = some k.title
  description : optional? Json.string? l.description = some k.description
  nullable : optional? bool? l.nullable = some k.nullable
  properties : properties? l.properties = some k.properties
  required : strings? l.required = some k.required
  additional : boolOrNull? l.additional = some k.additionalProperties ∨
    boolOrNull? l.additional = none ∧
      ∃ s, decode? l.additional = some s ∧ k.additionalProperties = some (.schema s)
  items : k.items = none ∨ ∃ s, decode? l.items = some s ∧ k.items = some s
  allOf : list? l.allOf = some k.allOf
  oneOf : list? l.oneOf = some k.oneOf
  anyOf : list? l.anyOf = some k.anyOf
  discriminator : optional? discriminator? l.discriminator = some k.discriminator
  enumeration : values? l.enumeration = some k.enumeration
  constant : optional? some l.constant = some k.constant
  minimum : optional? number? l.minimum = some k.minimum
  maximum : optional? number? l.maximum = some k.maximum
  exclusiveMinimum : optional? exclusive? l.exclusiveMinimum = some k.exclusiveMinimum
  exclusiveMaximum : optional? exclusive? l.exclusiveMaximum = some k.exclusiveMaximum
  multipleOf : optional? number? l.multipleOf = some k.multipleOf
  minLength : optional? length? l.minLength = some k.minLength
  maxLength : optional? length? l.maxLength = some k.maxLength
  pattern : optional? Json.string? l.pattern = some k.pattern

end Listed

/-- A list that is read as keywords has a value for each of them. -/
theorem listed?_eq_some {values : List Json} {k : Keywords Schema} (h : listed? values = some k) :
    ∃ l : Listed, values = l.values ∧ l.ReadAs k := by
  unfold listed? at h
  split at h
  case h_2 => cases h
  case h_1 type format title description nullable properties required additional items allOf oneOf
      anyOf discriminator enumeration constant minimum maximum exclusiveMinimum exclusiveMaximum
      multipleOf minLength maxLength pattern =>
    let l : Listed := ⟨type, format, title, description, nullable, properties, required, additional,
      items, allOf, oneOf, anyOf, discriminator, enumeration, constant, minimum, maximum,
      exclusiveMinimum, exclusiveMaximum, multipleOf, minLength, maxLength, pattern⟩
    refine ⟨l, rfl, ?_⟩
    rw [Option.bind_eq_bind, Option.bind_eq_some_iff] at h
    obtain ⟨_, hproperties, h⟩ := h
    -- what is read after `additionalProperties`, whichever way that went, and then after `items`
    extract_lets afterAdditional at h
    have hafter : ∀ additional? : Option (Additional Schema),
        (boolOrNull? additional = some additional? ∨ boolOrNull? additional = none ∧
          ∃ s, decode? additional = some s ∧ additional? = some (.schema s)) →
        afterAdditional additional? = some k → l.ReadAs k := by
      clear h
      intro additional? hadditional h
      dsimp -zeta only [afterAdditional] at h
      extract_lets afterItems at h
      have hafter : ∀ items? : Option Schema,
          (items? = none ∨ ∃ s, decode? items = some s ∧ items? = some s) →
          afterItems items? = some k → l.ReadAs k := by
        clear h
        intro items? hitems h
        dsimp only [afterItems, Option.bind_eq_bind] at h
        simp only [↓Option.bind_eq_some_iff] at h
        obtain ⟨_, hallOf, _, honeOf, _, hanyOf, name, htype, _, hformat, _, htitle, _, hdescription,
          _, hnullable, _, hrequired, _, hdiscriminator, _, henumeration, _, hconstant, _, hminimum,
          _, hmaximum, _, hexclusiveMinimum, _, hexclusiveMaximum, _, hmultipleOf, _, hminLength, _,
          hmaxLength, _, hpattern, h⟩ := h
        cases h
        exact ⟨⟨name, htype, rfl⟩, hformat, htitle, hdescription, hnullable, hproperties, hrequired,
          hadditional, hitems, hallOf, honeOf, hanyOf, hdiscriminator, henumeration, hconstant,
          hminimum, hmaximum, hexclusiveMinimum, hexclusiveMaximum, hmultipleOf, hminLength,
          hmaxLength, hpattern⟩
      split at h
      · exact hafter none (.inl rfl) h
      · rw [Option.bind_eq_bind, Option.bind_eq_some_iff] at h
        obtain ⟨schema, hschema, h⟩ := h
        exact hafter _ (.inr ⟨schema, hschema, rfl⟩) h
    split at h
    case h_1 hread => exact hafter _ (.inl hread) h
    case h_2 hread =>
      rw [Option.bind_eq_bind, Option.bind_eq_some_iff] at h
      obtain ⟨schema, hschema, h⟩ := h
      exact hafter _ (.inr ⟨hread, schema, hschema, rfl⟩) h

theorem listed?_isReread {values : List Json} {k : Keywords Schema}
    (hvalues : ∀ value ∈ values, Rereads value) (h : listed? values = some k) : k.IsReread := by
  obtain ⟨l, rfl, read⟩ := listed?_eq_some h
  have hadditional : ∀ a ∈ k.additionalProperties, a.IsReread := by
    rcases read.additional with hread | ⟨hread, s, hs, heq⟩
    · exact isReread_any hread
    · rw [heq]
      exact isReread_additional (hvalues _ (by simp [Listed.values])) hread hs
  have hitems : ∀ s ∈ k.items, s.IsReread := by
    rcases read.items with heq | ⟨s, hs, heq⟩ <;> rw [heq]
    · exact nofun
    · exact isReread_items (hvalues _ (by simp [Listed.values])) hs
  obtain ⟨name, -, htype⟩ := read.type
  exact {
    type := fun t ht => isReread_type (htype.trans ht)
    properties := (hvalues _ (by simp [Listed.values])).properties read.properties
    additional := hadditional
    items := hitems
    allOf := (hvalues _ (by simp [Listed.values])).list read.allOf
    oneOf := (hvalues _ (by simp [Listed.values])).list read.oneOf
    anyOf := (hvalues _ (by simp [Listed.values])).list read.anyOf
    constant := isReread_constant read.constant
    minLength := isReread_length read.minLength
    maxLength := isReread_length read.maxLength }

/-! ## What is written -/

theorem strings?_strings (items : List String) : strings? (Encode.strings items) = some items := by
  rw [Encode.strings, strings?]
  induction items with
  | nil => rfl
  | cons item items ih =>
    rw [List.map_cons, List.mapM_cons, ih]
    rfl

theorem stringMap?_stringMap (members : Members String) :
    stringMap? (Encode.stringMap members) = some members := by
  rw [Encode.stringMap, stringMap?]
  induction members with
  | nil => rfl
  | cons m members ih =>
    rw [List.map_cons, List.mapM_cons, ih]
    rfl

theorem discriminator?_encode (d : Discriminator) : discriminator? d.encode = some d := by
  obtain ⟨name, _ | ⟨m, mapping⟩⟩ := d
  · rfl
  · have hmapping := stringMap?_stringMap (m :: mapping)
    simp [Discriminator.encode, Encode.unlessEmpty, discriminator?, Members.get?, List.lookup_cons,
      Json.string?, hmapping]

theorem optional?_some {α : Type} {read : Json → Option α} {value : Json} {a : α}
    (hnull : value ≠ .null) (h : read value = some a) : optional? read value = some (some a) := by
  cases value <;> first | exact congrArg (Option.map some) h | exact absurd rfl hnull

theorem optional?_discriminator (d : Discriminator) :
    optional? discriminator? d.encode = some (some d) :=
  optional?_some nofun (discriminator?_encode d)

theorem optional?_exclusive (bound : ExclusiveBound) :
    optional? exclusive? bound.encode = some (some bound) := by
  cases bound <;> rfl

theorem optional?_natural {n : Nat} (h : n ≤ Text.maxWord64) :
    optional? length? (Encode.natural n) = some (some n) := by
  refine optional?_some nofun ?_
  rw [Encode.natural, length?, if_pos ⟨by omega, by omega⟩]
  rfl

section

variable {rest : List (String × Json)}

/-- A keyword that may be absent is read from what is written for it, if its value is. -/
theorem keywords?_optional {α : Type} {name : String} {write : α → Json} {value : Option α}
    {k : Option α → Keywords Schema}
    (hread : ∀ a ∈ value, ∀ rest, keywords? rest = some (k none) →
      keywords? ((name, write a) :: rest) = some (k (some a)))
    (hrest : keywords? rest = some (k none)) :
    keywords? (Encode.optional name write value ++ rest) = some (k value) := by
  cases value with
  | none => exact hrest
  | some a => exact hread a rfl rest hrest

/-- A keyword with a list of values, left out if there are none. -/
theorem keywords?_unlessEmpty {α : Type} {name : String} {write : List α → Json} {values : List α}
    {k : List α → Keywords Schema}
    (hread : ∀ rest, keywords? rest = some (k []) →
      keywords? ((name, write values) :: rest) = some (k values))
    (hrest : keywords? rest = some (k [])) :
    keywords? (Encode.unlessEmpty name write values ++ rest) = some (k values) := by
  cases values with
  | nil => exact hrest
  | cons value values => exact hread rest hrest

theorem decodeItems?_encodeItems : ∀ {schemas : List Schema}, (∀ s ∈ schemas, s.IsReread) →
    decodeItems? (encodeItems schemas) = some schemas
  | [], _ => rfl
  | s :: schemas, h => by
    have hs : decode? s.encode = some s := h s List.mem_cons_self
    have ih := decodeItems?_encodeItems fun s hs => h s (List.mem_cons_of_mem _ hs)
    rw [encodeItems, decodeItems?, hs, ih]
    rfl

theorem decodeMembers?_encodeMembers : ∀ {members : List (String × Schema)},
    (∀ m ∈ members, m.2.IsReread) → decodeMembers? (encodeMembers members) = some members
  | [], _ => rfl
  | (name, s) :: members, h => by
    have hs : decode? s.encode = some s := h (name, s) List.mem_cons_self
    have ih := decodeMembers?_encodeMembers fun m hm => h m (List.mem_cons_of_mem _ hm)
    rw [encodeMembers, decodeMembers?, hs, ih]
    rfl

/-- A keyword with a list of schemas. -/
theorem keywords?_encodeList {name : String} {schemas : List Schema}
    {k : List Schema → Keywords Schema} (h : ∀ s ∈ schemas, s.IsReread)
    (hread : ∀ value, list? value = some schemas → ∀ rest, keywords? rest = some (k []) →
      keywords? ((name, value) :: rest) = some (k schemas))
    (hrest : keywords? rest = some (k [])) :
    keywords? (encodeList name schemas ++ rest) = some (k schemas) := by
  cases schemas with
  | nil => exact hrest
  | cons s schemas =>
    have hlist : list? (.array (encodeItems (s :: schemas))) = some (s :: schemas) := by
      rw [list?, decodeItems?_encodeItems h]
    exact hread _ hlist rest hrest

/-- A keyword with a schema; null is not taken for one. -/
theorem keywords?_encodeOptional {name : String} {schema : Option Schema}
    {k : Option Schema → Keywords Schema} (h : ∀ s ∈ schema, s.IsReread)
    (hread : ∀ value s, isNull value = false → decode? value = some s → ∀ rest,
      keywords? rest = some (k none) → keywords? ((name, value) :: rest) = some (k (some s)))
    (hrest : keywords? rest = some (k none)) :
    keywords? (encodeOptional name schema ++ rest) = some (k schema) := by
  cases schema with
  | none => exact hrest
  | some s => exact hread _ s (by cases s <;> rfl) (h s rfl) rest hrest

/-- The keyword for further members, in each of its forms. -/
theorem keywords?_encodeAdditional {name : String} {additional : Option (Additional Schema)}
    {k : Option (Additional Schema) → Keywords Schema} (h : ∀ a ∈ additional, a.IsReread)
    (hread : ∀ value a, boolOrNull? value = some (some a) ∨
      boolOrNull? value = none ∧ (decode? value).map .schema = some a → ∀ rest,
      keywords? rest = some (k none) → keywords? ((name, value) :: rest) = some (k (some a)))
    (hrest : keywords? rest = some (k none)) :
    keywords? (encodeAdditional name additional ++ rest) = some (k additional) := by
  match additional with
  | none => exact hrest
  | some (.any allowed) => exact hread _ _ (.inl rfl) rest hrest
  | some (.schema s) =>
    obtain ⟨hs, hbool⟩ : (Additional.schema s).IsReread := h _ rfl
    refine hread _ _ (.inr ⟨?_, by rw [hs]; rfl⟩) rest hrest
    cases s with
    | bool b => exact absurd rfl (hbool b)
    | ref target => rfl
    | inline k => rfl

/-- The keyword with schemas under names. -/
theorem keywords?_encodeProperties {name : String} {members : List (String × Schema)}
    {k : List (String × Schema) → Keywords Schema} (h : ∀ m ∈ members, m.2.IsReread)
    (hread : ∀ value, properties? value = some members → ∀ rest, keywords? rest = some (k []) →
      keywords? ((name, value) :: rest) = some (k members))
    (hrest : keywords? rest = some (k [])) :
    keywords? (encodeProperties name members ++ rest) = some (k members) := by
  cases members with
  | nil => exact hrest
  | cons m members =>
    have hproperties : properties? (.object (encodeMembers (m :: members))) = some (m :: members) := by
      rw [properties?, decodeMembers?_encodeMembers h]
    exact hread _ hproperties rest hrest

end

open Encode in
/-- The keywords in their order, each with the member that is written for it. -/
theorem encodeKeywords_eq (k : Keywords Schema) : encodeKeywords k = List.flatten [
    optional "type" (fun t => .string t.name) k.type,
    optional "format" .string k.format,
    optional "title" .string k.title,
    optional "description" .string k.description,
    optional "nullable" .bool k.nullable,
    encodeProperties "properties" k.properties,
    unlessEmpty "required" strings k.required,
    encodeAdditional "additionalProperties" k.additionalProperties,
    encodeOptional "items" k.items,
    encodeList "allOf" k.allOf,
    encodeList "oneOf" k.oneOf,
    encodeList "anyOf" k.anyOf,
    optional "discriminator" Discriminator.encode k.discriminator,
    unlessEmpty "enum" .array k.enumeration,
    optional "const" id k.constant,
    optional "minimum" binary k.minimum,
    optional "maximum" binary k.maximum,
    optional "exclusiveMinimum" ExclusiveBound.encode k.exclusiveMinimum,
    optional "exclusiveMaximum" ExclusiveBound.encode k.exclusiveMaximum,
    optional "multipleOf" binary k.multipleOf,
    optional "minLength" natural k.minLength,
    optional "maxLength" natural k.maxLength,
    optional "pattern" .string k.pattern] := by
  simp only [List.flatten_cons, List.flatten_nil, List.append_nil, ← List.append_assoc]
  cases k
  rfl

theorem keywords?_encodeKeywords {k : Keywords Schema} (hk : k.IsReread) :
    keywords? (encodeKeywords k) = some k := by
  rw [encodeKeywords_eq]
  obtain ⟨htype, hproperties, hadditional, hitems, hallOf, honeOf, hanyOf, hconstant, hmin, hmax⟩ :=
    hk
  obtain ⟨type, format, title, description, nullable, properties, required, additional, items, allOf,
    oneOf, anyOf, discriminator, enumeration, constant, minimum, maximum, exclusiveMinimum,
    exclusiveMaximum, multipleOf, minLength, maxLength, pattern⟩ := k
  simp only [List.flatten_cons] at *
  -- The members are read from the last to the first: what has been read behind one of them are the
  -- keywords without it and without all those before it.
  apply keywords?_optional ?type
  apply keywords?_optional ?format
  apply keywords?_optional ?title
  apply keywords?_optional ?description
  apply keywords?_optional ?nullable
  apply keywords?_encodeProperties hproperties ?properties
  apply keywords?_unlessEmpty ?required
  apply keywords?_encodeAdditional hadditional ?additional
  apply keywords?_encodeOptional hitems ?items
  apply keywords?_encodeList hallOf ?allOf
  apply keywords?_encodeList honeOf ?oneOf
  apply keywords?_encodeList hanyOf ?anyOf
  apply keywords?_optional ?discriminator
  apply keywords?_unlessEmpty ?enum
  apply keywords?_optional ?const
  apply keywords?_optional ?minimum
  apply keywords?_optional ?maximum
  apply keywords?_optional ?exclusiveMinimum
  apply keywords?_optional ?exclusiveMaximum
  apply keywords?_optional ?multipleOf
  apply keywords?_optional ?minLength
  apply keywords?_optional ?maxLength
  apply keywords?_optional ?pattern
  · rfl
  case type =>
    intro t ht rest hrest
    simp [keywords?, optional?, Json.string?, hrest, htype t ht]
  case format | title | description | pattern =>
    intro text _ rest hrest
    simp [keywords?, optional?, Json.string?, hrest]
  case nullable =>
    intro b _ rest hrest
    simp [keywords?, optional?, bool?, hrest]
  case properties =>
    intro value hvalue rest hrest
    simp [keywords?, hvalue, hrest]
  case required =>
    intro rest hrest
    simp [keywords?, strings?_strings, hrest]
  case additional =>
    intro value a hvalue rest hrest
    rcases hvalue with hvalue | ⟨hvalue, hschema⟩
    · simp [keywords?, hvalue, hrest]
    · obtain ⟨s, hs, rfl⟩ := Option.map_eq_some_iff.1 hschema
      simp [keywords?, hvalue, hs, hrest]
  case items =>
    intro value s hnull hvalue rest hrest
    simp [keywords?, hnull, hvalue, hrest]
  case allOf | oneOf | anyOf =>
    intro value hvalue rest hrest
    simp [keywords?, hvalue, hrest]
  case discriminator =>
    intro d _ rest hrest
    simp [keywords?, optional?_discriminator, hrest]
  case enum =>
    intro rest hrest
    simp [keywords?, values?, hrest]
  case const =>
    intro value hvalue rest hrest
    simp [keywords?, optional?_some (hconstant value hvalue), hrest]
  case minimum | maximum | multipleOf =>
    intro n _ rest hrest
    simp [keywords?, optional?, Encode.binary, number?, JsonNumber.toBinary64, hrest]
  case exclusiveMinimum | exclusiveMaximum =>
    intro bound _ rest hrest
    simp [keywords?, optional?_exclusive, hrest]
  case minLength =>
    intro n hn rest hrest
    simp [keywords?, optional?_natural (hmin n hn), hrest]
  case maxLength =>
    intro n hn rest hrest
    simp [keywords?, optional?_natural (hmax n hn), hrest]

/-! ## Schemas -/

section

variable {name other : String}

@[simp] theorem mem_names_optional {α : Type} {write : α → Json} {value : Option α} :
    other ∈ Members.names (Encode.optional name write value) ↔ other = name ∧ value ≠ none := by
  cases value <;> simp [Encode.optional, Members.names]

@[simp] theorem mem_names_unlessEmpty {α : Type} {write : List α → Json} {values : List α} :
    other ∈ Members.names (Encode.unlessEmpty name write values) ↔ other = name ∧ values ≠ [] := by
  cases values <;> simp [Encode.unlessEmpty, Members.names]

@[simp] theorem mem_names_encodeProperties {members : List (String × Schema)} :
    other ∈ Members.names (encodeProperties name members) ↔ other = name ∧ members ≠ [] := by
  cases members <;> simp [encodeProperties, Members.names]

@[simp] theorem mem_names_encodeAdditional {additional : Option (Additional Schema)} :
    other ∈ Members.names (encodeAdditional name additional) ↔
      other = name ∧ additional ≠ none := by
  rcases additional with _ | _ | _ <;> simp [encodeAdditional, Members.names]

@[simp] theorem mem_names_encodeOptional {schema : Option Schema} :
    other ∈ Members.names (encodeOptional name schema) ↔ other = name ∧ schema ≠ none := by
  cases schema <;> simp [encodeOptional, Members.names]

@[simp] theorem mem_names_encodeList {schemas : List Schema} :
    other ∈ Members.names (encodeList name schemas) ↔ other = name ∧ schemas ≠ [] := by
  cases schemas <;> simp [encodeList, Members.names]

theorem mem_names_flatten {segments : List (Members Json)} :
    other ∈ Members.names segments.flatten ↔ ∃ segment ∈ segments, other ∈ segment.names := by
  simp [Members.names]

end

/-- Nothing that is written for a keyword looks like a reference. -/
theorem target?_encodeKeywords (k : Keywords Schema) : target? (encodeKeywords k) = none := by
  have hnames : "$ref" ∉ Members.names (encodeKeywords k) := by
    rw [encodeKeywords_eq, mem_names_flatten]
    simp
  rw [target?, Members.get?_eq_none hnames, Option.bind_none]

theorem IsReread.inline {k : Keywords Schema} (h : k.IsReread) : IsReread (.inline k) := by
  rw [IsReread, encode, decode?, target?_encodeKeywords]
  change (keywords? (encodeKeywords k)).map Schema.inline = some (.inline k)
  rw [keywords?_encodeKeywords h]
  rfl

theorem decodeItems?_isReread {items : List Json} {schemas : List Schema}
    (hitems : ∀ item ∈ items, Rereads item) (h : decodeItems? items = some schemas) :
    ∀ s ∈ schemas, s.IsReread := by
  induction items generalizing schemas with
  | nil => cases h; exact nofun
  | cons item items ih =>
    rw [decodeItems?, Option.bind_eq_bind, Option.bind_eq_some_iff] at h
    obtain ⟨s, hs, h⟩ := h
    rw [Option.bind_eq_bind, Option.bind_eq_some_iff] at h
    obtain ⟨schemas, hschemas, h⟩ := h
    cases h
    exact List.forall_mem_cons.2 ⟨(hitems item List.mem_cons_self).schema hs,
      ih (fun item hitem => hitems item (List.mem_cons_of_mem _ hitem)) hschemas⟩

theorem decodeMembers?_isReread {members : List (String × Json)} {schemas : List (String × Schema)}
    (hmembers : ∀ m ∈ members, Rereads m.2) (h : decodeMembers? members = some schemas) :
    ∀ m ∈ schemas, m.2.IsReread := by
  induction members generalizing schemas with
  | nil => cases h; exact nofun
  | cons m members ih =>
    obtain ⟨name, value⟩ := m
    rw [decodeMembers?, Option.bind_eq_bind, Option.bind_eq_some_iff] at h
    obtain ⟨s, hs, h⟩ := h
    rw [Option.bind_eq_bind, Option.bind_eq_some_iff] at h
    obtain ⟨schemas, hschemas, h⟩ := h
    cases h
    exact List.forall_mem_cons.2 ⟨(hmembers _ List.mem_cons_self).schema hs,
      ih (fun m hm => hmembers m (List.mem_cons_of_mem _ hm)) hschemas⟩

theorem Rereads.array {items : List Json} (h : ∀ item ∈ items, Rereads item) :
    Rereads (.array items) where
  schema {s} hs := by
    rw [decode?] at hs
    obtain ⟨k, hk, rfl⟩ := Option.map_eq_some_iff.1 hs
    exact .inline (listed?_isReread h hk)
  list {schemas} hschemas := by
    rw [list?] at hschemas
    exact decodeItems?_isReread h hschemas
  properties hmembers := by simp [properties?] at hmembers

theorem Rereads.object {members : List (String × Json)} (h : ∀ m ∈ members, Rereads m.2) :
    Rereads (.object members) where
  schema {s} hs := by
    rw [decode?] at hs
    split at hs
    case h_1 target _ => cases hs; exact .ref target
    case h_2 =>
      obtain ⟨k, hk, rfl⟩ := Option.map_eq_some_iff.1 hs
      exact .inline (keywords?_isReread h hk)
  list hschemas := by simp [list?] at hschemas
  properties {schemas} hschemas := by
    rw [properties?] at hschemas
    exact decodeMembers?_isReread h hschemas

mutual

theorem rereads : ∀ value : Json, Rereads value
  | .null => ⟨nofun, nofun, nofun⟩
  | .bool b => ⟨fun h => by cases h; exact .bool b, nofun, nofun⟩
  | .number _ => ⟨nofun, nofun, nofun⟩
  | .string _ => ⟨nofun, nofun, nofun⟩
  | .array items => .array (rereads_items items)
  | .object members => .object (rereads_members members)

theorem rereads_items : ∀ items : List Json, ∀ item ∈ items, Rereads item
  | [] => nofun
  | item :: items => List.forall_mem_cons.2 ⟨rereads item, rereads_items items⟩

theorem rereads_members : ∀ members : List (String × Json), ∀ m ∈ members, Rereads m.2
  | [] => nofun
  | (_, value) :: members => List.forall_mem_cons.2 ⟨rereads value, rereads_members members⟩

end

theorem decode_eq_ok {value : Json} {s : Schema} : decode value = .ok s ↔ decode? value = some s := by
  unfold decode
  split <;> simp_all

/-- What is read as a schema is read again from what is written for it. -/
theorem faithful : Faithful decode encode where
  again {value s} h := decode_eq_ok.2 ((rereads value).schema (decode_eq_ok.1 h))
  notNull {_ s} _ _ := by cases s <;> nofun

end Schema

end OpenApi
