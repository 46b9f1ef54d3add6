import OpenApi.Proofs.Json.Values
import OpenApi.Proofs.Schema.Fold
import OpenApi.Proofs.Schema.Writing

/-!
How many schemas stand in a schema: no more than there are values in what is written for it
(`Schema.length_parts_le_encode`), and no more than in the value that it was read from
(`Schema.length_parts_le`).
-/

namespace OpenApi

namespace Schema

/-- The schemas that stand in a schema, itself first, and the references that discriminators in it lead
to. -/
def parts : Schema → List Schema :=
  fold (fun target => [.ref target]) (fun accepts => [.bool accepts]) fun k inner =>
    .inline k :: (inner.children.flatten ++ k.mapped.map .ref)

theorem parts_inline (k : Keywords Schema) :
    parts (.inline k) = .inline k :: (k.children.flatMap parts ++ k.mapped.map .ref) := by
  show Schema.inline k :: ((foldKeywords _ _ _ k).children.flatten ++ _) = _
  rw [children_foldKeywords, List.flatMap]
  rfl

theorem mem_parts {x y : Schema} : x ∈ y.parts ↔ Part x y := by
  induction y using Schema.induction with
  | ref target =>
    constructor
    · intro h
      rw [List.mem_singleton.1 h]
      exact .refl
    · intro h
      cases h
      exact List.mem_singleton_self _
  | bool accepts =>
    constructor
    · intro h
      rw [List.mem_singleton.1 h]
      exact .refl
    · intro h
      cases h
      exact List.mem_singleton_self _
  | inline k ih =>
    rw [parts_inline, List.mem_cons, List.mem_append, List.mem_flatMap, List.mem_map]
    constructor
    · rintro (rfl | ⟨y, hy, h⟩ | ⟨r, hr, rfl⟩)
      · exact .refl
      · exact .child hy ((ih y hy).1 h)
      · exact .mapped hr rfl
    · intro h
      cases h with
      | refl => exact .inl rfl
      | child mem h => exact .inr (.inl ⟨_, mem, (ih _ mem).2 h⟩)
      | mapped mem heq => exact .inr (.inr ⟨_, mem, heq.symm⟩)

/-- The number of schemas that stand in the schemas of a list. -/
def weight (schemas : List Schema) : Nat := (schemas.flatMap parts).length

@[simp] theorem weight_nil : weight [] = 0 := rfl

@[simp] theorem weight_cons (schema : Schema) (rest : List Schema) :
    weight (schema :: rest) = schema.parts.length + weight rest := by
  simp [weight]

@[simp] theorem weight_append (schemas more : List Schema) :
    weight (schemas ++ more) = weight schemas + weight more := by
  simp [weight]

end Schema

/-- The number of schemas that stand in the keywords, and of references that tags lead to. -/
def Keywords.weight (k : Keywords Schema) : Nat := Schema.weight k.children + k.mapped.length

theorem Keywords.weight_eq (k : Keywords Schema) : k.weight =
    Schema.weight (k.properties.map (·.2)) + Schema.weight k.furtherSchemas +
      Schema.weight k.items.toList + Schema.weight k.allOf + Schema.weight k.oneOf +
      Schema.weight k.anyOf + k.mapped.length := by
  simp only [weight, children, memberSchemas, Schema.weight_append]

namespace Schema

theorem length_parts_inline (k : Keywords Schema) : (parts (.inline k)).length = k.weight + 1 := by
  rw [parts_inline, List.length_cons, List.length_append, List.length_map]
  rfl

/-! ## What is read -/

/-- The schemas that a value can be read as, by itself or as the value of a keyword, hold no more
schemas than the value holds values. -/
structure Holds (value : Json) : Prop where
  schema : ∀ {s}, decode? value = some s → s.parts.length ≤ value.size
  list : ∀ {schemas}, list? value = some schemas → weight schemas ≤ value.size
  properties : ∀ {members}, properties? value = some members →
    weight (members.map (·.2)) ≤ value.size

theorem length_stringMap? {value : Json} {mapping : Members String}
    (h : stringMap? value = some mapping) : mapping.length ≤ value.size := by
  unfold stringMap? at h
  split at h
  case h_2 => cases h
  case h_1 members =>
    rw [Json.size]
    induction members generalizing mapping with
    | nil => cases h; exact Nat.zero_le _
    | cons m members ih =>
      rw [List.mapM_cons] at h
      obtain ⟨entry, -, h⟩ := Option.bind_eq_some_iff.1 h
      obtain ⟨rest, hrest, h⟩ := Option.bind_eq_some_iff.1 h
      cases h
      have := ih hrest
      have hpos : 0 < m.2.size := by cases m.2 <;> simp [Json.size]
      rw [Json.sizeMembers, List.length_cons]
      omega

theorem size_le_sizeMembers {members : List (String × Json)} {name : String} {value : Json}
    (h : (name, value) ∈ members) : value.size ≤ Json.sizeMembers members := by
  induction members with
  | nil => cases h
  | cons m members ih =>
    rw [Json.sizeMembers]
    rcases List.mem_cons.1 h with rfl | h
    · exact Nat.le_add_right _ _
    · exact (ih h).trans (Nat.le_add_left _ _)

theorem length_mapped {value : Json} {d : Option Discriminator} {k : Keywords Schema}
    (h : optional? discriminator? value = some d) (hk : k.discriminator = d) :
    k.mapped.length ≤ value.size := by
  unfold Keywords.mapped
  rw [hk]
  cases d with
  | none => exact Nat.zero_le _
  | some d =>
    obtain ⟨-, h⟩ := optional?_eq_some h
    rw [List.length_map]
    unfold discriminator? at h
    split at h
    case h_1 members =>
      obtain ⟨_, _, h⟩ := Option.bind_eq_some_iff.1 h
      obtain ⟨_, _, h⟩ := Option.bind_eq_some_iff.1 h
      split at h
      case h_1 mapping hget =>
        obtain ⟨mapping', hmapping, h⟩ := Option.bind_eq_some_iff.1 h
        cases h
        rw [Json.size]
        exact ((length_stringMap? hmapping).trans
          (size_le_sizeMembers (Members.mem_of_get? hget))).trans (Nat.le_succ _)
      case h_2 => cases h; exact Nat.zero_le _
    case h_2 => cases h; exact Nat.zero_le _
    case h_3 name mapping =>
      obtain ⟨mapping', hmapping, rfl⟩ := Option.map_eq_some_iff.1 h
      have := length_stringMap? hmapping
      simp only [Json.size, Json.sizeItems]
      omega
    case h_4 => cases h

theorem weight_any {value : Json} {additional : Option (Additional Schema)} {k : Keywords Schema}
    (h : boolOrNull? value = some additional) (hk : k.additionalProperties = additional) :
    weight k.furtherSchemas = 0 := by
  unfold Keywords.furtherSchemas
  rw [hk]
  unfold boolOrNull? at h
  split at h <;> cases h <;> rfl

theorem keywords?_weight {members : List (String × Json)} {k : Keywords Schema}
    (hmembers : ∀ m ∈ members, Holds m.2) (h : keywords? members = some k) :
    k.weight ≤ Json.sizeMembers members := by
  induction members generalizing k with
  | nil =>
    rw [keywords?] at h
    cases h
    exact Nat.zero_le _
  | cons m rest ih =>
    obtain ⟨name, value⟩ := m
    have hvalue : Holds value := hmembers _ List.mem_cons_self
    obtain ⟨k₀, hk, hadds⟩ := keywords?_cons h
    replace ih := ih (fun m hm => hmembers m (List.mem_cons_of_mem _ hm)) hk
    rw [Json.sizeMembers]
    cases hadds with
    | properties hread =>
      have := hvalue.properties hread
      simp only [Keywords.weight_eq, Keywords.furtherSchemas, Keywords.mapped] at ih ⊢
      omega
    | @additional additional hread =>
      have := weight_any hread (k := { k₀ with additionalProperties := additional }) rfl
      simp only [Keywords.weight_eq, Keywords.mapped] at ih ⊢
      omega
    | additionalSchema _ hread =>
      have := hvalue.schema hread
      simp only [Keywords.weight_eq, Keywords.furtherSchemas, Keywords.mapped, weight_cons,
        weight_nil] at ih ⊢
      omega
    | items hread =>
      have := hvalue.schema hread
      simp only [Keywords.weight_eq, Keywords.furtherSchemas, Keywords.mapped, Option.toList_some,
        weight_cons, weight_nil] at ih ⊢
      omega
    | allOf hread | oneOf hread | anyOf hread =>
      have := hvalue.list hread
      simp only [Keywords.weight_eq, Keywords.furtherSchemas, Keywords.mapped] at ih ⊢
      omega
    | @discriminator d hread =>
      have := length_mapped (k := { k₀ with discriminator := d }) hread rfl
      simp only [Keywords.weight_eq, Keywords.furtherSchemas] at ih ⊢
      omega
    -- the others hold no schemas
    | _ => exact ih.trans (Nat.le_add_left _ _)

theorem listed?_weight {values : List Json} {k : Keywords Schema}
    (hvalues : ∀ value ∈ values, Holds value) (h : listed? values = some k) :
    k.weight ≤ Json.sizeItems values := by
  obtain ⟨l, rfl, read⟩ := listed?_eq_some h
  have hproperties := (hvalues _ (by simp [Listed.values])).properties read.properties
  have hallOf := (hvalues _ (by simp [Listed.values])).list read.allOf
  have honeOf := (hvalues _ (by simp [Listed.values])).list read.oneOf
  have hanyOf := (hvalues _ (by simp [Listed.values])).list read.anyOf
  have hmapped := length_mapped read.discriminator rfl
  have hadditional : weight k.furtherSchemas ≤ l.additional.size := by
    rcases read.additional with hread | ⟨-, s, hs, heq⟩
    · exact (weight_any hread rfl).trans_le (Nat.zero_le _)
    · simpa [Keywords.furtherSchemas, heq] using
        (hvalues l.additional (by simp [Listed.values])).schema hs
  have hitems : weight k.items.toList ≤ l.items.size := by
    rcases read.items with heq | ⟨s, hs, heq⟩ <;> rw [heq]
    · exact Nat.zero_le _
    · simpa using (hvalues l.items (by simp [Listed.values])).schema hs
  simp only [Listed.values, Json.sizeItems, Keywords.weight_eq]
  omega

theorem decodeItems?_weight {items : List Json} {schemas : List Schema}
    (hitems : ∀ item ∈ items, Holds item) (h : decodeItems? items = some schemas) :
    weight schemas ≤ Json.sizeItems items := by
  induction items generalizing schemas with
  | nil => cases h; exact Nat.zero_le _
  | cons item items ih =>
    rw [decodeItems?, Option.bind_eq_bind, Option.bind_eq_some_iff] at h
    obtain ⟨s, hs, h⟩ := h
    rw [Option.bind_eq_bind, Option.bind_eq_some_iff] at h
    obtain ⟨schemas, hschemas, h⟩ := h
    cases h
    rw [weight_cons, Json.sizeItems]
    exact Nat.add_le_add ((hitems item List.mem_cons_self).schema hs)
      (ih (fun item hitem => hitems item (List.mem_cons_of_mem _ hitem)) hschemas)

theorem decodeMembers?_weight {members : List (String × Json)} {schemas : List (String × Schema)}
    (hmembers : ∀ m ∈ members, Holds m.2) (h : decodeMembers? members = some schemas) :
    weight (schemas.map (·.2)) ≤ Json.sizeMembers members := by
  induction members generalizing schemas with
  | nil => cases h; exact Nat.zero_le _
  | cons m members ih =>
    obtain ⟨name, value⟩ := m
    rw [decodeMembers?, Option.bind_eq_bind, Option.bind_eq_some_iff] at h
    obtain ⟨s, hs, h⟩ := h
    rw [Option.bind_eq_bind, Option.bind_eq_some_iff] at h
    obtain ⟨schemas, hschemas, h⟩ := h
    cases h
    rw [List.map_cons, weight_cons, Json.sizeMembers]
    exact Nat.add_le_add ((hmembers _ List.mem_cons_self).schema hs)
      (ih (fun m hm => hmembers m (List.mem_cons_of_mem _ hm)) hschemas)

theorem Holds.array {items : List Json} (h : ∀ item ∈ items, Holds item) : Holds (.array items) where
  schema {s} hs := by
    rw [decode?] at hs
    obtain ⟨k, hk, rfl⟩ := Option.map_eq_some_iff.1 hs
    rw [length_parts_inline, Json.size]
    exact Nat.succ_le_succ (listed?_weight h hk)
  list {schemas} hschemas := by
    rw [list?] at hschemas
    exact (decodeItems?_weight h hschemas).trans (Nat.le_succ _)
  properties hmembers := by simp [properties?] at hmembers

theorem Holds.object {members : List (String × Json)} (h : ∀ m ∈ members, Holds m.2) :
    Holds (.object members) where
  schema {s} hs := by
    rw [decode?] at hs
    split at hs
    case h_1 target _ => cases hs; exact Nat.succ_le_succ (Nat.zero_le _)
    case h_2 =>
      obtain ⟨k, hk, rfl⟩ := Option.map_eq_some_iff.1 hs
      rw [length_parts_inline, Json.size]
      exact Nat.succ_le_succ (keywords?_weight h hk)
  list hschemas := by simp [list?] at hschemas
  properties {schemas} hschemas := by
    rw [properties?] at hschemas
    exact (decodeMembers?_weight h hschemas).trans (Nat.le_succ _)

mutual

theorem holds : ∀ value : Json, Holds value
  | .null => ⟨nofun, nofun, nofun⟩
  | .bool b => ⟨fun h => by cases h; exact Nat.le_refl 1, nofun, nofun⟩
  | .number _ => ⟨nofun, nofun, nofun⟩
  | .string _ => ⟨nofun, nofun, nofun⟩
  | .array items => .array (holds_items items)
  | .object members => .object (holds_members members)

theorem holds_items : ∀ items : List Json, ∀ item ∈ items, Holds item
  | [] => nofun
  | item :: items => List.forall_mem_cons.2 ⟨holds item, holds_items items⟩

theorem holds_members : ∀ members : List (String × Json), ∀ m ∈ members, Holds m.2
  | [] => nofun
  | (_, value) :: members => List.forall_mem_cons.2 ⟨holds value, holds_members members⟩

end

/-- There are no more schemas in a schema than there are values in the one that it is read from. -/
theorem length_parts_le {value : Json} {s : Schema} (h : decode value = .ok s) :
    s.parts.length ≤ value.size := (holds value).schema (decode_eq_ok.1 h)

/-! ## What is written -/

theorem sizeMembers_append (members more : List (String × Json)) :
    Json.sizeMembers (members ++ more) = Json.sizeMembers members + Json.sizeMembers more := by
  induction members with
  | nil => simp [Json.sizeMembers]
  | cons m members ih => rw [List.cons_append, Json.sizeMembers, Json.sizeMembers, ih, Nat.add_assoc]

theorem weight_le_encodeItems {schemas : List Schema}
    (h : ∀ s ∈ schemas, s.parts.length ≤ s.encode.size) :
    weight schemas ≤ Json.sizeItems (encodeItems schemas) := by
  induction schemas with
  | nil => exact Nat.zero_le _
  | cons s schemas ih =>
    obtain ⟨hs, h⟩ := List.forall_mem_cons.1 h
    rw [weight_cons, encodeItems, Json.sizeItems]
    exact Nat.add_le_add hs (ih h)

theorem weight_le_encodeMembers {members : List (String × Schema)}
    (h : ∀ m ∈ members, m.2.parts.length ≤ m.2.encode.size) :
    weight (members.map (·.2)) ≤ Json.sizeMembers (encodeMembers members) := by
  induction members with
  | nil => exact Nat.zero_le _
  | cons m members ih =>
    obtain ⟨hs, h⟩ := List.forall_mem_cons.1 h
    rw [List.map_cons, weight_cons, encodeMembers, Json.sizeMembers]
    exact Nat.add_le_add hs (ih h)

theorem weight_le_encodeList (name : String) {schemas : List Schema}
    (h : ∀ s ∈ schemas, s.parts.length ≤ s.encode.size) :
    weight schemas ≤ Json.sizeMembers (encodeList name schemas) := by
  cases schemas with
  | nil => exact Nat.zero_le _
  | cons s schemas =>
    have := weight_le_encodeItems h
    simp only [encodeList, encodeItems, Json.sizeMembers, Json.size] at this ⊢
    omega

theorem weight_le_encodeProperties (name : String) {members : List (String × Schema)}
    (h : ∀ m ∈ members, m.2.parts.length ≤ m.2.encode.size) :
    weight (members.map (·.2)) ≤ Json.sizeMembers (encodeProperties name members) := by
  cases members with
  | nil => exact Nat.zero_le _
  | cons m members =>
    have := weight_le_encodeMembers h
    simp only [encodeProperties, encodeMembers, Json.sizeMembers, Json.size] at this ⊢
    omega

theorem weight_le_encodeAdditional (name : String) {k : Keywords Schema}
    (h : ∀ s ∈ k.furtherSchemas, s.parts.length ≤ s.encode.size) :
    weight k.furtherSchemas ≤ Json.sizeMembers (encodeAdditional name k.additionalProperties) := by
  unfold Keywords.furtherSchemas at h ⊢
  cases hk : k.additionalProperties with
  | none => exact Nat.zero_le _
  | some additional =>
    cases additional with
    | any allowed => exact Nat.zero_le _
    | schema s =>
      rw [hk] at h
      simpa [encodeAdditional, Json.sizeMembers] using h s (List.mem_singleton_self s)

theorem weight_le_encodeOptional (name : String) {schema : Option Schema}
    (h : ∀ s ∈ schema, s.parts.length ≤ s.encode.size) :
    weight schema.toList ≤ Json.sizeMembers (encodeOptional name schema) := by
  cases schema with
  | none => exact Nat.zero_le _
  | some s => simpa [encodeOptional, Json.sizeMembers] using h s rfl

theorem sizeMembers_stringMap (members : Members String) :
    Json.sizeMembers (members.map fun (name, value) => (name, .string value)) = members.length := by
  induction members with
  | nil => rfl
  | cons m members ih =>
    rw [List.map_cons, Json.sizeMembers, ih, List.length_cons, Nat.add_comm]
    rfl

theorem length_mapped_le_encode {k : Keywords Schema} : k.mapped.length ≤
    Json.sizeMembers (Encode.optional "discriminator" Discriminator.encode k.discriminator) := by
  unfold Keywords.mapped
  cases k.discriminator with
  | none => exact Nat.zero_le _
  | some d =>
    obtain ⟨name, _ | ⟨m, mapping⟩⟩ := d
    · exact Nat.zero_le _
    · have := sizeMembers_stringMap (m :: mapping)
      simp only [Encode.optional, Discriminator.encode, Encode.unlessEmpty, Encode.stringMap,
        Json.sizeMembers, Json.size, List.singleton_append, List.length_map] at this ⊢
      omega

/-- There are no more schemas in a schema than there are values in the one that is written for it. -/
theorem length_parts_le_encode (s : Schema) : s.parts.length ≤ s.encode.size := by
  induction s using Schema.induction with
  | ref target => exact Nat.succ_le_succ (Nat.zero_le _)
  | bool accepts => exact Nat.le_refl 1
  | inline k ih =>
    have hproperties := weight_le_encodeProperties "properties" fun m hm =>
      ih m.2 (Keywords.mem_children.2 (.inl (Keywords.mem_memberSchemas.2 (.inl ⟨m.1, hm⟩))))
    have hfurther := weight_le_encodeAdditional "additionalProperties" fun s hs =>
      ih s (Keywords.mem_children.2 (.inl (List.mem_append_right _ hs)))
    have hitems := weight_le_encodeOptional "items" fun s hs =>
      ih s (Keywords.mem_children.2 (.inr (.inl hs)))
    have hallOf := weight_le_encodeList "allOf" fun s hs =>
      ih s (Keywords.allOf_subset_children hs)
    have honeOf := weight_le_encodeList "oneOf" fun s hs =>
      ih s (Keywords.union_subset_children (List.mem_cons_self ..) hs)
    have hanyOf := weight_le_encodeList "anyOf" fun s hs =>
      ih s (Keywords.union_subset_children (List.mem_cons_of_mem _ (List.mem_singleton_self _)) hs)
    have hmapped := length_mapped_le_encode (k := k)
    rw [length_parts_inline, encode, Json.size, encodeKeywords_eq, Keywords.weight_eq]
    simp only [List.flatten_cons, sizeMembers_append]
    omega

end Schema

end OpenApi
