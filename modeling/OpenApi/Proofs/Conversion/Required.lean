import OpenApi.Proofs.Conversion.Outline
import OpenApi.Proofs.Document.Flattening
import OpenApi.Proofs.Files.Results
import OpenApi.Proofs.Types.Parts

/-!
Members that are converted without a test whether they are there. An `allOf` requires a property if
any of its parts does, while its type requires the property only where a part both declares and
requires it; so the two agree as far as what is required somewhere is declared in the same place
(`untested_demanded`), and not further (`lateStamp_untested`).
-/

namespace OpenApi

/-! ## Conversions -/

/-- A member of an object that is converted, under a test whether it is there or without. -/
structure Override where
  name : String
  converted : Code
  isTested : Bool

/-- The member of the result. -/
def Override.code (o : Override) (base : Code) : Code :=
  if o.isTested then (base.member o.name).memberIfPresent o.name o.converted
  else Code.cat [quoted o.name, ": ", o.converted]

/-- The object with all members of `all`, some of them converted. -/
def Code.overriding (base all : Code) (overrides : List Override) : Code :=
  (Code.join ", " (Code.cat ["...", all] :: overrides.map (·.code base))).braced

/-- The members that are converted: those whose conversion gives anything, tested unless they are
required. -/
def overridesOf (required : List String) (results : List (String × Option Code)) : List Override :=
  results.filterMap fun result => result.2.map fun converted =>
    ⟨result.1, converted, !required.contains result.1⟩

theorem overridesOf_cons_some (required : List String) (name : String) (converted : Code)
    (results : List (String × Option Code)) :
    overridesOf required ((name, some converted) :: results) =
      ⟨name, converted, !required.contains name⟩ :: overridesOf required results := rfl

namespace Compiler

variable {c : Compiler} {d : Direction} {convert : Convert} {k : Keywords Schema} {value : Code}

/-- What the members of an object are converted to, each under the name of its property. -/
def ConvertsMembers (convert : Convert) (base : Code) (properties : List (String × Schema))
    (results : List (String × Option Code)) : Prop :=
  List.Forall₂ (fun property result => result.1 = property.1 ∧
    ∃ s s', convert property.2 (base.member property.1) s = .ok (result.2, s')) properties results

/-- What an object is converted to: all that it has, with what its further members are converted to if
that is anything, and after that what its properties are converted to. -/
inductive ConvertsObject (convert : Convert) (k : Keywords Schema) (value : Code) :
    List Override → Code → Prop
  | mk {results : List (String × Option Code)} {further : Option Code}
    (members : ConvertsMembers convert value.parenthesized k.properties results)
    (rest : ∃ s s', convertFurther convert k value.parenthesized s = .ok (further, s')) :
    ConvertsObject convert k value (overridesOf k.required results)
      (Code.overriding value.parenthesized (further.getD value.parenthesized)
        (overridesOf k.required results))

/-- The members that are converted are properties, and those without a test are required. -/
theorem ConvertsObject.of_mem {overrides : List Override} {code : Code}
    (h : ConvertsObject convert k value overrides code) {o : Override} (ho : o ∈ overrides) :
    o.name ∈ Members.names k.properties ∧ (o.isTested = false → o.name ∈ k.required) := by
  obtain ⟨hmembers, _⟩ := h
  rename_i results further
  obtain ⟨result, hresult, ho⟩ := List.mem_filterMap.1 ho
  obtain ⟨converted, _, rfl⟩ := Option.map_eq_some_iff.1 ho
  obtain ⟨property, hmem, hname, _⟩ := exists_mem_zip (List.Forall₂.flip hmembers) hresult
  exact ⟨List.mem_map.2 ⟨property, (List.of_mem_zip hmem).2, hname.symm⟩, by simp⟩

theorem convertMembers_overrides (required : List String) (base : Code)
    (properties : List (String × Schema)) :
    Ensures (convertMembers convert required base properties) fun members =>
      ∃ results, ConvertsMembers convert base properties results ∧
        members = (overridesOf required results).map (·.code base) := by
  induction properties with
  | nil => exact .pure ⟨[], .nil, rfl⟩
  | cons property rest ih =>
    obtain ⟨name, schema⟩ := property
    refine (Ensures.result _).bind fun converted hconverted => .bind ih fun others hothers => ?_
    obtain ⟨results, hresults, rfl⟩ := hothers
    have hmembers : ConvertsMembers convert base ((name, schema) :: rest)
        ((name, converted) :: results) := .cons ⟨rfl, hconverted⟩ hresults
    cases converted with
    -- nothing to convert: the property goes along with the rest of the object
    | none => exact .pure ⟨_, hmembers, rfl⟩
    | some converted =>
      dsimp only
      split
      case isTrue hrequired =>
        refine .pure ⟨_, hmembers, ?_⟩
        rw [overridesOf_cons_some, hrequired]
        rfl
      case isFalse hoptional =>
        refine .pure ⟨_, hmembers, ?_⟩
        rw [overridesOf_cons_some, Bool.eq_false_of_not_eq_true hoptional]
        rfl

theorem convertObject_overrides : Ensures (convertObject convert k value) fun converted =>
    ∀ code ∈ converted, ∃ overrides, ConvertsObject convert k value overrides code := by
  refine .bind (convertMembers_overrides _ _ _) fun members hmembers => ?_
  refine .bind (.result _) fun further hfurther => ?_
  refine .ite (.pure (by simp)) (.pure ?_)
  obtain ⟨results, hresults, rfl⟩ := hmembers
  rintro code ⟨⟩
  exact ⟨_, .mk hresults hfurther⟩

/-- What an `allOf` is converted to: what the merged object is, with a test for null around it. -/
theorem convertTo_allOf (hall : k.allOf ≠ []) (depth : Nat) :
    Ensures (c.convertTo d depth (.inline k) value) fun converted =>
      ∀ code ∈ converted, ∃ depth merged overrides object,
        c.document.mergeAllOf depth k = .ok merged ∧
        ConvertsObject (c.convertTo d depth) merged value overrides object ∧
        code = if k.isNullable then Code.unlessNull value object else object := by
  cases depth with
  | zero => exact nofun
  | succ depth =>
    rw [convertTo, convertWith]
    -- what the keywords are converted to, before the test for null is put around it
    refine .bind (P := fun converted => ∀ object ∈ converted, ∃ merged overrides,
      c.document.mergeAllOf depth k = .ok merged ∧
      ConvertsObject (c.convertTo d depth) merged value overrides object) ?_
      fun converted hconverted => .pure ?_
    · unfold convertKeywords
      rw [if_pos (by simpa using hall)]
      refine .bind_read fun merged hmerged => convertObject_overrides.mono fun converted h => ?_
      intro object hobject
      obtain ⟨overrides, h⟩ := h object hobject
      exact ⟨merged, overrides, hmerged, h⟩
    · intro code hcode
      split at hcode
      case isTrue hnullable =>
        obtain ⟨object, hobject, rfl⟩ := Option.map_eq_some_iff.1 hcode
        obtain ⟨merged, overrides, hmerged, h⟩ := hconverted object hobject
        exact ⟨depth, merged, overrides, object, hmerged, h, (if_pos hnullable).symm⟩
      case isFalse hnullable =>
        obtain ⟨merged, overrides, hmerged, h⟩ := hconverted code hcode
        exact ⟨depth, merged, overrides, code, hmerged, h, (if_neg hnullable).symm⟩

end Compiler

/-! ## Types -/

/-- The schema object has the property and requires it; its values are not listed. -/
def Keywords.Demands (k : Keywords Schema) (name : String) : Prop :=
  name ∈ Members.names k.properties ∧ name ∈ k.required ∧ (k.allOf ≠ [] ∨ k.isLiteral = false)

namespace Compiler

variable {c : Compiler} {k : Keywords Schema} {name : String}

/-- The fields of the type of an object: a property may be missing unless it is required. -/
def IsFieldsOf (k : Keywords Schema) (fields : List Field) : Prop :=
  List.Forall₂ (fun property field => field.name = property.1 ∧
    field.optional = !k.required.contains property.1 ∧ field.raw = false) k.properties fields

/-- `type` is an intersection, and one of its members, references followed, declares that the property
is always there. -/
inductive DemandsMember (c : Compiler) (name : String) : Schema → Code → Prop
  | own {k : Keywords Schema} {others : List Code} {fields : List Field} {field : Field}
      {index : Option Code} {isOpen : Bool} (fields_eq : IsFieldsOf k fields) (mem : field ∈ fields)
      (name_eq : field.name = name) (isDemanded : field.optional = false) :
      DemandsMember c name (.inline k)
        (Code.combined " & " (others ++ [Code.recordType fields index isOpen]))
  | part {k : Keywords Schema} {x : Schema} {type : Code} {types own : List Code}
      (mem : (x, type) ∈ k.allOf.zip types) (inside : DemandsMember c name x type) :
      DemandsMember c name (.inline k) (Code.combined " & " (types ++ own))
  | nullable {k : Keywords Schema} {type : Code} (h : DemandsMember c name (.inline k) type) :
      DemandsMember c name (.inline k) (type ++ " | null").parens
  | ref {r named : String} {target : Schema} {s s' : Progress}
      (named_eq : c.typeName r s = .ok (named, s'))
      (target_eq : c.document.resolveAs r "schema" Schema.decode = .ok target)
      (declared : ∀ s type s', c.schemaType target s = .ok (type, s') →
        DemandsMember c name target type) :
      DemandsMember c name (.ref r) named

theorem fieldsOf_demanded {fields : List Field} {field : Field} (h : IsFieldsOf k fields)
    (hfield : field ∈ fields) (hdemanded : field.optional = false) :
    field.name ∈ Members.names k.properties ∧ field.name ∈ k.required := by
  unfold IsFieldsOf at h
  -- the induction takes the properties apart, while what is required stays the whole list
  generalize k.properties = properties at h ⊢
  induction h with
  | nil => cases hfield
  | cons hfirst _ ih =>
    obtain ⟨hname, hoptional, _⟩ := hfirst
    rcases List.mem_cons.1 hfield with rfl | hfield
    · rw [hname]
      exact ⟨List.mem_cons_self, by simpa [hdemanded] using hoptional⟩
    · exact (ih hfield).imp_left (List.mem_cons_of_mem _)

/-- Nothing else declares that a property is always there. -/
theorem DemandsMember.inline_cases {type : Code} (h : c.DemandsMember name (.inline k) type) :
    (name ∈ Members.names k.properties ∧ name ∈ k.required) ∨
      ∃ x ∈ k.allOf, ∃ type, c.DemandsMember name x type := by
  generalize hschema : Schema.inline k = schema at h
  induction h with
  | own fields_eq mem name_eq isDemanded =>
    cases hschema
    exact .inl (name_eq ▸ fieldsOf_demanded fields_eq mem isDemanded)
  | part mem inside _ =>
    cases hschema
    exact .inr ⟨_, (List.of_mem_zip mem).1, _, inside⟩
  | nullable _ ih => exact ih hschema
  | ref => cases hschema

/-- The types of the schema declare that the property is always there. -/
def Demanding (c : Compiler) (name : String) (schema : Schema) : Prop :=
  Ensures (c.schemaType schema) (c.DemandsMember name schema)

theorem mem_fieldsOf {fields : List Field} (h : IsFieldsOf k fields)
    (hname : name ∈ Members.names k.properties) (hrequired : name ∈ k.required) :
    ∃ field ∈ fields, field.name = name ∧ field.optional = false := by
  have hfields : List.Forall₂ (fun property field =>
      (field.name = name ∧ field.optional = false) ↔ property.1 = name) k.properties fields := by
    refine h.imp fun property field ⟨hfield, hoptional, _⟩ => ?_
    rw [hfield, and_iff_left_iff_imp]
    rintro rfl
    simpa [hoptional] using hrequired
  exact (exists_mem_iff hfields).2 (by simpa [Members.names] using hname)

theorem objectType_isRecord : Ensures (objectType (c.partTypes k)) fun type =>
    ∃ fields index isOpen, IsFieldsOf k fields ∧ type = Code.recordType fields index isOpen := by
  unfold objectType
  rw [properties_partTypes, required_partTypes, List.mapM_map]
  refine .bind (.mapM (R := fun property field => field.name = property.1 ∧
    field.optional = !k.required.contains property.1 ∧ field.raw = false) fun property _ => ?_)
    fun fields hfields => ?_
  · exact .bind_any fun type => .pure ⟨rfl, rfl, rfl⟩
  · split <;> exact .bind_any fun index => .pure ⟨fields, index, _, hfields, rfl⟩

theorem objectType_demands (hname : name ∈ Members.names k.properties) (hrequired : name ∈ k.required) :
    Ensures (objectType (c.partTypes k)) fun type =>
      ∀ others, c.DemandsMember name (.inline k) (Code.combined " & " (others ++ [type])) := by
  refine objectType_isRecord.mono fun type ⟨fields, index, isOpen, hfields, heq⟩ others => ?_
  obtain ⟨field, hfield, hfieldName, hdemanded⟩ := mem_fieldsOf hfields hname hrequired
  rw [heq]
  exact .own hfields hfield hfieldName hdemanded

/-- A schema object demands what its type does without null. -/
theorem demanding_inline
    (h : Ensures (c.keywordsType k (c.partTypes k)) (c.DemandsMember name (.inline k))) :
    c.Demanding name (.inline k) := by
  rw [Demanding, schemaType_inline]
  refine .bind h fun type htype => .pure ?_
  split
  · exact .nullable htype
  · exact htype

/-- A part of an `allOf` demands what it declares and requires itself. -/
theorem demanding_of_demands (h : k.Demands name) (hpart : k.allOf ≠ [] ∨ Merge.isPart k = true) :
    c.Demanding name (.inline k) := by
  obtain ⟨hname, hrequired, hlisted⟩ := h
  have object := objectType_demands (c := c) hname hrequired
  have hproperties : k.properties ≠ [] := by
    rintro heq
    simp [heq, Members.names] at hname
  refine demanding_inline ?_
  by_cases hall : k.allOf = []
  · obtain ⟨hobject, hunion⟩ : (k.isObjectLike = true ∨ k.isUnconstrained = true) ∧
        k.unionBranches = [] := by simpa [Merge.isPart, hall] using hpart
    have hobject : k.isObjectLike = true := hobject.resolve_right fun h => by
      simp [Keywords.isUnconstrained, hproperties] at h
    rw [keywordsType_object (Keywords.isComposite_eq_false.2 ⟨hall, hunion⟩)
      (hlisted.resolve_left (· hall)) hobject]
    exact object.mono fun type htype => htype []
  · unfold keywordsType
    rw [if_pos (by simpa using hall)]
    refine .bind_any fun types => ?_
    rw [if_neg (by simp [hproperties])]
    exact .bind (.map _ (Q := fun own => ∀ others,
      c.DemandsMember name (.inline k) (Code.combined " & " (others ++ own))) object) fun own hown =>
        .pure (hown types)

/-- A schema demands what one of the parts of its `allOf` demands. -/
theorem demanding_of_part {x : Schema} (hx : x ∈ k.allOf) (h : c.Demanding name x) :
    c.Demanding name (.inline k) := by
  refine demanding_inline ?_
  unfold keywordsType
  have hall : k.allOf ≠ [] := List.ne_nil_of_mem hx
  rw [if_pos (by simpa using hall), allOf_partTypes, List.mapM_map]
  -- of the other parts nothing is known but that they have types
  refine .bind (.mapM (R := fun y type => y = x → c.DemandsMember name y type) fun y _ => ?_)
    fun types htypes => ?_
  · by_cases hy : y = x
    · subst hy
      exact Ensures.mono h fun type htype _ => htype
    · exact (Ensures.any _).mono fun type _ h => absurd h hy
  · obtain ⟨type, hmem, htype⟩ := exists_mem_zip htypes hx
    have part (own : List Code) : Ensures (Pure.pure (Code.combined " & " (types ++ own)) : Compile Code)
        (c.DemandsMember name (.inline k)) := .pure (.part hmem (htype rfl))
    exact .ite (.bind_any fun own => part own) (.bind_any fun own => part own)

/-- A schema demands what the one at the end of its chain of references demands. -/
theorem demanding_of_deref {part : Schema} (hderef : c.document.deref .schema part = .ok (.inline k))
    (h : c.Demanding name (.inline k)) : c.Demanding name part :=
  Document.deref_induction (P := c.Demanding name)
    (fun r _ htarget hdemanding => (Ensures.result (c.typeName r)).bind fun _ ⟨_, _, hnamed⟩ =>
      .pure (.ref hnamed htarget hdemanding)) hderef h

theorem demanding_of_flattens {parts : List Schema} {objects : List (Keywords Schema)}
    (h : c.document.Flattens parts objects) {object : Keywords Schema} (hobject : object ∈ objects)
    (hdemands : object.Demands name) : ∃ part ∈ parts, c.Demanding name part := by
  induction h with
  | nil => cases hobject
  | any _ _ ih =>
    obtain ⟨part, hpart, hdemanding⟩ := ih hobject
    exact ⟨part, List.mem_cons_of_mem _ hpart, hdemanding⟩
  | object target isPart _ _ ih ih' =>
    -- an object inside this part, the part itself, or one of the parts behind it
    rcases List.mem_append.1 hobject with hinner | hobject
    · obtain ⟨part, hpart, hdemanding⟩ := ih hinner
      exact ⟨_, List.mem_cons_self, demanding_of_deref target (demanding_of_part hpart hdemanding)⟩
    · rcases List.mem_cons.1 hobject with rfl | hrest
      · exact ⟨_, List.mem_cons_self,
          demanding_of_deref target (demanding_of_demands hdemands (.inr isPart))⟩
      · obtain ⟨part, hpart, hdemanding⟩ := ih' hrest
        exact ⟨part, List.mem_cons_of_mem _ hpart, hdemanding⟩

end Compiler

/-! ## Agreement -/

/-- What is required somewhere in the schema, and declared somewhere, is so in the same place: the parts
of its `allOf`, references followed, and the schema itself. -/
def Document.RequiresDeclared (doc : Document) (k : Keywords Schema) : Prop :=
  ∀ inner, doc.Flattens k.allOf inner → ∀ name, (∃ part ∈ inner ++ [k], name ∈ part.required) →
    (∃ part ∈ inner ++ [k], name ∈ Members.names part.properties) →
      ∃ part ∈ inner ++ [k], part.Demands name

/-- The members of an `allOf` that are converted without a test are always there by its type, if what
is required somewhere in it is declared in the same place. -/
theorem untested_demanded {c : Compiler} {d : Direction} {k : Keywords Schema} (hall : k.allOf ≠ [])
    (hrequired : c.document.RequiresDeclared k) {value type converted : Code} {s s' t t' : Progress}
    (htype : c.schemaType (.inline k) s = .ok (type, s'))
    (hconverted : c.convert? d (.inline k) value t = .ok (some converted, t')) :
    ∃ depth merged overrides object, c.document.mergeAllOf depth k = .ok merged ∧
      Compiler.ConvertsObject (c.convertTo d depth) merged value overrides object ∧
      converted = (if k.isNullable then Code.unlessNull value object else object) ∧
      ∀ o ∈ overrides, o.isTested = false → c.DemandsMember o.name (.inline k) type := by
  obtain ⟨depth, merged, overrides, object, hmerged, hobject, hcode⟩ :=
    Compiler.convertTo_allOf hall _ t _ t' hconverted converted rfl
  refine ⟨depth, merged, overrides, object, hmerged, hobject, hcode, fun o ho huntested => ?_⟩
  obtain ⟨hname, hmem⟩ := hobject.of_mem ho
  obtain ⟨inner, hinner, rfl⟩ := Document.mergeAllOf_flattens hmerged
  have hmem := (Merge.mem_required_foldl_extended.1 (hmem huntested)).resolve_left List.not_mem_nil
  have hname := (Merge.mem_names_foldl_extended hname).resolve_left List.not_mem_nil
  obtain ⟨part, hpart, hdemands⟩ := hrequired inner hinner o.name hmem hname
  refine (?_ : c.Demanding o.name (.inline k)) s type s' htype
  rcases List.mem_append.1 hpart with hpart | hpart
  · obtain ⟨x, hx, hdemanding⟩ := Compiler.demanding_of_flattens hinner hpart hdemands
    exact Compiler.demanding_of_part hx hdemanding
  · rw [List.mem_singleton.1 hpart] at hdemands
    exact Compiler.demanding_of_demands hdemands (.inl hall)

/-- Stamps that may have a time. -/
def stamps : Compiler where
  document :=
    { raw := .object [("components", .object [("schemas", .object [("Stamped", .object [
        ("properties", .object [("at", .object [("type", .string "string"),
          ("format", .string "date-time")])])])])])]
      spec := default }
  formats := Registry.builtin "./runtime"

def stamped : Keywords Schema where
  properties := [("at", .inline { type := some .string, format := some "date-time" })]

theorem stamps_target : stamps.document.resolveAs "#/components/schemas/Stamped" "schema"
    Schema.decode = .ok (.inline stamped) := by with_unfolding_all rfl

/-- A stamp that has its time. -/
def timed : Keywords Schema where
  allOf := [.ref "#/components/schemas/Stamped"]
  properties := stamped.properties
  required := ["at"]

theorem timed_requiresDeclared : stamps.document.RequiresDeclared timed := by
  intro inner hinner name hrequired _
  have hderef : stamps.document.deref .schema (.ref "#/components/schemas/Stamped") =
      .ok (.inline stamped) := by with_unfolding_all rfl
  obtain rfl : inner = [stamped] := by
    cases hinner with
    | any target => rw [hderef] at target; cases target
    | object target _ inside more =>
      rw [hderef] at target
      cases target
      cases inside
      cases more
      rfl
  obtain rfl : name = "at" := by simpa [timed, stamped] using hrequired
  exact ⟨timed, by simp, by simp [timed, stamped, Members.names], by simp [timed], by simp [timed]⟩

/-- The time is serialized without a test, and the type says that it is there. -/
theorem untested_demanded_timed : ∃ type converted s s',
    stamps.schemaType (.inline timed) {} = .ok (type, s) ∧
    stamps.convert? .serialize (.inline timed) "x" {} = .ok (some converted, s') ∧
    converted.render = "\x7b ...x, \"at\": x[\"at\"].toISOString() \x7d" ∧
    ∃ depth merged overrides, stamps.document.mergeAllOf depth timed = .ok merged ∧
      Compiler.ConvertsObject (stamps.convertTo .serialize depth) merged "x" overrides converted ∧
      ∀ o ∈ overrides, o.isTested = false → stamps.DemandsMember o.name (.inline timed) type := by
  obtain ⟨⟨type, s⟩, htype, _⟩ := Except.eq_ok_of_any
    (show (stamps.schemaType (.inline timed) {}).toOption.any (fun _ => true) = true by
      decide +kernel)
  obtain ⟨⟨converted, s'⟩, hconverted, hcode⟩ := Except.eq_ok_of_any
    (show (stamps.convert? .serialize (.inline timed) "x" {}).toOption.any
      (fun result => result.1.any fun code =>
        code.render == "\x7b ...x, \"at\": x[\"at\"].toISOString() \x7d") = true by decide +kernel)
  obtain ⟨converted, rfl, hcode⟩ := (Option.any_eq_true _ _).1 hcode
  obtain ⟨depth, merged, overrides, object, hmerged, hobject, heq, hdemanded⟩ :=
    untested_demanded (by simp [timed]) timed_requiresDeclared htype hconverted
  obtain rfl : converted = object := heq.trans (if_neg (by decide))
  exact ⟨type, converted, s, s', htype, hconverted, by simpa using hcode, depth, merged, overrides,
    hmerged, hobject, hdemanded⟩

/-- A stamp that has to have its time. -/
def lateStamp : Keywords Schema where
  allOf := [.ref "#/components/schemas/Stamped"]
  required := ["at"]

/-- The time is serialized without a test, and by the type, which is that of all stamps, it may be
missing. -/
theorem lateStamp_untested : ∃ type converted s s',
    stamps.schemaType (.inline lateStamp) {} = .ok (type, s) ∧
    stamps.convert? .serialize (.inline lateStamp) "x" {} = .ok (some converted, s') ∧
    type.render = "Stamped" ∧ converted.render = "\x7b ...x, \"at\": x[\"at\"].toISOString() \x7d" ∧
    ¬stamps.DemandsMember "at" (.inline lateStamp) type := by
  have optional (type : Code) : ¬stamps.DemandsMember "at" (.inline stamped) type := fun h => by
    rcases h.inline_cases with ⟨_, h⟩ | ⟨_, h, _⟩
    · exact List.not_mem_nil h
    · exact List.not_mem_nil h
  obtain ⟨⟨declared, s₀⟩, hdeclared, _⟩ := Except.eq_ok_of_any
    (show (stamps.schemaType (.inline stamped) {}).toOption.any (fun _ => true) = true by
      decide +kernel)
  obtain ⟨⟨type, s⟩, htype, hrender⟩ := Except.eq_ok_of_any
    (show (stamps.schemaType (.inline lateStamp) {}).toOption.any
      (fun result => result.1.render == "Stamped") = true by decide +kernel)
  obtain ⟨⟨converted, s'⟩, hconverted, hcode⟩ := Except.eq_ok_of_any
    (show (stamps.convert? .serialize (.inline lateStamp) "x" {}).toOption.any
      (fun result => result.1.any fun code =>
        code.render == "\x7b ...x, \"at\": x[\"at\"].toISOString() \x7d") = true by decide +kernel)
  obtain ⟨converted, rfl, hcode⟩ := (Option.any_eq_true _ _).1 hcode
  refine ⟨type, converted, s, s', htype, hconverted, by simpa using hrender, by simpa using hcode, ?_⟩
  intro h
  rcases h.inline_cases with ⟨h, _⟩ | ⟨x, hx, type, h⟩
  · exact List.not_mem_nil h
  · rw [List.mem_singleton.1 hx] at h
    cases h with
    | ref _ htarget hinside =>
      cases stamps_target.symm.trans htarget
      exact optional declared (hinside _ _ _ hdeclared)

end OpenApi
