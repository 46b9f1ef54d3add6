import OpenApi.Proofs.Document.Mentions
import OpenApi.Proofs.Files.Steps
import OpenApi.Proofs.Types.Parts

/-!
Every compiler keeps what the conversions keep: it asks about no references but by converting schemas, and
it converts no schemas but those whose references the document mentions.
-/

namespace OpenApi

/-- The conversions of all schemas whose references the document mentions keep `P`. -/
def Compiler.Converting (c : Compiler) (P : Probes → Prop) : Prop :=
  ∀ d, ∀ schema ∈ c.document.mentioned, ∀ value, Keeps P (c.convert? d schema value)

namespace Compiler

variable {c : Compiler} {P : Probes → Prop}

/-! ## Types -/

theorem qualify_keeps (name : String) : Keeps P (c.qualify name) := by
  unfold qualify
  split
  · exact .pure name
  · exact .bind (.use _) fun _ => .pure _

theorem typeName_keeps (reference : String) : Keeps P (c.typeName reference) :=
  .bind_read fun name _ => qualify_keeps name

theorem functionName_keeps (d : Direction) (reference : String) :
    Keeps P (c.functionName d reference) :=
  .bind_read fun _ _ => qualify_keeps _

theorem stringType_keeps (k : Keywords Schema) : Keeps P (c.stringType k) := by
  unfold stringType
  split
  · exact .pure _
  · exact .bind_read fun _ _ => .bind (.use _) fun _ => .pure _

theorem arrayType_keeps {items : Option (Compile Code)} (h : ∀ type ∈ items, Keeps P type) :
    Keeps P (arrayType items) := by
  cases items with
  | none => exact .pure _
  | some type => exact .bind (h type rfl) fun _ => .pure _

theorem objectType_keeps {k : Keywords (Compile Code)} (h : ∀ type ∈ k.memberSchemas, Keeps P type) :
    Keeps P (objectType k) := by
  unfold objectType
  refine .bind (.mapM fun ⟨name, type⟩ hmem => .bind (h type ?_) fun _ => .pure _) fun fields => ?_
  · exact Keywords.mem_memberSchemas.2 (.inl ⟨name, hmem⟩)
  split
  case h_1 => exact .bind (.pure _) fun _ => .pure _
  case h_2 type hfurther =>
    refine .bind (.map _ (h type ?_)) fun _ => .pure _
    exact Keywords.mem_memberSchemas.2 (.inr hfurther)
  case h_3 => exact .bind (.pure _) fun _ => .pure _
  case h_4 => exact .bind (.pure _) fun _ => .pure _

theorem keywordsType_keeps (k : Keywords Schema) {parts : Keywords (Compile Code)}
    (h : ∀ type ∈ parts.children, Keeps P type) : Keeps P (c.keywordsType k parts) := by
  have object : Keeps P (objectType parts) :=
    objectType_keeps fun type ht => h type (Keywords.mem_children.2 (.inl ht))
  have array : Keeps P (arrayType parts.items) :=
    arrayType_keeps fun type ht => h type (Keywords.mem_children.2 (.inr (.inl ht)))
  have each (types : List (Compile Code)) (hsub : types ⊆ parts.children) :
      Keeps P (types.mapM id) := .mapM fun type ht => h type (hsub ht)
  refine keywordsType_cases (motive := fun step => Keeps P step) ?_ (fun branches hbranches => ?_)
    (.pure _) (fun _ => .pure _) (fun _ _ => .pure _) (stringType_keeps k) array object .throw
  · refine .bind (each _ Keywords.allOf_subset_children) fun members => ?_
    split
    · exact .bind (.pure _) fun _ => .pure _
    · exact .bind (.map _ object) fun _ => .pure _
  · exact .bind (each _ (Keywords.union_subset_children hbranches)) fun _ => .pure _

theorem schemaType_keeps (schema : Schema) : Keeps P (c.schemaType schema) :=
  Schema.fold_preserves (fun target => .bind (typeName_keeps target) fun _ => .pure _)
    (fun _ => .pure _)
    (fun k _ h => .bind (keywordsType_keeps k h) fun _ => .pure _) schema

theorem parameterType_keeps (p : Parameter) : Keeps P (c.parameterType p) := by
  refine .bind_read fun form _ => ?_
  cases form with
  | flag => exact .pure _
  | styled schema => exact schemaType_keeps schema
  | json schema =>
    cases schema with
    | none => exact .pure _
    | some schema => exact schemaType_keeps schema
  | text => exact .pure _

theorem parametersType_keeps (o : ResolvedOperation) (side : Side) :
    Keeps P (c.parametersType o side) := by
  unfold parametersType
  split
  · exact .pure _
  · exact .bind (.mapM fun p _ => .bind (parameterType_keeps p) fun _ => .pure _) fun _ => .pure _

theorem bodyType_keeps (codec : Codec) (media : MediaType) : Keeps P (c.bodyType codec media) := by
  unfold bodyType
  split
  case h_1 schema _ => exact schemaType_keeps schema
  case h_2 schema _ => exact schemaType_keeps schema
  all_goals exact .pure _

theorem bodyUnionType_keeps (content : Content) : Keeps P (c.bodyUnionType content) :=
  .bind (.mapM fun _ _ => .bind (bodyType_keeps _ _) fun _ => .pure _) fun _ => .pure _

theorem responseType_keeps (case : ResponseCase) : Keeps P (c.responseType case) := by
  refine .bind (.mapM fun _ _ => .bind (parameterType_keeps _) fun _ => .pure _) fun headers => ?_
  refine .ite (.bind (.pure _) fun body => .pure _) ?_
  exact .bind (.map _ (bodyUnionType_keeps case.content)) fun body => .pure _

/-! ## Values -/

theorem failChecks_keeps (location : Location) (name : String) (checks : List Check) :
    Keeps P (failChecks location name checks) :=
  .mapM fun _ _ => .bind (.throwMalformed _ _ _) fun _ => .pure _

theorem unpackNumber_keeps (location : Location) (name : String) (k : Keywords Schema)
    (isInteger : Bool) (raw : Code) : Keeps P (unpackNumber location name k isInteger raw) :=
  .bind (.fresh _) fun _ => .bind (.fresh _) fun _ =>
    .bind (failChecks_keeps _ _ _) fun _ => .pure _

theorem readPlain_keeps (hint method source : String) : Keeps P (readPlain hint method source) :=
  .bind (.fresh _) fun _ => .pure _

section

variable (hP : c.Converting P)

include hP

theorem convert_keeps (d : Direction) {schema : Schema} (h : schema ∈ c.document.mentioned)
    (value : Code) : Keeps P (c.convert d schema value) :=
  .bind (hP d schema h value) fun _ => .pure _

theorem packScalar_keeps {k : Keywords Schema} (h : .inline k ∈ c.document.mentioned)
    (value : Code) : Keeps P (c.packScalar k value) := by
  have string : Keeps P (c.convert .serialize (.inline k) value) := convert_keeps hP _ h value
  refine .ite (.throw_bind _ _) ?_
  split
  case h_5 => exact string
  case h_6 => exact .throw _
  case h_7 => exact .throw _
  case h_8 => exact .throw _
  case h_9 => exact .ite string (.pure _)
  all_goals exact .pure _

theorem packItems_keeps {items : Keywords Schema} (h : .inline items ∈ c.document.mentioned)
    (value : Code) : Keeps P (c.packItems items value) := by
  refine .bind (.fresh _) fun item => .bind (packScalar_keeps hP h _) fun packed => ?_
  exact .ite (.pure _) (.pure _)

theorem packMembers_keeps (required : List String) (base : Code)
    {properties : List (String × Schema)}
    (h : ∀ property ∈ properties, property.2 ∈ c.document.mentioned) :
    Keeps P (c.packMembers required base properties) := by
  induction properties with
  | nil => exact .pure _
  | cons property rest ih =>
    obtain ⟨hproperty, hrest⟩ := List.forall_mem_cons.1 h
    refine .bind_read fun k hk => ?_
    refine .bind (packScalar_keeps hP (Document.keywordsOf_mentioned hproperty hk) _) fun _ => ?_
    exact .bind (ih hrest) fun _ => .pure _

theorem packObject_keeps {k : Keywords Schema} (h : .inline k ∈ c.document.mentioned)
    (value : Code) : Keeps P (c.packObject k value) := by
  unfold packObject
  dsimp only
  split
  · have entries (schema : Keywords Schema) (hschema : .inline schema ∈ c.document.mentioned)
        (code : String → String → Code → Code) : Keeps P (do
          let key ← Compile.fresh "key"
          let entry ← Compile.fresh "entry"
          let packed ← c.packScalar schema entry
          return code key entry packed) :=
      .bind (.fresh _) fun _ => .bind (.fresh _) fun _ =>
        .bind (packScalar_keeps hP hschema _) fun _ => .pure _
    split
    case h_1 schema hfurther =>
      refine .bind_read fun k' hk' => entries k' (Document.keywordsOf_mentioned ?_ hk') _
      have hmem : schema ∈ k.memberSchemas := Keywords.mem_memberSchemas.2 (.inr hfurther)
      exact c.document.mentioned_closed.child h (Keywords.mem_children.2 (.inl hmem))
    case h_2 => exact .pure_bind (entries {} Document.inline_empty_mentioned _)
  · refine .bind (packMembers_keeps hP _ _ fun property hproperty => ?_) fun _ => .pure _
    have hmem : property.2 ∈ k.memberSchemas := Keywords.mem_memberSchemas.2 (.inl ⟨_, hproperty⟩)
    exact c.document.mentioned_closed.child h (Keywords.mem_children.2 (.inl hmem))

theorem packSimple_keeps {schema : Schema} (h : schema ∈ c.document.mentioned) (explode : Bool)
    (value : Code) : Keeps P (c.packSimple schema explode value) := by
  refine .bind_read fun shape hshape => ?_
  have hk := Document.shapeOf_mentioned h hshape
  cases shape with
  | scalar k => exact packScalar_keeps hP hk value
  | array items => exact packItems_keeps hP hk value
  | object k => exact .bind (packObject_keeps hP hk value) fun _ => .pure _

theorem packForm_keeps (name : String) {schema : Schema} (h : schema ∈ c.document.mentioned)
    (explode : Bool) (value : Code) : Keeps P (c.packForm name schema explode value) := by
  refine .bind_read fun shape hshape => ?_
  have hk := Document.shapeOf_mentioned h hshape
  cases shape with
  | scalar k => exact .bind (packScalar_keeps hP hk value) fun _ => .pure _
  | array items =>
    refine .ite ?_ (.bind (packItems_keeps hP hk value) fun _ => .pure _)
    exact .bind (.fresh _) fun item => .bind (packScalar_keeps hP hk _) fun _ => .pure _
  | object k => exact .bind (packObject_keeps hP hk value) fun _ => .pure _

theorem pack_keeps {p : Parameter} (h : ∀ schema ∈ p.schemas, schema ∈ c.document.mentioned)
    (value : Code) : Keeps P (c.pack p value) := by
  refine .bind_read fun form hform => ?_
  have hschemas : ∀ schema ∈ form.schemas, schema ∈ c.document.mentioned :=
    fun schema hschema => h schema (Parameter.form_schemas hform hschema)
  cases form with
  | flag => exact .pure _
  | text => exact .pure _
  | json schema =>
    cases schema with
    | none => exact .bind (.pure _) fun _ => .pure _
    | some schema =>
      exact .bind (convert_keeps hP _ (hschemas schema (by simp [ParameterForm.schemas])) _)
        fun _ => .pure _
  | styled schema =>
    have hschema := hschemas schema (by simp [ParameterForm.schemas])
    dsimp only
    split
    · exact .map _ (packSimple_keeps hP hschema _ _)
    · exact .map _ (packForm_keeps hP _ hschema _ _)
    · exact .throw _

theorem unpackString_keeps (location : Location) (name : String) {k : Keywords Schema}
    (h : .inline k ∈ c.document.mentioned) (raw : Code) :
    Keeps P (c.unpackString location name k raw) := by
  -- without its `null` the schema has the same references
  have hk : .inline { k with nullable := none } ∈ c.document.mentioned := by
    obtain ⟨hchildren, hmapped⟩ := Document.inline_mem_mentioned.1 h
    exact Document.inline_mem_mentioned.2 ⟨hchildren, hmapped⟩
  refine .bind (.fresh _) fun text => .bind (failChecks_keeps _ _ _) fun statements => ?_
  exact .ite (convert_keeps hP _ hk _) (.bind (convert_keeps hP _ hk _) fun _ => .pure _)

theorem unpackScalar_keeps (p : Parameter) {schema : Schema} (h : schema ∈ c.document.mentioned)
    (raw : Code) : Keeps P (c.unpackScalar p schema raw) := by
  refine .bind_read fun k hk => ?_
  have hk := Document.keywordsOf_mentioned h hk
  split
  · exact unpackNumber_keeps _ _ _ _ _
  · exact unpackNumber_keeps _ _ _ _ _
  · exact unpackString_keeps hP _ _ hk _
  · exact .throw _

theorem unpack_keeps {p : Parameter} (h : ∀ schema ∈ p.schemas, schema ∈ c.document.mentioned)
    (raw : Code) : Keeps P (c.unpack p raw) := by
  refine .bind_read fun form hform => ?_
  have hschemas : ∀ schema ∈ form.schemas, schema ∈ c.document.mentioned :=
    fun schema hschema => h schema (Parameter.form_schemas hform hschema)
  cases form with
  | flag => exact .pure _
  | text => exact .pure _
  | json schema =>
    refine .bind (.fresh _) fun json => ?_
    cases schema with
    | none => exact .pure_bind (.pure _)
    | some schema =>
      refine .bind (hP _ _ (hschemas schema (by simp [ParameterForm.schemas])) _) fun parsed => ?_
      cases parsed with
      | none => exact .pure _
      | some parsed => exact .pure _
  | styled schema =>
    dsimp only
    split
    · exact unpackScalar_keeps hP _ (hschemas schema (by simp [ParameterForm.schemas])) _
    · exact unpackScalar_keeps hP _ (hschemas schema (by simp [ParameterForm.schemas])) _
    · exact .throw _

/-! ## Bodies -/

theorem readStructured_keeps (hint parser : String) {media : MediaType}
    (h : ∀ schema ∈ media.schema, schema ∈ c.document.mentioned) (source : String) :
    Keeps P (c.readStructured hint parser media source) := by
  refine .bind (.fresh _) fun name => ?_
  split
  case h_1 schema hschema => exact .bind (convert_keeps hP _ (h schema hschema) _) fun _ => .pure _
  case h_2 => exact .pure_bind (.pure _)

theorem decodeBody_keeps (codec : Codec) {media : MediaType}
    (h : ∀ schema ∈ media.schema, schema ∈ c.document.mentioned) (source : String) :
    Keeps P (c.decodeBody codec media source) := by
  unfold decodeBody
  split
  · exact readStructured_keeps hP _ _ h _
  · exact .bind (.use _) fun _ => readStructured_keeps hP _ _ h _
  all_goals exact readPlain_keeps _ _ _

theorem encodeBody_keeps (codec : Codec) {media : MediaType}
    (h : ∀ schema ∈ media.schema, schema ∈ c.document.mentioned) (value : Code) :
    Keeps P (c.encodeBody codec media value) := by
  unfold encodeBody
  cases hschema : media.schema with
  | none =>
    cases codec with
    | form => exact .pure_bind (.bind (.use _) fun _ => .pure _)
    | _ => exact .pure_bind (.pure _)
  | some schema =>
    have converted := convert_keeps hP .serialize (h schema hschema) value
    cases codec with
    | form => exact .bind converted fun _ => .bind (.use _) fun _ => .pure _
    | _ => exact .bind converted fun _ => .pure _

end

end Compiler

end OpenApi
