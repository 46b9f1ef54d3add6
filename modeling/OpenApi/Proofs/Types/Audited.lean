import OpenApi.Compiler.HandlerType
import OpenApi.Proofs.Files.Audits
import OpenApi.Proofs.Types.Formats

/-!
Type expressions are sound: whatever the schemas of a document are, and wherever the types of formats
come to stand in them.
-/

namespace OpenApi

variable {r : Audit}

namespace Compiler

variable {c : Compiler} (hr : r.Suits c)

section

include hr

theorem typeName_writes (reference : String) :
    Writes r (c.typeName reference) fun text => r.Sound (Code.site text) :=
  .bind_read fun _ hname => qualify_writes hr (Text.all_ordinary (Document.refName_wordPart hname))

/-- The name of the function for a reference behind which there is something to convert. -/
theorem functionName_writes (d : Direction) (reference : String) :
    Writes r (c.functionName d reference) fun text =>
      r.mayConvert reference d → r.Callee (Code.site text) := by
  refine .bind_read fun name hname => ?_
  have hpart := Direction.function_identifierPart d
    (Document.refName_identifierPart (Except.mapError_eq_ok.1 hname))
  refine (qualify_reads hr (Text.all_ordinary_of_identifierPart hpart)).mono fun _ h hconvert => ?_
  rw [Lex.endWord_of_all hpart] at h
  exact ⟨_, h, ⟨rfl, .inl rfl⟩, hr.functions hconvert (Except.mapError_eq_ok.1 hname)⟩

theorem stringType_writes (k : Keywords Schema) : Writes r (c.stringType k) r.Sound := by
  unfold stringType
  split
  · exact .pure (Reader.sound_given (by decide))
  · refine .bind_read fun format hformat => .bind (.withImports format) fun _ => .pure fun htreats => ?_
    exact (htreats (hr.formats (Registry.require_eq_ok hformat))).type

end

theorem arrayType_writes {items : Option (Compile Code)} (h : ∀ type ∈ items, Writes r type r.Sound) :
    Writes r (arrayType items) r.Sound := by
  cases items with
  | none => exact .pure (Reader.sound_given (by decide))
  | some type =>
    refine .bind (h type rfl) fun type => .pure fun htype => ?_
    exact (Reader.Fits.text (.sound htype (.text .nil))).cat (by decide)

theorem objectType_writes {k : Keywords (Compile Code)}
    (h : ∀ type ∈ k.memberSchemas, Writes r type r.Sound) : Writes r (objectType k) r.Sound := by
  unfold objectType
  refine .bind (P := fun fields => ∀ f ∈ fields, r.FieldSound f)
    (.mapM fun ⟨name, type⟩ hmem => .bind (h type ?_) fun type => ?_) fun fields => ?_
  · exact Keywords.mem_memberSchemas.2 (.inl ⟨name, hmem⟩)
  · exact .pure fun htype => Reader.fieldSound_quoted htype
  have record {index : Option Code} (isOpen : Bool) (hindex : ∀ type ∈ index, r.Sound type) :
      (∀ f ∈ fields, r.FieldSound f) → r.Sound (Code.recordType fields index isOpen) :=
    fun hfields => Reader.sound_recordType isOpen hfields hindex
  split
  case h_1 => exact .bind_pure (.pure (record _ (by simpa using Reader.sound_given (by decide))))
  case h_2 type hfurther =>
    refine .bind (P := fun index => ∀ type ∈ index, r.Sound type) (.map _ ((h type ?_).mono ?_)) ?_
    · exact Keywords.mem_memberSchemas.2 (.inr hfurther)
    · intro type htype
      simpa using htype
    · exact fun index => .pure (record _)
  case h_3 => exact .bind_pure (.pure (record _ nofun))
  case h_4 => exact .bind_pure (.pure (record _ nofun))

theorem keywordsType_writes (hr : r.Suits c) (k : Keywords Schema) {parts : Keywords (Compile Code)}
    (h : ∀ type ∈ parts.children, Writes r type r.Sound) :
    Writes r (c.keywordsType k parts) r.Sound := by
  have object : Writes r (objectType parts) r.Sound :=
    objectType_writes fun type ht => h type (Keywords.mem_children.2 (.inl ht))
  have array : Writes r (arrayType parts.items) r.Sound :=
    arrayType_writes fun type ht => h type (Keywords.mem_children.2 (.inr (.inl ht)))
  have each (types : List (Compile Code)) (hsub : types ⊆ parts.children) :
      Writes r (types.mapM id) fun types => ∀ type ∈ types, r.Sound type :=
    .mapM fun type ht => h type (hsub ht)
  refine keywordsType_cases (motive := fun step => Writes r step r.Sound) ?_
    (fun branches hbranches => ?_) (.pure ?_) (fun value => .pure ?_) (fun text htext => .pure ?_)
    (stringType_writes hr k) array object .throw
  · refine .bind (each _ Keywords.allOf_subset_children) fun members => ?_
    split
    · exact .bind_pure (.pure fun hmembers => Reader.sound_combined (by decide) (by simpa using hmembers))
    · refine .bind (P := fun own => ∀ type ∈ own, r.Sound type)
        (.map _ (object.mono fun type h => List.forall_mem_singleton.2 h)) fun own => ?_
      exact .pure fun hown hmembers => Reader.sound_combined (by decide)
        (List.forall_mem_append.2 ⟨hmembers, hown⟩)
  · refine .bind (each _ (Keywords.union_subset_children hbranches)) fun _ => ?_
    exact .pure (Reader.sound_combined (by decide))
  · exact Reader.sound_combined (by decide)
      (List.forall_mem_map.2 fun value _ => Reader.sound_text value)
  · exact Reader.sound_text value
  · simp only [List.mem_cons, List.not_mem_nil, or_false] at htext
    rcases htext with rfl | rfl | rfl | rfl <;> exact Reader.sound_given (by decide)

section

include hr

theorem schemaType_writes (schema : Schema) : Writes r (c.schemaType schema) r.Sound := by
  refine Schema.fold_preserves (motive := fun step => Writes r step r.Sound) (fun target => ?_)
    (fun accepts => ?_) (fun k parts h => ?_) schema
  · exact .bind (typeName_writes hr target) fun _ => .pure id
  · cases accepts <;> exact .pure (Reader.sound_given (by decide))
  · refine .bind (keywordsType_writes hr k h) fun type => .pure fun htype => ?_
    split
    · exact (Reader.Value.parens ((Reader.Fits.sound htype (.text .nil)).append (by decide))).sound
    · exact htype

theorem parameterType_writes (p : Parameter) : Writes r (c.parameterType p) r.Sound := by
  refine .bind_read fun form _ => ?_
  cases form with
  | flag => exact .pure (Reader.sound_given (by decide))
  | styled schema => exact schemaType_writes hr schema
  | json schema =>
    cases schema with
    | none => exact .pure (Reader.sound_given (by decide))
    | some schema => exact schemaType_writes hr schema
  | text => exact .pure (Reader.sound_given (by decide))

theorem parametersType_writes (o : ResolvedOperation) (side : Side) :
    Writes r (c.parametersType o side) fun type? => ∀ type ∈ type?, r.Sound type := by
  unfold parametersType
  split
  · exact .pure nofun
  · refine .bind (P := fun fields => ∀ f ∈ fields, r.FieldSound f) (.mapM fun p _ => ?_) fun fields => ?_
    · exact .bind (parameterType_writes hr p) fun _ => .pure Reader.fieldSound_quoted
    · refine .pure fun hfields => ?_
      simpa using Reader.sound_objectType hfields

theorem bodyType_writes (codec : Codec) (media : MediaType) :
    Writes r (c.bodyType codec media) r.Sound := by
  unfold bodyType
  split
  case h_1 schema _ => exact schemaType_writes hr schema
  case h_2 schema _ => exact schemaType_writes hr schema
  all_goals exact .pure (Reader.sound_given (by decide))

theorem bodyUnionType_writes (content : Content) : Writes r (c.bodyUnionType content) r.Sound := by
  refine .bind (P := fun variants => ∀ type ∈ variants, r.Sound type)
    (.mapM fun ⟨contentType, media⟩ _ => ?_) fun variants => ?_
  · refine .bind (bodyType_writes hr _ media) fun value => .pure fun hvalue => ?_
    refine Reader.sound_objectType (List.forall_mem_cons.2 ⟨?_, List.forall_mem_singleton.2 ?_⟩)
    · exact Reader.fieldSound_plain (by decide) (Reader.complete_quoted contentType).sound
    · exact Reader.fieldSound_plain (by decide) hvalue
  · exact .pure (Reader.sound_combined (by decide))

theorem responseType_writes (case : ResponseCase) : Writes r (c.responseType case) r.Sound := by
  refine .bind (P := fun fields => ∀ f ∈ fields, r.FieldSound f)
    (.mapM fun ⟨name, header⟩ _ => ?_) fun headers => ?_
  · exact .bind (parameterType_writes hr _) fun _ => .pure Reader.fieldSound_quoted
  have hstatus : r.FieldSound (Field.plain "status" (toString case.status)) :=
    Reader.fieldSound_plain (by decide) (Reader.value_numeric (Lex.toString_nat_numeric _)).sound
  have code {body : List Field} (hbody : ∀ f ∈ body, r.FieldSound f) :
      (∀ f ∈ headers, r.FieldSound f) → r.Sound (Field.objectType
        ([Field.plain "status" (toString case.status)] ++
          (if headers.isEmpty then [] else [Field.plain "headers" (Field.objectType headers)]) ++
          body)) := by
    intro hheaders
    refine Reader.sound_objectType (List.forall_mem_append.2 ⟨List.forall_mem_append.2
      ⟨List.forall_mem_singleton.2 hstatus, ?_⟩, hbody⟩)
    split
    · exact List.forall_mem_nil _
    · exact List.forall_mem_singleton.2
        (Reader.fieldSound_plain (by decide) (Reader.sound_objectType hheaders))
  dsimp only
  split
  · exact .bind_pure (.pure (code (List.forall_mem_nil _)))
  · refine .bind (P := fun body => ∀ f ∈ body, r.FieldSound f) (.map _ ?_) fun body => .pure code
    refine (bodyUnionType_writes hr case.content).mono fun type htype => ?_
    exact List.forall_mem_singleton.2 (Reader.fieldSound_plain (by decide) htype)

end

end Compiler

end OpenApi
