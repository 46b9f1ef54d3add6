import OpenApi.Proofs.Code.OneLine
import OpenApi.Proofs.Types.Audited

/-!
Types are written on one line, as far as they are not the text of formats.
-/

namespace OpenApi

/-! ## Types -/

/-- All results of a sequence have the property. -/
theorem Ensures.mapM_all {m : Type → Type} [Monad m] [LawfulMonad m] [Yields m] {α β : Type}
    {P : α → Prop} {f : β → StateT Progress m α} {xs : List β} (h : ∀ x ∈ xs, Ensures (f x) P) :
    Ensures (xs.mapM f) fun ys => ∀ y ∈ ys, P y :=
  (Ensures.mapM h).mono fun ys hys => by
    induction hys with
    | nil => exact List.forall_mem_nil _
    | cons hy _ ih => exact List.forall_mem_cons.2 ⟨hy, ih fun x hx => h x (by simp [hx])⟩

namespace Compiler

variable {r : Reader} {c : Compiler}

theorem typeName_oneLine (hqualifier : ∀ types ∈ c.qualifier, '\n' ∉ types.toList)
    (reference : String) : Ensures (c.typeName reference) fun name => r.OneLine (Code.site name) := by
  refine .bind_read fun name hname => ?_
  have hname : '\n' ∉ name.toList :=
    Text.newline_notMem_of_all (by decide) (Document.refName_wordPart hname)
  unfold qualify
  split
  case h_1 => exact .pure (Reader.oneLine_site hname)
  case h_2 types heq =>
    exact .bind_any fun _ => .pure (Reader.oneLine_site (by simp [hname, hqualifier types heq]))

variable (hhide : r.HidesFormats)

include hhide

theorem stringType_oneLine (k : Keywords Schema) : Ensures (c.stringType k) r.OneLine := by
  unfold stringType
  split
  · exact .pure (Reader.oneLine_site (by decide))
  · exact .bind_read fun format _ => .bind_any fun _ => .pure (Reader.oneLine_hidden (hhide _) _)

omit hhide in
theorem arrayType_oneLine {items : Option (Compile Code)} (h : ∀ type ∈ items, Ensures type r.OneLine) :
    Ensures (arrayType items) r.OneLine := by
  cases items with
  | none => exact .pure (Reader.oneLine_site (by decide))
  | some type => exact .bind (h type rfl) fun _ htype => .pure (htype.wrapped (by decide) (by decide))

omit hhide in
theorem objectType_oneLine {k : Keywords (Compile Code)}
    (h : ∀ type ∈ k.memberSchemas, Ensures type r.OneLine) : Ensures (objectType k) r.OneLine := by
  unfold objectType
  refine .bind (P := fun fields => ∀ f ∈ fields, r.FieldOneLine f) (.mapM_all fun ⟨name, type⟩ hmem =>
    .bind (h type (Keywords.mem_memberSchemas.2 (.inl ⟨name, hmem⟩))) fun _ htype =>
      .pure (Reader.fieldOneLine_quoted htype)) fun fields hfields => ?_
  have record {index : Option Code} (isOpen : Bool) (hindex : ∀ type ∈ index, r.OneLine type) :
      Ensures (Pure.pure (Code.recordType fields index isOpen) : Compile Code) r.OneLine :=
    .pure (Reader.oneLine_recordType isOpen hfields hindex)
  split
  case h_1 =>
    refine .bind (.pure (a := some ("unknown" : Code)) (fun type htype => ?_)) fun _ => record _
    exact Option.mem_some.1 htype ▸ Reader.oneLine_site (by decide)
  case h_2 type hfurther =>
    have hmem := Keywords.mem_memberSchemas.2 (.inr hfurther)
    refine .bind (.map _ ((h type hmem).mono fun code hcode => ?_)) fun _ => record _
    exact fun type htype => Option.mem_some.1 htype ▸ hcode
  case h_3 => exact .bind (.pure (a := none) nofun) fun _ => record _
  case h_4 => exact .bind (.pure (a := none) nofun) fun _ => record _

theorem keywordsType_oneLine (k : Keywords Schema) {parts : Keywords (Compile Code)}
    (h : ∀ type ∈ parts.children, Ensures type r.OneLine) :
    Ensures (c.keywordsType k parts) r.OneLine := by
  have object : Ensures (objectType parts) r.OneLine :=
    objectType_oneLine fun type ht => h type (Keywords.mem_children.2 (.inl ht))
  have array : Ensures (arrayType parts.items) r.OneLine :=
    arrayType_oneLine fun type ht => h type (Keywords.mem_children.2 (.inr (.inl ht)))
  have each (types : List (Compile Code)) (hsub : types ⊆ parts.children) :
      Ensures (types.mapM id) fun types => ∀ type ∈ types, r.OneLine type :=
    .mapM_all fun type ht => h type (hsub ht)
  refine keywordsType_cases (motive := fun step => Ensures step r.OneLine) ?_
    (fun branches hbranches => ?_) (.pure ?_) (fun value => .pure ?_) (fun text htext => .pure ?_)
    (stringType_oneLine hhide k) array object .throw
  · refine .bind (each _ Keywords.allOf_subset_children) fun members hmembers => ?_
    have combined {own : List Code} (hown : ∀ type ∈ own, r.OneLine type) :
        r.OneLine (Code.combined " & " (members ++ own)) :=
      Reader.oneLine_combined (by decide) (List.forall_mem_append.2 ⟨hmembers, hown⟩)
    split
    · exact .bind (.pure (List.forall_mem_nil _)) fun _ hown => .pure (combined hown)
    · refine .bind (P := fun own => ∀ type ∈ own, r.OneLine type)
        (.map _ (object.mono fun _ htype => List.forall_mem_singleton.2 htype)) fun _ hown => ?_
      exact .pure (combined hown)
  · refine .bind (each _ (Keywords.union_subset_children hbranches)) fun _ htypes => ?_
    exact .pure (Reader.oneLine_combined (by decide) htypes)
  · exact Reader.oneLine_combined (by decide)
      (List.forall_mem_map.2 fun value _ => Reader.oneLine_site value.newline_notMem_text)
  · exact Reader.oneLine_site value.newline_notMem_text
  · simp only [List.mem_cons, List.not_mem_nil, or_false] at htext
    rcases htext with rfl | rfl | rfl | rfl <;> exact Reader.oneLine_site (by decide)

variable (hqualifier : ∀ types ∈ c.qualifier, '\n' ∉ types.toList)

include hqualifier

theorem schemaType_oneLine (schema : Schema) : Ensures (c.schemaType schema) r.OneLine := by
  refine Schema.fold_preserves (motive := fun step => Ensures step r.OneLine) (fun target => ?_)
    (fun accepts => ?_) (fun k parts h => ?_) schema
  · exact .bind (typeName_oneLine hqualifier target) fun _ hname => .pure hname
  · cases accepts <;> exact .pure (Reader.oneLine_site (by decide))
  · refine .bind (keywordsType_oneLine hhide k h) fun type htype => .pure ?_
    split
    · exact (htype.append (Reader.oneLine_site (by decide))).parens
    · exact htype

theorem parameterType_oneLine (p : Parameter) : Ensures (c.parameterType p) r.OneLine := by
  refine .bind_read fun form _ => ?_
  cases form with
  | flag => exact .pure (Reader.oneLine_site (by decide))
  | styled schema => exact schemaType_oneLine hhide hqualifier schema
  | json schema =>
    cases schema with
    | none => exact .pure (Reader.oneLine_site (by decide))
    | some schema => exact schemaType_oneLine hhide hqualifier schema
  | text => exact .pure (Reader.oneLine_site (by decide))

theorem parametersType_oneLine (o : ResolvedOperation) (side : Side) :
    Ensures (c.parametersType o side) fun type? => ∀ type ∈ type?, r.OneLine type := by
  unfold parametersType
  split
  · exact .pure nofun
  · refine .bind (P := fun fields => ∀ f ∈ fields, r.FieldOneLine f) (.mapM_all fun p _ => ?_)
      fun fields hfields => .pure (by simpa using Reader.oneLine_objectType hfields)
    exact .bind (parameterType_oneLine hhide hqualifier p) fun _ htype =>
      .pure (Reader.fieldOneLine_quoted htype)

theorem bodyType_oneLine (codec : Codec) (media : MediaType) :
    Ensures (c.bodyType codec media) r.OneLine := by
  unfold bodyType
  split
  case h_1 schema _ => exact schemaType_oneLine hhide hqualifier schema
  case h_2 schema _ => exact schemaType_oneLine hhide hqualifier schema
  all_goals exact .pure (Reader.oneLine_site (by decide))

theorem bodyUnionType_oneLine (content : Content) : Ensures (c.bodyUnionType content) r.OneLine := by
  refine .bind (P := fun variants => ∀ type ∈ variants, r.OneLine type)
    (.mapM_all fun ⟨contentType, media⟩ _ => ?_) fun variants hvariants =>
      .pure (Reader.oneLine_combined (by decide) hvariants)
  refine .bind (bodyType_oneLine hhide hqualifier _ media) fun value hvalue => .pure ?_
  exact Reader.oneLine_objectType (List.forall_mem_cons.2
    ⟨Reader.fieldOneLine_plain (by decide) (Reader.oneLine_quoted contentType),
      List.forall_mem_singleton.2 (Reader.fieldOneLine_plain (by decide) hvalue)⟩)

theorem responseType_oneLine (case : ResponseCase) : Ensures (c.responseType case) r.OneLine := by
  refine .bind (P := fun fields => ∀ f ∈ fields, r.FieldOneLine f)
    (.mapM_all fun ⟨name, header⟩ _ => .bind (parameterType_oneLine hhide hqualifier _) fun _ htype =>
      .pure (Reader.fieldOneLine_quoted htype)) fun headers hheaders => ?_
  have hnumber : '\n' ∉ (toString case.status).toList :=
    Text.newline_notMem_of_all (p := Lex.isNumeric) (by decide) (Lex.toString_nat_numeric _)
  have type {body : List Field} (hbody : ∀ f ∈ body, r.FieldOneLine f) :
      r.OneLine (Field.objectType ([Field.plain "status" (toString case.status)] ++
        (if headers.isEmpty then [] else [Field.plain "headers" (Field.objectType headers)]) ++
        body)) := by
    refine Reader.oneLine_objectType ?_
    simp only [List.forall_mem_append]
    refine ⟨⟨List.forall_mem_singleton.2 (Reader.fieldOneLine_plain (by decide)
      (Reader.oneLine_site hnumber)), ?_⟩, hbody⟩
    split
    · exact List.forall_mem_nil _
    · exact List.forall_mem_singleton.2
        (Reader.fieldOneLine_plain (by decide) (Reader.oneLine_objectType hheaders))
  refine .ite (.bind (.pure (List.forall_mem_nil _)) fun body hbody => .pure (type hbody)) ?_
  refine .bind (P := fun body => ∀ f ∈ body, r.FieldOneLine f) (.map _ ?_)
    fun body hbody => .pure (type hbody)
  exact (bodyUnionType_oneLine hhide hqualifier case.content).mono fun _ htype =>
    List.forall_mem_singleton.2 (Reader.fieldOneLine_plain (by decide) htype)

end Compiler

namespace Writes

variable {r : Audit}

/-- What is known of the code and what is known of its lines. -/
theorem line {m : Type → Type} [Monad m] [Yields m] {α : Type} {step : StateT Progress m α}
    {P P' Q : α → Prop} (h : Writes r step P) (h' : r.HidesFormats → Ensures step P')
    (hQ : ∀ a, P a → (r.HidesFormats → P' a) → Q a) : Writes r step Q := fun s a s' ha =>
  ⟨(h s a s' ha).1, fun hcovers => hQ a ((h s a s' ha).2 hcovers) fun hhide => h' hhide s a s' ha⟩

theorem runtime_line {symbol : List Char} (hsymbol : symbol.all Text.isWordPart = true) :
    Writes r (Compile.runtime (String.ofList symbol)) fun text => r.Line (Code.site text) := by
  have hline : Ensures (Compile.runtime (String.ofList symbol)) fun text => '\n' ∉ text.toList := by
    refine .bind_any fun _ => .pure ?_
    simpa using Text.newline_notMem_of_all (by decide) hsymbol
  exact (runtime (Text.all_ordinary hsymbol)).line (fun _ => hline) fun _ hsound hline =>
    ⟨hsound, fun hhide => Reader.oneLine_site (hline hhide)⟩

end Writes

namespace Compiler

variable {r : Audit} {c : Compiler} (hr : r.Suits c)

include hr

theorem newline_notMem_qualifier : ∀ types ∈ c.qualifier, '\n' ∉ types.toList := fun _ htypes =>
  Text.newline_notMem_of_all (by decide) (hr.qualifier _ htypes).1

theorem parametersType_line (o : ResolvedOperation) (side : Side) :
    Writes r (c.parametersType o side) fun type? => ∀ type ∈ type?, r.Line type :=
  (parametersType_writes hr o side).line
    (fun hhide => parametersType_oneLine hhide (newline_notMem_qualifier hr) o side)
    fun _ hsound hline type htype => ⟨hsound type htype, fun hhide => hline hhide type htype⟩

theorem bodyUnionType_line (content : Content) : Writes r (c.bodyUnionType content) r.Line :=
  (bodyUnionType_writes hr content).line
    (fun hhide => bodyUnionType_oneLine hhide (newline_notMem_qualifier hr) content) fun _ => .mk

theorem responseType_line (case : ResponseCase) : Writes r (c.responseType case) r.Line :=
  (responseType_writes hr case).line
    (fun hhide => responseType_oneLine hhide (newline_notMem_qualifier hr) case) fun _ => .mk

end Compiler

end OpenApi
