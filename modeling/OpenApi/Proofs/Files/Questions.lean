import OpenApi.Proofs.Conversion.Inner
import OpenApi.Proofs.Conversion.Need
import OpenApi.Proofs.Files.Operations

/-!
What a compiler has asked about references while it writes a file. It asks when it comes to a reference
in a schema, and in the file of types about each component by itself: so all of its questions are about
references that the document mentions and about those to its components.
-/

namespace OpenApi

/-! ## The file of types -/

namespace Compiler

section

variable {c : Compiler} {P : Probes → Prop} (hP : c.Converting P)

include hP

theorem conversionFunction_keeps (name : String) {reference : String} {schema : Schema}
    (hschema : schema ∈ c.document.mentioned) {d : Direction}
    (hasked : Keeps P (c.needsConversion d reference)) :
    Keeps P (c.conversionFunction name reference schema d) := by
  refine .bind hasked fun needed => .ite (.pure _) ?_
  refine .bind (functionName_keeps d reference) fun function => ?_
  exact .bind (convert_keeps hP d hschema _) fun _ => .pure _

theorem typeDeclarations_keeps {key : String} {schema : Schema}
    (hschema : schema ∈ c.document.mentioned)
    (hasked : ∀ d, Keeps P (c.needsConversion d (Pointer.ofSchema key))) :
    Keeps P (c.typeDeclarations key schema) := by
  refine .bind (typeName_keeps _) fun name => .bind (schemaType_keeps schema) fun type => ?_
  refine .bind (conversionFunction_keeps hP _ hschema (hasked _)) fun parse => ?_
  exact .bind (conversionFunction_keeps hP _ hschema (hasked _)) fun serialize => .pure _

theorem typesBody_keeps (hasked : ∀ key ∈ c.document.spec.schemas.names, ∀ d,
    Keeps P (c.needsConversion d (Pointer.ofSchema key))) : Keeps P c.typesBody :=
  .bind (.mapM fun _ h => typeDeclarations_keeps hP (Document.Declares.mentioned (.component h))
    (hasked _ (List.mem_map_of_mem h))) fun _ => .pure _

end

/-! ## Histories -/

variable {c : Compiler}

theorem History.converting : c.Converting c.History :=
  fun _ _ _ _ _ _ _ h before => .convert before h

theorem History.needsConversion_keeps (d : Direction) (r : String) :
    Keeps c.History (c.needsConversion d r) := fun _ _ _ h before => .needsConversion before h

end Compiler

/-! ## What the questions are about -/

/-- All that is settled is about the references in `A`. -/
def Probes.About (p : Probes) (A : Set String) : Prop :=
  ∀ key b, p.settled.lookup key = some b → key.1 ∈ A

theorem Probes.about_start (A : Set String) : ({} : Probes).About A := fun _ _ known => nomatch known

/-- The references that the document mentions, and those to its components. -/
def Document.questions (doc : Document) : Set String :=
  {r | doc.Mentions r ∨ ∃ key ∈ doc.spec.schemas.names, r = Pointer.ofSchema key}

/-- The branches for arrays of a union are merged to a union with the same references. -/
theorem withUnions_subset_mentioned (doc : Document) (count : Nat) :
    withUnions doc.mentioned count ⊆ doc.mentioned := by
  rintro x (hx | ⟨items, rfl, hitems, _⟩)
  · exact hx
  · refine Document.inline_mem_mentioned.2 ⟨fun x hx => ?_, by simp [Keywords.mapped]⟩
    exact hitems x
      (by simpa [Keywords.children, Keywords.memberSchemas, Keywords.furtherSchemas] using hx)

/-- What the conversion of mentioned schemas settles is about mentioned references. -/
theorem Answers.lookup_mentioned {c : Compiler} {d : Direction} {xs : List Schema} {p p' : Probes}
    {bs : List Bool} (h : Answers c d xs p bs p') (hxs : ∀ x ∈ xs, x ∈ c.document.mentioned)
    {key : String × Direction} {b : Bool} (known : p'.settled.lookup key = some b) :
    c.document.Mentions key.1 ∨ p.settled.lookup key = some b := by
  induction h with
  | nil => exact .inr known
  | bool _ ih => exact ih (List.forall_mem_cons.1 hxs).2 known
  | settled _ _ ih => exact ih (List.forall_mem_cons.1 hxs).2 known
  | opened _ _ ih => exact ih (List.forall_mem_cons.1 hxs).2 known
  | probed _ target_eq _ _ ih ih' =>
    obtain ⟨hr, hrest⟩ := List.forall_mem_cons.1 hxs
    have hr := Document.mentions_of_mentioned hr
    rcases ih' hrest known with hmentions | known
    · exact .inl hmentions
    rcases Probes.lookup_closing known with ⟨_, rfl, _⟩ | known
    · exact .inl hr
    · exact ih (List.forall_mem_singleton.2 fun _ mem => .behind hr target_eq mem) known
  | inline outlined _ _ _ _ ih ih' =>
    obtain ⟨hk, hrest⟩ := List.forall_mem_cons.1 hxs
    obtain ⟨n, ho⟩ := outlined
    have hinner := Compiler.outline_inner_of_mem c.document.mentioned_closed hk ho
    rcases ih' hrest known with hmentions | known
    · exact .inl hmentions
    · exact ih (fun x hx => withUnions_subset_mentioned _ _ (hinner x hx)) known

namespace Probes.About

variable {c : Compiler}

theorem converting (c : Compiler) : c.Converting (·.About c.document.questions) := by
  intro d schema hschema value s converted s' h hs key b known
  rcases (Compiler.convertTo_answers h).lookup_mentioned (List.forall_mem_singleton.2 hschema) known
    with hmentions | known
  · exact .inl hmentions
  · exact hs key b known

theorem of_answers {d : Direction} {r : String} {p p' : Probes} {b : Bool}
    (h : Answers c d [.ref r] p [b] p') (hr : r ∈ c.document.questions)
    (htarget : ∀ target, c.document.resolveAs r "schema" Schema.decode = .ok target →
      target ∈ c.document.mentioned) (hp : p.About c.document.questions) :
    p'.About c.document.questions := by
  intro key b' known
  cases h with
  | settled _ more => cases more; exact hp key b' known
  | opened _ more => cases more; exact hp key b' known
  | probed _ target_eq inside more =>
    cases more
    rcases Probes.lookup_closing known with ⟨_, rfl, _⟩ | known
    · exact hr
    rcases inside.lookup_mentioned (List.forall_mem_singleton.2 (htarget _ target_eq)) known
      with hmentions | known
    · exact .inl hmentions
    · exact hp key b' known

/-- The question about a component keeps to the document if a reference to it leads to what the document
holds for it. -/
theorem needsConversion_keeps {key : String} (hkey : key ∈ c.document.spec.schemas.names)
    (htarget : ∀ target,
      c.document.resolveAs (Pointer.ofSchema key) "schema" Schema.decode = .ok target →
        target ∈ c.document.mentioned) (d : Direction) :
    Keeps (·.About c.document.questions) (c.needsConversion d (Pointer.ofSchema key)) :=
  fun _ _ _ h hs => of_answers (Compiler.needsConversion_answers h) (.inr ⟨key, hkey, rfl⟩) htarget hs

end Probes.About

end OpenApi
