import OpenApi.Operation.Resolved
import OpenApi.Parameter.Form
import OpenApi.Proofs.Document.Ends
import OpenApi.Proofs.Schema.Fold

/-!
Which references to schemas a document holds: those in its component schemas and in the schemas of
its operations, and those in the schemas that such references lead to.
-/

namespace OpenApi

/-- The schemas of the content of a body or a parameter. -/
def Content.schemas (content : Content) : List Schema :=
  content.filterMap fun (_, media) => media.schema

/-- The schemas of a parameter. -/
def Parameter.schemas (p : Parameter) : List Schema := p.schema.toList ++ p.content.schemas

/-- The schemas of a header. -/
def Header.schemas (h : Header) : List Schema := h.schema.toList ++ h.content.schemas

/-- The schema belongs to the operation: to its parameters, its request body, its responses or their
headers. -/
inductive ResolvedOperation.Uses (doc : Document) (o : ResolvedOperation) : Schema → Prop
  | parameter {p : Parameter} {schema : Schema} (hp : p ∈ o.parameters) (h : schema ∈ p.schemas) :
      Uses doc o schema
  | requestBody {body : RequestBody} {schema : Schema}
      (hb : doc.requestBody? o = .ok (some body)) (h : schema ∈ body.content.schemas) :
      Uses doc o schema
  | response {status : String} {node : RefOr Response} {response : Response} {schema : Schema}
      (hr : (status, node) ∈ o.operation.responses) (hd : doc.deref .response node = .ok response)
      (h : schema ∈ response.content.schemas) : Uses doc o schema
  | header {status name : String} {node : RefOr Response} {response : Response}
      {node' : RefOr Header} {header : Header} {schema : Schema}
      (hr : (status, node) ∈ o.operation.responses) (hd : doc.deref .response node = .ok response)
      (hh : (name, node') ∈ response.headers) (hd' : doc.deref .header node' = .ok header)
      (h : schema ∈ header.schemas) : Uses doc o schema

/-- The schema that a shape is read off from, or the one of the items. -/
def ValueShape.keywords : ValueShape → Keywords Schema
  | .scalar k | .array k | .object k => k

namespace Document

/-- The schema is that of a component, or belongs to an operation. -/
inductive Declares (doc : Document) : Schema → Prop
  | component {name : String} {schema : Schema} (h : (name, schema) ∈ doc.spec.schemas) :
      Declares doc schema
  | operation {operations : List ResolvedOperation} {o : ResolvedOperation} {schema : Schema}
      (listed : doc.operations = .ok operations) (mem : o ∈ operations) (h : o.Uses doc schema) :
      Declares doc schema

/-- The reference stands in a schema of the document, or in one behind such a reference. -/
inductive Mentions (doc : Document) : String → Prop
  | declared {schema : Schema} {r : String} (h : doc.Declares schema) (mem : r ∈ schema.references) :
      Mentions doc r
  | behind {r r' : String} {target : Schema} (h : Mentions doc r)
      (target_eq : doc.resolveAs r "schema" Schema.decode = .ok target)
      (mem : r' ∈ target.references) : Mentions doc r'

/-- The schemas all of whose references the document mentions. -/
def mentioned (doc : Document) : Set Schema := {schema | ∀ r ∈ schema.references, doc.Mentions r}

variable {doc : Document}

theorem Declares.mentioned {schema : Schema} (h : doc.Declares schema) : schema ∈ doc.mentioned :=
  fun _ mem => .declared h mem

theorem mentions_of_mentioned {r : String} (h : .ref r ∈ doc.mentioned) : doc.Mentions r :=
  h r (List.mem_singleton_self r)

theorem mentioned_closed (doc : Document) : doc.Closed doc.mentioned where
  any := fun _ mem => absurd mem List.not_mem_nil
  part := fun hy part r mem =>
    hy r (Schema.mem_references.2 ((Schema.mem_references.1 mem).trans part))
  target := fun hr target_eq _ mem => .behind (mentions_of_mentioned hr) target_eq mem

theorem inline_mem_mentioned {k : Keywords Schema} : .inline k ∈ doc.mentioned ↔
    (∀ x ∈ k.children, x ∈ doc.mentioned) ∧ ∀ r ∈ k.mapped, doc.Mentions r := by
  simp only [mentioned, Set.mem_ofPred_eq, Schema.references_inline, List.mem_append,
    List.mem_flatMap]
  constructor
  · intro h
    exact ⟨fun x hx r hr => h r (.inl ⟨x, hx, hr⟩), fun r hr => h r (.inr hr)⟩
  · rintro ⟨hchildren, hmapped⟩ r (⟨x, hx, hr⟩ | hr)
    · exact hchildren x hx r hr
    · exact hmapped r hr

/-! ## Values of parameters -/

theorem inline_empty_mentioned : .inline {} ∈ doc.mentioned := by
  refine inline_mem_mentioned.2 ⟨fun x hx => ?_, fun r hr => ?_⟩
  · simp [Keywords.children, Keywords.memberSchemas, Keywords.furtherSchemas] at hx
  · simp [Keywords.mapped] at hr

theorem keywordsOf_mentioned {schema : Schema} {k : Keywords Schema} (hschema : schema ∈ doc.mentioned)
    (h : doc.keywordsOf schema = .ok k) : .inline k ∈ doc.mentioned := by
  obtain ⟨target, htarget, h⟩ := Except.bind_eq_ok.1 h
  rcases target with (_ | _) | k'
  · cases h
  · cases h
    exact inline_empty_mentioned
  · cases h
    exact doc.mentioned_closed.deref hschema htarget

theorem shapeOf_mentioned {schema : Schema} {shape : ValueShape} (hschema : schema ∈ doc.mentioned)
    (h : doc.shapeOf schema = .ok shape) : .inline shape.keywords ∈ doc.mentioned := by
  obtain ⟨k, hk, h⟩ := Except.bind_eq_ok.1 h
  have hk' := keywordsOf_mentioned hschema hk
  have hitems : ∀ items ∈ k.items, (do pure (ValueShape.array (← doc.keywordsOf items))) =
      Except.ok shape → .inline shape.keywords ∈ doc.mentioned := by
    intro items hitems h
    obtain ⟨k', hitems', h⟩ := Except.bind_eq_ok.1 h
    cases h
    have hchild : items ∈ k.children := Keywords.mem_children.2 (.inr (.inl hitems))
    exact keywordsOf_mentioned (doc.mentioned_closed.child hk' hchild) hitems'
  split at h
  case h_1 => cases h; exact inline_empty_mentioned
  case h_2 items _ hitems' => exact hitems items (by simp [hitems']) h
  case h_3 items _ hitems' => exact hitems items (by simp [hitems']) h
  case h_4 =>
    cases h
    split <;> exact hk'

end Document

/-- The schemas that the value of a parameter is laid out by. -/
def ParameterForm.schemas : ParameterForm → List Schema
  | .styled schema => [schema]
  | .json schema => schema.toList
  | .flag | .text => []

theorem Parameter.form_schemas {p : Parameter} {form : ParameterForm} (h : p.form = .ok form) :
    form.schemas ⊆ p.schemas := by
  unfold Parameter.form at h
  split at h
  · split at h
    · cases h; exact List.nil_subset _
    · cases h
  · split at h
    case h_1 => cases h
    case h_2 schema _ hschema =>
      cases h
      simp [ParameterForm.schemas, Parameter.schemas, hschema]
    case h_3 _ contentType media hcontent =>
      split at h
      · cases h
        have hmedia : p.content.schemas = media.schema.toList := by
          rw [hcontent]
          cases hm : media.schema <;> simp [Content.schemas, hm]
        rw [Parameter.schemas, hmedia]
        exact List.subset_append_right _ _
      · split at h
        · cases h; exact List.nil_subset _
        · cases h
    case h_4 => cases h

end OpenApi
