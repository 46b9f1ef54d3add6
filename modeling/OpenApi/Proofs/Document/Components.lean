import OpenApi.Proofs.Document.Spelling
import OpenApi.Proofs.Json.Records

/-!
References to components. A document keeps its components twice: in the tree that references are
followed in, and in the model that declarations are made of. A reference to a component leads to the
part that the model holds, whatever characters the name has, as long as the tree has the names: where
a list stands for the document or for its components, the model is read all the same, and no reference
leads to any of them.
-/

namespace OpenApi

/-- The sections of the components that references lead to. -/
inductive Section where
  | schemas
  | parameters
  | headers
  | requestBodies
  | responses
  deriving DecidableEq, Repr

namespace Section

/-- What a section is called in a document. -/
def name : Section → String
  | .schemas => "schemas"
  | .parameters => "parameters"
  | .headers => "headers"
  | .requestBodies => "requestBodies"
  | .responses => "responses"

/-- What a section holds under a name: a part, or a reference to one. -/
abbrev Node : Section → Type
  | .schemas => Schema
  | .parameters => RefOr Parameter
  | .headers => RefOr Header
  | .requestBodies => RefOr RequestBody
  | .responses => RefOr Response

/-- The parts of a section. -/
abbrev Target : Section → Type
  | .schemas => DirectSchema
  | .parameters => Parameter
  | .headers => Header
  | .requestBodies => RequestBody
  | .responses => Response

/-- The kind of the parts of a section. -/
def kind : (s : Section) → Kind s.Node s.Target
  | .schemas => .schema
  | .parameters => .parameter
  | .headers => .header
  | .requestBodies => .requestBody
  | .responses => .response

/-- What a model holds in a section. -/
def held (c : Components) : (s : Section) → Members s.Node
  | .schemas => c.schemas
  | .parameters => c.parameters
  | .headers => c.headers
  | .requestBodies => c.requestBodies
  | .responses => c.responses

/-- The reference to what a section holds under `key`. -/
def reference (s : Section) (key : String) : String :=
  "#/components/" ++ s.name ++ "/" ++ Pointer.escape key

example (key : String) : schemas.reference key = Pointer.ofSchema key := rfl

/-- The reference leads through the name, whatever characters that holds. -/
theorem segments_reference (s : Section) (key : String) :
    Pointer.segments (s.reference key) = .ok ["components", s.name, key] := by
  have hcomponents : Pointer.escape "components" = "components" := by decide
  have hname : Pointer.escape s.name = s.name := by cases s <;> decide
  have hreference : s.reference key = Pointer.ofSegments ["components", s.name, key] := by
    unfold reference
    exact String.toList_inj.1 (by simp [Pointer.toList_ofSegments, hcomponents, hname])
  rw [hreference, Pointer.segments_ofSegments]

end Section

/-! ## The model, read off the tree -/

namespace Decode

variable {α : Type}

/-- A record that an object stands for is read off the members of the object. -/
theorem record_object {name : String} {part : Part Json α} {members : Members Json} {a : α} :
    record name part (.object members) = .ok a ↔ part.read members = .ok a := by
  dsimp only [record]
  cases part.read members <;> simp [Except.mapError]

/-- What a map holds under a name was read off the value under that name. -/
theorem map_get? {decode : Decoder Json α} {members : Members Json} {as : Members α} {name : String}
    {a : α} (h : map decode (.object members) = .ok as) (ha : as.get? name = some a) :
    ∃ value, members.get? name = some value ∧ decode value = .ok a := by
  replace h : members.mapM (fun m => (decode m.2).map (m.1, ·)) = .ok as := h
  induction members generalizing as with
  | nil => cases h; cases ha
  | cons m rest ih =>
    rw [List.mapM_cons] at h
    obtain ⟨read, hread, h⟩ := Except.bind_eq_ok.1 h
    obtain ⟨others, hothers, h⟩ := Except.bind_eq_ok.1 h
    cases h
    cases hm : decode m.2 with
    | error e => rw [hm] at hread; cases hread
    | ok first =>
      rw [hm] at hread
      cases hread
      rw [Members.get?, List.lookup_cons] at ha ⊢
      by_cases heq : name = m.1
      · subst heq
        rw [beq_self_eq_true] at ha ⊢
        cases ha
        exact ⟨m.2, rfl, hm⟩
      · rw [beq_false_of_ne heq] at ha ⊢
        exact ih ha hothers

end Decode

namespace Components

variable {members : Members Json} {c : Components}

/-- Each section is read off the member of its name. -/
theorem decode_held (h : decode (.object members) = .ok c) (s : Section) :
    (members.get? s.name).elim (.ok []) (Decode.map s.kind.decode) = .ok (s.held c) := by
  obtain ⟨_, _, h₅, _, rfl⟩ := Decode.Part.both_read.1 (Decode.record_object.1 h)
  obtain ⟨_, _, h₄, hresponses, rfl⟩ := Decode.Part.both_read.1 h₅
  obtain ⟨_, _, h₃, hbodies, rfl⟩ := Decode.Part.both_read.1 h₄
  obtain ⟨_, _, h₂, hheaders, rfl⟩ := Decode.Part.both_read.1 h₃
  obtain ⟨_, _, h₁, hparameters, rfl⟩ := Decode.Part.both_read.1 h₂
  obtain ⟨_, _, h₀, hschemas, rfl⟩ := Decode.Part.both_read.1 h₁
  cases h₀
  cases s with
  | schemas => exact Decode.field_read.1 hschemas
  | parameters => exact Decode.field_read.1 hparameters
  | headers => exact Decode.field_read.1 hheaders
  | requestBodies => exact Decode.field_read.1 hbodies
  | responses => exact Decode.field_read.1 hresponses

/-- What the model holds was read off the value that has its name in the tree. -/
theorem decode_get? (h : decode (.object members) = .ok c) {s : Section} {key : String}
    {entry : s.Node} (hentry : (s.held c).get? key = some entry) :
    ∃ entries value, members.get? s.name = some (.object entries) ∧
      Members.get? entries key = some value ∧ s.kind.decode value = .ok entry := by
  have hheld := decode_held h s
  cases hget : members.get? s.name with
  | none =>
    rw [hget] at hheld
    rw [← Except.ok.inj hheld] at hentry
    cases hentry
  | some sectionValue =>
    rw [hget] at hheld
    cases sectionValue with
    | object entries =>
      obtain ⟨value, hvalue, hdecode⟩ := Decode.map_get? hheld hentry
      exact ⟨entries, value, rfl, hvalue, hdecode⟩
    | _ => cases hheld

end Components

/-- The components of the model were read off the member `components`. -/
theorem Spec.decode_components {members : Members Json} {spec : Spec} {c : Components}
    (h : Spec.decode (.object members) = .ok spec) (hc : spec.components = some c) :
    ∃ value, members.get? "components" = some value ∧ Components.decode value = .ok c := by
  obtain ⟨_, _, h₁, _, rfl⟩ := Decode.Part.both_read.1 (Decode.record_object.1 h)
  obtain ⟨_, components, h₀, hcomponents, rfl⟩ := Decode.Part.both_read.1 h₁
  obtain ⟨_, _, h₃, _, rfl⟩ := Decode.Part.both_read.1 h₀
  obtain ⟨_, _, h₄, _, rfl⟩ := Decode.Part.both_read.1 h₃
  obtain ⟨_, _, h₅, _, rfl⟩ := Decode.Part.both_read.1 h₄
  obtain ⟨_, _, h₆, _, rfl⟩ := Decode.Part.both_read.1 h₅
  cases h₆
  subst hc
  replace hcomponents := Decode.field_read.1 hcomponents
  cases hget : members.get? "components" with
  | none => rw [hget] at hcomponents; cases hcomponents
  | some value =>
    rw [hget] at hcomponents
    exact ⟨value, rfl, (Decode.nullable_eq_some.1 hcomponents).2⟩

/-- A record is read off an object or off a list. -/
theorem Decode.record_shape {α : Type} {name : String} {part : Decode.Part Json α} {value : Json}
    {a : α} (h : Decode.record name part value = .ok a) :
    (∃ members, value = .object members) ∨ ∃ items, value = .array items := by
  cases value with
  | object members => exact .inl ⟨members, rfl⟩
  | array items => exact .inr ⟨items, rfl⟩
  | _ => cases h

/-! ## Agreement -/

/-- The components have their names in the tree: the document and its components are objects there. -/
def Json.NamesComponents (raw : Json) : Prop :=
  ∃ members components, raw = .object members ∧
    Members.get? members "components" = some (.object components)

namespace Pointer

variable {s : Section} {key : String}

theorem resolve_reference (root : Json) :
    resolve root (s.reference key) =
      follow (s.reference key) ["components", s.name, key] root := by
  rw [resolve, Section.segments_reference]
  rfl

variable {reference segment : String} {rest : List String}

/-- A name leads to the member of that name. -/
theorem follow_object {members : Members Json} {value : Json}
    (h : members.get? segment = some value) :
    follow reference (segment :: rest) (.object members) = follow reference rest value := by
  rw [follow, step, h]
  rfl

/-- No name leads into a list. -/
theorem follow_array (h : Text.natural? Text.maxWord64 segment = none) (items : List Json) :
    follow reference (segment :: rest) (.array items) =
      .error (.mismatch reference segment "an array") := by
  rw [follow, step, h]
  rfl

end Pointer

namespace Document

variable {raw : Json} {doc : Document} {c : Components} {s : Section} {key : String}
  {entry : s.Node}

theorem ofJson_eq_ok (h : ofJson raw = .ok doc) :
    doc.raw = raw ∧ Spec.decode raw = .ok doc.spec := by
  unfold ofJson at h
  cases hspec : Spec.decode raw with
  | error e => rw [hspec] at h; cases h
  | ok spec =>
    rw [hspec] at h
    dsimp only [Except.mapError, Bind.bind, Except.bind] at h
    split at h
    · cases h
      exact ⟨rfl, rfl⟩
    · cases h

/-- Where components have names, the reference leads to the value that the model's part was read
off. -/
theorem resolve_component (h : ofJson raw = .ok doc) (hnames : raw.NamesComponents)
    (hc : doc.spec.components = some c) (hentry : (s.held c).get? key = some entry) :
    ∃ value, doc.resolve (s.reference key) = .ok value ∧ s.kind.decode value = .ok entry := by
  obtain ⟨hraw, hspec⟩ := ofJson_eq_ok h
  obtain ⟨members, components, rfl, hcomponents⟩ := hnames
  obtain ⟨found, hfound, hdecode⟩ := Spec.decode_components hspec hc
  obtain rfl : .object components = found := Option.some.inj (hcomponents.symm.trans hfound)
  obtain ⟨entries, value, hentries, hvalue, hread⟩ := Components.decode_get? hdecode hentry
  refine ⟨value, ?_, hread⟩
  rw [resolve, hraw, Pointer.resolve_reference, Pointer.follow_object hcomponents,
    Pointer.follow_object hentries, Pointer.follow_object hvalue, Pointer.follow]

/-- Where they have none, the reference ends at the list that stands in their place. -/
theorem resolve_component_unnamed (h : ofJson raw = .ok doc) (hnames : ¬ raw.NamesComponents)
    (hc : doc.spec.components = some c) (s : Section) (key : String) :
    ∃ segment, doc.resolve (s.reference key) =
      .error (.mismatch (s.reference key) segment "an array") := by
  obtain ⟨hraw, hspec⟩ := ofJson_eq_ok h
  rw [resolve, hraw, Pointer.resolve_reference]
  obtain ⟨members, rfl⟩ | ⟨items, rfl⟩ := Decode.record_shape hspec
  case inr => exact ⟨"components", Pointer.follow_array (by decide) items⟩
  obtain ⟨found, hfound, hdecode⟩ := Spec.decode_components hspec hc
  obtain ⟨components, rfl⟩ | ⟨items, rfl⟩ := Decode.record_shape hdecode
  case inl => exact absurd ⟨members, components, rfl, hfound⟩ hnames
  have hname : Text.natural? Text.maxWord64 s.name = none := by cases s <;> decide
  rw [Pointer.follow_object hfound]
  exact ⟨s.name, Pointer.follow_array hname items⟩

/-- The tree and the model agree on every component, exactly where components have names in the tree:
there the reference to a component leads to a value that is read as the very part that the model holds
under its name, and elsewhere it leads nowhere. -/
theorem resolveAs_component (h : ofJson raw = .ok doc) (hc : doc.spec.components = some c)
    (hentry : (s.held c).get? key = some entry) :
    (raw.NamesComponents → (∃ value, doc.resolve (s.reference key) = .ok value) ∧
      doc.resolveAs (s.reference key) s.kind.name s.kind.decode = .ok entry) ∧
    (¬ raw.NamesComponents → ∃ segment, doc.resolve (s.reference key) =
      .error (.mismatch (s.reference key) segment "an array")) := by
  refine ⟨fun hnames => ?_, fun hnames => resolve_component_unnamed h hnames hc s key⟩
  obtain ⟨value, hvalue, hread⟩ := resolve_component h hnames hc hentry
  refine ⟨⟨value, hvalue⟩, ?_⟩
  rw [resolveAs, hvalue]
  show (s.kind.decode value).mapError _ = _
  rw [hread]
  rfl

end Document

namespace Section

/-- A document with the given components. -/
def document (components : Json) : Json := .object [("openapi", .string "3.0.3"),
  ("info", .object [("title", .string "T"), ("version", .string "1")]), ("paths", .object []),
  ("components", components)]

/-- The model of such a document. -/
def specOf (components : Components) : Spec where
  openapi := "3.0.3"
  info := { title := "T", version := "1" }
  components := some components

/-- Components with a parameter, and a reference to it, that have to be escaped in references. -/
def pages : Json := .object [("parameters", .object [
  ("page/~size", .object [("name", .string "size"), ("in", .string "query")]),
  ("", .object [("$ref", .string "#/components/parameters/page~1~0size")])])]

/-- The model of these. -/
def pagesModel : Components where
  parameters := [("page/~size", .inline { name := "size", location := .query }),
    ("", .ref "#/components/parameters/page~1~0size")]

theorem resolveAs_component_pages :
    ∃ doc, Document.ofJson (document pages) = .ok doc ∧ doc.spec.components = some pagesModel ∧
      (∃ value, doc.resolve "#/components/parameters/page~1~0size" = .ok value) ∧
      doc.resolveAs "#/components/parameters/page~1~0size" "parameter" Parameter.decodeRef =
        .ok (.inline { name := "size", location := .query }) := by
  have h : Document.ofJson (document pages) = .ok ⟨document pages, specOf pagesModel⟩ := by
    with_unfolding_all rfl
  have hentry : (held pagesModel .parameters).get? "page/~size" =
      some (.inline { name := "size", location := .query }) := rfl
  exact ⟨_, h, rfl, (Document.resolveAs_component h rfl hentry).1 ⟨_, _, rfl, rfl⟩⟩

/-- A list that stands for components with a schema. -/
def listed : Json := .array [.object [("A", .object [("type", .string "string")])]]

/-- Where a list stands for the components, the model holds them and no reference leads to them. -/
theorem listed_unresolved :
    ∃ doc entry, Document.ofJson (document listed) = .ok doc ∧
      doc.spec.components = some { schemas := [("A", entry)] } ∧
      doc.resolve "#/components/schemas/A" =
        .error (.mismatch "#/components/schemas/A" "schemas" "an array") ∧
      ∀ part, doc.resolveAs "#/components/schemas/A" "schema" Schema.decode ≠ .ok part := by
  let model : Components := { schemas := [("A", .inline { type := some .string })] }
  let doc : Document := ⟨document listed, specOf model⟩
  have h : Document.ofJson (document listed) = .ok doc := by with_unfolding_all rfl
  have hresolve : doc.resolve "#/components/schemas/A" =
      .error (.mismatch "#/components/schemas/A" "schemas" "an array") := by
    with_unfolding_all rfl
  refine ⟨doc, _, h, rfl, hresolve, fun part hpart => ?_⟩
  rw [Document.resolveAs, hresolve] at hpart
  cases hpart

end Section

end OpenApi
