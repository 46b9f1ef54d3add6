import OpenApi.Proofs.Schema.Writing
import OpenApi.Spec

/-!
Reading documents again: every kind of model that a document is made of is read again from what is
written for it, from schemas up to the whole document.
-/

namespace OpenApi

theorem MediaType.faithful : FaithfulRecord MediaType.decode MediaType.encode :=
  .record (.next (.first _
    (.optional Schema.faithful))
    (.optional .any)) (by decide) (by
    rintro _ _ ⟨⟨schema⟩, sample⟩
    rfl)

theorem Content.faithful : Faithful Content.decode Content.encode := .map MediaType.faithful.faithful

theorem Location.faithful : Faithful Location.decode fun l => .string l.name :=
  .variant fun l => by cases l <;> rfl

theorem Style.faithful : Faithful Style.decode fun s => .string s.name :=
  .variant fun s => by cases s <;> rfl

theorem Parameter.faithful : FaithfulRecord Parameter.decode Parameter.encode :=
  .record (.next (.next (.next (.next (.next (.next (.next (.next (.next (.next (.first _
    (.mandatory .string))
    (.mandatory Location.faithful))
    (.optional .string))
    (.orElse .bool (.bool false) rfl))
    (.optional .bool))
    (.orElse .bool (.bool false) rfl))
    (.optional Schema.faithful))
    (.orEmpty Content.faithful))
    (.optional Style.faithful))
    (.optional .bool))
    (.orElse .bool (.bool false) rfl)) (by decide) (by
    rintro _ _ ⟨⟨⟨⟨⟨⟨⟨⟨⟨⟨⟨name⟩, location⟩, description⟩, required⟩, deprecated⟩, allowEmptyValue⟩,
      schema⟩, content⟩, style⟩, explode⟩, isFlag⟩
    rfl)

theorem Header.faithful : FaithfulRecord Header.decode Header.encode :=
  .record (.next (.next (.next (.next (.next (.first _
    (.optional .string))
    (.orElse .bool (.bool false) rfl))
    (.optional Schema.faithful))
    (.orEmpty Content.faithful))
    (.optional Style.faithful))
    (.optional .bool)) (by decide) (by
    rintro _ _ ⟨⟨⟨⟨⟨⟨description⟩, required⟩, schema⟩, content⟩, style⟩, explode⟩
    rfl)

theorem Parameter.faithfulRef :
    Faithful Parameter.decodeRef (RefOr.encode Parameter.encode) := Parameter.faithful.orRef _

theorem Header.faithfulRef : Faithful Header.decodeRef (RefOr.encode Header.encode) :=
  Header.faithful.orRef _

theorem RequestBody.faithful : FaithfulRecord RequestBody.decode RequestBody.encode :=
  .record (.next (.next (.first _
    (.optional .string))
    (.mandatory Content.faithful))
    (.orElse .bool (.bool false) rfl)) (by decide) (by
    rintro _ _ ⟨⟨⟨description⟩, content⟩, required⟩
    simp [RequestBody.encode])

theorem RequestBody.faithfulRef :
    Faithful RequestBody.decodeRef (RefOr.encode RequestBody.encode) := RequestBody.faithful.orRef _

theorem Response.faithful : FaithfulRecord Response.decode Response.encode :=
  .record (.next (.next (.first _
    (.orElse .string (.string "") rfl))
    (.orEmpty (.map Header.faithfulRef)))
    (.orEmpty Content.faithful)) (by decide) (by
    rintro _ _ ⟨⟨⟨description⟩, headers⟩, content⟩
    rfl)

theorem Response.faithfulRef : Faithful Response.decodeRef (RefOr.encode Response.encode) :=
  Response.faithful.orRef _

theorem SchemeType.faithful : Faithful (Decode.variant ([.apiKey, .http, .oauth2, .openIdConnect].map
    fun t => (SchemeType.name t, t))) fun t => .string t.name :=
  .variant fun t => by cases t <;> rfl

theorem SecurityScheme.faithful : FaithfulRecord SecurityScheme.decode SecurityScheme.encode :=
  .record (.next (.next (.first _
    (.mandatory SchemeType.faithful))
    (.optional .string))
    (.optional .string)) (by decide) (by
    rintro _ _ ⟨⟨⟨type⟩, description⟩, scheme⟩
    rfl)

theorem SecurityRequirement.faithful :
    Faithful SecurityRequirement.decodeList SecurityRequirement.encodeList :=
  .list (.map (.list .string))

theorem Operation.faithful : FaithfulRecord Operation.decode Operation.encode :=
  .record (.next (.next (.next (.next (.next (.next (.next (.first _
    (.optional .string))
    (.optional .string))
    (.optional .string))
    (.orEmpty (.list Parameter.faithfulRef)))
    (.optional RequestBody.faithfulRef))
    (.orEmpty (.map Response.faithfulRef)))
    (.optional .bool))
    (.optional SecurityRequirement.faithful)) (by decide) (by
    rintro _ _ ⟨⟨⟨⟨⟨⟨⟨⟨operationId⟩, summary⟩, description⟩, parameters⟩, requestBody⟩, responses⟩,
      deprecated⟩, security⟩
    rfl)

theorem PathItem.faithful : FaithfulRecord PathItem.decode PathItem.encode :=
  .record (.next (.next (.next (.next (.next (.next (.next (.next (.first _
    (.orEmpty (.list Parameter.faithfulRef)))
    (.optional Operation.faithful.faithful))
    (.optional Operation.faithful.faithful))
    (.optional Operation.faithful.faithful))
    (.optional Operation.faithful.faithful))
    (.optional Operation.faithful.faithful))
    (.optional Operation.faithful.faithful))
    (.optional Operation.faithful.faithful))
    (.optional Operation.faithful.faithful)) (by decide) (by
    rintro _ _ ⟨⟨⟨⟨⟨⟨⟨⟨⟨parameters⟩, get⟩, put⟩, post⟩, delete⟩, options⟩, head⟩, patch⟩, trace⟩
    rfl)

theorem Info.faithful : FaithfulRecord Info.decode Info.encode :=
  .record (.next (.next (.first _
    (.mandatory .string))
    (.optional .string))
    (.mandatory .string)) (by decide) (by
    rintro _ _ ⟨⟨⟨title⟩, description⟩, version⟩
    rfl)

theorem Server.faithful : FaithfulRecord Server.decode Server.encode :=
  .record (.next (.first _
    (.mandatory .string))
    (.optional .string)) (by decide) (by
    rintro _ _ ⟨⟨url⟩, description⟩
    rfl)

theorem Components.faithful : FaithfulRecord Components.decode Components.encode :=
  .record (.next (.next (.next (.next (.next (.first _
    (.orEmpty (.map Schema.faithful)))
    (.orEmpty (.map Parameter.faithfulRef)))
    (.orEmpty (.map Header.faithfulRef)))
    (.orEmpty (.map RequestBody.faithfulRef)))
    (.orEmpty (.map Response.faithfulRef)))
    (.orEmpty (.map SecurityScheme.faithful.faithful))) (by decide) (by
    rintro _ _ ⟨⟨⟨⟨⟨⟨schemas⟩, parameters⟩, headers⟩, requestBodies⟩, responses⟩, securitySchemes⟩
    rfl)

theorem Spec.faithful : FaithfulRecord Spec.decode Spec.encode :=
  .record (.next (.next (.next (.next (.next (.first _
    (.mandatory .string))
    (.mandatory Info.faithful.faithful))
    (.orEmpty (.list Server.faithful.faithful)))
    (.orEmpty (.map PathItem.faithful.faithful)))
    (.optional Components.faithful.faithful))
    (.optional SecurityRequirement.faithful)) (by decide) (by
    rintro _ _ ⟨⟨⟨⟨⟨⟨openapi⟩, info⟩, servers⟩, paths⟩, components⟩, security⟩
    rfl)

/-! ## All kinds of models -/

/-- The kinds of models that documents are made of. -/
inductive ModelKind where
  | schema
  | mediaType
  | parameter
  | parameterOrRef
  | header
  | headerOrRef
  | requestBody
  | requestBodyOrRef
  | response
  | responseOrRef
  | securityScheme
  | securityRequirements
  | operation
  | pathItem
  | info
  | server
  | components
  | spec
  deriving DecidableEq, Repr

namespace ModelKind

/-- The models of a kind. -/
def Model : ModelKind → Type
  | schema => Schema
  | mediaType => MediaType
  | parameter => Parameter
  | parameterOrRef => RefOr Parameter
  | header => Header
  | headerOrRef => RefOr Header
  | requestBody => RequestBody
  | requestBodyOrRef => RefOr RequestBody
  | response => Response
  | responseOrRef => RefOr Response
  | securityScheme => SecurityScheme
  | securityRequirements => List SecurityRequirement
  | operation => Operation
  | pathItem => PathItem
  | info => Info
  | server => Server
  | components => Components
  | spec => Spec

/-- Reading a model of a kind. -/
def decode : (kind : ModelKind) → Decoder Json kind.Model
  | schema => Schema.decode
  | mediaType => MediaType.decode
  | parameter => Parameter.decode
  | parameterOrRef => Parameter.decodeRef
  | header => Header.decode
  | headerOrRef => Header.decodeRef
  | requestBody => RequestBody.decode
  | requestBodyOrRef => RequestBody.decodeRef
  | response => Response.decode
  | responseOrRef => Response.decodeRef
  | securityScheme => SecurityScheme.decode
  | securityRequirements => SecurityRequirement.decodeList
  | operation => Operation.decode
  | pathItem => PathItem.decode
  | info => Info.decode
  | server => Server.decode
  | components => Components.decode
  | spec => Spec.decode

/-- Writing a model of a kind. -/
def encode : (kind : ModelKind) → kind.Model → Json
  | schema => Schema.encode
  | mediaType => MediaType.encode
  | parameter => Parameter.encode
  | parameterOrRef => RefOr.encode Parameter.encode
  | header => Header.encode
  | headerOrRef => RefOr.encode Header.encode
  | requestBody => RequestBody.encode
  | requestBodyOrRef => RefOr.encode RequestBody.encode
  | response => Response.encode
  | responseOrRef => RefOr.encode Response.encode
  | securityScheme => SecurityScheme.encode
  | securityRequirements => SecurityRequirement.encodeList
  | operation => Operation.encode
  | pathItem => PathItem.encode
  | info => Info.encode
  | server => Server.encode
  | components => Components.encode
  | spec => Spec.encode

theorem faithful : (kind : ModelKind) → Faithful kind.decode kind.encode
  | schema => Schema.faithful
  | mediaType => MediaType.faithful.faithful
  | parameter => Parameter.faithful.faithful
  | parameterOrRef => Parameter.faithfulRef
  | header => Header.faithful.faithful
  | headerOrRef => Header.faithfulRef
  | requestBody => RequestBody.faithful.faithful
  | requestBodyOrRef => RequestBody.faithfulRef
  | response => Response.faithful.faithful
  | responseOrRef => Response.faithfulRef
  | securityScheme => SecurityScheme.faithful.faithful
  | securityRequirements => SecurityRequirement.faithful
  | operation => Operation.faithful.faithful
  | pathItem => PathItem.faithful.faithful
  | info => Info.faithful.faithful
  | server => Server.faithful.faithful
  | components => Components.faithful.faithful
  | spec => Spec.faithful.faithful

end ModelKind

/-- A model of whatever kind that was read is read again, as the same model, from what is written for
it: nothing in it gets lost or changes its place. -/
theorem decode_encode (kind : ModelKind) {value : Json} {model : kind.Model}
    (h : kind.decode value = .ok model) : kind.decode (kind.encode model) = .ok model :=
  kind.faithful.again h

/-- A price above a bound, with marks on it that are defined elsewhere. -/
def price : Json := .object [("in", .string "query"), ("name", .string "price"),
  ("schema", .object [("minimum", .number (.integer 0)), ("type", .string "object"),
    ("exclusiveMinimum", .bool true),
    ("properties", .object [("low", .object [("exclusiveMinimum", .number (.integer 2))]),
      ("high", .bool true)]),
    ("additionalProperties", .object [("$ref", .string "#/components/schemas/Mark")])])]

theorem decode_encode_price : ∃ model, ModelKind.parameterOrRef.decode price = .ok model ∧
    ModelKind.parameterOrRef.decode (ModelKind.parameterOrRef.encode model) = .ok model :=
  let schema : Schema := .inline {
    type := some .object
    minimum := some (.ofInt 0)
    exclusiveMinimum := some (.flag true)
    properties := [("low", .inline { exclusiveMinimum := some (.bound (.ofInt 2)) }),
      ("high", .bool true)]
    additionalProperties := some (.schema (.ref "#/components/schemas/Mark")) }
  have h : ModelKind.parameterOrRef.decode price =
      .ok (.inline { name := "price", location := .query, schema := some schema }) := by
    with_unfolding_all rfl
  ⟨_, h, decode_encode .parameterOrRef h⟩

end OpenApi
