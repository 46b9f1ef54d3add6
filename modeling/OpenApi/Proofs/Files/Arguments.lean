import OpenApi.Compiler.Endpoint
import OpenApi.Compiler.HandlerType
import OpenApi.Proofs.Document.Depth
import OpenApi.Proofs.Files.Results

/-!
The arguments of handlers. The type of a handler and the function that calls it are written apart from
each other, and each decides by itself which arguments there are, which members the parameters have and
which of them may be missing. They agree (`arguments_agree`): one list of arguments is what the type
declares and what the call passes, and of the members of the parameters those that the type declares
without a question mark are flag tests or guarded by a `throw`, while the others are unpacked only where
there is something to unpack.
-/

namespace OpenApi

/-- Results that are each made of something that belongs to an element are made of a list. -/
theorem exists_forall₂ {α β γ : Type} {R : α → β → Prop} {f : β → α → γ} {xs : List α} {zs : List γ}
    (h : List.Forall₂ (fun x z => ∃ y, R x y ∧ z = f y x) xs zs) :
    ∃ ys, List.Forall₂ R xs ys ∧ zs = List.zipWith f ys xs := by
  induction h with
  | nil => exact ⟨[], .nil, rfl⟩
  | cons hz _ ih =>
    obtain ⟨y, hy, rfl⟩ := hz
    obtain ⟨ys, hys, rfl⟩ := ih
    exact ⟨y :: ys, .cons hy hys, rfl⟩

/-! ## Members of the parameters -/

/-- The constant that holds the value of a parameter, by way of another one for its raw value, and the
statements between the two. -/
structure Reading where
  raw : String
  guards : List Statement
  name : String
  value : Code

namespace Reading

variable (r : Reading)

/-- The raw value of a parameter, undefined if it did not travel. -/
def access (p : Parameter) : Code :=
  Code.cat ["request.", p.location.accessor, (quoted p.name).parens]

/-- The statements that read a parameter. -/
def statements (p : Parameter) : List Statement :=
  [.constant r.raw (access p)] ++ r.guards ++ [.constant r.name r.value]

/-- The parameter as a member of an object. -/
def member (p : Parameter) : Code := Code.cat [quoted p.name, ": ", r.name]

/-- The test whether there is a raw value. -/
def isGiven : Code := (r.raw ++ " !== undefined" : Code).parens

/-- The statement that ends the call if there is none. -/
def guard (failure : String) : Statement :=
  .line (Code.cat ["if (", r.raw, " === undefined) ", ("throw " ++ failure : String)])

/-- A value that is unpacked only if there is one. -/
def whereGiven (unpacked : Code) : Code := Code.cat [r.raw, " === undefined ? undefined : ", unpacked]

/-- The value is the test whether there is a raw value. -/
def IsFlagTest : Prop := r.guards = [] ∧ r.value = r.isGiven

/-- The value is unpacked where there must be a raw value. -/
def IsGuarded (c : Compiler) (p : Parameter) : Prop :=
  (∃ failure, r.guards = [r.guard failure]) ∧ ∃ s s', c.unpack p r.raw s = .ok (r.value, s')

/-- The value is unpacked if there is a raw value, and else undefined. -/
def IsOptional (c : Compiler) (p : Parameter) : Prop :=
  r.guards = [] ∧ ∃ unpacked s s', c.unpack p r.raw s = .ok (unpacked, s') ∧
    r.value = r.whereGiven unpacked

/-- How the value of a parameter is read. -/
def Reads (c : Compiler) (p : Parameter) (r : Reading) : Prop :=
  if p.isFlag then r.IsFlagTest
  else if p.required || p.location == .path then r.IsGuarded c p
  else r.IsOptional c p

end Reading

/-- The field that is declared for a parameter has its name for a key. -/
structure Field.Declares (p : Parameter) (f : Field) : Prop where
  name : f.name = p.name
  isKey : f.raw = false
  optional : f.optional = !(p.required || p.location == .path || p.isFlag)

/-- The field that the type of the parameters has for one of them, on a side of the call. -/
structure Field.Stands (side : Side) (p : Parameter) (f : Field) : Prop where
  name : f.name = p.name
  isKey : f.raw = false
  optional : f.optional = !p.isAlwaysGiven side

theorem Field.Stands.declares {p : Parameter} {f : Field} (h : Stands .server p f) :
    Declares p f where
  name := h.name
  isKey := h.isKey
  optional := by simp [h.optional, Parameter.isAlwaysGiven]

/-- A member of the parameters of a handler: the field that the type declares, and how the call reads
the value. -/
structure GivenMember where
  declared : Field
  read : Reading

/-- The member is that of the parameter `p`. Where it is declared without a question mark, it is a
flag test or guarded; otherwise it is unpacked only if there is a raw value. -/
structure GivenMember.IsOf (c : Compiler) (p : Parameter) (m : GivenMember) : Prop where
  name : m.declared.name = p.name
  isKey : m.declared.raw = false
  optional : m.declared.optional = !(p.required || p.location == .path || p.isFlag)
  given : m.declared.optional = false → p.isFlag = true ∧ m.read.IsFlagTest ∨ m.read.IsGuarded c p
  maybe : m.declared.optional = true → m.read.IsOptional c p

theorem GivenMember.isOf {c : Compiler} {p : Parameter} {f : Field} {r : Reading}
    (hf : Field.Declares p f) (hr : Reading.Reads c p r) : IsOf c p ⟨f, r⟩ where
  name := hf.name
  isKey := hf.isKey
  optional := hf.optional
  given hgiven := by
    have hgiven : (p.required || p.location == .path || p.isFlag) = true :=
      Bool.not_eq_eq_eq_not.1 (hf.optional.symm.trans hgiven)
    unfold Reading.Reads at hr
    split at hr
    case isTrue hflag => exact .inl ⟨hflag, hr⟩
    case isFalse hflag =>
      have hneeded : (p.required || p.location == .path) = true := by simpa [hflag] using hgiven
      rw [if_pos hneeded] at hr
      exact .inr hr
  maybe hmaybe := by
    have hmaybe : (p.required || p.location == .path) = false ∧ p.isFlag = false := by
      simpa using hf.optional.symm.trans hmaybe
    rwa [Reading.Reads, hmaybe.2, hmaybe.1] at hr

/-- What is declared and what is read for the same parameters makes up their members. -/
theorem exists_members {c : Compiler} {parameters : List Parameter} {declared : List Field}
    {readings : List Reading} (hdeclared : List.Forall₂ Field.Declares parameters declared)
    (hreadings : List.Forall₂ (Reading.Reads c) parameters readings) :
    ∃ members : List GivenMember, List.Forall₂ (GivenMember.IsOf c) parameters members ∧
      members.map (·.declared) = declared ∧ members.map (·.read) = readings := by
  induction hdeclared generalizing readings with
  | nil =>
    cases hreadings
    exact ⟨[], .nil, rfl, rfl⟩
  | cons hf _ ih =>
    cases hreadings with
    | cons hr hreadings =>
      obtain ⟨members, hmembers, rfl, rfl⟩ := ih hreadings
      exact ⟨_ :: members, .cons (GivenMember.isOf hf hr) hmembers, rfl, rfl⟩

/-! ## Arguments -/

/-- An argument of a handler: the field that its type declares, and what the call passes after the
statements that make it. -/
structure GivenArgument where
  declared : Field
  statements : List Statement
  passed : String

namespace GivenArgument

/-- The argument with the parameters: its type and the object that is passed have the same keys, one
for each parameter in order. -/
def IsParameters (c : Compiler) (parameters : List Parameter) (a : GivenArgument) : Prop :=
  ∃ members : List GivenMember, List.Forall₂ (GivenMember.IsOf c) parameters members ∧
    a.declared = .plain "params" (Field.objectType (members.map (·.declared))) ∧
    a.statements = (List.zipWith Reading.statements (members.map (·.read)) parameters).flatten ++
      [.constant a.passed
        (Code.join ", " (List.zipWith Reading.member (members.map (·.read)) parameters)).braced]

/-- The argument with the body, which is not undefined unless the type says that it may be. -/
def IsBody (body : RequestBody) (a : GivenArgument) : Prop :=
  ∃ (type accepted : Code) (statements guards : List Statement),
    a.declared = .plain "body" (if body.required then type else type ++ " | undefined") ∧
    a.statements = .line (Code.cat ["let ", a.passed, ": ", accepted, " | undefined = undefined;"]) ::
      statements ++ guards ∧
    if body.required then ∃ failure : String, guards =
      [.line (Code.cat ["if (", a.passed, " === undefined) ", ("throw " ++ failure : String)])]
    else guards = []

/-- The arguments with the parameters: there is one if there are any. -/
def ForParameters (c : Compiler) (parameters : List Parameter) (arguments : List GivenArgument) :
    Prop :=
  if parameters = [] then arguments = []
  else ∃ a, arguments = [a] ∧ a.IsParameters c parameters

/-- The arguments with the body: there is one if it has any content. -/
def ForBody (body : Option RequestBody) (arguments : List GivenArgument) : Prop :=
  match body with
  | none => arguments = []
  | some body => ∃ a, arguments = [a] ∧ a.IsBody body

end GivenArgument

/-- The arguments of the handler of an operation: its parameters, and then its body. -/
def ResolvedOperation.Gives (o : ResolvedOperation) (c : Compiler) (body : Option RequestBody)
    (arguments : List GivenArgument) : Prop :=
  ∃ parameters bodies, arguments = parameters ++ bodies ∧
    GivenArgument.ForParameters c o.parameters parameters ∧ GivenArgument.ForBody body bodies

/-! ## The side of the type -/

/-- The fields that a type declares for the parameters of a handler. -/
def DeclaresParameters (parameters : List Parameter) (fields : List Field) : Prop :=
  if parameters = [] then fields = []
  else ∃ members, List.Forall₂ Field.Declares parameters members ∧
    fields = [.plain "params" (Field.objectType members)]

/-- The fields that a type declares for the body. -/
def DeclaresBody (body : Option RequestBody) (fields : List Field) : Prop :=
  match body with
  | none => fields = []
  | some body => ∃ type : Code,
    fields = [.plain "body" (if body.required then type else type ++ " | undefined")]

namespace Compiler

variable {c : Compiler} {o : ResolvedOperation}

theorem parametersType_stands (side : Side) : Ensures (c.parametersType o side) fun type =>
    if o.parameters = [] then type = none
    else ∃ fields, List.Forall₂ (Field.Stands side) o.parameters fields ∧
      type = some (Field.objectType fields) := by
  unfold parametersType
  split
  case isTrue hempty =>
    simp only [if_pos (List.isEmpty_iff.1 hempty)]
    exact .pure rfl
  case isFalse hempty =>
    simp only [if_neg (mt List.isEmpty_iff.2 hempty)]
    refine .bind (.mapM fun p _ => ?_) fun fields hfields => .pure ⟨fields, hfields, rfl⟩
    exact .bind_any fun type => .pure ⟨rfl, rfl, rfl⟩

theorem parametersType_declares : Ensures (c.parametersType o .server) fun type =>
    DeclaresParameters o.parameters (type.map (Field.plain "params")).toList := by
  refine (parametersType_stands .server).mono fun type htype => ?_
  unfold DeclaresParameters
  split at htype
  case isTrue hempty =>
    rw [if_pos hempty, htype]
    rfl
  case isFalse hempty =>
    obtain ⟨fields, hfields, rfl⟩ := htype
    rw [if_neg hempty]
    exact ⟨fields, hfields.imp fun p f hf => hf.declares, rfl⟩

/-- The type of a handler declares the parameters if there are any, and then the body if there is
one. -/
theorem handlerType_declares : Ensures (c.handlerType o) fun handler =>
    ∃ (body : Option RequestBody) (parameters bodies : List Field) (result : Code),
      c.document.requestBody? o = .ok body ∧
      handler = Code.cat ["export type ", o.handlerType, " = ",
        (Field.arguments (parameters ++ bodies)).parens, " => Promise<", result, ">;\n"] ∧
      DeclaresParameters o.parameters parameters ∧ DeclaresBody body bodies := by
  refine .bind (.lift parametersType_declares) fun parameters hparameters => ?_
  refine .bind_read' fun body hbody => ?_
  refine .bind (P := fun field : Option Field => DeclaresBody body field.toList) ?_
    fun field hfield => .bind_any fun cases => .bind_any fun variants => .pure ?_
  · cases body with
    | none => exact .pure rfl
    | some body =>
      rw [Option.mapM_some]
      exact .map _ (.bind_any fun type => .pure ⟨type, rfl⟩)
  · exact ⟨body, _, _, _, hbody, rfl, hparameters, hfield⟩

end Compiler

/-! ## The side of the call -/

/-- The statements that make the parameters of a handler, and the names under which they are passed. -/
def PassesParameters (c : Compiler) (parameters : List Parameter)
    (made : List Statement × List String) : Prop :=
  if parameters = [] then made = ([], [])
  else ∃ readings name, List.Forall₂ (Reading.Reads c) parameters readings ∧
    made = ((List.zipWith Reading.statements readings parameters).flatten ++
      [.constant name (Code.join ", " (List.zipWith Reading.member readings parameters)).braced],
      [name])

/-- The statements that make the body, which is not undefined after them if it must not be. -/
def PassesBody (body : Option RequestBody) (made : List Statement × List String) : Prop :=
  match body with
  | none => made = ([], [])
  | some body => ∃ (name : String) (accepted : Code) (statements guards : List Statement),
    made = (.line (Code.cat ["let ", name, ": ", accepted, " | undefined = undefined;"]) ::
      statements ++ guards, [name]) ∧
    if body.required then ∃ failure : String, guards =
      [.line (Code.cat ["if (", name, " === undefined) ", ("throw " ++ failure : String)])]
    else guards = []

namespace Compiler

variable {c : Compiler} {o : ResolvedOperation}

theorem throwMalformed_throws (location name message : String) :
    Ensures (Compile.throwMalformed location name message) fun failure =>
      ∃ rest, failure = "throw " ++ rest := by
  refine (Compile.throwMalformed_eq location name message).mono ?_
  rintro _ rfl
  have hthrow : "throw new Runtime.MalformedError(" = "throw " ++ "new Runtime.MalformedError(" := by
    decide
  simp only [hthrow, String.append_assoc]
  exact ⟨_, rfl⟩

theorem unpack_flag {p : Parameter} (h : p.isFlag = true) (raw : Code) :
    Ensures (c.unpack p raw) (· = (raw ++ " !== undefined" : Code).parens) := by
  refine .bind_read fun form hform => ?_
  obtain rfl : form = .flag := by
    replace hform : p.form = .ok form := hform
    rw [Parameter.form, if_pos h] at hform
    split at hform
    · cases hform
      rfl
    · cases hform
  exact .pure rfl

theorem readParameter_reads (p : Parameter) : Ensures (c.readParameter p) fun read =>
    ∃ r : Reading, r.Reads c p ∧ read = (r.statements p, r.member p) := by
  refine .bind_any fun raw => ?_
  by_cases hflag : p.isFlag = true
  case pos =>
    refine .bind (unpack_flag hflag raw) fun value hvalue => ?_
    simp only [hflag, Bool.not_true, Bool.false_and, Bool.not_false, if_true]
    refine .bind (P := (· = [])) (.pure rfl) fun guards hguards => .bind_any fun name => .pure ?_
    refine ⟨⟨raw, guards, name, value⟩, ?_, rfl⟩
    rw [Reading.Reads, if_pos hflag]
    exact ⟨hguards, hvalue⟩
  case neg =>
    refine .bind (.result _) fun unpacked hunpacked => ?_
    by_cases hneeded : (p.required || p.location == .path) = true
    case pos =>
      simp only [hflag, hneeded, Bool.not_false, Bool.not_true, Bool.true_and, Bool.false_or,
        Bool.false_eq_true, if_false, if_true]
      refine .bind (throwMalformed_throws _ _ _) fun failure ⟨rest, hfailure⟩ => ?_
      refine .bind (P := fun guards => ∃ rest : String, guards = [Statement.line
        (Code.cat ["if (", raw, " === undefined) ", ("throw " ++ rest : String)])])
        (.pure ⟨rest, by rw [hfailure]⟩) fun guards hguards => .bind_any fun name => .pure ?_
      refine ⟨⟨raw, guards, name, unpacked⟩, ?_, rfl⟩
      rw [Reading.Reads, if_neg hflag, if_pos hneeded]
      exact ⟨hguards, hunpacked⟩
    case neg =>
      simp only [hflag, hneeded, Bool.not_false, Bool.true_and, Bool.or_self, Bool.false_eq_true,
        if_false, if_true]
      refine .bind (P := (· = [])) (.pure rfl) fun guards hguards => .bind_any fun name => .pure ?_
      refine ⟨⟨raw, guards, name, _⟩, ?_, rfl⟩
      rw [Reading.Reads, if_neg hflag, if_neg hneeded]
      exact ⟨hguards, unpacked, _, _, hunpacked.choose_spec.choose_spec, rfl⟩

theorem readParameters_passes :
    Ensures (c.readParameters o) (PassesParameters c o.parameters) := by
  unfold readParameters PassesParameters
  split
  case isTrue hempty =>
    simp only [if_pos (List.isEmpty_iff.1 hempty)]
    exact .pure rfl
  case isFalse hempty =>
    simp only [if_neg (mt List.isEmpty_iff.2 hempty)]
    refine .bind (.mapM fun p _ => readParameter_reads p) fun read hread => ?_
    obtain ⟨readings, hreadings, rfl⟩ :=
      exists_forall₂ (f := fun r p => (Reading.statements r p, Reading.member r p)) hread
    refine .bind_any fun name => .pure ⟨readings, name, hreadings, ?_⟩
    rw [List.flatMap_def, List.map_zipWith, List.map_zipWith]

theorem readBody_passes (body : Option RequestBody) :
    Ensures (c.readBody body) (PassesBody body) := by
  cases body with
  | none => exact .pure rfl
  | some body =>
    refine .bind_any fun name => .bind_any fun accepted => .bind_any fun contentType => ?_
    refine .bind_any fun accepts => .bind_any fun clauses => .bind_any fun unsupported => ?_
    dsimp only
    by_cases hrequired : body.required = true
    case pos =>
      simp only [hrequired, Bool.not_true, Bool.false_eq_true, if_false]
      refine .bind (throwMalformed_throws _ _ _) fun failure ⟨rest, hfailure⟩ => ?_
      refine .bind (P := fun guards => ∃ rest : String, guards = [Statement.line
        (Code.cat ["if (", name, " === undefined) ", ("throw " ++ rest : String)])])
        (.pure ⟨rest, by rw [hfailure]⟩) fun guards hguards => .pure ?_
      exact ⟨name, accepted, [_, _], guards, rfl, (if_pos hrequired).mpr hguards⟩
    case neg =>
      simp only [hrequired, Bool.not_false, if_true]
      refine .bind (P := (· = [])) (.pure rfl) fun guards hguards => .pure ?_
      exact ⟨name, accepted, [_, _], guards, rfl, (if_neg hrequired).mpr hguards⟩

/-- The function that calls a handler makes the parameters if there are any, and then the body if there
is one, and passes them. -/
theorem endpoint_passes (handlerType : String) : Ensures (c.endpoint o handlerType) fun endpoint =>
    ∃ (body : Option RequestBody) (parameters bodies : List Statement × List String)
      (rest : List Statement) (request response result : String),
      c.document.requestBody? o = .ok body ∧
      endpoint = (Statement.only (Code.cat ["export async function ", o.endpoint,
          (Field.arguments [.plain "handler" handlerType, .plain "request" request]).parens,
          ": Promise<", response, ">"])
        (parameters.1 ++ bodies.1 ++ .constant result (Code.cat ["await handler",
          (Code.join ", " ((parameters.2 ++ bodies.2).map Code.site)).parens]) :: rest)).code 0 ∧
      PassesParameters c o.parameters parameters ∧ PassesBody body bodies := by
  refine .bind_any fun request => .bind_any fun response => ?_
  refine .bind (.lift readParameters_passes) fun ⟨makeParameters, parameters⟩ hparameters => ?_
  refine .bind_read' fun body hbody => ?_
  refine .bind (.lift (readBody_passes body)) fun ⟨makeBody, bodies⟩ hbodies => ?_
  refine .bind_any fun result => .bind_any fun cases => ?_
  refine .bind (P := fun answer => ∃ rest, answer = .constant result (Code.cat ["await handler",
    (Code.join ", " ((parameters ++ bodies).map Code.site)).parens]) :: rest) (.lift ?_)
    fun answer ⟨rest, hanswer⟩ => .pure ?_
  · exact .bind_any fun cases => .bind_any fun failure => .pure ⟨_, rfl⟩
  · subst hanswer
    exact ⟨body, (makeParameters, parameters), (makeBody, bodies), rest, request, response, result,
      hbody, rfl, hparameters, hbodies⟩

end Compiler

/-! ## Both sides -/

/-- What the type declares and what the call passes for the parameters is one argument. -/
theorem exists_parameters {c : Compiler} {parameters : List Parameter} {fields : List Field}
    {made : List Statement × List String} (hfields : DeclaresParameters parameters fields)
    (hmade : PassesParameters c parameters made) : ∃ arguments : List GivenArgument,
      arguments.map (·.declared) = fields ∧ arguments.flatMap (·.statements) = made.1 ∧
      arguments.map (·.passed) = made.2 ∧ GivenArgument.ForParameters c parameters arguments := by
  unfold DeclaresParameters at hfields
  unfold PassesParameters at hmade
  unfold GivenArgument.ForParameters
  split at hfields
  case isTrue hnil =>
    simp only [if_pos hnil] at hmade ⊢
    subst hfields hmade
    exact ⟨[], rfl, rfl, rfl, rfl⟩
  case isFalse hne =>
    simp only [if_neg hne] at hmade ⊢
    obtain ⟨declared, hdeclared, rfl⟩ := hfields
    obtain ⟨readings, name, hreadings, rfl⟩ := hmade
    obtain ⟨members, hmembers, rfl, rfl⟩ := exists_members hdeclared hreadings
    exact ⟨[⟨_, _, name⟩], rfl, List.append_nil _, rfl, _, rfl, members, hmembers, rfl, rfl⟩

/-- So is what there is for the body. -/
theorem exists_body {body : Option RequestBody} {fields : List Field}
    {made : List Statement × List String} (hfields : DeclaresBody body fields)
    (hmade : PassesBody body made) : ∃ arguments : List GivenArgument,
      arguments.map (·.declared) = fields ∧ arguments.flatMap (·.statements) = made.1 ∧
      arguments.map (·.passed) = made.2 ∧ GivenArgument.ForBody body arguments := by
  cases body with
  | none =>
    cases hfields
    cases hmade
    exact ⟨[], rfl, rfl, rfl, rfl⟩
  | some body =>
    obtain ⟨type, rfl⟩ := hfields
    obtain ⟨name, accepted, statements, guards, rfl, hguards⟩ := hmade
    refine ⟨[⟨_, _, name⟩], rfl, List.append_nil _, rfl, _, rfl, ?_⟩
    exact ⟨type, accepted, statements, guards, rfl, rfl, hguards⟩

/-- The type of a handler and the function that calls it agree on the arguments. -/
theorem arguments_agree {c c' : Compiler} (hdocument : c.document = c'.document)
    {o : ResolvedOperation} {handler endpoint : Code} {handlerType : String}
    {s s₁ t t₁ : Progress} {issued issued₁ issued' issued'₁ : List Warning}
    (hhandler : c.handlerType o s issued = (.ok (handler, s₁), issued₁))
    (hendpoint : c'.endpoint o handlerType t issued' = (.ok (endpoint, t₁), issued'₁)) :
    ∃ (body : Option RequestBody) (arguments : List GivenArgument) (returned : Code)
      (request response result : String) (rest : List Statement),
      c.document.requestBody? o = .ok body ∧ o.Gives c' body arguments ∧
      handler = Code.cat ["export type ", o.handlerType, " = ",
        (Field.arguments (arguments.map (·.declared))).parens, " => Promise<", returned, ">;\n"] ∧
      endpoint = (Statement.only (Code.cat ["export async function ", o.endpoint,
          (Field.arguments [.plain "handler" handlerType, .plain "request" request]).parens,
          ": Promise<", response, ">"])
        (arguments.flatMap (·.statements) ++ .constant result (Code.cat ["await handler",
          (Code.join ", " (arguments.map fun a => Code.site a.passed)).parens]) :: rest)).code 0 := by
  obtain ⟨body, fields, bodyFields, returned, hbody, rfl, hfields, hbodyFields⟩ :=
    Compiler.handlerType_declares s handler s₁ ⟨_, _, hhandler⟩
  obtain ⟨body', made, madeBody, rest, request, response, result, hbody', rfl, hmade, hmadeBody⟩ :=
    Compiler.endpoint_passes handlerType t endpoint t₁ ⟨_, _, hendpoint⟩
  obtain rfl : body = body' := Except.ok.inj (hbody.symm.trans (hdocument ▸ hbody'))
  obtain ⟨parameters, hdeclared, hstatements, hpassed, hparameters⟩ :=
    exists_parameters hfields hmade
  obtain ⟨bodies, hdeclared', hstatements', hpassed', hbodies⟩ :=
    exists_body hbodyFields hmadeBody
  refine ⟨body, parameters ++ bodies, returned, request, response, result, rest, hbody,
    ⟨parameters, bodies, rfl, hparameters, hbodies⟩, ?_, ?_⟩
  · rw [List.map_append, hdeclared, hdeclared']
  · rw [List.flatMap_append, hstatements, hstatements', ← hpassed, ← hpassed', ← List.map_append,
      List.map_map]
    rfl

/-- A document with the body of a note. -/
def noteDocument : Document where
  raw := .object [("components", .object [("requestBodies", .object [("Note", .object [
    ("required", .bool true), ("content", .object [("text/plain", .object [])])])])])]
  spec := { openapi := "3.0.3", info := { title := "Notes", version := "1" } }

/-- An operation with a parameter of each sort, and a body that is defined elsewhere. -/
def putNote : ResolvedOperation where
  path := "/notes/\x7bid\x7d"
  method := .put
  operation := {
    operationId := some "putNote"
    requestBody := some (.ref "#/components/requestBodies/Note")
    responses := [("204", .inline {})] }
  id := "putNote"
  parameters := [
    { name := "id", location := .path, schema := some (.inline { type := some .string }) },
    { name := "silent", location := .query, isFlag := true, allowEmptyValue := true },
    { name := "page", location := .query, schema := some (.inline { type := some .integer }) },
    { name := "X-Key", location := .header, required := true, content := [("text/plain", {})] }]
  authenticated := false

/-- What is written for its handler agrees: there are the parameters and the body, and only the number
of the page may be missing. -/
theorem arguments_agree_putNote :
    ∃ (c : Compiler) (handler endpoint returned : Code) (parameters body : GivenArgument)
      (members : List GivenMember) (request response result : String) (rest : List Statement),
      handler = Code.cat ["export type ", putNote.handlerType, " = ",
        (Field.arguments [parameters.declared, body.declared]).parens, " => Promise<", returned,
        ">;\n"] ∧
      endpoint = (Statement.only (Code.cat ["export async function ", putNote.endpoint,
          (Field.arguments [.plain "handler" "Types.PutNoteHandler", .plain "request" request]).parens,
          ": Promise<", response, ">"])
        (parameters.statements ++ body.statements ++ .constant result (Code.cat ["await handler",
          (Code.join ", " [parameters.passed, body.passed]).parens]) :: rest)).code 0 ∧
      List.Forall₂ (GivenMember.IsOf c) putNote.parameters members ∧
      parameters.declared = .plain "params" (Field.objectType (members.map (·.declared))) ∧
      members.map (·.declared.optional) = [false, false, true, false] ∧
      body.IsBody { required := true, content := [("text/plain", {})] } := by
  let c : Compiler := { document := noteDocument, formats := Registry.builtin "./runtime" }
  let c' : Compiler := { c with qualifier := some "Types" }
  obtain ⟨⟨handler, s⟩, hhandler, _⟩ := Except.pair_eq_ok_of_any
    (show (c.handlerType putNote {} []).1.toOption.any (fun _ => true) = true by decide +kernel)
  obtain ⟨⟨endpoint, t⟩, hendpoint, _⟩ := Except.pair_eq_ok_of_any
    (show (c'.endpoint putNote "Types.PutNoteHandler" {} []).1.toOption.any (fun _ => true) = true by
      decide +kernel)
  obtain ⟨body, arguments, returned, request, response, result, rest, hbody, hgives, hhandler,
    hendpoint⟩ := arguments_agree (show c.document = c'.document from rfl) hhandler hendpoint
  have hnote : c.document.requestBody? putNote =
      .ok (some { required := true, content := [("text/plain", {})] }) := by
    with_unfolding_all rfl
  obtain rfl := Except.ok.inj (hbody.symm.trans hnote)
  obtain ⟨_, _, rfl, ⟨parameters, rfl, members, hmembers, hdeclared, _⟩, body, rfl, hisBody⟩ := hgives
  refine ⟨c', handler, endpoint, returned, parameters, body, members, request, response, result, rest,
    hhandler, ?_, hmembers, hdeclared, ?_, hisBody⟩
  · simpa using hendpoint
  · obtain _ | ⟨h₁, _ | ⟨h₂, _ | ⟨h₃, _ | ⟨h₄, _ | _⟩⟩⟩⟩ := hmembers
    simp [h₁.optional, h₂.optional, h₃.optional, h₄.optional]

end OpenApi
