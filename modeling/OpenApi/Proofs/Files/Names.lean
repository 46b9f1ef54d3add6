import OpenApi.Proofs.Files.Declarations

/-!
The names that generated files declare, and when they are distinct. All names come from keys, titles and
identifiers of operations by maps that are not injective, and nothing compares them: so the names of a
file are distinct if and only if those maps keep apart what they are made from. The names that a file has
of its own are apart from those, except that an operation of a client may be named after its server.
-/

namespace OpenApi

/-! ## Names -/

theorem prepend_injective (start : String) : Function.Injective fun name : String => start ++ name :=
  fun _ _ h => (String.append_right_inj _).1 h

/-- The names of the types for all components. -/
def Document.componentNames (doc : Document) : List String :=
  doc.spec.schemas.map fun entry => doc.componentName entry.1

namespace Compiler

variable (c : Compiler)

open Classical in
/-- The names of the types whose values have anything to convert in a direction. -/
noncomputable def convertedNames (d : Direction) : List String :=
  (c.document.spec.schemas.filter fun entry => Pointer.ofSchema entry.1 ∈ needed c d ∅).map
    fun entry => c.document.componentName entry.1

/-- The names of components stay apart, those of their functions do, and no component is named like a
function. -/
structure NamesApart : Prop where
  types : c.document.componentNames.Nodup
  functions (d : Direction) : ((c.convertedNames d).map Name.capitalized).Nodup
  between (d : Direction) : ∀ name ∈ c.convertedNames d,
    d.verb ++ Name.capitalized name ∉ c.document.componentNames

/-- The names in the file of types: for each component its type and its functions. -/
noncomputable def typeNames : List String :=
  c.document.spec.schemas.flatMap fun entry =>
    c.document.componentName entry.1 :: c.conversions entry.1

theorem map_componentDeclarations (r : Reader) :
    (c.document.spec.schemas.flatMap (c.componentDeclarations r)).map (·.name) = c.typeNames := by
  rw [List.map_flatMap]
  refine congrArg (List.flatMap · _) (funext fun entry => ?_)
  simp [componentDeclarations, Function.comp_def]

/-- The functions for a direction, in the order of the components. -/
noncomputable def conversionNames (d : Direction) : List String :=
  (c.convertedNames d).map fun name => d.verb ++ Name.capitalized name

open Classical in
theorem flatMap_conversions (d : Direction) :
    (c.document.spec.schemas.flatMap fun entry =>
      if Pointer.ofSchema entry.1 ∈ needed c d ∅ then [c.conversionName entry.1 d] else []) =
      c.conversionNames d := by
  rw [conversionNames, convertedNames, List.map_map]
  induction c.document.spec.schemas with
  | nil => rfl
  | cons entry entries ih =>
    rw [List.flatMap_cons, ih]
    by_cases hneeded : Pointer.ofSchema entry.1 ∈ needed c d ∅ <;> simp [hneeded, conversionName]

theorem typeNames_perm : c.typeNames.Perm
    (c.document.componentNames ++ (c.conversionNames .parse ++ c.conversionNames .serialize)) := by
  classical
  have hconversions : (c.document.spec.schemas.flatMap fun entry => c.conversions entry.1).Perm
      (c.conversionNames .parse ++ c.conversionNames .serialize) := by
    rw [← flatMap_conversions, ← flatMap_conversions]
    simpa [conversions] using (List.flatMap_append_perm _ _ _).symm
  exact (List.map_append_flatMap_perm _ _ _).symm.trans (hconversions.append_left _)

theorem parse_ne_serialize (name name' : String) :
    Direction.parse.verb ++ name ≠ Direction.serialize.verb ++ name' := fun h => by
  simpa [Direction.verb] using congrArg String.toList h

theorem nodup_conversionNames (d : Direction) :
    (c.conversionNames d).Nodup ↔ ((c.convertedNames d).map Name.capitalized).Nodup := by
  have hmap : c.conversionNames d = ((c.convertedNames d).map Name.capitalized).map (d.verb ++ ·) := by
    rw [List.map_map]
    rfl
  rw [hmap, List.nodup_map_iff (prepend_injective d.verb)]

/-- All names in the file of types are distinct if the names stay apart, and only then. -/
theorem nodup_typeNames : c.typeNames.Nodup ↔ c.NamesApart := by
  rw [c.typeNames_perm.nodup_iff, List.nodup_append, List.nodup_append, nodup_conversionNames,
    nodup_conversionNames]
  constructor
  · rintro ⟨htypes, ⟨hparse, hserialize, -⟩, hbetween⟩
    refine ⟨htypes, fun d => ?_, fun d name hname hmem => ?_⟩
    · cases d
      · exact hparse
      · exact hserialize
    · have hfunction : d.verb ++ Name.capitalized name ∈
          c.conversionNames .parse ++ c.conversionNames .serialize := by
        have hmem : d.verb ++ Name.capitalized name ∈ c.conversionNames d := List.mem_map_of_mem hname
        cases d
        · exact List.mem_append_left _ hmem
        · exact List.mem_append_right _ hmem
      exact hbetween _ hmem _ hfunction rfl
  · intro h
    refine ⟨h.types, ⟨h.functions .parse, h.functions .serialize, ?_⟩, ?_⟩
    · intro name hname name' hname'
      obtain ⟨name, _, rfl⟩ := List.mem_map.1 hname
      obtain ⟨name', _, rfl⟩ := List.mem_map.1 hname'
      exact parse_ne_serialize _ _
    · rintro name hname _ hfunction rfl
      rcases List.mem_append.1 hfunction with hfunction | hfunction
      all_goals
        obtain ⟨converted, hconverted, rfl⟩ := List.mem_map.1 hfunction
        exact h.between _ converted hconverted hname

end Compiler

/-- A further name stays apart from names that an injective map makes, if it is none of them. -/
theorem nodup_cons_map {make : String → String} (hmake : Function.Injective make) {further : String}
    (hfurther : ∀ name, make name ≠ further) (names : List String) :
    (further :: names.map make).Nodup ↔ names.Nodup := by
  rw [List.nodup_cons, List.nodup_map_iff hmake]
  refine and_iff_right fun hmem => ?_
  obtain ⟨name, _, h⟩ := List.mem_map.1 hmem
  exact hfurther name h

/-- The names in the file of validators. -/
def Document.validatorNames (doc : Document) : List String :=
  "validator" :: doc.componentNames.map fun name => "validate" ++ Name.capitalized name

theorem Document.nodup_validatorNames (doc : Document) :
    doc.validatorNames.Nodup ↔ (doc.componentNames.map Name.capitalized).Nodup := by
  have hfurther (name : String) : "validate" ++ name ≠ "validator" := fun h => by
    simpa using congrArg String.toList h
  have h := nodup_cons_map (prepend_injective "validate") hfurther
    (doc.componentNames.map Name.capitalized)
  rw [List.map_map] at h
  exact h

section

variable (operations : List ResolvedOperation)

/-- The names in the file of a client: that of the address of the server, if the document has one, and
those of the operations. -/
def clientNames (server : Option String) : List String :=
  (server.map fun _ => "defaultServer").toList ++ operations.map (·.functionName)

/-- An operation may be named like the address of the server. -/
theorem nodup_clientNames (server : Option String) : (clientNames operations server).Nodup ↔
    (operations.map (·.functionName)).Nodup ∧
      (server.isSome → "defaultServer" ∉ operations.map (·.functionName)) := by
  cases server with
  | none => simp [clientNames]
  | some url => simp [clientNames, and_comm]

/-- The names in the file of handler types. -/
def handlerTypeNames : List String := operations.map (·.handlerType) ++ ["Handlers"]

theorem nodup_handlerTypeNames :
    (handlerTypeNames operations).Nodup ↔ (operations.map fun o => Name.pascal o.id).Nodup := by
  have hinjective : Function.Injective fun name : String => name ++ "Handler" :=
    fun _ _ h => (String.append_left_inj _).1 h
  have hfurther (name : String) : name ++ "Handler" ≠ "Handlers" := fun h => by
    simpa using congrArg (fun text : String => text.toList.getLast?) h
  have h := nodup_cons_map hinjective hfurther (operations.map fun o => Name.pascal o.id)
  rw [List.map_map] at h
  rw [handlerTypeNames, List.nodup_append_comm]
  exact h

/-- The names in the file of a server. -/
def serverNames : List String := operations.map (·.endpoint) ++ ["routes"]

theorem nodup_serverNames :
    (serverNames operations).Nodup ↔ (operations.map fun o => Name.pascal o.id).Nodup := by
  have hfurther (name : String) : "handle" ++ name ≠ "routes" := fun h => by
    simpa using congrArg String.toList h
  have h := nodup_cons_map (prepend_injective "handle") hfurther
    (operations.map fun o => Name.pascal o.id)
  rw [List.map_map] at h
  rw [serverNames, List.nodup_append_comm]
  exact h

/-- The text of the record of all handlers. Its keys are the names of the functions of a client. -/
def handlersText : String :=
  "export type Handlers = \x7b\n" ++ String.join (operations.map fun o =>
    "  " ++ Text.quoted o.functionName ++ ": " ++ o.handlerType ++ ";\n") ++ "\x7d;\n"

end

theorem render_handlers (operations : List ResolvedOperation) :
    (Code.cat (operations.map fun o =>
      Code.cat ["  ", quoted o.functionName, ": ", Code.site o.handlerType, ";\n"])).render =
    String.join (operations.map fun o =>
      "  " ++ Text.quoted o.functionName ++ ": " ++ o.handlerType ++ ";\n") := by
  have hfield (o : ResolvedOperation) :
      (Code.cat ["  ", quoted o.functionName, ": ", Code.site o.handlerType, ";\n"]).render =
        "  " ++ Text.quoted o.functionName ++ ": " ++ o.handlerType ++ ";\n" := by
    simp [-String.reduceAppend, quoted, String.append_assoc]
  rw [Code.render_cat, List.map_map]
  simp only [Function.comp_def, hfield]

/-- The file of handler types ends with the record. -/
theorem Compiler.handlerTypesBody_text (c : Compiler) : Ensures c.handlerTypesBody fun code =>
    ∃ operations, c.document.operations = .ok operations ∧
      ∃ before, code.render = before ++ handlersText operations := by
  refine .bind_read' fun operations hoperations => ?_
  refine .bind_any fun types => ?_
  refine .pure ⟨operations, hoperations, (Code.cat types).render, ?_⟩
  have hfields := render_handlers operations
  unfold handlersText
  generalize Code.cat (operations.map fun o => Code.cat ["  ", quoted o.functionName, ": ",
    Code.site o.handlerType, ";\n"]) = fields at hfields ⊢
  generalize String.join (operations.map fun o =>
    "  " ++ Text.quoted o.functionName ++ ": " ++ o.handlerType ++ ";\n") = text at hfields ⊢
  subst hfields
  simp [-String.reduceAppend, String.append_assoc]

/-! ## Files -/

/-- All components have the names of their types. -/
def Document.IsNamed (doc : Document) : Prop :=
  ∀ entry ∈ doc.spec.schemas, doc.refName (Pointer.ofSchema entry.1) = .ok (doc.componentName entry.1)

namespace Plan

/-- The compiler of the file of types. -/
def compiler (plan : Plan) (document : Document) : Compiler := { document, formats := plan.formats }

/-- What the file declares, and when its names are distinct. -/
inductive DeclaresNames (plan : Plan) (document : Document) (file : File) : Prop
  | types (path : file.path = "types.ts") (named : document.IsNamed)
    (names : file.content.declaredNames = (plan.compiler document).typeNames)
    (nodup : file.content.declaredNames.Nodup ↔ (plan.compiler document).NamesApart)
  | validators (path : file.path = "validators.ts") (named : document.IsNamed)
    (names : file.content.declaredNames = document.validatorNames)
    (nodup : file.content.declaredNames.Nodup ↔
      (document.componentNames.map Name.capitalized).Nodup)
  | client {operations : List ResolvedOperation} (path : file.path = "client.ts")
    (named : document.operations = .ok operations)
    (names : file.content.declaredNames = clientNames operations document.spec.defaultServer)
    (nodup : file.content.declaredNames.Nodup ↔ (operations.map (·.functionName)).Nodup ∧
      (document.spec.defaultServer.isSome → "defaultServer" ∉ operations.map (·.functionName)))
  | handlerTypes {operations : List ResolvedOperation} (path : file.path = "server-types.ts")
    (named : document.operations = .ok operations)
    (names : file.content.declaredNames = handlerTypeNames operations)
    (nodup : file.content.declaredNames.Nodup ↔ (operations.map fun o => Name.pascal o.id).Nodup)
    (record : ∃ before, file.content.render = before ++ handlersText operations)
  | server {operations : List ResolvedOperation} (path : file.path = "server.ts")
    (named : document.operations = .ok operations)
    (names : file.content.declaredNames = serverNames operations)
    (nodup : file.content.declaredNames.Nodup ↔ (operations.map fun o => Name.pascal o.id).Nodup)

variable {plan : Plan}

/-- A file is what its compiler has written, under its path and after a head. -/
theorem file_eq {path : String} {c : Compiler} {siblings : List (String × String)}
    {write : Compiler → Write Code} {file : File}
    (h : Yields.yields (plan.file path c siblings write) file) : file.path = path ∧
      ∃ body progress usage, Yields.yields (write c {}) (body, progress) ∧
        file.content = File.contentOf usage plan.runtimeModule siblings body := by
  obtain ⟨⟨body, progress⟩, hbody, h⟩ := Yields.yields_bind h
  cases Yields.yields_pure h
  exact ⟨rfl, body, progress, _, hbody, rfl⟩

section

variable {document : Document} {file : File} (hmade : plan.formats.All Format.IsMade)

include hmade

theorem others_suit :
    Audit.plain.Suits { document, formats := plan.formats, qualifier := some "Types" } :=
  Audit.plain_suits hmade fun _ h => (Option.mem_some.1 h).symm

/-- The types of the components and the functions that convert them. -/
theorem typesFile_names (h : Yields.yields (plan.file "types.ts"
      { document, formats := plan.formats } [] fun c => c.typesBody) file) :
    file.path = "types.ts" ∧ document.IsNamed ∧
      file.content.declaredNames = (plan.compiler document).typeNames := by
  obtain ⟨hpath, body, progress, usage, ⟨_, _, hbody⟩, hcontent⟩ := file_eq h
  have hsuits : Audit.plain.Suits { document, formats := plan.formats } :=
    Audit.plain_suits hmade nofun
  obtain ⟨hnamed, hlists⟩ := Compiler.typesBody_lists hsuits Audit.plain_covers
    Audit.plain_mayCall Audit.plain_hidesFormats rfl (congrArg Prod.fst hbody)
  refine ⟨hpath, hnamed, ?_⟩
  rw [hcontent, hlists.names.declaredNames, Compiler.map_componentDeclarations]
  rfl

/-- A function for each component that tells whether a value has its type. -/
theorem validatorsFile_names (h : Yields.yields (plan.file "validators.ts"
      { document, formats := plan.formats, qualifier := some "Types" } []
      fun c => c.validatorsBody) file) :
    file.path = "validators.ts" ∧ document.IsNamed ∧
      file.content.declaredNames = document.validatorNames := by
  obtain ⟨hpath, body, progress, usage, ⟨_, _, hbody⟩, hcontent⟩ := file_eq h
  obtain ⟨hnamed, hlists⟩ := Compiler.validatorsBody_lists (others_suit hmade) Audit.plain_covers
    Audit.plain_mayCall Audit.plain_hidesFormats {} body progress (congrArg Prod.fst hbody)
  refine ⟨hpath, hnamed, ?_⟩
  rw [hcontent, hlists.declaredNames, ← List.map_eq_flatMap, Document.validatorNames,
    Document.componentNames, List.map_map]
  rfl

/-- A function for each operation, behind the address of a server. -/
theorem clientFile_names (h : Yields.yields (plan.file "client.ts"
      { document, formats := plan.formats, qualifier := some "Types" } []
      fun c => c.clientBody) file) :
    file.path = "client.ts" ∧ ∃ operations, document.operations = .ok operations ∧
      file.content.declaredNames = clientNames operations document.spec.defaultServer := by
  obtain ⟨hpath, body, progress, usage, hbody, hcontent⟩ := file_eq h
  obtain ⟨operations, hoperations, hlists⟩ := Compiler.clientBody_lists (others_suit hmade)
    Audit.plain_covers Audit.plain_mayCall Audit.plain_hidesFormats {} body progress hbody
  refine ⟨hpath, operations, hoperations, ?_⟩
  rw [hcontent, hlists.declaredNames, ← List.map_eq_flatMap]
  rfl

/-- A type for the handler of each operation, and that of all of them. -/
theorem handlerTypesFile_names (h : Yields.yields (plan.file "server-types.ts"
      { document, formats := plan.formats, qualifier := some "Types" } []
      fun c => c.handlerTypesBody) file) :
    file.path = "server-types.ts" ∧ ∃ operations, document.operations = .ok operations ∧
      file.content.declaredNames = handlerTypeNames operations := by
  obtain ⟨hpath, body, progress, usage, hbody, hcontent⟩ := file_eq h
  obtain ⟨operations, hoperations, hlists⟩ := Compiler.handlerTypesBody_lists (others_suit hmade)
    Audit.plain_covers Audit.plain_hidesFormats {} body progress hbody
  refine ⟨hpath, operations, hoperations, ?_⟩
  rw [hcontent, hlists.declaredNames, ← List.map_eq_flatMap]
  rfl

/-- A function for each operation that calls its handler, and the table of routes. -/
theorem serverFile_names (h : Yields.yields (plan.file "server.ts"
      { document, formats := plan.formats, qualifier := some "Types" }
      [("ServerTypes", "./server-types")] fun c => c.serverBody) file) :
    file.path = "server.ts" ∧ ∃ operations, document.operations = .ok operations ∧
      file.content.declaredNames = serverNames operations := by
  obtain ⟨hpath, body, progress, usage, hbody, hcontent⟩ := file_eq h
  obtain ⟨operations, hoperations, hlists⟩ := Compiler.serverBody_lists (others_suit hmade)
    Audit.plain_covers Audit.plain_mayCall Audit.plain_hidesFormats {} body progress hbody
  refine ⟨hpath, operations, hoperations, ?_⟩
  rw [hcontent, hlists.declaredNames, ← List.map_eq_flatMap]
  rfl

end

/-- Every file declares the names of its parts, whatever the document and the configuration are; they
are distinct as long as the names of components, or those of operations, are kept apart. -/
theorem generate_declaresNames {config : Config} {document : Document} {files : List File}
    {issued issued' : List Warning} (hplan : Plan.ofConfig config = .ok plan)
    (h : plan.generate document issued = (.ok files, issued')) :
    ∀ file ∈ files, plan.DeclaresNames document file := by
  have hmade := formats_isMade hplan
  refine forall_of_generate rfl rfl (fun file hfile => ?_) ⟨issued, issued', h⟩
  rcases hfile with h | h | h | h | h
  · obtain ⟨hpath, hnamed, hnames⟩ := typesFile_names hmade h
    exact .types hpath hnamed hnames (hnames ▸ Compiler.nodup_typeNames _)
  · obtain ⟨hpath, hnamed, hnames⟩ := validatorsFile_names hmade h
    exact .validators hpath hnamed hnames (hnames ▸ document.nodup_validatorNames)
  · obtain ⟨hpath, operations, hoperations, hnames⟩ := clientFile_names hmade h
    exact .client hpath hoperations hnames (hnames ▸ nodup_clientNames operations _)
  · obtain ⟨hpath, operations, hoperations, hnames⟩ := handlerTypesFile_names hmade h
    obtain ⟨_, body, progress, usage, hbody, hcontent⟩ := file_eq h
    obtain ⟨_, hoperations', before, hrecord⟩ :=
      Compiler.handlerTypesBody_text _ {} body progress hbody
    cases hoperations.symm.trans hoperations'
    refine .handlerTypes hpath hoperations hnames (hnames ▸ nodup_handlerTypeNames operations)
      ⟨(File.head usage plan.runtimeModule []).render ++ before, ?_⟩
    rw [hcontent, File.contentOf, Code.render_append, hrecord, String.append_assoc]
  · obtain ⟨hpath, operations, hoperations, hnames⟩ := serverFile_names hmade h
    exact .server hpath hoperations hnames (hnames ▸ nodup_serverNames operations)

/-- All files for a document with a component and an operation. -/
theorem generate_declaresNames_decimals : ∃ plan files issued, Plan.ofConfig decimals = .ok plan ∧
    plan.generate priceDocument [] = (.ok files, issued) ∧
    files.map (·.path) = ["types.ts", "validators.ts", "client.ts", "server-types.ts", "server.ts"] ∧
    ∀ file ∈ files, plan.DeclaresNames priceDocument file := by
  obtain ⟨plan, hplan, h⟩ := Except.eq_ok_of_any
    (show (Plan.ofConfig decimals).toOption.any (fun plan =>
      (plan.generate priceDocument []).1.toOption.any fun files => files.map (·.path) ==
        ["types.ts", "validators.ts", "client.ts", "server-types.ts", "server.ts"]) = true by
      decide +kernel)
  obtain ⟨files, hfiles, hpaths⟩ := Except.pair_eq_ok_of_any h
  exact ⟨plan, files, _, hplan, hfiles, beq_iff_eq.1 hpaths, generate_declaresNames hplan hfiles⟩

/-- A configuration of which only the types are generated. -/
def typesOnly : Config where
  targets := { validators := false, client := false, server := false }

/-- A document whose components have different keys, but one identifier. -/
def twins : Json := .object [("openapi", .string "3.0.3"),
  ("info", .object [("title", .string "Twins"), ("version", .string "1")]),
  ("paths", .object []),
  ("components", .object [("schemas", .object [("a-b", .object [("type", .string "string")]),
    ("a_b", .object [("type", .string "number")])])])]

/-- The file of types declares the identifier twice. -/
theorem twins_declared_twice : ∃ document plan files issued file,
    Document.ofJson twins = .ok document ∧ Plan.ofConfig typesOnly = .ok plan ∧
    plan.generate document [] = (.ok files, issued) ∧ file ∈ files ∧ file.path = "types.ts" ∧
    file.content.declaredNames = ["a_b", "a_b"] ∧ ¬file.content.declaredNames.Nodup := by
  obtain ⟨document, hdocument, h⟩ := Except.eq_ok_of_any
    (show (Document.ofJson twins).toOption.any (fun document =>
      (Plan.ofConfig typesOnly).toOption.any fun plan =>
        (plan.generate document []).1.toOption.any fun files => files.any fun file =>
          file.path == "types.ts" && file.content.declaredNames == ["a_b", "a_b"]) = true by
      decide +kernel)
  obtain ⟨plan, hplan, h⟩ := Except.eq_ok_of_any h
  obtain ⟨files, hfiles, h⟩ := Except.pair_eq_ok_of_any h
  obtain ⟨file, hmem, hfile⟩ := List.any_eq_true.1 h
  obtain ⟨hpath, hnames⟩ := Bool.and_eq_true_iff.1 hfile
  have hnames := beq_iff_eq.1 hnames
  exact ⟨document, plan, files, _, file, hdocument, hplan, hfiles, hmem, beq_iff_eq.1 hpath, hnames,
    hnames ▸ by decide⟩

end Plan

end OpenApi
