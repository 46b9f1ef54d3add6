import Mathlib.Data.List.Nodup
import OpenApi.Generate
import OpenApi.Proofs.Document.Distinct
import OpenApi.Proofs.Files.Results

/-!
The warnings of a generation. Before any file is written, the user is told of the bodies that are passed
through as they are, operation by operation; after that only the files of a server add to it, each of
them once for every response by default that it leaves out (`Plan.generate_warns`).
-/

namespace OpenApi

/-! ## Warnings of a computation -/

/-- If the computation does not fail, it issues warnings with the property, after those that have been
issued before. -/
def Report.Issues {α : Type} (x : Report α) (R : List Warning → Prop) : Prop :=
  ∀ issued a issued', x issued = (.ok a, issued') → ∃ ws, issued' = issued ++ ws ∧ R ws

/-- The step issues warnings with the property wherever it is taken, if it does not fail. -/
def Write.Issues {α : Type} (step : Write α) (R : List Warning → Prop) : Prop :=
  ∀ s, Report.Issues (step s) R

/-- The warnings for a sequence are those for its members, one after the other. -/
def InTurn {α : Type} (R : α → List Warning → Prop) (xs : List α) (ws : List Warning) : Prop :=
  ∃ each, List.Forall₂ R xs each ∧ ws = each.flatten

theorem inTurn_eq_iff {α : Type} {g : α → List Warning} {xs : List α} {ws : List Warning} :
    InTurn (fun x ws => ws = g x) xs ws ↔ ws = xs.flatMap g := by
  constructor
  · rintro ⟨each, heach, rfl⟩
    induction heach with
    | nil => rfl
    | cons h _ ih => rw [List.flatten_cons, List.flatMap_cons, h, ih]
  · rintro rfl
    refine ⟨xs.map g, ?_, rfl⟩
    induction xs with
    | nil => exact .nil
    | cons x xs ih => exact .cons rfl ih

theorem InTurn.nil {α : Type} {R : α → List Warning → Prop} : InTurn R [] [] := ⟨[], .nil, rfl⟩

theorem InTurn.cons {α : Type} {R : α → List Warning → Prop} {x : α} {xs : List α}
    {ws ws' : List Warning} (h : R x ws) (h' : InTurn R xs ws') : InTurn R (x :: xs) (ws ++ ws') := by
  obtain ⟨each, heach, rfl⟩ := h'
  exact ⟨ws :: each, .cons h heach, rfl⟩

namespace Report.Issues

variable {α β : Type} {R S : List Warning → Prop}

theorem pure {a : α} (h : R []) : Report.Issues (Pure.pure a) R := by
  intro issued b issued' hb
  cases hb
  exact ⟨[], (List.append_nil _).symm, h⟩

theorem warn (w : Warning) : Report.Issues (Report.warn w) (· = [w]) := by
  intro issued a issued' h
  cases h
  exact ⟨[w], rfl, rfl⟩

theorem mono {x : Report α} (h : Report.Issues x S) (hR : ∀ ws, S ws → R ws) : Report.Issues x R := by
  intro issued a issued' ha
  obtain ⟨ws, hws, hS⟩ := h issued a issued' ha
  exact ⟨ws, hws, hR ws hS⟩

/-- Sequencing, where the property of all warnings is asked of those that are left. -/
theorem bind {x : Report α} {f : α → Report β} (h : Report.Issues x S)
    (hf : ∀ ws, S ws → ∀ a, Report.Issues (f a) fun ws' => R (ws ++ ws')) :
    Report.Issues (x >>= f) R := by
  intro issued b issued' hb
  change ExceptT.bindCont f (x issued).1 (x issued).2 = _ at hb
  rcases hx : x issued with ⟨_ | a, issued₁⟩
  · rw [hx] at hb; cases hb
  · rw [hx] at hb
    obtain ⟨ws, rfl, hS⟩ := h issued a issued₁ hx
    obtain ⟨ws', rfl, hR⟩ := hf ws hS a _ b issued' hb
    exact ⟨ws ++ ws', List.append_assoc .., hR⟩

/-- Sequencing where the first step issues nothing. -/
theorem quiet_bind {x : Report α} {f : α → Report β} (h : Report.Issues x (· = []))
    (hf : ∀ a, Report.Issues (f a) R) : Report.Issues (x >>= f) R :=
  h.bind fun _ hws a => hws ▸ hf a

/-- Reading a value. -/
theorem bind_read {x : Except CompileError α} {f : α → Report β}
    (hf : ∀ a, x = .ok a → Report.Issues (f a) R) : Report.Issues ((liftM x : Report α) >>= f) R := by
  cases x with
  | error e => exact nofun
  | ok a => exact hf a rfl

theorem read (x : Except CompileError α) : Report.Issues (liftM x : Report α) (· = []) := by
  cases x with
  | error e => exact nofun
  | ok a => exact .pure rfl

theorem mapM {f : α → Report β} {R : α → List Warning → Prop} {xs : List α}
    (h : ∀ x ∈ xs, Report.Issues (f x) (R x)) : Report.Issues (xs.mapM f) (InTurn R xs) := by
  induction xs with
  | nil => exact .pure .nil
  | cons x xs ih =>
    rw [List.mapM_cons]
    refine .bind (h x (by simp)) fun ws hws y => ?_
    refine .bind (ih fun x hx => h x (by simp [hx])) fun ws' hws' ys => .pure ?_
    rw [List.append_nil]
    exact .cons hws hws'

theorem quiet_mapM {f : α → Report β} {xs : List α}
    (h : ∀ x ∈ xs, Report.Issues (f x) (· = [])) : Report.Issues (xs.mapM f) (· = []) :=
  (mapM h).mono fun _ hws => (inTurn_eq_iff.1 hws).trans (by simp)

theorem forM {f : α → Report Unit} {R : α → List Warning → Prop} {xs : List α}
    (h : ∀ x ∈ xs, Report.Issues (f x) (R x)) : Report.Issues (xs.forM f) (InTurn R xs) := by
  induction xs with
  | nil => exact .pure .nil
  | cons x xs ih =>
    show Report.Issues (f x >>= fun _ => xs.forM f) _
    refine .bind (h x (by simp)) fun ws hws _ => ?_
    exact (ih fun x hx => h x (by simp [hx])).mono fun ws' hws' => .cons hws hws'

theorem ite_of {p : Prop} [Decidable p] {x y : Report α} (h : p → Report.Issues x R)
    (h' : ¬p → Report.Issues y R) : Report.Issues (if p then x else y) R := by
  split
  case isTrue hp => exact h hp
  case isFalse hp => exact h' hp

end Report.Issues

namespace Write.Issues

variable {α β : Type} {R : List Warning → Prop}

theorem pure {a : α} (h : R []) : Write.Issues (Pure.pure a) R := fun _ => .pure h

theorem bind {S : List Warning → Prop} {step : Write α} {f : α → Write β} (h : Write.Issues step S)
    (hf : ∀ ws, S ws → ∀ a, Write.Issues (f a) fun ws' => R (ws ++ ws')) :
    Write.Issues (step >>= f) R :=
  fun s => (h s).bind fun ws hws as => hf ws hws as.1 as.2

theorem quiet_bind {step : Write α} {f : α → Write β} (h : Write.Issues step (· = []))
    (hf : ∀ a, Write.Issues (f a) R) : Write.Issues (step >>= f) R :=
  h.bind fun _ hws a => hws ▸ hf a

/-- Steps that are no reports issue nothing. -/
theorem lift (step : Compile α) : Write.Issues (liftM step : Write α) (· = []) := by
  intro s issued a issued' h
  exact ⟨[], (congrArg Prod.snd h).symm.trans (List.append_nil _).symm, rfl⟩

theorem report {x : Report α} (h : Report.Issues x R) : Write.Issues (liftM x : Write α) R :=
  fun _ => h.bind fun ws hws _ => .pure (by simpa using hws)

theorem bind_read {x : Except CompileError α} {f : α → Write β}
    (hf : ∀ a, x = .ok a → Write.Issues (f a) R) : Write.Issues ((liftM x : Write α) >>= f) R := by
  cases x with
  | error e => exact fun _ => nofun
  | ok a => exact hf a rfl

theorem mapM {f : α → Write β} {R : α → List Warning → Prop} {xs : List α}
    (h : ∀ x ∈ xs, Write.Issues (f x) (R x)) : Write.Issues (xs.mapM f) (InTurn R xs) := by
  induction xs with
  | nil => exact .pure .nil
  | cons x xs ih =>
    rw [List.mapM_cons]
    refine .bind (h x (by simp)) fun ws hws y => ?_
    refine .bind (ih fun x hx => h x (by simp [hx])) fun ws' hws' ys => .pure ?_
    rw [List.append_nil]
    exact .cons hws hws'

/-- Each step of a sequence issues what is known of it. -/
theorem mapM_eq {f : α → Write β} {g : α → List Warning} {xs : List α}
    (h : ∀ x ∈ xs, Write.Issues (f x) (· = g x)) : Write.Issues (xs.mapM f) (· = xs.flatMap g) :=
  fun s => (mapM h s).mono fun _ hws => inTurn_eq_iff.1 hws

theorem quiet_option {f : α → Write β} {x : Option α} (h : ∀ a, Write.Issues (f a) (· = [])) :
    Write.Issues (x.mapM f) (· = []) := by
  cases x with
  | none => exact .pure rfl
  | some a => exact fun s => Report.Issues.quiet_bind (h a s) fun _ => .pure rfl

theorem ite {p : Prop} [Decidable p] {step step' : Write α} (h : Write.Issues step R)
    (h' : Write.Issues step' R) : Write.Issues (if p then step else step') R := by
  split
  · exact h
  · exact h'

end Write.Issues

/-! ## Operations -/

/-- The paths and methods that a document has operations for, in order. -/
def Document.places (doc : Document) : List (String × Method) :=
  doc.spec.paths.flatMap fun (path, item) => item.operations.map fun (method, _) => (path, method)

theorem map_eq_of_forall₂ {α β γ : Type} {R : α → β → Prop} {f : α → γ} {g : β → γ} {xs : List α}
    {ys : List β} (h : List.Forall₂ R xs ys) (hR : ∀ x y, R x y → g y = f x) : ys.map g = xs.map f := by
  induction h with
  | nil => rfl
  | cons hxy _ ih => rw [List.map_cons, List.map_cons, hR _ _ hxy, ih]

theorem Document.resolveOperation_place {doc : Document} {path : String} {item : PathItem}
    {method : Method} {operation : Operation} {o : ResolvedOperation}
    (h : doc.resolveOperation path item method operation = .ok o) :
    (o.path, o.method) = (path, method) := by
  unfold resolveOperation at h
  split at h
  · obtain ⟨_, _, h⟩ := Except.bind_eq_ok.1 h
    cases h
    rfl
  · cases h

theorem Document.operations_places {doc : Document} {operations : List ResolvedOperation}
    (h : doc.operations = .ok operations) :
    operations.map (fun o => (o.path, o.method)) = doc.places := by
  obtain ⟨perPath, hperPath, h⟩ := Except.bind_eq_ok.1 h
  cases h
  rw [List.map_flatten, places, List.flatMap_def]
  refine congrArg List.flatten (map_eq_of_forall₂ (Yields.mapM_forall₂ (m := Except CompileError)
    hperPath) fun entry found hfound => ?_)
  exact map_eq_of_forall₂ (Yields.mapM_forall₂ (m := Except CompileError) hfound) fun _ _ =>
    resolveOperation_place

/-! ## Bodies without codec -/

namespace Document

variable {doc : Document} {o : ResolvedOperation}

/-- The content types that an operation declares: those of its request body, and after them those of
its responses, whatever their status. -/
def DeclaresContent (doc : Document) (o : ResolvedOperation) (types : List String) : Prop :=
  ∃ requested responded : List (List String),
    List.Forall₂ (fun node names => ∃ body, doc.deref .requestBody node = .ok body ∧
      names = body.content.names) o.operation.requestBody.toList requested ∧
    List.Forall₂ (fun entry names => ∃ response, doc.deref .response entry.2 = .ok response ∧
      names = response.content.names) o.operation.responses responded ∧
    types = requested.flatten ++ responded.flatten

/-- Code that is generated for the operation passes bodies of the content type through as they are. -/
inductive PassesRaw (doc : Document) (o : ResolvedOperation) (type : String) : Prop
  | request {body : RequestBody} (declared : doc.requestBody? o = .ok (some body))
      (mem : type ∈ body.content.names) (raw : Codec.ofContentType type = .raw)
  | response {side : Side} {cases : List ResponseCase} {case : ResponseCase}
      (declared : Yields.yields (doc.responseCases o side) cases) (generated : case ∈ cases)
      (mem : type ∈ case.content.names) (raw : Codec.ofContentType type = .raw)

/-- The warnings are those for the bodies of the operation: one for each content type without codec,
in the order in which they are declared first. -/
structure WarnsRaw (doc : Document) (o : ResolvedOperation) (ws : List Warning) : Prop where
  declared : ∃ types, doc.DeclaresContent o types ∧
    ws = ((types.filter (Codec.ofContentType · = .raw)).eraseDups).map (.rawBody o.id)
  once : ∀ type, doc.PassesRaw o type → ws.count (.rawBody o.id type) = 1

theorem rawContentTypes_declares {raw : List String} (h : doc.rawContentTypes o = .ok raw) :
    ∃ types, doc.DeclaresContent o types ∧
      raw = (types.filter (Codec.ofContentType · = .raw)).eraseDups := by
  obtain ⟨requested, hrequested, h⟩ : ∃ requested : List (List String),
      List.Forall₂ (fun node names => ∃ body, doc.deref .requestBody node = .ok body ∧
        names = body.content.names) o.operation.requestBody.toList requested ∧
      (do
        let responded ← o.operation.responses.mapM fun entry =>
          return (← doc.deref .response entry.2).content.names
        let raw := (requested.flatten ++ responded.flatten).filter (Codec.ofContentType · == Codec.raw)
        pure (raw.foldl (fun known type => if type ∈ known then known else known ++ [type]) [])) =
      Except.ok raw := by
    unfold rawContentTypes at h
    cases hbody : o.operation.requestBody with
    | none =>
      rw [hbody] at h
      exact ⟨[], .nil, h⟩
    | some node =>
      rw [hbody] at h
      obtain ⟨names, hnames, h⟩ := Except.bind_eq_ok.1 h
      obtain ⟨body, hderef, heq⟩ := Except.bind_eq_ok.1 hnames
      cases heq
      exact ⟨[body.content.names], .cons ⟨body, hderef, rfl⟩ .nil, by simpa using h⟩
  obtain ⟨responded, hresponded, h⟩ := Except.bind_eq_ok.1 h
  cases h
  refine ⟨_, ⟨requested, responded, hrequested, ?_, rfl⟩, List.foldl_addNew [] _⟩
  refine (Yields.mapM_forall₂ (m := Except CompileError) hresponded).imp fun entry names h => ?_
  obtain ⟨response, hderef, h⟩ := Except.bind_eq_ok.1 h
  cases h
  exact ⟨response, hderef, rfl⟩

/-- What is generated for a response has the content of the response that is declared. -/
theorem responseCase?_content {side : Side} {status : String} {node : RefOr Response}
    {case : ResponseCase} (h : Yields.yields (doc.responseCase? o side status node) (some case)) :
    ∃ response, doc.deref .response node = .ok response ∧ case.content = response.content := by
  rcases responseCase?_cases h with
    ⟨_, _, h⟩ | ⟨_, _, _, ⟨_, h⟩ | ⟨_, response, _, hderef, _, h⟩⟩ <;> cases h
  exact ⟨response, hderef, rfl⟩

theorem requestBody?_eq_some {body : RequestBody} (h : doc.requestBody? o = .ok (some body)) :
    ∃ node, o.operation.requestBody = some node ∧ doc.deref .requestBody node = .ok body := by
  unfold requestBody? at h
  split at h
  case h_1 node hnode =>
    obtain ⟨body', hderef, h⟩ := Except.bind_eq_ok.1 h
    split at h
    · cases h
    · cases h
      exact ⟨node, hnode, hderef⟩
  case h_2 => cases h

/-- What is passed through as it is, is declared. -/
theorem PassesRaw.mem_declared {type : String} {types : List String} (h : doc.PassesRaw o type)
    (htypes : doc.DeclaresContent o types) :
    type ∈ types.filter (Codec.ofContentType · = .raw) := by
  obtain ⟨requested, responded, hrequested, hresponded, rfl⟩ := htypes
  cases h with
  | request declared mem raw =>
    obtain ⟨node, hnode, hderef⟩ := requestBody?_eq_some declared
    obtain ⟨names, hnames, body, hderef', rfl⟩ := exists_mem_zip hrequested (x := node) (by simp [hnode])
    cases hderef.symm.trans hderef'
    refine List.mem_filter.2 ⟨List.mem_append_left _ (List.mem_flatten.2 ?_), by simpa using raw⟩
    exact ⟨_, (List.of_mem_zip hnames).2, mem⟩
  | response declared generated mem raw =>
    obtain ⟨found, hfound, hkept⟩ := Yields.yields_bind declared
    cases Yields.yields_pure hkept
    obtain ⟨_, hmem, rfl⟩ := List.mem_filterMap.1 generated
    obtain ⟨entry, hentry, hcase⟩ := Yields.mapM hfound _ hmem
    obtain ⟨response, hderef, hcontent⟩ := responseCase?_content hcase
    obtain ⟨names, hnames, response', hderef', rfl⟩ := exists_mem_zip hresponded hentry
    cases hderef.symm.trans hderef'
    refine List.mem_filter.2 ⟨List.mem_append_right _ (List.mem_flatten.2 ?_), by simpa using raw⟩
    exact ⟨_, (List.of_mem_zip hnames).2, hcontent ▸ mem⟩

theorem rawContentTypes_warnsRaw {raw : List String} (h : doc.rawContentTypes o = .ok raw) :
    doc.WarnsRaw o (raw.map (.rawBody o.id)) := by
  obtain ⟨types, htypes, rfl⟩ := rawContentTypes_declares h
  refine ⟨⟨types, htypes, rfl⟩, fun type htype => ?_⟩
  have hnodup := List.Nodup.map (f := Warning.rawBody o.id) (fun _ _ h => (Warning.rawBody.inj h).2)
    (List.nodup_eraseDups (types.filter (Codec.ofContentType · = .raw)))
  exact List.count_eq_one_of_mem hnodup
    (List.mem_map_of_mem (List.mem_eraseDups.2 (htype.mem_declared htypes)))

theorem warnRawBodies_issues : Report.Issues doc.warnRawBodies fun ws =>
    ∃ operations, doc.operations = .ok operations ∧ InTurn doc.WarnsRaw operations ws := by
  refine .bind_read fun operations hoperations => ?_
  refine Report.Issues.mono (.forM fun o _ => .bind_read fun raw hraw => ?_) fun ws hws =>
    ⟨operations, hoperations, hws⟩
  refine Report.Issues.mono (.forM fun type _ => .warn (.rawBody o.id type)) fun ws hws => ?_
  have heq : ws = raw.flatMap fun type => [.rawBody o.id type] := inTurn_eq_iff.1 hws
  rw [heq, ← List.map_eq_flatMap]
  exact rawContentTypes_warnsRaw hraw

end Document

/-! ## Responses by default -/

/-- The warnings that a file of a server gives for an operation: one for each response by default. -/
def ResolvedOperation.skipped (o : ResolvedOperation) : List Warning :=
  (o.operation.responses.names.filter (· = "default")).map fun _ => .skippedDefault o.id

namespace Document

variable {doc : Document} {o : ResolvedOperation}

theorem responseCase?_issues {side : Side} {status : String} {node : RefOr Response} :
    Report.Issues (doc.responseCase? o side status node)
      (· = if side = .server ∧ status = "default" then [.skippedDefault o.id] else []) := by
  refine .ite_of (fun hdefault => ?_) fun hother => ?_
  · cases side with
    | client => exact nofun
    | server => exact .bind (.warn _) fun ws hws _ => .pure (by simp [hws, hdefault])
  · rw [if_neg fun h => hother h.2]
    split
    case h_2 => exact nofun
    case h_1 =>
      refine .ite_of (fun _ => .pure rfl) fun _ => .quiet_bind (.read _) fun response => ?_
      exact .quiet_bind (.quiet_mapM fun entry _ => .quiet_bind (.read _) fun header => .pure rfl)
        fun headers => .pure rfl

theorem responseCases_issues_client : Report.Issues (doc.responseCases o .client) (· = []) :=
  .quiet_bind (.quiet_mapM fun _ _ => responseCase?_issues) fun _ => .pure rfl

theorem responseCases_issues_server : Report.Issues (doc.responseCases o .server) (· = o.skipped) := by
  refine .bind (.mapM fun _ _ => responseCase?_issues) fun ws hws _ => .pure ?_
  rw [inTurn_eq_iff.1 hws, List.append_nil, ResolvedOperation.skipped, Members.names]
  generalize o.operation.responses = responses
  induction responses with
  | nil => rfl
  | cons entry rest ih =>
    rw [List.flatMap_cons, ih, List.map_cons, List.filter_cons]
    by_cases hdefault : entry.1 = "default" <;> simp [hdefault]

end Document

/-! ## Files -/

namespace Compiler

variable {c : Compiler} {o : ResolvedOperation}

theorem bodyType_issues {body : Option RequestBody} {f : RequestBody → Code → Field} :
    Write.Issues (body.mapM fun body => (do return f body (← c.bodyUnionType body.content) :
      Write Field)) (· = []) :=
  .quiet_option fun _ => .quiet_bind (.lift _) fun _ => .pure rfl

/-- The files of a client pass over no response. -/
theorem clientCall_issues : Write.Issues (c.clientCall o) (· = []) := by
  refine .quiet_bind (.lift _) fun caller => .quiet_bind (.lift _) fun parameters => ?_
  refine .bind_read fun body _ => .quiet_bind bodyType_issues fun bodyType => ?_
  refine .quiet_bind (.report Document.responseCases_issues_client) fun cases => ?_
  refine .quiet_bind (.lift _) fun variants => .quiet_bind (.lift _) fun request => ?_
  exact .quiet_bind (.lift _) fun response => .pure rfl

theorem handlerType_issues : Write.Issues (c.handlerType o) (· = o.skipped) := by
  refine .quiet_bind (.lift _) fun parameters => .bind_read fun body _ => ?_
  refine .quiet_bind bodyType_issues fun bodyType => ?_
  refine .bind (.report Document.responseCases_issues_server) fun ws hws cases => ?_
  exact .quiet_bind (.lift _) fun variants => .pure (by rw [hws, List.append_nil])

theorem endpoint_issues (handlerType : String) :
    Write.Issues (c.endpoint o handlerType) (· = o.skipped) := by
  refine .quiet_bind (.lift _) fun request => .quiet_bind (.lift _) fun response => ?_
  refine .quiet_bind (.lift _) fun parameters => .bind_read fun body _ => ?_
  refine .quiet_bind (.lift _) fun read => .quiet_bind (.lift _) fun result => ?_
  refine .bind (.report Document.responseCases_issues_server) fun ws hws cases => ?_
  exact .quiet_bind (.lift _) fun answer => .pure (by rw [hws, List.append_nil])

theorem clientBody_issues : Write.Issues c.clientBody (· = []) := by
  refine .bind_read fun operations _ => ?_
  have calls : Write.Issues (operations.mapM c.clientCall) (· = operations.flatMap fun _ => []) :=
    .mapM_eq fun o _ => clientCall_issues
  exact .bind calls fun ws hws _ => .ite (.pure (by simp [hws])) (.pure (by simp [hws]))

section

variable {operations : List ResolvedOperation} (h : c.document.operations = .ok operations)

include h

theorem handlerTypesBody_issues :
    Write.Issues c.handlerTypesBody (· = operations.flatMap (·.skipped)) := by
  refine .bind_read fun operations' h' => ?_
  cases h.symm.trans h'
  have types : Write.Issues (operations.mapM fun o => (do return (← c.handlerType o) ++ "\n" :
      Write Code)) (· = operations.flatMap (·.skipped)) :=
    .mapM_eq fun o _ => handlerType_issues.bind fun ws hws _ => .pure (by rw [hws, List.append_nil])
  exact .bind types fun ws hws _ => .pure (by rw [hws, List.append_nil])

theorem serverBody_issues : Write.Issues c.serverBody (· = operations.flatMap (·.skipped)) := by
  refine .bind_read fun operations' h' => ?_
  cases h.symm.trans h'
  have endpoints : Write.Issues (operations.mapM fun o => (do
      return (← c.endpoint o ("ServerTypes." ++ o.handlerType)) ++ "\n" : Write Code))
      (· = operations.flatMap (·.skipped)) :=
    .mapM_eq fun o _ => (endpoint_issues _).bind fun ws hws _ => .pure (by rw [hws, List.append_nil])
  refine .bind endpoints fun ws hws _ => .quiet_bind (.lift _) fun _ => .pure ?_
  rw [hws, List.append_nil]

end

end Compiler

namespace Plan

variable {plan : Plan} {doc : Document} {R : List Warning → Prop}

theorem file_issues {path : String} {compiler : Compiler} {siblings : List (String × String)}
    {body : Compiler → Write Code} (h : Write.Issues (body compiler) R) :
    Report.Issues (plan.file path compiler siblings body) R :=
  .bind (h {}) fun ws hws _ => .pure (by rwa [List.append_nil])

theorem single_issues {file : Report File} (h : Report.Issues file R) :
    Report.Issues (do pure [← file] : Report (List File)) R :=
  .bind h fun ws hws _ => .pure (by rwa [List.append_nil])

theorem pair_issues {first second : Report File} {ws ws' : List Warning}
    (h : Report.Issues first (· = ws)) (h' : Report.Issues second (· = ws')) :
    Report.Issues (do pure [← first, ← second] : Report (List File)) (· = ws ++ ws') :=
  .bind h fun _ hws _ => .bind h' fun _ hws' _ => .pure (by rw [hws, hws', List.append_nil])

theorem wanted_issues {wanted : Bool} {files : Report (List File)} {ws : List Warning}
    (h : Report.Issues files (· = ws)) :
    Report.Issues (if wanted then files else pure []) (· = if wanted then ws else []) := by
  cases wanted with
  | false => exact .pure rfl
  | true => exact h

theorem wanted_quiet {wanted : Bool} {files : Report (List File)} (h : Report.Issues files (· = [])) :
    Report.Issues (if wanted then files else pure []) (· = []) :=
  (wanted_issues h).mono fun _ hws => hws.trans (ite_self _)

/-- What the user is told during a generation with a client or a server, in this order: for each
operation, of its bodies that are passed through as they are; then for each operation, if there is a
server, of the responses that its handler types leave out, and of those again that its functions leave
out. -/
theorem generate_warns {files : List File} {issued warnings : List Warning}
    (htargets : plan.targets.client = true ∨ plan.targets.server = true)
    (h : plan.generate doc issued = (.ok files, warnings)) :
    ∃ operations raw, doc.operations = .ok operations ∧
      operations.map (fun o => (o.path, o.method)) = doc.places ∧
      List.Forall₂ doc.WarnsRaw operations raw ∧
      warnings = issued ++ (raw.flatten ++ if plan.targets.server
        then operations.flatMap (·.skipped) ++ operations.flatMap (·.skipped) else []) := by
  have generates : Report.Issues (plan.generate doc) fun ws => ∃ operations raw,
      doc.operations = .ok operations ∧ List.Forall₂ doc.WarnsRaw operations raw ∧
        ws = raw.flatten ++ if plan.targets.server
          then operations.flatMap (·.skipped) ++ operations.flatMap (·.skipped) else [] := by
    refine .ite_of (fun _ => ?_) fun hno => absurd htargets (by simpa using hno)
    refine .bind Document.warnRawBodies_issues fun ws hws _ => ?_
    obtain ⟨operations, hoperations, raw, hraw, rfl⟩ := hws
    refine .quiet_bind (wanted_quiet (single_issues (file_issues (.lift _)))) fun types => ?_
    refine .quiet_bind (wanted_quiet (single_issues (file_issues (.lift _)))) fun validators => ?_
    refine .quiet_bind (wanted_quiet (single_issues (file_issues Compiler.clientBody_issues)))
      fun client => ?_
    refine .bind (wanted_issues (pair_issues (file_issues (Compiler.handlerTypesBody_issues hoperations))
      (file_issues (Compiler.serverBody_issues hoperations)))) fun ws hws server => .pure ?_
    exact ⟨operations, raw, hoperations, hraw, by rw [hws, List.append_nil]⟩
  obtain ⟨ws, rfl, operations, raw, hoperations, hraw, rfl⟩ := generates issued files warnings h
  exact ⟨operations, raw, hoperations, Document.operations_places hoperations, hraw, rfl⟩

/-- A document with images that only those who are known may send. -/
def album : Document where
  raw := .object []
  spec := {
    openapi := "3.0.3"
    info := { title := "Album", version := "1" }
    security := some [[("token", [])]]
    paths := [("/image", {
      get := some {
        operationId := some "show"
        responses := [("200", .inline { content := [("image/png", {}), ("image/gif", {})] })] }
      put := some {
        operationId := some "store"
        requestBody := some (.inline { content := [("image/png", {}), ("text/plain", {})] })
        responses := [("201", .inline { content := [("image/gif", {}), ("image/png", {})] }),
          ("401", .inline { content := [("image/svg+xml", {})] }), ("default", .inline {})] } })] }

/-- Each content type is told of once for each operation, also that of the refusal; the response by
default twice, since there is a server. -/
theorem generate_warns_album : ∃ plan : Plan, ∃ files warnings,
    plan.targets = { types := false, validators := false, client := false } ∧
    plan.generate album [] = (.ok files, warnings) ∧
    warnings = [.rawBody "show" "image/png", .rawBody "show" "image/gif",
      .rawBody "store" "image/png", .rawBody "store" "image/gif", .rawBody "store" "image/svg+xml",
      .skippedDefault "store", .skippedDefault "store"] ∧
    ∃ operations raw, album.operations = .ok operations ∧
      operations.map (fun o => (o.path, o.method)) = [("/image", .get), ("/image", .put)] ∧
      List.Forall₂ album.WarnsRaw operations raw ∧
      warnings = raw.flatten ++ (operations.flatMap (·.skipped) ++ operations.flatMap (·.skipped)) := by
  let plan : Plan := {
    runtimeModule := "oac-runtime"
    targets := { types := false, validators := false, client := false }
    formats := default }
  obtain ⟨files, hfiles, -⟩ := Except.pair_eq_ok_of_any
    (show (plan.generate album []).1.toOption.any (fun _ => true) = true by decide +kernel)
  obtain ⟨operations, raw, hoperations, hplaces, hraw, hwarnings⟩ :=
    generate_warns (.inr rfl) hfiles
  exact ⟨plan, files, _, rfl, hfiles, by decide +kernel, operations, raw, hoperations, hplaces, hraw,
    hwarnings⟩

end Plan

end OpenApi
