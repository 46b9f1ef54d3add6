import OpenApi.Proofs.Document.Spelling
import OpenApi.Proofs.Files.Exports

/-!
What the generated code calls. The functions that convert the values of references are called by their
names, so in the text of a file they are the words before a parenthesis, in the client and the server with
the alias of the types in front. Such a function is one that the file of types exports. Calls and
declarations are decided by different compilers, from different spellings of a reference and after
different questions; they agree since what a reference needs depends on the document and the formats
alone (`needed`).
-/

namespace OpenApi

/-! ## Reading calls -/

namespace Lex

/-- Everything passes, and a name of the file of types is one word with the alias in front of it. -/
def calling : Rules where
  mayAccess _ := true
  mayHide _ := true
  qualifies word := word == ['T', 'y', 'p', 'e', 's']

/-- The words that stand before a parenthesis, outside of literals and comments. -/
def callees (r : Rules) (s : State) : List Glyph → List (List Char)
  | [] => []
  | g :: rest =>
    let others := match read r s g with
      | none => []
      | some s' => callees r s' rest
    if s.mode == .code && g == .char '(' && !s.word.isEmpty then s.word :: others else others

variable {r r' : Rules} {s s' : State} {gs : List Glyph}

/-- Whatever is called in a text that can be read under stricter rules may be called by them. -/
theorem mayCall_of_callees (hr : r.Refines r') (h : readAll r s gs = some s') :
    ∀ word ∈ callees r' s gs, r.mayCall word = true ∧ word ≠ [] := by
  induction gs generalizing s with
  | nil => exact List.forall_mem_nil _
  | cons g gs ih =>
    obtain ⟨next, hnext, h⟩ := Option.bind_eq_some_iff.1 h
    rw [callees, read_of_refines hr hnext]
    split
    case isFalse => exact ih h
    case isTrue hcall =>
      refine List.forall_mem_cons.2 ⟨?_, ih h⟩
      simp only [Bool.and_eq_true, beq_iff_eq] at hcall
      obtain ⟨⟨hmode, rfl⟩, hnonempty⟩ := hcall
      refine ⟨?_, by simpa using hnonempty⟩
      obtain ⟨mode, opened, word⟩ := s
      obtain rfl : mode = .code := hmode
      by_contra hword
      have hnone : read r ⟨.code, opened, word⟩ (.char '(') = none := if_neg hword
      cases hnone.symm.trans hnext

end Lex

/-- No word of the vocabulary converts the values of a reference. -/
theorem conversion_notMem_vocabulary {doc : Document} {r name : String}
    (h : doc.refName r = .ok name) (d : Direction) :
    (d.verb ++ Name.capitalized name).toList ∉ Lex.vocabulary := by
  have hname : Name.capitalized name ≠ "" := by
    obtain ⟨_, rfl⟩ := Document.refName_eq_identifier h
    exact Name.capitalized_identifier_ne_empty _
  -- the only word of the vocabulary that begins with a verb is that verb itself
  have hvocabulary : ∀ word ∈ Lex.vocabulary, d.verb.toList <+: word → word = d.verb.toList := by
    cases d <;> decide
  intro hmem
  rw [String.toList_append] at hmem
  have hverb := hvocabulary _ hmem (List.prefix_append _ _)
  exact hname (by simpa using hverb)

namespace Code

/-- The functions that the compiler's own text calls or declares. -/
def calls (body : Code) : List String :=
  (Lex.callees Lex.calling {} (body.seen Origin.isSite)).map String.ofList

/-- The code declares the function for other files. -/
def Exports (body : Code) (function : String) : Prop :=
  ⟨"export function ", function, none⟩ ∈ body.declarations

/-- The body can be read to its end but for the text of formats, and the functions that it calls are those
of the vocabulary and those that are declared. -/
structure CallsWithin (body : Code) (declared : String → Prop) : Prop where
  isRead : Lex.Sound Lex.calling (body.seen Origin.isSite)
  others (origin : Origin) : body.HasSpan origin → origin = .site ∨ ∃ name, origin = .stringFormat name
  calls : ∀ function ∈ body.calls, function.toList ∈ Lex.vocabulary ∨ declared function

theorem CallsWithin.mono {body : Code} {declared declared' : String → Prop}
    (h : body.CallsWithin declared) (hdeclared : ∀ function, declared function → declared' function) :
    body.CallsWithin declared' :=
  { h with calls := fun function hfunction => (h.calls function hfunction).imp_right (hdeclared _) }

/-- A function that converts the values of a reference is exported by the file that calls it. -/
theorem CallsWithin.exports_conversion {body : Code} (h : body.CallsWithin body.Exports) {doc : Document}
    {r name : String} (hname : doc.refName r = .ok name) {d : Direction}
    (hcall : d.verb ++ Name.capitalized name ∈ body.calls) :
    body.Exports (d.verb ++ Name.capitalized name) :=
  (h.calls _ hcall).resolve_left (conversion_notMem_vocabulary hname d)

/-- The body declares the function itself, under a name that ends in it, or calls it by the alias of the
types, and they export it. -/
def Knows (body types : Code) (function : String) : Prop :=
  (∃ name ∈ body.declaredNames, function.toList = Lex.endWord [] name.toList) ∨
    ∃ name, function = "Types." ++ name ∧ types.Exports name

/-- Whatever is called by the alias of the types is exported by them. -/
theorem CallsWithin.exports {body types : Code} (h : body.CallsWithin (body.Knows types)) {name : String}
    (hcall : "Types." ++ name ∈ body.calls) : types.Exports name := by
  have hdot : ¬("Types." ++ name).toList.all Name.isIdentifierPart = true := by
    rw [String.toList_append, List.all_append]
    exact fun hall => absurd (Bool.and_eq_true_iff.1 hall).1 (by decide)
  rcases h.calls _ hcall with hvocabulary | ⟨own, _, hown⟩ | ⟨exported, heq, hexports⟩
  · exact absurd (Lex.vocabulary_identifierPart _ hvocabulary) hdot
  · rw [hown] at hdot
    exact absurd (Lex.endWord_identifierPart rfl _) hdot
  · rwa [(String.append_right_inj _).1 heq]

end Code

/-! ## Qualifiers and spellings -/

section

variable {c : Compiler} {d : Direction} {N A : Set String} {r r' : String} {path : List String}

/-- The qualifier of a compiler shows in names only. -/
theorem Convertible.withQualifier (q : Option String) {schema : Schema}
    (h : Convertible c d N schema) : Convertible { c with qualifier := q } d N schema := by
  induction h with
  | ref h => exact .ref h
  | bool accepts => exact .bool accepts
  | inline outlined testable _ ih => exact .inline outlined testable ih

theorem Changed.withQualifier (q : Option String) {schema : Schema} (h : Changed c d N schema) :
    Changed { c with qualifier := q } d N schema := by
  induction h with
  | ref h => exact .ref h
  | own outlined h => exact .own outlined h
  | inner outlined mem _ ih => exact .inner outlined mem ih

theorem needed_subset {c' : Compiler} (hdocument : c'.document = c.document)
    (hformats : c'.formats = c.formats) : needed c d A ⊆ needed c' d A := by
  obtain ⟨doc, formats, q⟩ := c'
  obtain rfl : doc = c.document := hdocument
  obtain rfl : formats = c.formats := hformats
  refine OrderHom.lfp_le _ fun r hr => ?_
  obtain ⟨hA, target, htarget, hconvertible, hchanged⟩ := hr
  exact mem_needed.2 ⟨hA, target, htarget, hconvertible.withQualifier q, hchanged.withQualifier q⟩

theorem needed_congr (h : Pointer.segments r = .ok path) (h' : Pointer.segments r' = .ok path)
    (hr : r ∈ needed c d ∅) : r' ∈ needed c d ∅ := by
  obtain ⟨_, target, htarget, hconvertible, hchanged⟩ := mem_needed.1 hr
  exact mem_needed.2 ⟨Set.notMem_empty r', target, Document.resolveAs_congr h h' htarget,
    hconvertible, hchanged⟩

end

/-! ## The audit of calls -/

/-- The function converts the values of a reference that there are questions about, and there is something
to convert behind it. -/
def Compiler.IsConversion (c : Compiler) (function : String) : Prop :=
  ∃ r d name, r ∈ c.document.questions ∧ r ∈ needed c d ∅ ∧ c.document.refName r = .ok name ∧
    function = c.qualified (d.verb ++ Name.capitalized name)

namespace Audit

section

variable (c : Compiler) (names : List String)

open Classical in
/-- The audit of the calls of a file that declares functions with the names: it lets pass what the
vocabulary holds, what the file declares, and the conversions of references. -/
noncomputable def calling : Audit where
  mayAccess _ := true
  mayHide
    | .stringFormat _ => true
    | _ => false
  mayCall word := decide (word = [] ∨ word ∈ Lex.vocabulary ∨
    (∃ name ∈ names, word = Lex.endWord [] name.toList) ∨
      ∃ function, c.IsConversion function ∧ word = function.toList)
  qualifies := Lex.calling.qualifies
  shows := Origin.isSite
  shows_site := Origin.isSite_site
  lenient :=
    { access := fun _ _ => rfl
      hide := nofun
      call := fun word h => by
        have hword : word = [] ∨ word ∈ Lex.vocabulary := by simpa [Lex.strict] using h
        exact decide_eq_true (hword.imp_right .inl)
      qualifies := fun word h => by
        have hword : word ∉ Lex.aliases := by simpa [Lex.strict] using h
        exact beq_false_of_ne fun heq => hword (heq ▸ by decide) }
  covers _ := True
  covers_within _ _ := trivial
  mayConvert r d := r ∈ c.document.questions ∧ r ∈ needed c d ∅
  runtime _ _ := rfl
  queryString _ _ := rfl

end

variable {c : Compiler} {names : List String}

open Classical in
theorem mayCall_calling {word : List Char} : (calling c names).mayCall word = true ↔
    word = [] ∨ word ∈ Lex.vocabulary ∨ (∃ name ∈ names, word = Lex.endWord [] name.toList) ∨
      ∃ function, c.IsConversion function ∧ word = function.toList := decide_eq_true_iff

theorem calling_refines : (calling c names).Refines Lex.calling where
  access _ _ := rfl
  hide _ _ := rfl
  call _ _ := rfl
  qualifies _ _ := rfl

theorem calling_names {name : String} (h : name ∈ names) : (calling c names).MayCall name :=
  mayCall_calling.2 (.inr (.inr (.inl ⟨name, h, rfl⟩)))

theorem qualifying_calling (hqualifier : ∀ types ∈ c.qualifier, types = "Types") (name : String) :
    (calling c names).qualifying c.qualifier ++ name.toList = (c.qualified name).toList := by
  unfold Compiler.qualified
  cases hq : c.qualifier with
  | none => rfl
  | some types =>
    obtain rfl := hqualifier types hq
    simp only [String.toList_append]
    rfl

theorem calling_suits (hmade : c.formats.All Format.IsMade)
    (hqualifier : ∀ types ∈ c.qualifier, types = "Types") : (calling c names).Suits c where
  qualifier types h := by
    obtain rfl := hqualifier types h
    exact ⟨by decide, fun _ _ => rfl⟩
  formats h _ _ := by
    obtain ⟨rfl, hmade⟩ := hmade _ _ h
    exact Reader.treats_hidden hmade rfl rfl
  functions {r name d} hconvert hname := by
    rw [qualifying_calling hqualifier]
    have hfunction : c.IsConversion (c.qualified (d.verb ++ Name.capitalized name)) :=
      ⟨r, d, name, hconvert.1, hconvert.2, hname, rfl⟩
    exact mayCall_calling.2 (.inr (.inr (.inr ⟨_, hfunction, rfl⟩)))

/-- All that a file has settled in the end is right, and about what it may ask. -/
theorem calling_covers {s : Progress} (history : c.History s.probes)
    (about : s.probes.About c.document.questions) : (calling c names).Covers s where
  usage := trivial
  settled known := ⟨about _ _ known, (history.sound.1 _ _ _ known).1 rfl⟩

theorem callsWithin {body : Code} (h : (calling c names).Sound body) : body.CallsWithin fun function =>
    (∃ name ∈ names, function.toList = Lex.endWord [] name.toList) ∨ c.IsConversion function := by
  obtain ⟨s, hs, hrest⟩ := h
  have hs : Lex.readAll (calling c names).toRules {} (body.seen Origin.isSite) = some s := hs
  refine ⟨⟨s, Lex.readAll_of_refines calling_refines hs, hrest⟩, fun origin hspan => ?_, ?_⟩
  · cases origin with
    | site => exact .inl rfl
    | stringFormat name => exact .inr ⟨name, rfl⟩
    | preamble =>
      have hhidden : .hidden .preamble ∈ (calling c names).glyphs body := Reader.hidden_mem hspan rfl
      cases Lex.mayHide_of_readAll hs hhidden
  · intro function hfunction
    obtain ⟨word, hword, rfl⟩ := List.mem_map.1 hfunction
    obtain ⟨hcallee, hnonempty⟩ := Lex.mayCall_of_callees calling_refines hs word hword
    rcases mayCall_calling.1 hcallee with hempty | hvocabulary | hname | ⟨function, hconversion, rfl⟩
    · exact absurd hempty hnonempty
    · exact .inl (by rwa [String.toList_ofList])
    · exact .inr (.inl (by rwa [String.toList_ofList]))
    · rw [String.ofList_toList]
      exact .inr (.inr hconversion)

end Audit

/-! ## Files -/

/-- The compiler of the files beside that of the types. -/
def Plan.otherCompiler (plan : Plan) (document : Document) : Compiler :=
  { plan.compiler document with qualifier := some "Types" }

variable {plan : Plan} {doc : Document} {types client server : Code}
  {written written₁ written₂ : Progress} {issued₁ issued₁' issued₂ issued₂' : List Warning}

section

variable (hmade : plan.formats.All Format.IsMade)
  (declared : ∀ r, doc.Mentions r → ∃ key ∈ doc.spec.schemas.names,
    Pointer.segments r = .ok ["components", "schemas", key])
  (htypes : (plan.compiler doc).typesBody {} = .ok (types, written))

include hmade declared htypes

/-- A function that converts the values of a reference is exported by the file of types, without the
alias that the compiler puts in front of it. -/
theorem exports_of_isConversion (q : Option String) {function : String}
    (h : { plan.compiler doc with qualifier := q }.IsConversion function) :
    ∃ name, function = { plan.compiler doc with qualifier := q }.qualified name ∧ types.Exports name := by
  obtain ⟨r, d, name, hr, hneeded, hname, rfl⟩ := h
  have hcomponent : ∃ key ∈ doc.spec.schemas.names,
      Pointer.segments r = .ok ["components", "schemas", key] := by
    rcases hr with hmentions | ⟨key, hkey, rfl⟩
    · exact declared r hmentions
    · exact ⟨key, hkey, Pointer.segments_ofSchema key⟩
  obtain ⟨key, hkey, hsegments⟩ := hcomponent
  have hkeySegments := Pointer.segments_ofSchema key
  have hsub : needed { plan.compiler doc with qualifier := q } d ∅ ⊆ needed (plan.compiler doc) d ∅ :=
    needed_subset rfl rfl
  have hneeded := needed_congr hsegments hkeySegments (hsub hneeded)
  obtain rfl := Document.componentName_eq (Document.refName_congr hsegments hkeySegments hname)
  have hsuits : Audit.plain.Suits (plan.compiler doc) := Audit.plain_suits hmade nofun
  obtain ⟨-, hlists⟩ := Compiler.typesBody_lists hsuits Audit.plain_covers Audit.plain_mayCall
    Audit.plain_hidesFormats rfl htypes
  obtain ⟨entry, hentry, rfl⟩ := List.mem_map.1 hkey
  have hconversion : (plan.compiler doc).conversionName entry.1 d ∈
      (plan.compiler doc).conversions entry.1 := Compiler.mem_conversions hneeded
  refine ⟨(plan.compiler doc).conversionName entry.1 d, rfl, ?_⟩
  rw [Code.Exports, hlists.declarations_eq]
  exact List.mem_flatMap.2 ⟨entry, hentry, List.mem_cons_of_mem _ (List.mem_map.2 ⟨_, hconversion, rfl⟩)⟩

/-- What is converted in the file of types is converted by functions that it exports. -/
theorem typesBody_calls {raw : Json} (hdocument : Document.ofJson raw = .ok doc) :
    types.CallsWithin types.Exports := by
  have hsuits : Audit.plain.Suits (plan.compiler doc) := Audit.plain_suits hmade nofun
  obtain ⟨hnamed, -⟩ := Compiler.typesBody_lists hsuits Audit.plain_covers Audit.plain_mayCall
    Audit.plain_hidesFormats rfl htypes
  have htarget : ∀ key ∈ doc.spec.schemas.names, ∀ target,
      doc.resolveAs (Pointer.ofSchema key) "schema" Schema.decode = .ok target →
        target ∈ doc.mentioned := by
    intro key hkey target htarget
    obtain ⟨entry, hentry, rfl⟩ := List.mem_map.1 hkey
    obtain ⟨schema, hschema⟩ := Members.exists_get? hkey
    cases htarget.symm.trans (Document.resolveAs_of_refName hdocument hschema (hnamed entry hentry))
    exact Document.Declares.mentioned (.component (Members.mem_of_get? hschema))
  have habout := Compiler.typesBody_keeps (Probes.About.converting (plan.compiler doc))
    fun key hkey d => Probes.About.needsConversion_keeps hkey (htarget key hkey) d
  have hhistory : Keeps (plan.compiler doc).History (plan.compiler doc).typesBody :=
    Compiler.typesBody_keeps .converting fun _ _ d => .needsConversion_keeps d _
  have hcovers : (Audit.calling (plan.compiler doc) []).Covers written :=
    Audit.calling_covers (hhistory {} types written htypes .start)
      (habout {} types written htypes (Probes.about_start _))
  have hcalling : (Audit.calling (plan.compiler doc) []).Suits (plan.compiler doc) :=
    Audit.calling_suits hmade nofun
  have hsound := ((Compiler.typesBody_writes hcalling {} types written htypes).2 hcovers).sound
  refine (Audit.callsWithin hsound).mono fun function h => ?_
  rcases h with ⟨_, hmem, _⟩ | hconversion
  · cases hmem
  · obtain ⟨name, rfl, hexports⟩ := exports_of_isConversion hmade declared htypes none hconversion
    exact hexports

/-- What is converted in a file beside that of the types is converted by functions that the types export,
if the conversions are all that asks about references. -/
theorem otherBody_calls (names : List String) {step : Write Code} {body : Code}
    (hkeeps : ∀ {P : Probes → Prop}, (plan.otherCompiler doc).Converting P → Keeps P step)
    (hwrites : ∀ {r : Audit}, r.Suits (plan.otherCompiler doc) → (∀ name ∈ names, r.MayCall name) →
      Writes r step r.Sound)
    (h : Yields.yields (step {}) (body, written₁)) (hnames : names ⊆ body.declaredNames) :
    body.CallsWithin (body.Knows types) := by
  have hcovers : (Audit.calling (plan.otherCompiler doc) names).Covers written₁ :=
    Audit.calling_covers (hkeeps Compiler.History.converting {} body written₁ h .start)
      (hkeeps (Probes.About.converting _) {} body written₁ h (Probes.about_start _))
  have hcalling : (Audit.calling (plan.otherCompiler doc) names).Suits (plan.otherCompiler doc) :=
    Audit.calling_suits hmade fun _ h => (Option.mem_some.1 h).symm
  have hsound := (hwrites hcalling (fun _ => Audit.calling_names) {} body written₁ h).2 hcovers
  refine (Audit.callsWithin hsound).mono fun function h => ?_
  rcases h with ⟨name, hmem, hname⟩ | hconversion
  · exact .inl ⟨name, hnames hmem, hname⟩
  · exact .inr (exports_of_isConversion hmade declared htypes (some "Types") hconversion)

end

/-- Every function that the types, the client or the server call to convert the values of a reference is
exported by the types, if all references of the document name components: whatever stands before a
parenthesis in the compiler's own text is in the vocabulary of the compilers, or a function that the file
declares itself, or one with the alias of the types in front that the types export. -/
theorem calls_exported {config : Config} {raw : Json} (hdocument : Document.ofJson raw = .ok doc)
    (hplan : Plan.ofConfig config = .ok plan)
    (declared : ∀ r, doc.Mentions r → ∃ key ∈ doc.spec.schemas.names,
      Pointer.segments r = .ok ["components", "schemas", key])
    (htypes : (plan.compiler doc).typesBody {} = .ok (types, written))
    (hclient : (plan.otherCompiler doc).clientBody {} issued₁ = (.ok (client, written₁), issued₁'))
    (hserver : (plan.otherCompiler doc).serverBody {} issued₂ = (.ok (server, written₂), issued₂')) :
    types.CallsWithin types.Exports ∧ client.CallsWithin (client.Knows types) ∧
      server.CallsWithin (server.Knows types) := by
  have hmade := Plan.formats_isMade hplan
  have hsuits : Audit.plain.Suits (plan.otherCompiler doc) := Plan.others_suit hmade
  refine ⟨typesBody_calls hmade declared htypes hdocument, ?_, ?_⟩
  · have hbody : Yields.yields ((plan.otherCompiler doc).clientBody {}) (client, written₁) :=
      ⟨_, _, hclient⟩
    obtain ⟨operations, hoperations, hlists⟩ := Compiler.clientBody_lists hsuits Audit.plain_covers
      Audit.plain_mayCall Audit.plain_hidesFormats {} client written₁ hbody
    refine otherBody_calls hmade declared htypes (operations.map (·.functionName))
      Compiler.clientBody_keeps (fun hr hnames => Compiler.clientBody_writes hr ?_) hbody ?_
    · intro _ hoperations' o ho
      cases hoperations.symm.trans hoperations'
      exact hnames _ (List.mem_map_of_mem ho)
    · rw [hlists.declaredNames_eq, ← List.map_eq_flatMap]
      exact List.subset_append_right _ _
  · have hbody : Yields.yields ((plan.otherCompiler doc).serverBody {}) (server, written₂) :=
      ⟨_, _, hserver⟩
    obtain ⟨operations, hoperations, hlists⟩ := Compiler.serverBody_lists hsuits Audit.plain_covers
      Audit.plain_mayCall Audit.plain_hidesFormats {} server written₂ hbody
    refine otherBody_calls hmade declared htypes (operations.map (·.endpoint))
      Compiler.serverBody_keeps (fun hr hnames => (Compiler.serverBody_writes hr ?_).mono
        fun _ => Reader.Complete.sound) hbody ?_
    · intro _ hoperations' o ho
      cases hoperations.symm.trans hoperations'
      exact hnames _ (List.mem_map_of_mem ho)
    · rw [hlists.declaredNames_eq, ← List.map_eq_flatMap]
      exact List.subset_append_left _ _

/-! ## Reading off bytes -/

/-- The characters of a text of small characters are its bytes. -/
theorem Text.toList_of_bytes {text : String} (h : text.toByteArray.data.toList.all (· < 128) = true) :
    text.toList = text.toByteArray.data.toList.map fun byte => Char.ofNat byte.toNat := by
  have hsmall : ∀ n < 128, String.utf8EncodeChar (Char.ofNat n) = [UInt8.ofNat n] := by decide +kernel
  have hencode : (text.toByteArray.data.toList.map fun byte => Char.ofNat byte.toNat).flatMap
      String.utf8EncodeChar = text.toByteArray.data.toList := by
    generalize text.toByteArray.data.toList = bytes at h
    induction bytes with
    | nil => rfl
    | cons byte bytes ih =>
      obtain ⟨hbyte, hbytes⟩ := Bool.and_eq_true_iff.1 (List.all_cons.symm.trans h)
      have hbyte : byte.toNat < 128 := by simpa [UInt8.lt_iff_toNat_lt] using hbyte
      rw [List.map_cons, List.flatMap_cons, hsmall _ hbyte, ih hbytes, UInt8.ofNat_toNat]
      rfl
  have htext : String.ofList (text.toByteArray.data.toList.map fun byte => Char.ofNat byte.toNat) =
      text := by
    rw [← String.toByteArray_inj, String.toByteArray_ofList, List.utf8Encode, hencode]
    exact ByteArray.ext (List.data_toByteArray.trans Array.toArray_toList)
  conv_lhs => rw [← htext]
  exact String.toList_ofList

namespace Code

/-- What there is to see of the compiler's own text, if the bytes are the characters. -/
def seenBytes (body : Code) : List Glyph :=
  body.fragments.flatMap fun f => f.text.toByteArray.data.toList.map fun byte =>
    if f.origin.isSite then .char (Char.ofNat byte.toNat) else .hidden f.origin

theorem calls_of_bytes {body : Code}
    (h : (body.fragments.all fun f => f.text.toByteArray.data.toList.all (· < 128)) = true) :
    body.calls = (Lex.callees Lex.calling {} body.seenBytes).map String.ofList := by
  have hseen : body.seen Origin.isSite = body.seenBytes := by
    refine List.flatMap_congr fun f hf => ?_
    rw [Text.toList_of_bytes (List.all_eq_true.1 h f hf), List.map_map]
    rfl
  rw [calls, hseen]

/-- The code has text of small characters only, and calls a function. -/
def callsByBytes (body : Code) (function : String) : Bool :=
  (body.fragments.all fun f => f.text.toByteArray.data.toList.all (· < 128)) &&
    ((Lex.callees Lex.calling {} body.seenBytes).map String.ofList).contains function

theorem mem_calls_of_bytes {body : Code} {function : String} (h : body.callsByBytes function = true) :
    function ∈ body.calls := by
  obtain ⟨hsmall, hcalls⟩ := Bool.and_eq_true_iff.1 h
  rw [calls_of_bytes hsmall]
  exact List.contains_iff_mem.1 hcalls

end Code

/-- A component that holds values of another one, which also answers an operation; references to that are
spelled in another way than in the file of types. -/
def dayLogSource : Json := .object [("openapi", .string "3.0.3"),
  ("info", .object [("title", .string "Log"), ("version", .string "1")]),
  ("paths", .object [("/log", .object [("get", .object [("operationId", .string "log"),
    ("responses", .object [("200", .object [("description", .string "last"),
      ("content", .object [("application/json", .object [("schema",
        .object [("$ref", .string "#/components/schemas/day~time")])])])])])])])]),
  ("components", .object [("schemas", .object [
    ("day~time", .object [("type", .string "string"), ("format", .string "date-time")]),
    ("Log", .object [("type", .string "array"),
      ("items", .object [("$ref", .string "#/components/schemas/day~time")])])])])]

/-- The document that is read off it. -/
def dayLog : Document where
  raw := dayLogSource
  spec :=
    { openapi := "3.0.3"
      info := { title := "Log", version := "1" }
      paths := [("/log", { get := some {
        operationId := some "log"
        responses := [("200", .inline { description := "last", content := [("application/json",
          { schema := some (.ref "#/components/schemas/day~time") })] })] } })]
      components := some { schemas := [
        ("day~time", .inline { type := some .string, format := some "date-time" }),
        ("Log", .inline
          { type := some .array
            items := some (.ref "#/components/schemas/day~time") })] } }

theorem dayLog_eq : Document.ofJson dayLogSource = .ok dayLog := by
  with_unfolding_all rfl

theorem dayLog_mentions {r : String} (h : dayLog.Mentions r) : r = "#/components/schemas/day~time" := by
  induction h with
  | declared h mem =>
    cases h with
    | component h =>
      rcases List.mem_cons.1 h with h | h
      · cases h
        exact absurd mem List.not_mem_nil
      · cases List.mem_singleton.1 h
        exact List.mem_singleton.1 mem
    | operation listed hmem h =>
      cases (show Except.ok _ = _ from listed)
      cases List.mem_singleton.1 hmem
      cases h with
      | parameter hp => exact absurd hp List.not_mem_nil
      | requestBody hb => cases hb
      | response hr hd h =>
        cases List.mem_singleton.1 hr
        cases hd
        cases List.mem_singleton.1 h
        exact List.mem_singleton.1 mem
      | header hr hd hh =>
        cases List.mem_singleton.1 hr
        cases hd
        exact absurd hh List.not_mem_nil
  | behind _ target_eq mem ih =>
    subst ih
    have htarget : dayLog.resolveAs "#/components/schemas/day~time" "schema" Schema.decode =
        .ok (.inline { type := some .string, format := some "date-time" }) := by
      with_unfolding_all rfl
    cases htarget.symm.trans target_eq
    exact absurd mem List.not_mem_nil

/-- The file of types calls the function of one component for the other one, and the client and the server
call it with the alias; it is exported for both directions. -/
theorem calls_exported_dayLog : ∃ plan types client server written written₁ written₂ issued₁ issued₂,
    Plan.ofConfig {} = .ok plan ∧ (plan.compiler dayLog).typesBody {} = .ok (types, written) ∧
    (plan.otherCompiler dayLog).clientBody {} [] = (.ok (client, written₁), issued₁) ∧
    (plan.otherCompiler dayLog).serverBody {} [] = (.ok (server, written₂), issued₂) ∧
    "parseDay_time" ∈ types.calls ∧ "Types.parseDay_time" ∈ client.calls ∧
    "Types.serializeDay_time" ∈ server.calls ∧ types.Exports "parseDay_time" ∧
    types.Exports "serializeDay_time" := by
  obtain ⟨plan, hplan, h⟩ := Except.eq_ok_of_any
    (show (Plan.ofConfig {}).toOption.any (fun plan =>
      (((plan.compiler dayLog).typesBody {}).toOption.any
        (·.1.callsByBytes "parseDay_time")) &&
      (((plan.otherCompiler dayLog).clientBody {} []).1.toOption.any
        (·.1.callsByBytes ("Types." ++ "parseDay_time"))) &&
      (((plan.otherCompiler dayLog).serverBody {} []).1.toOption.any
        (·.1.callsByBytes ("Types." ++ "serializeDay_time")))) = true by decide +kernel)
  obtain ⟨h, hserver⟩ := Bool.and_eq_true_iff.1 h
  obtain ⟨htypes, hclient⟩ := Bool.and_eq_true_iff.1 h
  obtain ⟨⟨types, written⟩, htypes, hcall⟩ := Except.eq_ok_of_any htypes
  obtain ⟨⟨client, written₁⟩, hclient, hparse⟩ := Except.pair_eq_ok_of_any hclient
  obtain ⟨⟨server, written₂⟩, hserver, hserialize⟩ := Except.pair_eq_ok_of_any hserver
  have hcall := Code.mem_calls_of_bytes hcall
  have hparse := Code.mem_calls_of_bytes hparse
  have hserialize := Code.mem_calls_of_bytes hserialize
  have declared : ∀ r, dayLog.Mentions r → ∃ key ∈ dayLog.spec.schemas.names,
      Pointer.segments r = .ok ["components", "schemas", key] := by
    intro r hr
    rw [dayLog_mentions hr]
    exact ⟨"day~time", List.mem_cons_self, by with_unfolding_all rfl⟩
  have hname : dayLog.refName "#/components/schemas/day~time" = .ok "day_time" := by
    with_unfolding_all rfl
  obtain ⟨htypesCalls, -, hserverCalls⟩ :=
    calls_exported dayLog_eq hplan declared htypes hclient hserver
  exact ⟨plan, types, client, server, written, written₁, written₂, _, _, hplan, htypes, hclient, hserver,
    hcall, hparse, hserialize, htypesCalls.exports_conversion (d := .parse) hname hcall,
    hserverCalls.exports hserialize⟩

end OpenApi
