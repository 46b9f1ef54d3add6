import OpenApi.Proofs.Conversion.Answers
import OpenApi.Proofs.Types.Audited

/-!
Conversions are sound: each constructor of schemas, and each way to tell the branches of a union, closes
around its parts what it opens. What is written to find out whether there is anything to convert does not
count, since nothing that it recorded is kept.
-/

namespace OpenApi

variable {r : Audit} {c : Compiler} {d : Direction} {convert : Convert} {value : Code}

/-- What is returned, if anything, is sound. -/
abbrev Reader.SoundOption (r : Reader) (code? : Option Code) : Prop := ∀ code ∈ code?, r.Sound code

/-- All schemas are converted to sound code. -/
def Audit.Converts (r : Audit) (convert : Convert) : Prop :=
  ∀ schema {value : Code}, r.Operand value → Writes r (convert schema value) r.SoundOption

theorem Reader.SoundOption.getD {r : Reader} {code? : Option Code} (h : r.SoundOption code?)
    {otherwise : Code} (hotherwise : r.Sound otherwise) : r.Sound (code?.getD otherwise) := by
  cases code? with
  | none => exact hotherwise
  | some code => exact h code rfl

theorem Reader.soundOption_some {r : Reader} {code : Code} (h : r.Sound code) :
    r.SoundOption (some code) := by simpa [Reader.SoundOption] using h

namespace Compiler

/-! ## References -/

theorem hasConversion_context {reference : String} {b : Bool} {s s' : Progress}
    (h : c.hasConversion d convert reference s = .ok (b, s')) : s'.context = s.context := by
  obtain ⟨_, rfl⟩ := hasConversion_frame h
  rfl

/-- What has been settled stays so when a new question is answered. -/
theorem settled_closing {p q : Probes} {reference : String} {b : Bool} {key : String × Direction}
    (unknown : p.settled.lookup (reference, d) = none) (known : p.settled.lookup key = some true)
    (hq : q.settled.lookup key = some true) :
    (p.closing d reference b q).settled.lookup key = some true := by
  rw [Probes.lookup_closing_of_ne, hq]
  rintro rfl
  cases unknown.symm.trans known

/-- If the answer is that there is something to convert, it has been settled. -/
theorem hasConversion_writes (hconvert : r.Converts convert) (reference : String) :
    Writes r (c.hasConversion d convert reference) fun needed =>
      needed = true → r.mayConvert reference d := by
  intro s b s' h
  replace h : c.hasConversion d convert reference s = .ok (b, s') := h
  cases known : s.probes.settled.lookup (reference, d) with
  | some answer =>
    rw [hasConversion_settled known] at h
    cases h
    exact ⟨.refl _, fun hcovers hb => hcovers.settled (hb ▸ known)⟩
  | none =>
    rcases hasConversion_eq_ok h with
      ⟨known', _⟩ | ⟨_, _, rfl, rfl⟩ | ⟨target, converted, after, _, _, hinside, rfl, rfl⟩
    · cases known.symm.trans known'
    · exact ⟨⟨.refl _, id⟩, fun _ => nofun⟩
    · have hwithin := (hconvert target (Reader.operand_given (by decide)) _ _ _ hinside).1
      refine ⟨⟨.refl _, fun hs => settled_closing known hs (hwithin.settled hs)⟩, fun hcovers hb => ?_⟩
      refine hcovers.settled ?_
      have hfinal : s.probes.isFinal converted.isSome after.probes = true := by
        rw [hb]
        rfl
      dsimp only [Probes.closing]
      rw [if_pos hfinal, List.lookup_cons_self, hb]

theorem convertRef_writes (hr : r.Suits c) (hconvert : r.Converts convert) (reference : String)
    (hvalue : r.Operand value) :
    Writes r (c.convertRef d (c.hasConversion d convert) reference value) r.SoundOption := by
  refine .bind (hasConversion_writes hconvert reference) fun needed => ?_
  cases needed with
  | false => exact .pure fun _ => nofun
  | true =>
    refine .bind (functionName_writes hr d reference) fun function => .pure ?_
    intro hfunction hneeded
    exact Reader.soundOption_some (Reader.value_call (hfunction (hneeded rfl)) hvalue.sound).sound

/-! ## Strings, arrays and objects -/

/-- If the format changes the value, its imports are recorded. -/
theorem convertFormat_changing {format : Format} (hchanges : (format.template d).isIdentity = false)
    (hadmits : r.Admits format) (hvalue : r.Operand value) :
    Writes r (convertFormat d format value) fun converted? =>
      r.Treats format ∧ r.SoundOption converted? := by
  unfold convertFormat
  rw [if_neg (by simp [hchanges])]
  refine .bind (.withImports format) fun _ => .pure fun htreats => ?_
  exact ⟨htreats hadmits, Reader.soundOption_some ((htreats hadmits).convert d hvalue.value)⟩

theorem convertFormat_writes {format : Format} (hadmits : r.Admits format)
    (hvalue : r.Operand value) : Writes r (convertFormat d format value) r.SoundOption := by
  cases hchanges : (format.template d).isIdentity with
  | false => exact (convertFormat_changing hchanges hadmits hvalue).mono fun _ h => h.2
  | true =>
    unfold convertFormat
    rw [if_pos hchanges]
    exact .pure nofun

theorem convertString_writes (hr : r.Suits c) (k : Keywords Schema) (hvalue : r.Operand value) :
    Writes r (c.convertString d k value) r.SoundOption := by
  unfold convertString
  split
  · exact .pure nofun
  · split
    · exact .pure nofun
    · refine .bind_read fun format hformat => ?_
      exact convertFormat_writes (hr.formats (Registry.require_eq_ok hformat)) hvalue

theorem convertArray_writes (hconvert : r.Converts convert) (items : Option Schema)
    (hvalue : r.Operand value) : Writes r (convertArray convert items value) r.SoundOption := by
  cases items with
  | none => exact .pure nofun
  | some items =>
    refine .bind_fresh (by decide) fun item hitem => ?_
    refine .bind (hconvert items hitem) fun converted? => ?_
    cases converted? with
    | none => exact .pure fun _ => nofun
    | some converted =>
      refine .pure fun hconverted => Reader.soundOption_some ?_
      have hbody := (hconverted converted rfl).arrowBody
      have hfits : r.Fits _ [value.parenthesized, ".map", "(", "(", Code.site item, ": any) => ",
          converted.arrowBody, ")"] :=
        .value hvalue.value.parenthesized (.text (.text (.text (.value hitem.value (.text
          (.sound hbody (.text .nil)))))))
      exact (hfits.cat (by decide)).congr (by simp [Code.parens])

theorem convertMembers_writes (hconvert : r.Converts convert) (required : List String)
    (hvalue : r.Operand value) (properties : List (String × Schema)) :
    Writes r (convertMembers convert required value properties) fun members =>
      ∀ member ∈ members, r.Sound member := by
  induction properties with
  | nil => exact .pure (List.forall_mem_nil _)
  | cons property rest ih =>
    obtain ⟨name, schema⟩ := property
    have haccess := hvalue.member name
    refine .bind (hconvert schema haccess) fun converted? => .bind ih fun others => ?_
    cases converted? with
    | none => exact .pure fun hothers _ => hothers
    | some converted =>
      refine .ite (.pure fun hothers hconverted => ?_) (.pure fun hothers hconverted => ?_)
      · exact List.forall_mem_cons.2 ⟨Reader.sound_entry name (hconverted converted rfl), hothers⟩
      · exact List.forall_mem_cons.2
          ⟨haccess.sound.memberIfPresent name (hconverted converted rfl), hothers⟩

theorem convertFurther_writes (hconvert : r.Converts convert) (k : Keywords Schema)
    (hvalue : r.Operand value) : Writes r (convertFurther convert k value) r.SoundOption := by
  unfold convertFurther
  split
  case h_1 schema _ =>
    refine .bind_fresh (by decide) fun key hkey => .bind_fresh (by decide) fun entry hentry => ?_
    refine .bind (hconvert schema hentry) fun converted? => ?_
    cases converted? with
    | none => exact .pure fun _ => nofun
    | some converted =>
      refine .pure fun hconverted => Reader.soundOption_some ?_
      exact hvalue.sound.mappedEntries hkey hentry _ (hconverted converted rfl)
  case h_2 => exact .pure nofun

theorem convertObject_writes (hconvert : r.Converts convert) (k : Keywords Schema)
    (hvalue : r.Operand value) : Writes r (convertObject convert k value) r.SoundOption := by
  have hbase := hvalue.parenthesized
  refine .bind (convertMembers_writes hconvert _ hbase _) fun members => ?_
  refine .bind (convertFurther_writes hconvert k hbase) fun further? => ?_
  refine .ite (.pure fun _ _ => nofun) (.pure fun hfurther hmembers => Reader.soundOption_some ?_)
  have hspread := Reader.sound_spread (hfurther.getD hbase.sound)
  exact (Reader.Value.braced
    (Reader.sound_join (List.forall_mem_cons.2 ⟨hspread, hmembers⟩) (by decide))).sound

/-! ## Unions -/

theorem convertDiscriminated_writes (hconvert : r.Converts convert) (branches : List Schema)
    (discriminator : Discriminator) (hvalue : r.Operand value) :
    Writes r (convertDiscriminated convert branches discriminator value) r.SoundOption := by
  have hselector := hvalue.parenthesized.member discriminator.propertyName
  refine .bind_read fun cases _ => ?_
  refine .bind (P := fun converted => ∀ case ∈ converted, r.SoundOption case.2)
    (.mapM fun case _ => ?_) fun converted => ?_
  · exact .bind (hconvert (.ref case.2) hvalue) fun _ => .pure id
  refine .ite (.pure fun _ => nofun) ?_
  have hmessage : r.Sound (Code.site (Code.cat ["\"unknown discriminator value \" + String",
      (value.parenthesized.member discriminator.propertyName).parens]).render) := by
    have hfits : r.Fits _ ["\"unknown discriminator value \" + String", "(",
        value.parenthesized.member discriminator.propertyName, ")"] :=
      .text (.text (.sound hselector.sound (.text .nil)))
    have hshown : r.Sound (Code.cat ["\"unknown discriminator value \" + String",
        (value.parenthesized.member discriminator.propertyName).parens]) :=
      (hfits.cat (by decide)).congr (by simp [Code.parens])
    refine hshown.congr (Reader.Shown.glyphs_render ?_)
    exact Reader.shown_cat (by simp [Reader.shown_site, hselector.parens.shown])
  refine .bind (.throwMalformed _ _ hmessage) fun failure => .pure fun hfailure hconverted => ?_
  have harm (tag : String) {converted? : Option Code} (h : r.SoundOption converted?) :
      r.Sound (Code.cat ["case ", quoted tag, ": ", (converted?.getD value).returned]) := by
    have hreturned := Reader.Complete.returned (h.getD hvalue.sound)
    exact (Reader.Fits.text (.complete (Reader.complete_quoted tag) (.text
      (.complete hreturned .nil)))).cat (by decide)
  have hdefault : r.Sound (Code.cat ["default: ", Code.site failure]) :=
    (Reader.Fits.text (.sound hfailure .nil)).cat (by decide)
  have hbody : r.Sound (Code.join " " (_ ++ [_])) := Reader.sound_join
    (List.forall_mem_append.2 ⟨List.forall_mem_map.2 fun case hcase =>
      harm case.1 (hconverted case hcase), List.forall_mem_singleton.2 hdefault⟩) (by decide)
  refine Reader.soundOption_some (Reader.Value.immediate ?_).sound
  exact (Reader.Fits.text (.value (.parens hselector.sound) (.text (.value (.braced hbody) .nil)))).cat
    (by decide)

theorem serializeFormats_writes (hvalue : r.Operand value) {formats : List Format}
    (hadmits : ∀ f ∈ formats, r.Admits f)
    (hchanges : ∀ f ∈ formats, (f.template .serialize).isIdentity = false) :
    Writes r (serializeFormats value formats) fun statements => ∀ s ∈ statements, r.Sound s := by
  induction formats with
  | nil => exact .pure (List.forall_mem_nil _)
  | cons format rest ih =>
    obtain ⟨hformat, hadmits⟩ := List.forall_mem_cons.1 hadmits
    obtain ⟨hchange, hchanges⟩ := List.forall_mem_cons.1 hchanges
    unfold serializeFormats
    split
    case h_2 => exact .throw _
    case h_1 test htest =>
      refine .bind (convertFormat_changing hchange hformat hvalue) fun converted? => ?_
      refine .bind (ih hadmits hchanges) fun others => .pure fun hothers ⟨htreats, hconverted⟩ => ?_
      refine List.forall_mem_cons.2 ⟨(Reader.Complete.returnedIf ?_ ?_).sound, hothers⟩
      · exact htreats.test hvalue.value test htest
      · exact hconverted.getD hvalue.sound

theorem parseFormats_writes (hvalue : r.Operand value) {formats : List Format}
    (hadmits : ∀ f ∈ formats, r.Admits f) :
    Writes r (parseFormats value formats) fun statements => ∀ s ∈ statements, r.Sound s := by
  refine .mapM fun format hformat => ?_
  refine .bind (convertFormat_writes (hadmits format hformat) hvalue) fun converted? => ?_
  refine .pure fun hconverted => ?_
  have hreturned := Reader.Complete.returned (hconverted.getD hvalue.sound)
  exact (Reader.Fits.text (.value (.braced hreturned.sound) (.text .nil))).cat (by decide)

theorem convertArrays_writes (hconvert : r.Converts convert) (arrays : List Schema)
    (hvalue : r.Operand value) : Writes r (convertArrays convert arrays value) r.SoundOption := by
  unfold convertArrays
  split
  case h_1 => exact .pure nofun
  case h_2 => exact convertArray_writes hconvert _ hvalue
  case h_3 => exact convertArray_writes hconvert _ hvalue

theorem changingFormats_spec (d : Direction) (shapes : UnionShapes) :
    ∀ f ∈ changingFormats d shapes, f ∈ shapes.formats ∧ (f.template d).isIdentity = false := by
  intro f hf
  obtain ⟨hmem, hchanges⟩ := List.mem_filter.1 hf
  exact ⟨hmem, by simpa using hchanges⟩

theorem unionOthers_writes (shapes : UnionShapes) (hvalue : r.Operand value) :
    Writes r (unionOthers shapes value) r.Sound := by
  refine .ite (.pure (Reader.Complete.returned hvalue.sound).sound) ?_
  exact .map _ (.throwMalformed _ _ (Reader.complete_quoted _).sound)

section

variable {shapes : UnionShapes} (hadmits : ∀ f ∈ shapes.formats, r.Admits f)

include hadmits

theorem unionStrings_writes (hvalue : r.Operand value) :
    Writes r (unionStrings d shapes value) fun statements => ∀ s ∈ statements, r.Sound s := by
  have hstring := hvalue.sound.hasType "string"
  have hformats : ∀ f ∈ changingFormats d shapes, r.Admits f :=
    fun f hf => hadmits f (changingFormats_spec d shapes f hf).1
  cases d with
  | parse =>
    refine .bind (parseFormats_writes hvalue hformats) fun attempts => .pure fun hattempts => ?_
    have hstatements (isPlain : Bool) :
        ∀ s ∈ attempts ++ (if isPlain then [value.returned] else []), r.Sound s := by
      refine List.forall_mem_append.2 ⟨hattempts, ?_⟩
      split
      · exact List.forall_mem_singleton.2 (Reader.Complete.returned hvalue.sound).sound
      · exact List.forall_mem_nil _
    generalize hall : (attempts ++ _ : List Code) = statements
    have hbody : r.Sound (Code.join " " statements) :=
      Reader.sound_join (hall ▸ hstatements _) (by decide)
    split
    · exact List.forall_mem_nil _
    · refine List.forall_mem_singleton.2 ?_
      exact (Reader.Fits.text (.value (.parens hstring) (.text (.value (.braced hbody) .nil)))).cat
        (by decide)
  | serialize =>
    refine .pure ?_
    split
    · exact List.forall_mem_singleton.2 (Reader.Complete.returnedIf hstring hvalue.sound).sound
    · exact List.forall_mem_nil _

theorem unionInstances_writes (hvalue : r.Operand value) :
    Writes r (unionInstances d shapes value) fun statements => ∀ s ∈ statements, r.Sound s := by
  cases d with
  | parse => exact .pure (List.forall_mem_nil _)
  | serialize =>
    exact serializeFormats_writes hvalue
      (fun f hf => hadmits f (changingFormats_spec _ shapes f hf).1)
      fun f hf => (changingFormats_spec _ shapes f hf).2

theorem unionStatements_writes (hvalue : r.Operand value) {object array : Option Code} :
    Writes r (unionStatements d shapes object array value) fun statements =>
      r.SoundOption object → r.SoundOption array → ∀ s ∈ statements, r.Sound s := by
  refine .bind (unionInstances_writes hadmits hvalue) fun instances => ?_
  refine .bind (unionStrings_writes hadmits hvalue) fun strings => ?_
  refine .bind (unionOthers_writes shapes hvalue) fun last => ?_
  refine .pure fun hlast hstrings hinstances hobject harray => ?_
  have given (present : Bool) {condition code : Code} (hcondition : r.Sound condition)
      (hcode : r.Sound code) :
      ∀ s ∈ if present then [condition.returnedIf code] else [], r.Sound s := by
    split
    · exact List.forall_mem_singleton.2 (Reader.Complete.returnedIf hcondition hcode).sound
    · exact List.forall_mem_nil _
  have hnull : r.Sound (value ++ " === null") := (Reader.Fits.sound hvalue.sound (.text .nil)).append
    (by decide)
  simp only [List.forall_mem_append]
  refine ⟨⟨⟨⟨⟨⟨⟨hinstances, ?_⟩, ?_⟩, ?_⟩, ?_⟩, ?_⟩, hstrings⟩, List.forall_mem_singleton.2 hlast⟩
  · exact given _ hvalue.sound.isRecord (hobject.getD hvalue.sound)
  · exact given _ hvalue.sound.isArray (harray.getD hvalue.sound)
  · exact given _ hnull (Reader.sound_given (by decide))
  · exact given _ (hvalue.sound.hasType _) hvalue.sound
  · exact given _ (hvalue.sound.hasType _) hvalue.sound

theorem unionConversion_writes (hvalue : r.Operand value) {object array : Option Code} :
    Writes r (unionConversion d shapes object array value) fun converted? =>
      r.SoundOption object → r.SoundOption array → r.SoundOption converted? := by
  refine .ite (.pure fun _ _ => nofun) ?_
  refine .bind (unionStatements_writes hadmits hvalue) fun statements => ?_
  refine .pure fun hstatements hobject harray => Reader.soundOption_some ?_
  exact (Reader.Value.immediate
    (Reader.sound_join (hstatements hobject harray) (by decide))).sound

end

theorem convertBranch_writes (hconvert : r.Converts convert) (branches : List Schema)
    (hvalue : r.Operand value) : Writes r (convertBranch convert branches value) r.SoundOption := by
  cases branches with
  | nil => exact .pure nofun
  | cons branch _ => exact hconvert branch hvalue

/-- The formats of a union are registered. -/
theorem addString_admits (hr : r.Suits c) {shapes shapes' : UnionShapes} {k : Keywords Schema}
    (h : shapes.addString c.formats k = .ok shapes') (hshapes : ∀ f ∈ shapes.formats, r.Admits f) :
    ∀ f ∈ shapes'.formats, r.Admits f := by
  unfold UnionShapes.addString at h
  split at h
  · cases h; exact hshapes
  · split at h
    · cases h; exact hshapes
    · obtain ⟨format, hformat, h⟩ := Except.bind_eq_ok.1 h
      cases h
      exact List.forall_mem_append.2 ⟨hshapes,
        List.forall_mem_singleton.2 (hr.formats (Registry.require_eq_ok hformat))⟩

theorem addKeywords_admits (hr : r.Suits c) {shapes shapes' : UnionShapes} {branch : Schema}
    {k : Keywords Schema} (h : shapes.addKeywords c.formats branch k = .ok shapes')
    (hshapes : ∀ f ∈ shapes.formats, r.Admits f) : ∀ f ∈ shapes'.formats, r.Admits f := by
  unfold UnionShapes.addKeywords at h
  split at h
  case isTrue => cases h
  dsimp only at h
  split at h
  case h_7 => exact addString_admits hr h hshapes
  case h_8 => cases h
  case h_9 =>
    split at h
    · cases h; exact hshapes
    split at h
    · cases h; exact hshapes
    split at h
    · exact addString_admits hr h hshapes
    · cases h; exact hshapes
  all_goals
    cases h
    exact hshapes

theorem ofBranches_admits (hr : r.Suits c) {branches : List Schema} {shapes : UnionShapes}
    (h : UnionShapes.ofBranches c.document c.formats branches = .ok shapes) :
    ∀ f ∈ shapes.formats, r.Admits f := by
  let inv (shapes : UnionShapes) : Prop := ∀ f ∈ shapes.formats, r.Admits f
  show inv shapes
  refine Except.foldlM_preserves (fun shapes branch _ shapes' hshapes h => ?_) (List.forall_mem_nil _) h
  obtain ⟨target, _, h⟩ := Except.bind_eq_ok.1 h
  split at h
  · cases h; exact hshapes
  · cases h; exact hshapes
  · exact addKeywords_admits hr h hshapes

theorem convertUnion_writes (hr : r.Suits c) (hconvert : r.Converts convert)
    (branches : List Schema) (hvalue : r.Operand value) :
    Writes r (c.convertUnion d convert branches value) r.SoundOption := by
  refine .bind_read fun shapes hshapes => .ite (.throw_bind _ _) ?_
  refine .bind (P := fun converted => r.SoundOption converted.1 ∧ r.SoundOption converted.2) ?_ ?_
  · refine .bind (convertBranch_writes hconvert _ hvalue) fun object => ?_
    refine .bind (convertArrays_writes hconvert _ hvalue) fun array => ?_
    exact .pure fun harray hobject => ⟨hobject, harray⟩
  · rintro ⟨object, array⟩
    exact (unionConversion_writes (ofBranches_admits hr hshapes) hvalue).mono
      fun _ h hconverted => h hconverted.1 hconverted.2

/-! ## Schemas -/

theorem convertKeywords_writes (hr : r.Suits c) (depth : Nat) (hconvert : r.Converts convert)
    (k : Keywords Schema) (hvalue : r.Operand value) :
    Writes r (c.convertKeywords d depth convert k value) r.SoundOption := by
  apply convertKeywords_cases (motive := fun m => Writes r m r.SoundOption)
  case object => exact fun k => convertObject_writes hconvert k hvalue
  case array => exact convertArray_writes hconvert _ hvalue
  case string => exact convertString_writes hr k hvalue
  case discriminated => exact fun _ => convertDiscriminated_writes hconvert _ _ hvalue
  case union => exact convertUnion_writes hr hconvert _ hvalue
  case failed => exact .throw
  case unchanged => exact .pure nofun

/-- Schemas are converted to sound code, however many levels down they are followed. -/
theorem convertTo_writes (hr : r.Suits c) (d : Direction) (depth : Nat) :
    r.Converts (c.convertTo d depth) := by
  induction depth with
  | zero => exact fun _ _ _ => .throw _
  | succ depth ih =>
    intro schema value hvalue
    cases schema with
    | bool accepts => exact .pure nofun
    | ref reference => exact convertRef_writes hr ih reference hvalue
    | inline k =>
      refine .bind (convertKeywords_writes hr depth ih k hvalue) fun converted? => .pure ?_
      intro hconverted
      split
      · cases converted? with
        | none => exact nofun
        | some converted =>
          have hnull := Reader.Value.unlessNull hvalue.sound (hconverted converted rfl)
          exact Reader.soundOption_some hnull.sound
      · exact hconverted

theorem convert?_writes (hr : r.Suits c) (d : Direction) (schema : Schema)
    (hvalue : r.Operand value) : Writes r (c.convert? d schema value) r.SoundOption :=
  convertTo_writes hr d _ schema hvalue

theorem convert_writes (hr : r.Suits c) (d : Direction) (schema : Schema)
    (hvalue : r.Operand value) : Writes r (c.convert d schema value) r.Sound :=
  .bind (convert?_writes hr d schema hvalue) fun _ => .pure fun h => h.getD hvalue.sound

theorem needsConversion_writes (hr : r.Suits c) (d : Direction) (reference : String) :
    Writes r (c.needsConversion d reference) fun needed => needed = true → r.mayConvert reference d :=
  hasConversion_writes (convertTo_writes hr d _) reference

end Compiler

end OpenApi
