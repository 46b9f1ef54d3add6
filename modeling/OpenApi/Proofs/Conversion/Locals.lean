import OpenApi.Proofs.Conversion.Scopes

/-!
The local names that a conversion binds. Each of the compilers for the parts of a schema writes code
that fits the numbers it has drawn, if the conversions of the schemas inside do (`Converts`); so all
conversions do, by induction on how far down schemas are followed. What is written to find out whether
a schema behind a reference has anything to convert draws numbers that are given back.
-/

namespace OpenApi

/-- The counter does not go back, and the result has a property that may hang on where the counter
stood before and after the step. -/
def Draws {α : Type} (step : Compile α) (P : Nat → Nat → α → Prop) : Prop :=
  ∀ s a s', step s = .ok (a, s') →
    s.context.next ≤ s'.context.next ∧ P s.context.next s'.context.next a

/-- The counter stays where it is, and the result has a property. -/
def DrawsNone {α : Type} (step : Compile α) (R : α → Prop) : Prop :=
  ∀ s a s', step s = .ok (a, s') → s'.context.next = s.context.next ∧ R a

namespace DrawsNone

variable {α β : Type} {R : α → Prop} {R' : β → Prop}

theorem pure {a : α} (h : R a) : DrawsNone (Pure.pure a : Compile α) R := by
  intro s b s' hb
  cases hb
  exact ⟨rfl, h⟩

theorem throw (e : CompileError) : DrawsNone (MonadExcept.throw e : Compile α) R := by
  intro s a s' ha
  rw [Compile.throw_apply] at ha
  cases ha

theorem bind {step : Compile α} {f : α → Compile β} (h : DrawsNone step R)
    (hf : ∀ a, R a → DrawsNone (f a) R') : DrawsNone (step >>= f) R' := by
  intro s b s' hb
  obtain ⟨a, s₁, ha, hb⟩ := Compile.bind_eq_ok.1 hb
  obtain ⟨hnext, hR⟩ := h s a s₁ ha
  obtain ⟨hnext', hR'⟩ := hf a hR s₁ b s' hb
  exact ⟨hnext'.trans hnext, hR'⟩

theorem mapM {f : α → Compile β} {xs : List α} (h : ∀ x ∈ xs, DrawsNone (f x) R') :
    DrawsNone (xs.mapM f) fun bs => ∀ b ∈ bs, R' b := by
  induction xs with
  | nil => exact .pure (List.forall_mem_nil _)
  | cons x xs ih =>
    rw [List.mapM_cons]
    obtain ⟨hx, hxs⟩ := List.forall_mem_cons.1 h
    exact .bind hx fun b hb => .bind (ih hxs) fun bs hbs => .pure (List.forall_mem_cons.2 ⟨hb, hbs⟩)

end DrawsNone

namespace Draws

variable {α β : Type} {P : Nat → Nat → α → Prop} {Q : Nat → Nat → β → Prop}

theorem pure {a : α} (h : ∀ n, P n n a) : Draws (Pure.pure a : Compile α) P := by
  intro s b s' hb
  cases hb
  exact ⟨le_rfl, h _⟩

theorem throw (e : CompileError) : Draws (MonadExcept.throw e : Compile α) P := by
  intro s a s' ha
  rw [Compile.throw_apply] at ha
  cases ha

theorem throw_bind (e : CompileError) (f : α → Compile β) :
    Draws ((MonadExcept.throw e : Compile α) >>= f) Q := by
  intro s b s' hb
  obtain ⟨a, s₁, ha, -⟩ := Compile.bind_eq_ok.1 hb
  rw [Compile.throw_apply] at ha
  cases ha

/-- The second step goes on where the first one has stopped. -/
theorem bind {step : Compile α} {f : α → Compile β} (h : Draws step P)
    (hf : ∀ a, Draws (f a) fun middle high b => ∀ low ≤ middle, P low middle a → Q low high b) :
    Draws (step >>= f) Q := by
  intro s b s' hb
  obtain ⟨a, s₁, ha, hb⟩ := Compile.bind_eq_ok.1 hb
  obtain ⟨hle, hP⟩ := h s a s₁ ha
  obtain ⟨hle', hQ⟩ := hf a s₁ b s' hb
  exact ⟨hle.trans hle', hQ _ hle hP⟩

/-- Sequencing where the first step draws nothing. -/
theorem bind_none {step : Compile α} {f : α → Compile β} {R : α → Prop} (h : DrawsNone step R)
    (hf : ∀ a, R a → Draws (f a) Q) : Draws (step >>= f) Q := by
  intro s b s' hb
  obtain ⟨a, s₁, ha, hb⟩ := Compile.bind_eq_ok.1 hb
  obtain ⟨hnext, hR⟩ := h s a s₁ ha
  obtain ⟨hle, hQ⟩ := hf a hR s₁ b s' hb
  rw [hnext] at hle hQ
  exact ⟨hle, hQ⟩

/-- Reading a value. -/
theorem bind_read {x : Except CompileError α} {f : α → Compile β}
    (hf : ∀ a, x = .ok a → Draws (f a) Q) : Draws ((liftM x : Compile α) >>= f) Q := by
  cases x with
  | error e => exact .throw_bind e f
  | ok a => exact hf a rfl

/-- Drawing a name. -/
theorem bind_fresh (hint : Hint) {f : String → Compile β}
    (hf : ∀ number, Draws (f (Local.text ⟨hint, number⟩)) fun middle high b =>
      middle = number + 1 → Q number high b) : Draws (Compile.fresh hint.text >>= f) Q := by
  intro s b s' hb
  obtain ⟨name, s₁, hname, hb⟩ := Compile.bind_eq_ok.1 hb
  cases hname
  obtain ⟨hle, hQ⟩ := hf s.context.next _ b s' hb
  exact ⟨(Nat.le_succ _).trans hle, hQ rfl⟩

theorem ite {p : Prop} [Decidable p] {step step' : Compile α} (h : Draws step P)
    (h' : Draws step' P) : Draws (if p then step else step') P := by
  split
  · exact h
  · exact h'

/-- Pieces of code that fit one by one fit together. -/
theorem mapM {t : Conversion} {scope : List Local} {f : α → Compile β} {piece : β → Code}
    {xs : List α}
    (h : ∀ x ∈ xs, Draws (f x) fun low high b => t.Fits scope low high (piece b).render) :
    Draws (xs.mapM f) fun low high bs => t.FitsAll scope low high (bs.map piece) := by
  induction xs with
  | nil => exact .pure fun _ => .nil le_rfl
  | cons x xs ih =>
    rw [List.mapM_cons]
    obtain ⟨hx, hxs⟩ := List.forall_mem_cons.1 h
    refine .bind hx fun b => .bind (ih hxs) fun bs => .pure ?_
    intro n middle hle hbs low hle' hb
    exact .cons hb hbs

end Draws

namespace Conversion

/-- The code of a conversion, if there is any, fits. -/
abbrev FitsOption (t : Conversion) (scope : List Local) (low high : Nat) (code? : Option Code) : Prop :=
  ∀ code ∈ code?, t.Fits scope low high code.render

/-- Whatever names are bound around a value that binds none itself, its conversion fits. -/
def Converts (t : Conversion) (convert : Convert) : Prop :=
  ∀ schema {operand : Code} {scope : List Local}, t.Scopes scope operand.render [] →
    Draws (convert schema operand) (t.FitsOption scope)

variable {t : Conversion} {scope : List Local} {convert : Convert} {operand : Code}

theorem FitsOption.some {low high : Nat} {code : Code} (h : t.Fits scope low high code.render) :
    t.FitsOption scope low high (some code) := by
  rintro _ ⟨⟩
  exact h

theorem FitsOption.getD {low high : Nat} {code? : Option Code} {code : Code} (hle : low ≤ high)
    (h : t.FitsOption scope low high code?) (hcode : t.Scopes scope code.render []) :
    t.Fits scope low high (code?.getD code).render := by
  cases code? with
  | none => exact .of_scopes hcode hle
  | some code => exact h code rfl

end Conversion

namespace Compiler

open Conversion

variable {t : Conversion} {scope : List Local} {convert : Convert} {operand : Code}

/-! ## References and formats -/

theorem functionName_drawsNone (reference : String) :
    DrawsNone (t.compiler.functionName t.direction reference) fun name => t.Scopes scope name [] := by
  intro s name s' h
  refine ⟨?_, .function h⟩
  obtain ⟨_, s₁, hread, hqualify⟩ := Compile.bind_eq_ok.1 h
  -- Reading the name leaves the progress alone, and qualifying it touches no counter.
  have hsame : s₁ = s := by
    cases hrefName : t.compiler.document.refName reference <;> rw [hrefName] at hread <;>
      cases hread
    rfl
  subst hsame
  unfold qualify at hqualify
  cases hqualifier : t.compiler.qualifier <;> simp only [hqualifier] at hqualify <;>
    cases hqualify <;> rfl

theorem convertRef_draws (reference : String) (hoperand : t.Scopes scope operand.render []) :
    Draws (t.compiler.convertRef t.direction (t.compiler.hasConversion t.direction convert) reference
      operand) (t.FitsOption scope) := by
  have hneeded : DrawsNone (t.compiler.hasConversion t.direction convert reference) fun _ => True :=
    fun s b s' h => ⟨by rw [hasConversion_context h], trivial⟩
  refine .bind_none hneeded fun needed _ => .ite ?_ (.pure fun _ => nofun)
  refine .bind_none (R := fun name => t.Scopes scope name []) (functionName_drawsNone reference)
    fun function hfunction => .pure fun n => .some (FitsAll.cat ?_)
  rw [← Code.render_site function] at hfunction
  exact .inert hfunction (.inert hoperand.parens (.nil le_rfl))

theorem convertFormat_drawsNone {name : String} {format : Format}
    (hformat : t.compiler.formats.get? name = some format)
    (hoperand : t.Scopes scope operand.render []) :
    DrawsNone (convertFormat t.direction format operand) fun code? =>
      ∀ code ∈ code?, t.Scopes scope code.render [] := by
  intro s code? s' h
  unfold convertFormat at h
  split at h
  · cases h
    exact ⟨rfl, nofun⟩
  · cases h
    refine ⟨rfl, ?_⟩
    rintro _ ⟨⟩
    exact .apply format.origin hformat (.inl rfl) hoperand

theorem convertString_draws (k : Keywords Schema) (hoperand : t.Scopes scope operand.render []) :
    Draws (t.compiler.convertString t.direction k operand) (t.FitsOption scope) := by
  unfold convertString
  split
  · exact .pure fun _ => nofun
  split
  · exact .pure fun _ => nofun
  refine .bind_read fun format hformat => ?_
  intro s code? s' h
  obtain ⟨hnext, hcode⟩ := convertFormat_drawsNone (Registry.require_eq_ok hformat) hoperand s code? s' h
  exact ⟨hnext.ge, fun code hmem => .of_scopes (hcode code hmem) hnext.ge⟩

/-! ## Arrays and objects -/

theorem convertArray_draws (hconvert : t.Converts convert) (items : Option Schema)
    (hoperand : t.Scopes scope operand.render []) :
    Draws (convertArray convert items operand) (t.FitsOption scope) := by
  cases items with
  | none => exact .pure fun _ => nofun
  | some items =>
    refine .bind_fresh .item fun number => ?_
    let item : Local := ⟨.item, number⟩
    have hitem : t.Scopes (item :: scope) (Code.site item.text).render [] := by
      rw [Code.render_site]
      exact .local (by simp)
    refine .bind (hconvert items hitem) fun converted? => ?_
    cases converted? with
    | none => exact .pure fun _ _ _ _ _ => nofun
    | some converted =>
      refine .pure ?_
      rintro n _ hle hconverted rfl
      -- The name was drawn before the items were converted, so its number is below all in the body.
      have hbody : t.Fits (item :: scope) (number + 1) n converted.arrowBody.render :=
        (hconverted converted rfl).arrowBody
      have harrow : t.Fits scope number n
          (Code.cat ["(", item.text, ": any) => ", converted.arrowBody]).parens.render :=
        (hbody.arrow (.one item) (Nat.le_succ _) (by simp [Parameters.locals, item])
          (by simp [Parameters.locals])).congr
          (String.toList_injective (by simp [Parameters.text]))
      exact .some (FitsAll.inert hoperand.parenthesized (.plain (by decide) (.one harrow))).cat

theorem convertMembers_draws (hconvert : t.Converts convert) (required : List String)
    (hoperand : t.Scopes scope operand.render []) (properties : List (String × Schema)) :
    Draws (convertMembers convert required operand properties) (t.FitsAll scope) := by
  induction properties with
  | nil => exact .pure fun _ => .nil le_rfl
  | cons property rest ih =>
    obtain ⟨name, schema⟩ := property
    have haccess := hoperand.member name
    refine .bind (hconvert schema haccess) fun converted? => .bind ih fun others => ?_
    cases converted? with
    | none =>
      -- What was drawn for a member that stays as it is is a gap before the others.
      refine .pure fun n middle hle hothers low hle' _ => ?_
      exact FitsAll.append (.nil hle') hothers
    | some converted =>
      refine .ite (.pure ?_) (.pure ?_)
      · intro n middle _ hothers low _ hconverted
        exact .cons ((hconverted converted rfl).entry name) hothers
      · intro n middle _ hothers low _ hconverted
        exact .cons (.memberIfPresent haccess name (hconverted converted rfl)) hothers

theorem convertFurther_draws (hconvert : t.Converts convert) (k : Keywords Schema)
    (hoperand : t.Scopes scope operand.render []) :
    Draws (convertFurther convert k operand) (t.FitsOption scope) := by
  unfold convertFurther
  split
  case h_2 => exact .pure fun _ => nofun
  case h_1 schema _ =>
    refine .bind_fresh .key fun number => .bind_fresh .entry fun number' => ?_
    let key : Local := ⟨.key, number⟩
    let entry : Local := ⟨.entry, number'⟩
    have hentry : t.Scopes (key :: entry :: scope) (Code.site entry.text).render [] := by
      rw [Code.render_site]
      exact .local (by simp)
    refine .bind (hconvert schema hentry) fun converted? => ?_
    cases converted? with
    | none => exact .pure fun _ _ _ _ _ _ => nofun
    | some converted =>
      refine .pure ?_
      rintro n _ hle hconverted rfl rfl
      -- Both names were drawn in a row before the values were converted.
      have hdrawn : number ≤ number + 1 + 1 := by omega
      refine .some (.mappedEntries _ hoperand hdrawn ?_ ?_ (hconverted converted rfl))
      · have hkey : number ≤ number ∧ number < number + 1 + 1 := by omega
        have hentry : number ≤ number + 1 ∧ number + 1 < number + 1 + 1 := by omega
        exact List.forall_mem_cons.2 ⟨hkey, List.forall_mem_singleton.2 hentry⟩
      · simp

theorem convertObject_draws (hconvert : t.Converts convert) (k : Keywords Schema)
    (hoperand : t.Scopes scope operand.render []) :
    Draws (convertObject convert k operand) (t.FitsOption scope) := by
  have hbase := hoperand.parenthesized
  refine .bind (convertMembers_draws hconvert _ hbase _) fun members => ?_
  refine .bind (convertFurther_draws hconvert k hbase) fun further? => ?_
  refine .ite (.pure fun _ _ _ _ _ _ _ => nofun) (.pure ?_)
  intro n middle hle hfurther low _ hmembers
  -- The further members stand first, but they were written after the others.
  have hspread : t.Fits scope middle n (Code.cat ["...", further?.getD operand.parenthesized]).render :=
    (FitsAll.plain (by decide) (.one (hfurther.getD hle hbase))).cat
  exact .some (hmembers.join_swap (by decide) hspread).braced

/-! ## Unions -/

theorem throwMalformed_drawsNone (location name : String) {message : String}
    (hmessage : t.Scopes scope message []) :
    DrawsNone (Compile.throwMalformed location name message) fun text => t.Scopes scope text [] := by
  intro s text s' h
  refine ⟨by cases h; rfl, ?_⟩
  rw [Compile.throwMalformed_eq location name message s text s' h]
  have hcomma : t.Scopes scope ", " [] := .plain (by decide)
  have harguments : t.Scopes scope
      (Text.quoted location ++ (", " ++ (Text.quoted name ++ (", " ++ message)))) [] :=
    .append (.literal location) (.append hcomma (.append (.literal name) (.append hcomma hmessage)))
  have hcall : t.Scopes scope ("throw new Runtime.MalformedError" ++ ("(" ++
      (Text.quoted location ++ (", " ++ (Text.quoted name ++ (", " ++ message)))) ++ ")") ++ ";") [] :=
    .append (.append (.plain (by decide)) (.enclosed (by decide) harguments)) (.plain (by decide))
  have htext : "throw new Runtime.MalformedError" ++ ("(" ++
      (Text.quoted location ++ (", " ++ (Text.quoted name ++ (", " ++ message)))) ++ ")") ++ ";" =
      "throw new Runtime.MalformedError(" ++ Text.quoted location ++ ", " ++ Text.quoted name ++
        ", " ++ message ++ ");" := String.toList_injective (by simp)
  exact htext ▸ hcall

theorem convertDiscriminated_draws (hconvert : t.Converts convert) (branches : List Schema)
    (discriminator : Discriminator) (hoperand : t.Scopes scope operand.render []) :
    Draws (convertDiscriminated convert branches discriminator operand) (t.FitsOption scope) := by
  have hselector := hoperand.parenthesized.member discriminator.propertyName
  let arm (case : String × Option Code) : Code :=
    Code.cat ["case ", quoted case.1, ": ", (case.2.getD operand).returned]
  refine .bind_read fun cases _ => ?_
  refine .bind (P := fun low high converted => t.FitsAll scope low high (converted.map arm))
    (.mapM fun case _ => ?_) fun converted => ?_
  · refine .bind (hconvert (.ref case.2) hoperand) fun converted? => .pure ?_
    intro n low hle hconverted
    exact (FitsAll.plain (by decide) (.inert (.quoted _) (.plain (by decide)
      (.one (hconverted.getD hle hoperand).returned)))).cat
  refine .ite (.pure fun _ _ _ _ => nofun) ?_
  have hwords : t.Scopes scope
      (Code.site "\"unknown discriminator value \" + String").render [] := by
    have hliteral : t.Scopes scope (Text.quoted "unknown discriminator value ") [] := .literal _
    have hcalled : t.Scopes scope " + String" [] := .plain (by decide)
    rw [Code.render_site]
    exact hliteral.append hcalled
  have hmessage : t.Scopes scope (Code.cat ["\"unknown discriminator value \" + String",
      (operand.parenthesized.member discriminator.propertyName).parens]).render [] :=
    .cat fun _ => .inert hwords (.inert hselector.parens (.nil le_rfl))
  refine .bind_none (throwMalformed_drawsNone _ _ hmessage) fun failure hfailure => .pure ?_
  intro n low hle harms
  rw [← Code.render_site failure] at hfailure
  have hdefault : t.Scopes scope (Code.cat ["default: ", failure]).render [] :=
    .cat fun _ => .plain (by decide) (.inert hfailure (.nil le_rfl))
  have hbody : t.Fits scope low n (Code.join " " (converted.map arm ++
      [Code.cat ["default: ", failure]])).render :=
    (harms.append (.inert hdefault (.nil le_rfl))).join (by decide)
  exact .some (FitsAll.plain (by decide) (.inert hselector.parens (.plain (by decide)
    (.one hbody.braced)))).cat.immediate

/-- What is returned for a value that is converted, or stays as it is. -/
theorem getD_scopes {code? : Option Code} (h : ∀ code ∈ code?, t.Scopes scope code.render [])
    (hoperand : t.Scopes scope operand.render []) :
    t.Scopes scope (code?.getD operand).render [] := by
  cases code? with
  | none => exact hoperand
  | some code => exact h code rfl

section

variable {formats : List Format}
  (hformats : ∀ f ∈ formats, ∃ name, t.compiler.formats.get? name = some f)

include hformats

theorem serializeFormats_drawsNone (hd : t.direction = .serialize)
    (hoperand : t.Scopes scope operand.render []) :
    DrawsNone (serializeFormats operand formats) fun statements =>
      ∀ statement ∈ statements, t.Scopes scope statement.render [] := by
  induction formats with
  | nil => exact .pure (List.forall_mem_nil _)
  | cons format rest ih =>
    obtain ⟨⟨name, hformat⟩, hrest⟩ := List.forall_mem_cons.1 hformats
    unfold serializeFormats
    split
    case h_2 => exact .throw _
    case h_1 test htest =>
      obtain ⟨template, htemplate, rfl⟩ := Option.map_eq_some_iff.1 htest
      have hcondition := Scopes.apply format.origin hformat (.inr htemplate) hoperand
      have hconvert := convertFormat_drawsNone hformat hoperand
      rw [hd] at hconvert
      refine .bind hconvert fun converted? hconverted => .bind (ih hrest) fun others hothers => ?_
      refine .pure (List.forall_mem_cons.2 ⟨?_, hothers⟩)
      have hresult := getD_scopes hconverted hoperand
      exact (Fits.returnedIf hcondition (.of_scopes hresult (le_refl 0))).scopes

theorem parseFormats_drawsNone (hd : t.direction = .parse)
    (hoperand : t.Scopes scope operand.render []) :
    DrawsNone (parseFormats operand formats) fun statements =>
      ∀ statement ∈ statements, t.Scopes scope statement.render [] := by
  refine .mapM fun format hmem => ?_
  obtain ⟨name, hformat⟩ := hformats format hmem
  have hconvert := convertFormat_drawsNone hformat hoperand
  rw [hd] at hconvert
  refine .bind hconvert fun converted? hconverted => .pure ?_
  have hresult : t.Scopes scope (converted?.getD operand).render [] := getD_scopes hconverted hoperand
  have hcatch : t.Scopes scope (Code.site " catch \x7b\x7d").render [] :=
    Scopes.before_braces (show Code.IsPlain " catch " by decide)
  have hattempt : t.Scopes scope (converted?.getD operand).returned.braced.render [] :=
    (Fits.of_scopes hresult.returned (le_refl 0)).braced.scopes
  exact .cat fun _ => .plain (by decide) (.inert hattempt (.inert hcatch (.nil le_rfl)))

end

section

variable {shapes : UnionShapes}
  (hshapes : ∀ f ∈ shapes.formats, ∃ name, t.compiler.formats.get? name = some f)

include hshapes

theorem unionInstances_drawsNone (hoperand : t.Scopes scope operand.render []) :
    DrawsNone (unionInstances t.direction shapes operand) fun statements =>
      ∀ statement ∈ statements, t.Scopes scope statement.render [] := by
  cases hd : t.direction with
  | parse => exact .pure (List.forall_mem_nil _)
  | serialize =>
    exact serializeFormats_drawsNone (fun f hf => hshapes f (changingFormats_spec _ shapes f hf).1) hd
      hoperand

theorem unionStrings_drawsNone (hoperand : t.Scopes scope operand.render []) :
    DrawsNone (unionStrings t.direction shapes operand) fun statements =>
      ∀ statement ∈ statements, t.Scopes scope statement.render [] := by
  have hstring := hoperand.hasType "string"
  cases hd : t.direction with
  | parse =>
    refine .bind (parseFormats_drawsNone
      (fun f hf => hshapes f (changingFormats_spec _ shapes f hf).1) hd hoperand)
      fun attempts hattempts => .pure ?_
    have hstatements (isPlain : Bool) : ∀ statement ∈
        attempts ++ (if isPlain then [operand.returned] else []),
        t.Scopes scope statement.render [] := by
      refine List.forall_mem_append.2 ⟨hattempts, ?_⟩
      split
      · exact List.forall_mem_singleton.2 hoperand.returned
      · exact List.forall_mem_nil _
    -- The block is the same whichever statements are in it.
    generalize hall : (attempts ++ _ : List Code) = statements
    have hblock : t.Scopes scope (Code.join " " statements).braced.render [] :=
      (FitsAll.join (by decide) (.of_forall (hall ▸ hstatements _) (le_refl 0))).braced.scopes
    split
    · exact List.forall_mem_nil _
    · refine List.forall_mem_singleton.2 (.cat fun _ => ?_)
      exact .plain (by decide) (.inert hstring.parens (.plain (by decide)
        (.inert hblock (.nil le_rfl))))
  | serialize =>
    refine .pure ?_
    split
    · refine List.forall_mem_singleton.2 ?_
      exact (Fits.returnedIf hstring (.of_scopes hoperand (le_refl 0))).scopes
    · exact List.forall_mem_nil _

omit hshapes in
theorem unionOthers_drawsNone (hoperand : t.Scopes scope operand.render []) :
    DrawsNone (unionOthers shapes operand) fun last => t.Scopes scope last.render [] := by
  unfold unionOthers
  split
  · exact .pure hoperand.returned
  · refine .bind (R := fun text => t.Scopes scope text [])
      (throwMalformed_drawsNone "data" "" (.literal _)) fun failure hfailure => .pure ?_
    rw [Code.render_site]
    exact hfailure

/-- The statements of a union bind what the conversions of its objects and of its arrays bind. -/
theorem unionStatements_drawsNone (hoperand : t.Scopes scope operand.render [])
    (object array : Option Code) :
    DrawsNone (unionStatements t.direction shapes object array operand) fun statements =>
      ∀ low middle high, low ≤ middle → middle ≤ high → t.FitsOption scope low middle object →
        t.FitsOption scope middle high array → t.FitsAll scope low high statements := by
  refine .bind (unionInstances_drawsNone hshapes hoperand) fun instances hinstances => ?_
  refine .bind (unionStrings_drawsNone hshapes hoperand) fun strings hstrings => ?_
  refine .bind (unionOthers_drawsNone hoperand) fun last hlast => .pure ?_
  intro low middle high hlow hmiddle hobject harray
  have given {first last : Nat} (present : Bool) {test code : Code}
      (htest : t.Scopes scope test.render []) (hcode : t.Fits scope first last code.render) :
      t.FitsAll scope first last (if present then [test.returnedIf code] else []) := by
    split
    · exact .one (.returnedIf htest hcode)
    · exact .nil hcode.le
  have inert (present : Bool) {test code : Code} (htest : t.Scopes scope test.render [])
      (hcode : t.Scopes scope code.render []) :
      t.FitsAll scope high high (if present then [test.returnedIf code] else []) :=
    given present htest (.of_scopes hcode le_rfl)
  have hnull : t.Scopes scope (operand ++ Code.site " === null").render [] := by
    rw [Code.render_append, Code.render_site]
    exact hoperand.append (.plain (by decide))
  have hnone : t.Scopes scope (Code.site "null").render [] := by
    rw [Code.render_site]
    exact .plain (by decide)
  have hobjects := given (!shapes.objects.isEmpty) hoperand.isRecord (hobject.getD hlow hoperand)
  have harrays := given (!shapes.arrays.isEmpty) hoperand.isArray (harray.getD hmiddle hoperand)
  have hothers := (((inert shapes.null hnull hnone).append
    (inert shapes.number (hoperand.hasType "number") hoperand)).append
    (inert shapes.boolean (hoperand.hasType "boolean") hoperand)).append
    (.of_forall (List.forall_mem_append.2 ⟨hstrings, List.forall_mem_singleton.2 hlast⟩) le_rfl)
  have hall := (FitsAll.of_forall hinstances le_rfl).append (hobjects.append (harrays.append hothers))
  simpa only [List.append_assoc] using hall

end

/-- The formats of a union are registered. -/
theorem ofBranches_registered {branches : List Schema} {shapes : UnionShapes}
    (h : UnionShapes.ofBranches t.compiler.document t.compiler.formats branches = .ok shapes) :
    ∀ f ∈ shapes.formats, ∃ name, t.compiler.formats.get? name = some f := by
  obtain ⟨branches, -, hsorts⟩ := UnionShapes.Sorts.foldlM_add .nil h
  intro f hf
  rw [hsorts.formats] at hf
  obtain ⟨branch, -, hformat⟩ := List.mem_filterMap.1 hf
  cases branch with
  | bool => cases hformat
  | inline k =>
    rw [DirectSchema.format?] at hformat
    split at hformat
    case isTrue =>
      obtain ⟨name, -, hget⟩ := Option.bind_eq_some_iff.1 hformat
      exact ⟨name, hget⟩
    case isFalse => cases hformat

theorem convertArrays_draws (hconvert : t.Converts convert) (arrays : List Schema)
    (hoperand : t.Scopes scope operand.render []) :
    Draws (convertArrays convert arrays operand) (t.FitsOption scope) := by
  unfold convertArrays
  split
  case h_1 => exact .pure fun _ => nofun
  case h_2 => exact convertArray_draws hconvert _ hoperand
  case h_3 => exact convertArray_draws hconvert _ hoperand

theorem convertBranch_draws (hconvert : t.Converts convert) (branches : List Schema)
    (hoperand : t.Scopes scope operand.render []) :
    Draws (convertBranch convert branches operand) (t.FitsOption scope) := by
  cases branches with
  | nil => exact .pure fun _ => nofun
  | cons branch _ => exact hconvert branch hoperand

theorem convertUnion_draws (hconvert : t.Converts convert) (branches : List Schema)
    (hoperand : t.Scopes scope operand.render []) :
    Draws (t.compiler.convertUnion t.direction convert branches operand) (t.FitsOption scope) := by
  refine .bind_read fun shapes hshapes => .ite ?_ ?_
  · exact .throw_bind _ _
  refine .bind (P := fun low high converted => ∃ middle, low ≤ middle ∧ middle ≤ high ∧
    t.FitsOption scope low middle converted.1 ∧ t.FitsOption scope middle high converted.2) ?_ ?_
  · refine .bind (convertBranch_draws hconvert _ hoperand) fun object => ?_
    refine .bind (convertArrays_draws hconvert _ hoperand) fun array => .pure ?_
    exact fun high middle hmiddle harray low hlow hobject => ⟨middle, hlow, hmiddle, hobject, harray⟩
  · rintro ⟨object, array⟩
    refine .ite (.pure fun _ _ _ _ => nofun) ?_
    refine .bind_none (unionStatements_drawsNone (ofBranches_registered hshapes) hoperand object array)
      fun statements hstatements => .pure ?_
    rintro high low _ ⟨middle, hlow, hmiddle, hobject, harray⟩
    have hall := hstatements low middle high hlow hmiddle hobject harray
    exact .some (hall.join (by decide)).immediate

/-! ## Schemas -/

theorem convertKeywords_draws (depth : Nat) (hconvert : t.Converts convert) (k : Keywords Schema)
    (hoperand : t.Scopes scope operand.render []) :
    Draws (t.compiler.convertKeywords t.direction depth convert k operand) (t.FitsOption scope) := by
  apply convertKeywords_cases (motive := fun m => Draws m (t.FitsOption scope))
  case object => exact fun k => convertObject_draws hconvert k hoperand
  case array => exact convertArray_draws hconvert _ hoperand
  case string => exact convertString_draws k hoperand
  case discriminated => exact fun _ => convertDiscriminated_draws hconvert _ _ hoperand
  case union => exact convertUnion_draws hconvert _ hoperand
  case failed => exact .throw
  case unchanged => exact .pure fun _ => nofun

/-- However far down schemas are followed, their conversions fit. -/
theorem convertTo_draws (t : Conversion) (depth : Nat) :
    t.Converts (t.compiler.convertTo t.direction depth) := by
  induction depth with
  | zero => exact fun _ _ _ _ => .throw _
  | succ depth ih =>
    intro schema operand scope hoperand
    cases schema with
    | bool accepts => exact .pure fun _ => nofun
    | ref reference => exact convertRef_draws reference hoperand
    | inline k =>
      refine .bind (convertKeywords_draws depth ih k hoperand) fun converted? => .pure ?_
      intro n low _ hconverted
      split
      · cases converted? with
        | none => exact nofun
        | some converted => exact .some (.unlessNull hoperand (hconverted converted rfl))
      · exact hconverted

end Compiler

/-- The arrow functions that a conversion writes bind local names that it has drawn, no two of them the
same one and none that is an identifier of the value; and a name stands only in the body of the arrow
function that binds it. So an arrow function inside of another one does not hide its names, and none
hides a name of the value. -/
theorem convert?_scopes {c : Compiler} {d : Direction} {schema : Schema} {value converted : Code}
    {s s' : Progress}
    (hvalue : ∀ x : Local, s.context.next ≤ x.number → x.text ∉ value.identifiers)
    (hconverted : c.convert? d schema value s = .ok (some converted, s')) :
    ∃ bound, (Conversion.mk c d value).Scopes [] converted.render bound ∧
      (∀ x ∈ bound, s.context.next ≤ x.number ∧ x.number < s'.context.next) ∧
      (bound.map Local.text).Nodup ∧ ∀ x ∈ bound, x.text ∉ value.identifiers := by
  obtain ⟨-, hfits⟩ := Compiler.convertTo_draws ⟨c, d, value⟩ _ schema .value s _ s' hconverted
  obtain ⟨-, bound, hscopes, hrange, hnodup⟩ := hfits converted rfl
  exact ⟨bound, hscopes, hrange, hnodup.map Local.text_injective,
    fun x hx => hvalue x (hrange x hx).1⟩

/-- A document without components. -/
def stampTables : Compiler where
  document := { raw := .object [], spec := default }
  formats := Registry.builtin "./runtime"

/-- Rows of lists of stamps under any names, and a number under a known one. -/
def stampRows : Schema :=
  let stamp : Schema := .inline { type := some .string, format := some "date-time" }
  let stamps : Schema := .inline { type := some .array, items := some stamp }
  .inline { type := some .array, items := some (.inline {
    properties := [("total", .inline { type := some .number })],
    additionalProperties := some (.schema stamps) }) }

/-- Rows as they are parsed, where the first number for a local name is one. -/
def stampRowsCode : String :=
  "item_0.map((item_1: any) => (\x7b ...Object.fromEntries(Object.entries(item_1).map(" ++
    "([key_2, entry_3]: [string, any]) => [key_2, [\"total\"].includes(key_2) ? entry_3 : " ++
    "entry_3.map((item_4: any) => new Date(item_4))])) \x7d))"

/-- A value that is a local name itself, with a number that is not drawn again. -/
theorem convert?_scopes_stampRows : ∃ converted s',
    stampTables.convert? .parse stampRows "item_0" { context := { next := 1 } } =
      .ok (some converted, s') ∧ converted.render = stampRowsCode ∧
    ∃ bound, (Conversion.mk stampTables .parse "item_0").Scopes [] converted.render bound ∧
      (∀ x ∈ bound, 1 ≤ x.number ∧ x.number < s'.context.next) ∧
      (bound.map Local.text).Nodup ∧ ∀ x ∈ bound, x.text ∉ Code.identifiers "item_0" := by
  obtain ⟨⟨converted, s'⟩, hconverted, hcode⟩ := Except.eq_ok_of_any
    (show (stampTables.convert? .parse stampRows "item_0" { context := { next := 1 } }).toOption.any
      (fun result => result.1.any fun code => code.render == stampRowsCode) = true by
        decide +kernel)
  obtain ⟨converted, rfl, hcode⟩ := (Option.any_eq_true _ _).1 hcode
  refine ⟨converted, s', hconverted, by simpa using hcode,
    convert?_scopes (fun x hx hmem => ?_) hconverted⟩
  have hidentifiers : Code.identifiers "item_0" = [Local.text ⟨.item, 0⟩] := by decide
  rw [hidentifiers, List.mem_singleton] at hmem
  rw [Local.text_injective hmem] at hx
  exact absurd hx (by decide)

end OpenApi
