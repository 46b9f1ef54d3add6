import OpenApi.Proofs.Code.Lexing
import OpenApi.Proofs.Conversion.Audited
import OpenApi.Proofs.Conversion.Branches
import OpenApi.Proofs.Format.Occurrences

/-!
Local names in conversions. `Conversion.Scopes` reads the text of a conversion with the names that are
bound around it and lists the names that its own arrow functions bind; a local name may stand only
where it is bound. A compiler draws the names that it binds from the counter of the file, and
`Conversion.Fits` says that the bound names are the ones drawn from one number on before another one,
each bound once. `Draws` follows the counter through the steps of a compiler: what two steps draw
stays apart because the second one begins where the first one has ended, however deep the steps are
nested and whatever they draw in vain.
-/

namespace OpenApi

/-! ## Local names -/

/-- What a local name of a conversion stands for. -/
inductive Hint where
  | item
  | key
  | entry
  deriving DecidableEq, Repr

/-- The word for a hint. -/
def Hint.text : Hint → String
  | .item => "item"
  | .key => "key"
  | .entry => "entry"

/-- A local name of a conversion. -/
structure Local where
  hint : Hint
  number : Nat
  deriving DecidableEq, Repr

namespace Local

/-- The name as it stands in code. -/
def text (x : Local) : String := x.hint.text ++ "_" ++ toString x.number

/-- Names with different hints or different numbers are different names. -/
theorem text_injective : Function.Injective text := by
  intro ⟨hint, number⟩ ⟨hint', number'⟩ h
  have hchars := congrArg String.toList h
  have hdigits : (toString number).toList = (toString number').toList → number = number' := by
    intro h
    have := congrArg (fun digits => Nat.ofDigitChars 10 digits 0) h
    simpa [Nat.toString_eq_ofList_toDigits] using this
  cases hint <;> cases hint' <;> simp [text, Hint.text] at hchars <;> simp [hdigits, hchars]

/-- Names that are drawn one range after the other, whichever range comes first, are different. -/
theorem append_apart {first last first' last' : Nat} {xs ys : List Local}
    (hxs : ∀ x ∈ xs, first ≤ x.number ∧ x.number < last)
    (hys : ∀ y ∈ ys, first' ≤ y.number ∧ y.number < last')
    (hnodup : xs.Nodup) (hnodup' : ys.Nodup) (hapart : last ≤ first' ∨ last' ≤ first) :
    (∀ x ∈ xs ++ ys, min first first' ≤ x.number ∧ x.number < max last last') ∧
      (xs ++ ys).Nodup := by
  constructor
  · intro x hx
    rcases List.mem_append.1 hx with hx | hx
    · have := hxs x hx
      omega
    · have := hys x hx
      omega
  · refine List.nodup_append'.2 ⟨hnodup, hnodup', fun x hx hx' => ?_⟩
    have := hxs x hx
    have := hys x hx'
    omega

end Local

/-- The parameters of an arrow function. -/
inductive Parameters where
  | none
  | one (x : Local)
  | pair (x y : Local)
  deriving DecidableEq, Repr

namespace Parameters

/-- The names that the parameters bind. -/
def locals : Parameters → List Local
  | none => []
  | one x => [x]
  | pair x y => [x, y]

/-- The parameters as they stand in code. -/
def text : Parameters → String
  | none => "()"
  | one x => "(" ++ x.text ++ ": any)"
  | pair x y => "([" ++ x.text ++ ", " ++ y.text ++ "]: [string, any])"

end Parameters

/-! ## Identifiers -/

namespace Lex

/-- The identifiers that are read from a state on. A bracket that matches no other one is passed over. -/
def identifiersFrom (s : State) : List Char → List String
  | [] => if s.word.isEmpty then [] else [String.ofList s.word]
  | c :: rest =>
    let next := (readChar everything s c).getD (.code s.opened)
    let ended := !s.word.isEmpty && next.word.isEmpty
    (if ended then [String.ofList s.word] else []) ++ identifiersFrom next rest

end Lex

/-- The identifiers of code outside of string literals, of the text of template literals and of
comments, property names after a dot included. -/
def Code.identifiers (code : Code) : List String := Lex.identifiersFrom {} code.render.toList

example : Code.identifiers "item_0[\"item_1\"].map(f('item_2', `item_3 $\x7bx\x7d`)) /* item_4 */" =
    ["item_0", "map", "f", "x"] := by decide

/-! ## Scopes -/

/-- Words, operators and blanks: text without brackets, literals, arrows and underscores, so that no
local name, no literal and no arrow function is in it. -/
def Code.IsPlain (text : String) : Prop :=
  ∀ c ∈ text.toList, c ∉ ['_', '>', '"', '\'', '\x60', '(', ')', '[', ']', '\x7b', '\x7d']

instance (text : String) : Decidable (Code.IsPlain text) :=
  List.decidableBAll _ text.toList

/-- The brackets around a piece of code. -/
def Code.bracketPairs : List (String × String) := [("(", ")"), ("[", "]"), ("\x7b", "\x7d")]

/-- A conversion: who writes it, in which direction it goes, and the value that is converted. -/
structure Conversion where
  compiler : Compiler
  direction : Direction
  value : Code

namespace Conversion

/-- A text of a conversion with the local names that are bound around it, and the names that the arrow
functions in it bind, in their order. The value, the text of the templates of registered formats and
the functions for schemas behind references are not read. A local name stands in the body of an arrow
function that binds it, and the body is what the brackets around the arrow function leave. -/
inductive Scopes (t : Conversion) : List Local → String → List Local → Prop
  | plain {scope : List Local} {text : String} (h : Code.IsPlain text) : Scopes t scope text []
  | literal {scope : List Local} (text : String) : Scopes t scope (Text.quoted text) []
  | value {scope : List Local} : Scopes t scope t.value.render []
  | local {scope : List Local} {x : Local} (h : x ∈ scope) : Scopes t scope x.text []
  | function {scope : List Local} {reference name : String} {s s' : Progress}
      (h : t.compiler.functionName t.direction reference s = .ok (name, s')) :
      Scopes t scope name []
  | template {scope : List Local} {name body : String} {format : Format} {template : Template}
      (hformat : t.compiler.formats.get? name = some format)
      (htemplate : template = format.template t.direction ∨ format.instanceTest = some template)
      (hbody : .text body ∈ template.pieces) : Scopes t scope body []
  | append {scope bound bound' : List Local} {text text' : String} (h : Scopes t scope text bound)
      (h' : Scopes t scope text' bound') : Scopes t scope (text ++ text') (bound ++ bound')
  | enclosed {scope bound : List Local} {opening closing text : String}
      (hbrackets : (opening, closing) ∈ Code.bracketPairs)
      (h : Scopes t scope text bound) : Scopes t scope (opening ++ text ++ closing) bound
  | arrow {scope bound : List Local} {body : String} (parameters : Parameters)
      (h : Scopes t (parameters.locals ++ scope) body bound) :
      Scopes t scope ("(" ++ parameters.text ++ " => " ++ body ++ ")") (parameters.locals ++ bound)

/-- The names that are bound in a text have numbers from `low` on before `high`, and none is bound
twice. -/
def Fits (t : Conversion) (scope : List Local) (low high : Nat) (text : String) : Prop :=
  low ≤ high ∧ ∃ bound, t.Scopes scope text bound ∧
    (∀ x ∈ bound, low ≤ x.number ∧ x.number < high) ∧ bound.Nodup

/-- Pieces of code fit, each after what the one before it has bound. -/
inductive FitsAll (t : Conversion) (scope : List Local) : Nat → Nat → List Code → Prop
  | nil {low high : Nat} (h : low ≤ high) : FitsAll t scope low high []
  | cons {low middle high : Nat} {code : Code} {rest : List Code}
      (h : t.Fits scope low middle code.render) (more : FitsAll t scope middle high rest) :
      FitsAll t scope low high (code :: rest)

variable {t : Conversion} {scope : List Local} {low middle high : Nat} {text text' : String}

namespace Fits

theorem le (h : t.Fits scope low high text) : low ≤ high := h.1

theorem mono {low' high' : Nat} (h : t.Fits scope low high text) (hlow : low' ≤ low)
    (hhigh : high ≤ high') : t.Fits scope low' high' text := by
  obtain ⟨hle, bound, hscopes, hrange, hnodup⟩ := h
  refine ⟨by omega, bound, hscopes, fun x hx => ?_, hnodup⟩
  have := hrange x hx
  omega

theorem congr (h : t.Fits scope low high text) (heq : text = text') : t.Fits scope low high text' :=
  heq ▸ h

/-- Text that binds no names. -/
theorem of_scopes (h : t.Scopes scope text []) (hle : low ≤ high) : t.Fits scope low high text :=
  ⟨hle, [], h, by simp, .nil⟩

/-- No name has a number from `low` on before `low`. -/
theorem scopes (h : t.Fits scope low low text) : t.Scopes scope text [] := by
  obtain ⟨-, bound, hscopes, hrange, -⟩ := h
  cases bound with
  | nil => exact hscopes
  | cons x bound =>
    have := hrange x (by simp)
    omega

/-- The names of two texts are apart by their numbers, whichever of them were drawn first. -/
theorem apart {first last first' last' : Nat} (h : t.Fits scope first last text)
    (h' : t.Fits scope first' last' text') (hapart : last ≤ first' ∨ last' ≤ first) :
    t.Fits scope (min first first') (max last last') (text ++ text') := by
  obtain ⟨hle, bound, hscopes, hrange, hnodup⟩ := h
  obtain ⟨hle', bound', hscopes', hrange', hnodup'⟩ := h'
  exact ⟨by omega, _, hscopes.append hscopes',
    Local.append_apart hrange hrange' hnodup hnodup' hapart⟩

theorem append (h : t.Fits scope low middle text) (h' : t.Fits scope middle high text') :
    t.Fits scope low high (text ++ text') := by
  have := h.le
  have := h'.le
  exact (h.apart h' (.inl le_rfl)).mono (by omega) (by omega)

/-- The text in front may have been written last. -/
theorem append_swap (h : t.Fits scope middle high text) (h' : t.Fits scope low middle text') :
    t.Fits scope low high (text ++ text') := by
  have := h.le
  have := h'.le
  exact (h.apart h' (.inr le_rfl)).mono (by omega) (by omega)

theorem enclosed {opening closing : String}
    (hbrackets : (opening, closing) ∈ Code.bracketPairs)
    (h : t.Fits scope low high text) : t.Fits scope low high (opening ++ text ++ closing) := by
  obtain ⟨hle, bound, hscopes, hbound⟩ := h
  exact ⟨hle, bound, hscopes.enclosed hbrackets, hbound⟩

/-- An arrow function whose parameters were drawn before its body was written. -/
theorem arrow (parameters : Parameters) (hle : low ≤ middle)
    (hrange : ∀ x ∈ parameters.locals, low ≤ x.number ∧ x.number < middle)
    (hnodup : parameters.locals.Nodup)
    (h : t.Fits (parameters.locals ++ scope) middle high text) :
    t.Fits scope low high ("(" ++ parameters.text ++ " => " ++ text ++ ")") := by
  obtain ⟨hle', bound, hscopes, hrange', hnodup'⟩ := h
  have hbound := Local.append_apart hrange hrange' hnodup hnodup' (.inl le_rfl)
  rw [min_eq_left hle, max_eq_right hle'] at hbound
  exact ⟨hle.trans hle', _, hscopes.arrow parameters, hbound⟩

end Fits

namespace FitsAll

variable {codes codes' : List Code} {code : Code}

theorem le (h : t.FitsAll scope low high codes) : low ≤ high := by
  induction h with
  | nil hle => exact hle
  | cons h _ ih => exact h.le.trans ih

theorem append (h : t.FitsAll scope low middle codes) (h' : t.FitsAll scope middle high codes') :
    t.FitsAll scope low high (codes ++ codes') := by
  induction h with
  | nil hle =>
    cases h' with
    | nil hle' => exact .nil (hle.trans hle')
    | cons h more => exact .cons (h.mono hle le_rfl) more
  | cons h _ ih => exact .cons h (ih h')

/-- Code that binds no names may stand anywhere. -/
theorem inert (h : t.Scopes scope code.render []) (more : t.FitsAll scope low high codes) :
    t.FitsAll scope low high (code :: codes) := .cons (.of_scopes h le_rfl) more

theorem plain {words : String} (h : Code.IsPlain words) (more : t.FitsAll scope low high codes) :
    t.FitsAll scope low high (Code.site words :: codes) :=
  more.inert (by rw [Code.render_site]; exact .plain h)

theorem one (h : t.Fits scope low high code.render) : t.FitsAll scope low high [code] :=
  .cons h (.nil le_rfl)

theorem of_forall (h : ∀ code ∈ codes, t.Scopes scope code.render []) (hle : low ≤ high) :
    t.FitsAll scope low high codes := by
  induction codes with
  | nil => exact .nil hle
  | cons code codes ih =>
    obtain ⟨hcode, hcodes⟩ := List.forall_mem_cons.1 h
    exact (ih hcodes).inert hcode

theorem cat (h : t.FitsAll scope low high codes) : t.Fits scope low high (Code.cat codes).render := by
  rw [Code.render_cat]
  induction h with
  | nil hle => exact .of_scopes (.plain (by decide)) hle
  | cons h _ ih =>
    rw [List.map_cons, String.join_cons]
    exact h.append ih

theorem join {separator : String} (hseparator : Code.IsPlain separator)
    (h : t.FitsAll scope low high codes) :
    t.Fits scope low high (Code.join separator codes).render := by
  rw [Code.render_join]
  induction h with
  | nil hle => exact (Fits.of_scopes (.plain (show Code.IsPlain "" by decide)) hle).congr (by simp)
  | @cons low middle high code rest h more ih =>
    cases rest with
    | nil => simpa using h.mono le_rfl more.le
    | cons other rest =>
      have htext : separator.intercalate ((code :: other :: rest).map Code.render) =
          code.render ++ (separator ++ separator.intercalate ((other :: rest).map Code.render)) := by
        simp [String.append_assoc]
      rw [htext]
      exact h.append ((Fits.of_scopes (.plain hseparator) le_rfl).append ih)

theorem join_swap {separator : String} (hseparator : Code.IsPlain separator)
    (h : t.Fits scope middle high code.render) (hcodes : t.FitsAll scope low middle codes) :
    t.Fits scope low high (Code.join separator (code :: codes)).render := by
  cases codes with
  | nil => simpa using h.mono hcodes.le le_rfl
  | cons other rest =>
    have htext : (Code.join separator (code :: other :: rest)).render =
        code.render ++ (separator ++ (Code.join separator (other :: rest)).render) := by
      simp [String.append_assoc]
    rw [htext]
    exact h.append_swap ((Fits.of_scopes (.plain hseparator) le_rfl).append (hcodes.join hseparator))

end FitsAll

/-! ## Code around a value -/

namespace Fits

variable {code : Code}

theorem parens (h : t.Fits scope low high code.render) :
    t.Fits scope low high code.parens.render := by
  rw [Code.render_parens]
  exact h.enclosed (by decide)

theorem brackets (h : t.Fits scope low high code.render) :
    t.Fits scope low high code.brackets.render := by
  rw [Code.render_brackets]
  exact h.enclosed (by decide)

theorem braced (h : t.Fits scope low high code.render) :
    t.Fits scope low high code.braced.render := by
  have hblank (n : Nat) : t.Fits scope n n " " := .of_scopes (.plain (by decide)) le_rfl
  have hinner := ((hblank low).append h).append (hblank high)
  refine (hinner.enclosed (show ("\x7b", "\x7d") ∈ Code.bracketPairs by decide)).congr ?_
  exact String.toList_injective (by simp [Code.braced])

theorem parenthesized (h : t.Fits scope low high code.render) :
    t.Fits scope low high code.parenthesized.render := by
  unfold Code.parenthesized
  split
  · exact h
  · exact h.parens

theorem arrowBody (h : t.Fits scope low high code.render) :
    t.Fits scope low high code.arrowBody.render := by
  unfold Code.arrowBody
  split
  · exact h.parens
  · exact h

theorem returned (h : t.Fits scope low high code.render) :
    t.Fits scope low high code.returned.render :=
  (FitsAll.plain (by decide) (.cons h (.plain (by decide) (.nil le_rfl)))).cat

/-- The expression that runs statements. -/
theorem immediate (h : t.Fits scope low high code.render) :
    t.Fits scope low high code.immediate.render := by
  have hcall : t.Scopes scope ("(" ++ "" ++ ")") [] := .enclosed (by decide) (.plain (by decide))
  refine ((h.braced.arrow .none le_rfl (by simp [Parameters.locals]) .nil).append
    (.of_scopes hcall le_rfl)).congr ?_
  exact String.toList_injective (by simp [Code.immediate, Parameters.text])

end Fits

namespace Scopes

variable {operand : Code}

/-- What is put together from code that binds no names binds none. -/
theorem cat {codes : List Code} (h : ∀ n, t.FitsAll scope n n codes) :
    t.Scopes scope (Code.cat codes).render [] := (h 0).cat.scopes

theorem quoted (name : String) : t.Scopes scope (OpenApi.quoted name).render [] := by
  rw [OpenApi.quoted, Code.render_site]
  exact .literal name

theorem parens (h : t.Scopes scope operand.render []) : t.Scopes scope operand.parens.render [] :=
  (Fits.of_scopes h (le_refl 0)).parens.scopes

theorem parenthesized (h : t.Scopes scope operand.render []) :
    t.Scopes scope operand.parenthesized.render [] :=
  (Fits.of_scopes h (le_refl 0)).parenthesized.scopes

theorem member (h : t.Scopes scope operand.render []) (name : String) :
    t.Scopes scope (operand.member name).render [] :=
  have hkey : t.Scopes scope (OpenApi.quoted name).brackets.render [] :=
    (Fits.of_scopes (.quoted name) (le_refl 0)).brackets.scopes
  .cat fun _ => .inert h (.inert hkey (.nil le_rfl))

theorem hasType (h : t.Scopes scope operand.render []) (name : String) :
    t.Scopes scope (operand.hasType name).render [] :=
  .cat fun _ => .plain (by decide) (.inert h (.plain (by decide) (.inert (.quoted name) (.nil le_rfl))))

theorem isArray (h : t.Scopes scope operand.render []) :
    t.Scopes scope (Code.cat ["Array.isArray", operand.parens]).render [] :=
  .cat fun _ => .plain (by decide) (.inert h.parens (.nil le_rfl))

theorem isRecord (h : t.Scopes scope operand.render []) :
    t.Scopes scope operand.isRecord.render [] :=
  .cat fun _ => .inert (h.hasType _) (.plain (by decide) (.inert h (.plain (by decide)
    (.inert h.parens (.nil le_rfl)))))

theorem returned (h : t.Scopes scope operand.render []) :
    t.Scopes scope operand.returned.render [] := (Fits.of_scopes h (le_refl 0)).returned.scopes

/-- Words before a block or an object literal with nothing in it. -/
theorem before_braces {words : String} (h : Code.IsPlain words) :
    t.Scopes scope (Code.site (words ++ "\x7b\x7d")).render [] := by
  have hbraces : t.Scopes scope ("\x7b" ++ "" ++ "\x7d") [] :=
    .enclosed (by decide) (.plain (by decide))
  rw [Code.render_site]
  exact Scopes.append (.plain h) hbraces

/-- A template of a registered format, applied to code that binds no names. -/
theorem apply {name : String} {format : Format} {template : Template} (origin : Origin)
    (hformat : t.compiler.formats.get? name = some format)
    (htemplate : template = format.template t.direction ∨ format.instanceTest = some template)
    (h : t.Scopes scope operand.render []) :
    t.Scopes scope (template.apply operand origin).render [] := by
  refine .cat fun n => .of_forall ?_ le_rfl
  refine List.forall_mem_map.2 fun piece hpiece => ?_
  cases piece with
  | text body =>
    rw [Template.Piece.code, Code.render_tagged]
    exact .template hformat htemplate hpiece
  | hole => exact h.parenthesized

end Scopes

namespace Fits

variable {code operand : Code}

theorem returnedIf {condition : Code} (hcondition : t.Scopes scope condition.render [])
    (h : t.Fits scope low high code.render) :
    t.Fits scope low high (condition.returnedIf code).render :=
  (FitsAll.plain (by decide) (.inert hcondition.parens (.plain (by decide)
    (.one h.returned)))).cat

theorem unlessNull (hoperand : t.Scopes scope operand.render [])
    (h : t.Fits scope low high code.render) :
    t.Fits scope low high (Code.unlessNull operand code).render :=
  (FitsAll.inert hoperand (.plain (by decide) (.one h))).cat.parens

/-- A member of an object literal. -/
theorem entry (name : String) (h : t.Fits scope low high code.render) :
    t.Fits scope low high (Code.cat [quoted name, ": ", code]).render :=
  (FitsAll.inert (.quoted name) (.plain (by decide) (.one h))).cat

theorem memberIfPresent {access : Code} (haccess : t.Scopes scope access.render []) (name : String)
    (h : t.Fits scope low high code.render) :
    t.Fits scope low high (access.memberIfPresent name code).render := by
  have hnone : t.Scopes scope (Code.site " : \x7b\x7d").render [] :=
    Scopes.before_braces (show Code.IsPlain " : " by decide)
  have hbranches : t.Fits scope low high (Code.cat [access, " !== undefined ? ",
      (Code.cat [quoted name, ": ", code]).braced, " : \x7b\x7d"]).render :=
    (FitsAll.inert haccess (.plain (by decide) (.cons (h.entry name).braced
      (.inert hnone (.nil le_rfl))))).cat
  exact (FitsAll.plain (by decide) (.one hbranches.parens)).cat

/-- The arrow function for the further members of an object. -/
theorem mappedEntries {key entry : Local} (known : List String)
    (hoperand : t.Scopes scope operand.render []) (hle : low ≤ middle)
    (hrange : ∀ x ∈ [key, entry], low ≤ x.number ∧ x.number < middle) (hne : key ≠ entry)
    (h : t.Fits (key :: entry :: scope) middle high code.render) :
    t.Fits scope low high (operand.mappedEntries key.text entry.text known code).render := by
  have hkey : t.Scopes (key :: entry :: scope) (Code.site key.text).render [] := by
    rw [Code.render_site]
    exact .local (by simp)
  have hentry : t.Scopes (key :: entry :: scope) (Code.site entry.text).render [] := by
    rw [Code.render_site]
    exact .local (by simp)
  have hknown : t.Scopes (key :: entry :: scope)
      (Code.join ", " (known.map OpenApi.quoted)).brackets.render [] := by
    refine (FitsAll.join (by decide) (.of_forall ?_ (le_refl 0))).brackets.scopes
    exact List.forall_mem_map.2 fun name _ => .quoted name
  -- A member that is known already keeps its value, so the value is read a second time.
  let mapped : Code := if known.isEmpty then code else
    Code.cat [(Code.join ", " (known.map OpenApi.quoted)).brackets, ".includes",
      (Code.site key.text).parens, " ? ", entry.text, " : ", code]
  have hmapped : t.Fits (key :: entry :: scope) middle high mapped.render := by
    dsimp only [mapped]
    split
    · exact h
    · exact (FitsAll.inert hknown (.plain (by decide) (.inert hkey.parens (.plain (by decide)
        (.inert hentry (.plain (by decide) (.one h))))))).cat
  have hbody : t.Fits (key :: entry :: scope) middle high
      (Code.cat [key.text, ", ", mapped]).brackets.render :=
    (FitsAll.inert hkey (.plain (by decide) (.one hmapped))).cat.brackets
  have harrow : t.Fits scope low high (Code.cat ["([", key.text, ", ", entry.text,
      "]: [string, any]) => ", (Code.cat [key.text, ", ", mapped]).brackets]).parens.render :=
    (hbody.arrow (.pair key entry) hle hrange (by simpa [Parameters.locals] using hne)).congr
      (String.toList_injective (by simp [Parameters.text]))
  have hentries : t.Fits scope low high (Code.cat ["Object.entries", operand.parens, ".map",
      (Code.cat ["([", key.text, ", ", entry.text, "]: [string, any]) => ",
        (Code.cat [key.text, ", ", mapped]).brackets]).parens]).render :=
    (FitsAll.plain (by decide) (.inert hoperand.parens (.plain (by decide) (.one harrow)))).cat
  exact (FitsAll.plain (by decide) (.one hentries.parens)).cat

end Fits

end Conversion

end OpenApi
