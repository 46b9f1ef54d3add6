import OpenApi.Compiler.BodyValue
import OpenApi.Proofs.Conversion.Audited

/-!
The code that packs and unpacks parameters, and that reads and writes bodies, is sound.
-/

namespace OpenApi

variable {r : Audit}

/-- The code of a packed value is sound. -/
def Reader.PackedSound (r : Reader) : Packed → Prop
  | .pairs code | .text code => r.Sound code

/-! ## Checks -/

namespace Check

variable {value : String} (hvalue : r.Operand value)

theorem sound_bound (bound : Binary64) : r.Value (Code.site (boundStyle.text bound)) :=
  Reader.value_numeric (Lex.numberStyle_numeric _ _)

include hvalue

theorem sound_compared {operator : List Char}
    (hoperator : Lex.Piece.close [.value, .text operator, .value] = true) (bound : Binary64) :
    r.Sound (Code.site (value ++ String.ofList operator ++ boundStyle.text bound)) := by
  refine Reader.Fits.site [value, String.ofList operator, boundStyle.text bound]
    (.value hvalue.value (.text (.value (sound_bound bound) .nil))) hoperator ?_
  simp [String.join_cons, String.append_assoc]

theorem sound_above (strict : Bool) (bound : Binary64) :
    r.Sound (Code.site (above strict value bound).failure) := by
  unfold above
  split
  · exact sound_compared hvalue (by decide) bound
  · exact sound_compared hvalue (by decide) bound

theorem sound_below (strict : Bool) (bound : Binary64) :
    r.Sound (Code.site (below strict value bound).failure) := by
  unfold below
  split
  · exact sound_compared hvalue (by decide) bound
  · exact sound_compared hvalue (by decide) bound

theorem sound_multiple (divisor : Binary64) :
    r.Sound (Code.site (multiple value divisor).failure) := by
  refine Reader.Fits.site ["Math.abs(", value, " / ", boundStyle.text divisor, " - Math.round(",
    value, " / ", boundStyle.text divisor, ")) > 1e-9"] (.text (.value hvalue.value (.text (.value
      (sound_bound divisor) (.text (.value hvalue.value (.text (.value (sound_bound divisor)
        (.text .nil))))))))) (by decide) ?_
  simp [multiple, String.join_cons, String.append_assoc]

end Check

/-- The conditions of the checks are sound. -/
abbrev Reader.ChecksSound (r : Reader) (checks : List Check) : Prop :=
  ∀ check ∈ checks, r.Sound (Code.site check.failure)

namespace Keywords

variable {σ : Type} (k : Keywords σ) {value : String} (hvalue : r.Operand value)

include hvalue

theorem sound_numberChecks : r.ChecksSound (k.numberChecks value) := by
  have given {bound? : Option Binary64} {check : Binary64 → Check}
      (h : ∀ bound, r.Sound (Code.site (check bound).failure)) :
      r.ChecksSound (bound?.map check).toList := by
    cases bound? with
    | none => exact List.forall_mem_nil _
    | some bound => exact List.forall_mem_singleton.2 (h bound)
  simp only [numberChecks, Reader.ChecksSound, List.forall_mem_append]
  refine ⟨⟨⟨⟨given ?_, given ?_⟩, given ?_⟩, given ?_⟩, given ?_⟩
  · exact Check.sound_above hvalue _
  · exact Check.sound_above hvalue _
  · exact Check.sound_below hvalue _
  · exact Check.sound_below hvalue _
  · exact Check.sound_multiple hvalue

theorem sound_stringChecks : r.ChecksSound (k.stringChecks value) := by
  have length {operator : List Char}
      (hoperator : Lex.Piece.close [.value, .text operator, .value] = true) (n : Nat) :
      r.Sound (Code.site (value ++ String.ofList operator ++ toString n)) := by
    refine Reader.Fits.site [value, String.ofList operator, toString n] (.value hvalue.value (.text
      (.value (Reader.value_numeric (Lex.toString_nat_numeric n)) .nil))) hoperator ?_
    simp [String.join_cons, String.append_assoc]
  simp only [stringChecks, Reader.ChecksSound, List.forall_mem_append]
  refine ⟨⟨?_, ?_⟩, ?_⟩
  · cases k.minLength with
    | none => exact List.forall_mem_nil _
    | some n => exact List.forall_mem_singleton.2 (length (by decide) n)
  · cases k.maxLength with
    | none => exact List.forall_mem_nil _
    | some n => exact List.forall_mem_singleton.2 (length (by decide) n)
  · cases k.pattern with
    | none => exact List.forall_mem_nil _
    | some pattern =>
      refine List.forall_mem_singleton.2 ?_
      refine Reader.Fits.site ["!new RegExp(", Text.quoted pattern, ").test(", value, ")"] (.text
        (.complete (Reader.complete_quoted pattern) (.text (.value hvalue.value (.text .nil)))))
        (by decide) ?_
      simp [String.join_cons, String.append_assoc]

theorem sound_membershipChecks : r.ChecksSound (k.membershipChecks value) := by
  simp only [membershipChecks, Reader.ChecksSound, List.forall_mem_append]
  constructor
  · split
    · exact List.forall_mem_nil _
    · refine List.forall_mem_singleton.2 ?_
      refine Reader.Fits.site ["!(", (Json.array k.enumeration).text, ").includes(", value, ")"]
        (.text (.sound (Reader.sound_text _) (.text (.value hvalue.value (.text .nil))))) (by decide) ?_
      simp [String.join_cons, String.append_assoc]
  · cases k.constant with
    | none => exact List.forall_mem_nil _
    | some constant =>
      refine List.forall_mem_singleton.2 ?_
      refine Reader.Fits.site [value, " !== ", constant.text]
        (.value hvalue.value (.text (.sound (Reader.sound_text _) .nil))) (by decide) ?_
      simp [String.join_cons, String.append_assoc]

end Keywords

namespace Compiler

variable {c : Compiler} (hr : r.Suits c) {value : Code}

/-! ## Unpacking -/

theorem failChecks_writes (location : Location) (name : String) {checks : List Check}
    (hchecks : r.ChecksSound checks) :
    Writes r (failChecks location name checks) fun statements => ∀ s ∈ statements, r.Sound s := by
  refine .mapM fun check hcheck => ?_
  refine .bind (.throwMalformed _ _ (Reader.complete_quoted _).sound) fun failure => ?_
  refine .pure fun hfailure => ?_
  refine Reader.Fits.site ["if (", check.failure, ") ", failure]
    (.text (.sound (hchecks check hcheck) (.text (.sound hfailure .nil)))) (by decide) ?_
  simp [String.join_cons, String.append_assoc]

theorem unpackNumber_writes (location : Location) (name : String) (k : Keywords Schema)
    (isInteger : Bool) (hvalue : r.Operand value) :
    Writes r (unpackNumber location name k isInteger value) r.Sound := by
  refine .bind_fresh (by decide) fun text htext => .bind_fresh (by decide) fun number hnumber => ?_
  have hnumeric : r.Sound (Code.site
      (text ++ ".trim() === \"\" || Number.isNaN(" ++ number ++ ")")) := by
    refine Reader.Fits.site [text, ".trim() === \"\" || Number.isNaN(", number, ")"]
      (.value htext.value (.text (.value hnumber.value (.text .nil)))) (by decide) ?_
    simp [String.join_cons, String.append_assoc]
  have hinteger : r.Sound (Code.site ("!Number.isInteger(" ++ number ++ ")")) := by
    refine Reader.Fits.site ["!Number.isInteger(", number, ")"]
      (.text (.value hnumber.value (.text .nil))) (by decide) ?_
    simp [String.join_cons, String.append_assoc]
  refine .bind (failChecks_writes location name ?_) fun statements => .pure fun hstatements => ?_
  · simp only [Reader.ChecksSound, List.forall_mem_append]
    refine ⟨⟨⟨List.forall_mem_singleton.2 hnumeric, ?_⟩, k.sound_numberChecks hnumber⟩,
      k.sound_membershipChecks hnumber⟩
    split
    · exact List.forall_mem_singleton.2 hinteger
    · exact List.forall_mem_nil _
  · have hread : r.Sound (Code.site ("const " ++ number ++ " = Number(" ++ text ++ ");")) := by
      refine Reader.Fits.site ["const ", number, " = Number(", text, ");"]
        (.text (.value hnumber.value (.text (.value htext.value (.text .nil))))) (by decide) ?_
      simp [String.join_cons, String.append_assoc]
    exact hvalue.sound.unpackedBy htext (by decide) (List.forall_mem_cons.2 ⟨hread, hstatements⟩)
      hnumber.sound

section

include hr

theorem unpackString_writes (location : Location) (name : String) (k : Keywords Schema)
    (hvalue : r.Operand value) : Writes r (c.unpackString location name k value) r.Sound := by
  refine .bind_fresh (by decide) fun text htext => ?_
  have hchecks : r.ChecksSound (k.stringChecks text ++ k.membershipChecks text) :=
    List.forall_mem_append.2 ⟨k.sound_stringChecks htext, k.sound_membershipChecks htext⟩
  refine .bind (failChecks_writes location name hchecks) fun statements => .ite ?_ ?_
  · exact (convert_writes hr .parse _ hvalue).mono fun _ h _ => h
  · refine .bind (convert_writes hr .parse _ htext) fun converted => ?_
    exact .pure fun hconverted hstatements =>
      hvalue.sound.unpackedBy htext (by decide) hstatements hconverted

theorem unpackScalar_writes (p : Parameter) (schema : Schema) (hvalue : r.Operand value) :
    Writes r (c.unpackScalar p schema value) r.Sound := by
  refine .bind_read fun k _ => ?_
  split
  · exact unpackNumber_writes _ _ _ _ hvalue
  · exact unpackNumber_writes _ _ _ _ hvalue
  · exact unpackString_writes hr _ _ _ hvalue
  · exact .throw _

theorem unpack_writes (p : Parameter) (hvalue : r.Operand value) :
    Writes r (c.unpack p value) r.Sound := by
  have hparse : r.Sound (Code.cat ["JSON.parse", value.parens]) :=
    (Reader.value_call (Reader.callee_given (by decide)) hvalue.sound).sound
  refine .bind_read fun form _ => ?_
  cases form with
  | flag =>
    refine .pure (Reader.Value.parens ?_).sound
    exact (Reader.Fits.sound hvalue.sound (.text .nil)).append (by decide)
  | text => exact .pure hvalue.sound
  | json schema =>
    refine .bind_fresh (by decide) fun json hjson => ?_
    cases schema with
    | none => exact .bind_pure (.pure hparse)
    | some schema =>
      refine .bind (convert?_writes hr .parse schema hjson) fun parsed? => ?_
      cases parsed? with
      | none => exact .pure fun _ => hparse
      | some parsed =>
        refine .pure fun hparsed => ?_
        have hfunction : r.Sound (Code.cat ["(", Code.site json, ": any) => ", parsed.arrowBody]) :=
          (Reader.Fits.text (.value hjson.value (.text
            (.sound (hparsed parsed rfl).arrowBody .nil)))).cat (by decide)
        have hfits : r.Fits _ [(Code.cat ["(", Code.site json, ": any) => ", parsed.arrowBody]).parens,
            "(", Code.cat ["JSON.parse", value.parens], ")"] :=
          .complete (.parens hfunction) (.text (.sound hparse (.text .nil)))
        exact (hfits.cat (by decide)).congr (by simp [Code.parens])
  | styled schema =>
    dsimp only
    split
    · exact unpackScalar_writes hr _ _ hvalue
    · exact unpackScalar_writes hr _ _ hvalue
    · exact .throw _

/-! ## Packing -/

theorem packScalar_writes (k : Keywords Schema) (hvalue : r.Operand value) :
    Writes r (c.packScalar k value) r.Sound := by
  have string : Writes r (c.convert .serialize (.inline k) value) r.Sound :=
    convert_writes hr _ _ hvalue
  have plain : Writes r (pure (Code.cat ["String", value.parens]) : Compile Code) r.Sound :=
    .pure (Reader.value_call (Reader.callee_given (by decide)) hvalue.sound).sound
  refine .ite (.throw_bind _ _) ?_
  split
  case h_4 =>
    refine .pure (Reader.Value.parens ?_).sound
    exact (Reader.Fits.sound hvalue.sound (.text .nil)).append (by decide)
  case h_5 => exact string
  case h_6 => exact .throw _
  case h_7 => exact .throw _
  case h_8 => exact .throw _
  case h_9 => exact .ite string plain
  all_goals exact plain

theorem packItems_writes (items : Keywords Schema) (hvalue : r.Operand value) :
    Writes r (c.packItems items value) r.Sound := by
  have hbase := hvalue.parenthesized
  refine .bind_fresh (by decide) fun item hitem => ?_
  refine .bind (packScalar_writes hr items hitem) fun packed => .ite ?_ ?_
  · exact .pure fun _ => hbase.value.commaSeparated.sound
  · exact .pure fun hpacked => (hbase.value.mapped hitem (by decide) hpacked).commaSeparated.sound

theorem packMembers_writes (required : List String) (hvalue : r.Operand value)
    (properties : List (String × Schema)) :
    Writes r (c.packMembers required value properties) fun pairs => ∀ pair ∈ pairs, r.Sound pair := by
  induction properties with
  | nil => exact .pure (List.forall_mem_nil _)
  | cons property rest ih =>
    have haccess := hvalue.member property.1
    refine .bind_read fun k _ => .bind (packScalar_writes hr k haccess) fun packed => ?_
    refine .bind ih fun others => .pure fun hothers hpacked => ?_
    refine List.forall_mem_cons.2 ⟨?_, hothers⟩
    split
    · exact (Reader.Value.brackets (Reader.sound_pair _ hpacked)).sound
    · exact haccess.sound.pairIfPresent _ hpacked

theorem packObject_writes (k : Keywords Schema) (hvalue : r.Operand value) :
    Writes r (c.packObject k value) r.Value := by
  have hbase := hvalue.parenthesized
  unfold packObject
  dsimp only
  split
  · have entries (schema : Keywords Schema) : Writes r (do
        let key ← Compile.fresh "key"
        let entry ← Compile.fresh "entry"
        let packed ← c.packScalar schema entry
        return Code.cat ["Object.entries", value.parenthesized.parens, ".map",
          (Code.cat ["([", Code.site key, ", ", Code.site entry,
            "]: [string, any]): [string, string] => ",
            (Code.cat [Code.site key, ", ", packed]).brackets]).parens]) r.Value := by
      refine .bind_fresh (by decide) fun key hkey => .bind_fresh (by decide) fun entry hentry => ?_
      refine .bind (packScalar_writes hr schema hentry) fun packed => .pure fun hpacked => ?_
      have hpair : r.Value (Code.cat [Code.site key, ", ", packed]).brackets :=
        .brackets ((Reader.Fits.value hkey.value (.text (.sound hpacked .nil))).cat (by decide))
      have hfits : r.Fits _ ["Object.entries", "(", value.parenthesized, ")", ".map", "(", "([",
          Code.site key, ", ", Code.site entry, "]: [string, any]): [string, string] => ",
          (Code.cat [Code.site key, ", ", packed]).brackets, ")"] :=
        .text (.text (.sound hbase.sound (.text (.text (.text (.text (.value hkey.value (.text
          (.value hentry.value (.text (.value hpair (.text .nil))))))))))))
      exact (hfits.catValue (by decide)).congr (by simp [Code.parens])
    split
    case h_1 => exact .bind_read fun k' _ => entries k'
    case h_2 => exact .bind_pure (entries {})
  · refine .bind (packMembers_writes hr _ hbase _) fun pairs => .pure fun hpairs => .parens ?_
    have hlist : r.Value (Code.join ", " pairs).brackets :=
      .brackets (Reader.sound_join hpairs (by decide))
    exact (Reader.Fits.value hlist (.text .nil)).cat (by decide)

theorem packSimple_writes (schema : Schema) (explode : Bool) (hvalue : r.Operand value) :
    Writes r (c.packSimple schema explode value) r.Sound := by
  refine .bind_read fun shape _ => ?_
  cases shape with
  | scalar k => exact packScalar_writes hr k hvalue
  | array items => exact packItems_writes hr items hvalue
  | object k =>
    refine .bind (packObject_writes hr k hvalue) fun pairs => .pure fun hpairs => ?_
    refine (Reader.Value.commaSeparated ?_).sound
    split
    · exact (Reader.Fits.value hpairs (.text .nil)).appendValue (by decide)
    · exact (Reader.Fits.value hpairs (.text .nil)).appendValue (by decide)

theorem packForm_writes (name : String) (schema : Schema) (explode : Bool)
    (hvalue : r.Operand value) : Writes r (c.packForm name schema explode value) r.Sound := by
  refine .bind_read fun shape _ => ?_
  cases shape with
  | scalar k =>
    refine .bind (packScalar_writes hr k hvalue) fun packed => .pure fun hpacked => ?_
    exact (Reader.value_singlePair name hpacked).sound
  | array items =>
    refine .ite ?_ ?_
    · refine .bind_fresh (by decide) fun item hitem => ?_
      refine .bind (packScalar_writes hr items hitem) fun packed => .pure fun hpacked => ?_
      exact (hvalue.parenthesized.value.mapped hitem (by decide)
        (Reader.Value.brackets (Reader.sound_pair name hpacked)).sound).sound
    · refine .bind (packItems_writes hr items hvalue) fun packed => .pure fun hpacked => ?_
      exact (Reader.value_singlePair name hpacked).sound
  | object k =>
    refine .bind (packObject_writes hr k hvalue) fun pairs => .pure fun hpairs => ?_
    have hflat : r.Value (pairs ++ ".flat()") := (Reader.Fits.value hpairs (.text .nil)).appendValue
      (by decide)
    split
    · exact hpairs.sound
    · exact (Reader.value_singlePair name hflat.commaSeparated.sound).sound

end

theorem packedSound_ofText (p : Parameter) {text : Code} (h : r.Sound text) :
    r.PackedSound (Packed.ofText p text) := by
  have hpair : r.PackedSound (.pairs (Code.singlePair p.name text)) :=
    (Reader.value_singlePair _ h).sound
  have htext : r.PackedSound (.text text) := h
  unfold Packed.ofText
  split
  · exact hpair
  · exact hpair
  · exact htext
  · exact htext

section

include hr

theorem pack_writes (p : Parameter) (hvalue : r.Operand value) :
    Writes r (c.pack p value) r.PackedSound := by
  have json {serialized : Code} (h : r.Sound serialized) :
      r.PackedSound (Packed.ofText p (Code.cat ["JSON.stringify", serialized.parens])) :=
    packedSound_ofText p (Reader.value_call (Reader.callee_given (by decide)) h).sound
  refine .bind_read fun form _ => ?_
  cases form with
  | flag =>
    refine .pure ?_
    have hpair := Reader.value_singlePair (r := r.toReader) p.name
      (Reader.sound_given (by decide) : r.Sound "null")
    exact (Reader.Fits.sound hvalue.parenthesized.sound (.text (.value hpair (.text .nil)))).cat
      (by decide)
  | text => exact .pure (packedSound_ofText p hvalue.sound)
  | json schema =>
    cases schema with
    | none => exact .bind_pure (.pure (json hvalue.sound))
    | some schema => exact .bind (convert_writes hr _ schema hvalue) fun _ => .pure json
  | styled schema =>
    dsimp only
    split
    · exact .map _ (packSimple_writes hr schema _ hvalue)
    · exact .map _ (packForm_writes hr _ schema _ hvalue)
    · exact .throw _

end

/-! ## Bodies -/

theorem readPlain_writes {hint : List Char} (hhint : hint.all Name.isIdentifierPart = true)
    {method : List Char} (hmethod : method ∈ Lex.vocabulary) {source : String}
    (hsource : r.Value source) :
    Writes r (readPlain (String.ofList hint) (String.ofList method) source) fun read =>
      r.Sound read.statement ∧ r.Sound read.value := by
  refine .bind_fresh hhint fun name hname => .pure ⟨?_, hname.sound⟩
  exact (Reader.Fits.text (.value hname.value (.text (.value hsource (.text
    (.callee (Reader.callee_word hmethod) (.text .nil))))))).cat (by decide)

theorem callee_queryString {u : Usage} (h : r.covers { u with queryString := true })
    {symbol : List Char} (hsymbol : symbol ∈ Lex.vocabulary) :
    r.Callee (Code.site (String.ofList ('q' :: 's' :: '.' :: symbol))) :=
  @Writes.callee_symbol r ['q', 's'] symbol (by decide) hsymbol (r.queryString h rfl)

theorem useQueryString_writes :
    Writes r (Compile.use fun u => { u with queryString := true }) fun _ =>
      ∃ u : Usage, r.covers { u with queryString := true } :=
  .use fun _ => ⟨id, id, fun _ => rfl, fun h => ⟨_, h, List.Subset.refl _⟩⟩

section

include hr

theorem readStructured_writes {hint : List Char} (hhint : hint.all Name.isIdentifierPart = true)
    (parser : String) (media : MediaType) {source : String} (hsource : r.Value source) :
    Writes r (c.readStructured (String.ofList hint) parser media source) fun read =>
      r.Callee parser → r.Sound read.statement ∧ r.Sound read.value := by
  refine .bind_fresh hhint fun name hname => ?_
  have code {value : Code} (hvalue : r.Sound value) (hparser : r.Callee (Code.site parser)) :
      r.Sound (Code.cat ["const ", name, ": any = ", parser,
        (Code.cat ["await ", source, ".text()"]).parens, ";"]) ∧ r.Sound value := by
    have hsource' : r.Sound (Code.cat ["await ", Code.site source, ".text()"]) :=
      (Reader.Fits.text (.value hsource (.text .nil))).cat (by decide)
    have hfits : r.Fits _ ["const ", Code.site name, ": any = ", Code.site parser, "(",
        Code.cat ["await ", Code.site source, ".text()"], ")", ";"] :=
      .text (.value hname.value (.text (.callee hparser (.text (.sound hsource' (.text (.text .nil)))))))
    exact ⟨(hfits.cat (by decide)).congr (by simp [Code.parens]), hvalue⟩
  cases media.schema with
  | none => exact .bind_pure (.pure (code hname.sound))
  | some schema => exact .bind (convert_writes hr .parse schema hname) fun _ => .pure code

theorem decodeBody_writes (codec : Codec) (media : MediaType) {source : String}
    (hsource : r.Value source) :
    Writes r (c.decodeBody codec media source) fun read =>
      r.Sound read.statement ∧ r.Sound read.value := by
  cases codec with
  | json =>
    exact (readStructured_writes hr (by decide) _ media hsource).mono fun _ h =>
      h (Reader.callee_given (by decide))
  | form =>
    refine .bind useQueryString_writes fun _ => ?_
    exact (readStructured_writes hr (by decide) _ media hsource).mono fun _ h ⟨_, hcovers⟩ =>
      h (callee_queryString hcovers (by decide))
  | text => exact readPlain_writes (by decide) (by decide) hsource
  | binary => exact readPlain_writes (by decide) (by decide) hsource
  | raw => exact readPlain_writes (by decide) (by decide) hsource

theorem encodeBody_writes (codec : Codec) (media : MediaType) (hvalue : r.Operand value) :
    Writes r (c.encodeBody codec media value) r.Sound := by
  unfold encodeBody
  -- with a schema or without one, what is written is sound if the serialized value is
  cases media.schema
  case' none =>
    refine .bind_pure ((?_ : Writes r _ fun code => r.Sound value → r.Sound code).mono
      fun _ h => h hvalue.sound)
  case' some schema => refine .bind (convert_writes hr .serialize schema hvalue) fun serialized => ?_
  all_goals
    cases codec with
    | json => exact .pure fun h => (Reader.value_call (Reader.callee_given (by decide)) h).sound
    | form =>
      refine .bind useQueryString_writes fun _ => .pure fun ⟨_, hcovers⟩ h => ?_
      exact (Reader.value_call (callee_queryString hcovers (by decide)) h).sound
    | text => exact .pure fun _ => hvalue.sound
    | binary => exact .pure fun _ => hvalue.sound
    | raw => exact .pure fun _ => hvalue.sound

end

end Compiler

end OpenApi
