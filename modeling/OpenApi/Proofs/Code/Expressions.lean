import OpenApi.Compiler.OperationType
import OpenApi.Compiler.Unpacking
import OpenApi.Proofs.Code.Operands

/-!
The ways in which expressions, types and statements are put together. Each of them closes what it opens
around its parts, and so keeps them sound.
-/

namespace OpenApi

namespace Reader

variable {r : Reader} {code value access array condition converted : Code} {parts : List Code}

/-! ## Brackets -/

theorem Value.brackets (h : r.Sound code) : r.Value code.brackets :=
  (Fits.text (.sound h (.text .nil))).catValue (by decide)

theorem Complete.braced (h : r.Sound code) : r.Complete code.braced :=
  (Fits.text (.sound h (.text .nil))).catComplete (by decide)

theorem Value.braced (h : r.Sound code) : r.Value code.braced := (Complete.braced h).value

theorem Sound.arrowBody (h : r.Sound code) : r.Sound code.arrowBody := by
  unfold Code.arrowBody
  split
  · exact (Value.parens h).sound
  · exact h

/-- A function applied to an expression. -/
theorem value_call {function : Code} (hfunction : r.Callee function) (h : r.Sound value) :
    r.Value (Code.cat [function, value.parens]) := by
  have hfits : r.Fits _ [function, "(", value, ")"] := .callee hfunction (.text (.sound h (.text .nil)))
  exact (hfits.catValue (by decide)).congr (by simp [Code.parens])

/-! ## Types -/

theorem sound_combined {operator : List Char}
    (hoperator : Lex.Piece.close [.sound, .text operator, .sound] = true)
    (h : ∀ part ∈ parts, r.Sound part) :
    r.Sound (Code.combined (String.ofList operator) parts) := by
  unfold Code.combined
  split
  case h_1 => exact List.forall_mem_singleton.1 h
  case h_2 => exact (Value.parens (sound_join h hoperator)).sound

/-- A field whose name, if it stands as it is, and whose type are sound. -/
structure FieldSound (r : Reader) (f : Field) : Prop where
  name : f.raw = true → r.Sound (Code.site f.name)
  type : r.Sound f.type

theorem fieldSound_quoted {name : String} {type : Code} {optional : Bool} (h : r.Sound type) :
    r.FieldSound { name, type, optional } := ⟨nofun, h⟩

theorem fieldSound_plain {name : List Char} {type : Code} {optional : Bool}
    (hname : Lex.Piece.close [.text name] = true) (h : r.Sound type) :
    r.FieldSound (Field.plain (String.ofList name) type optional) := ⟨fun _ => sound_given hname, h⟩

theorem FieldSound.declaration {f : Field} (h : r.FieldSound f) : r.Sound f.declaration := by
  have key : r.Sound (Code.site (if f.raw then f.name else Text.quoted f.name)) := by
    split
    case isTrue hraw => exact h.name hraw
    case isFalse => exact (complete_quoted f.name).sound
  unfold Field.declaration
  dsimp only
  generalize (if f.raw then f.name else Text.quoted f.name) = text at key ⊢
  split
  · have hfits : r.Fits _ [text, "?: ", f.type] := .sound key (.text (.sound h.type .nil))
    exact (hfits.cat (by decide)).congr (by simp)
  · have hfits : r.Fits _ [text, ": ", f.type] := .sound key (.text (.sound h.type .nil))
    exact (hfits.cat (by decide)).congr (by simp)

theorem sound_declarations {fields : List Field} (h : ∀ f ∈ fields, r.FieldSound f) :
    ∀ part ∈ fields.map Field.declaration, r.Sound part :=
  List.forall_mem_map.2 fun f hf => (h f hf).declaration

theorem sound_objectType {fields : List Field} (h : ∀ f ∈ fields, r.FieldSound f) :
    r.Sound (Field.objectType fields) := by
  unfold Field.objectType
  split
  · exact sound_given (by decide)
  · exact (Value.braced (sound_join (sound_declarations h) (by decide))).sound

theorem sound_arguments {fields : List Field} (h : ∀ f ∈ fields, r.FieldSound f) :
    r.Sound (Field.arguments fields) :=
  sound_join (sound_declarations h) (by decide)

theorem sound_recordType {fields : List Field} {index : Option Code} (isOpen : Bool)
    (h : ∀ f ∈ fields, r.FieldSound f) (hindex : ∀ type ∈ index, r.Sound type) :
    r.Sound (Code.recordType fields index isOpen) := by
  have indexField {type : Code} (h : r.Sound type) : r.FieldSound (Code.indexField type) :=
    ⟨fun _ => sound_given (by decide), h⟩
  unfold Code.recordType
  split
  case h_1 =>
    split
    · exact sound_given (by decide)
    · exact sound_given (by decide)
  case h_2 => exact sound_objectType h
  case h_3 type =>
    have field := indexField (hindex type rfl)
    split
    · refine sound_objectType fun f hf => ?_
      rcases List.mem_append.1 hf with hf | hf
      · exact h f hf
      · exact List.mem_singleton.1 hf ▸ field
    · refine (Value.parens ?_).sound
      have hfield := sound_objectType (List.forall_mem_singleton.2 field)
      exact (Fits.sound (sound_objectType h) (.text (.sound hfield .nil))).cat (by decide)

/-! ## Conversions -/

theorem Complete.returned (h : r.Sound code) : r.Complete code.returned :=
  (Fits.text (.sound h (.text .nil))).catComplete (by decide)

theorem Complete.returnedIf (hcondition : r.Sound condition) (h : r.Sound code) :
    r.Complete (condition.returnedIf code) :=
  (Fits.text (.value (.parens hcondition) (.text (.complete (.returned h) .nil)))).catComplete
    (by decide)

theorem Value.immediate (h : r.Sound code) : r.Value code.immediate := by
  have function : r.Sound (Code.cat ["() => ", code.braced]) :=
    (Fits.text (.value (.braced h) .nil)).cat (by decide)
  exact (Fits.complete (.parens function) (.text .nil)).catValue (by decide)

theorem Value.unlessNull (hvalue : r.Sound value) (h : r.Sound converted) :
    r.Value (Code.unlessNull value converted) :=
  .parens ((Fits.sound hvalue (.text (.sound h .nil))).cat (by decide))

theorem Sound.hasType (h : r.Sound value) (name : String) : r.Sound (value.hasType name) :=
  (Fits.text (.sound h (.text (.complete (complete_quoted name) .nil)))).cat (by decide)

theorem Sound.isRecord (h : r.Sound value) : r.Sound value.isRecord := by
  have hfits : r.Fits _ [value.hasType "object", " && ", value, " !== null && !Array.isArray", "(",
      value, ")"] :=
    .sound (h.hasType _) (.text (.sound h (.text (.text (.sound h (.text .nil))))))
  exact (hfits.cat (by decide)).congr (by simp [Code.isRecord, Code.parens])

theorem Sound.isArray (h : r.Sound value) : r.Sound (Code.cat ["Array.isArray", value.parens]) := by
  have hfits : r.Fits _ ["Array.isArray", "(", value, ")"] := .text (.text (.sound h (.text .nil)))
  exact (hfits.cat (by decide)).congr (by simp [Code.parens])

/-- The member of an object literal under a key that is a literal. -/
theorem sound_entry (name : String) (h : r.Sound value) :
    r.Sound (Code.cat [quoted name, ": ", value]) :=
  (Fits.complete (complete_quoted name) (.text (.sound h .nil))).cat (by decide)

/-- A value that depends on whether another one is there. -/
theorem sound_ifPresent (haccess : r.Sound access) (h : r.Sound value) {otherwise : List Char}
    (hotherwise : Lex.Piece.close [.sound, .text otherwise] = true) :
    r.Sound (Code.cat [access, " !== undefined ? ", value, Code.site (String.ofList otherwise)]) := by
  have hvalue : r.Sound (Code.cat [value, Code.site (String.ofList otherwise)]) :=
    (Fits.sound h (.text .nil)).cat hotherwise
  have hfits : r.Fits _ [access, " !== undefined ? ",
      Code.cat [value, Code.site (String.ofList otherwise)]] :=
    .sound haccess (.text (.sound hvalue .nil))
  exact (hfits.cat (by decide)).congr (by simp)

theorem sound_spread (h : r.Sound code) : r.Sound (Code.cat ["...", code]) :=
  (Fits.text (.sound h .nil)).cat (by decide)

theorem Sound.memberIfPresent (haccess : r.Sound access) (name : String) (h : r.Sound value) :
    r.Sound (access.memberIfPresent name value) :=
  sound_spread (Value.parens
    (sound_ifPresent haccess (Value.braced (sound_entry name h)).sound (by decide))).sound

theorem Sound.mappedEntries (h : r.Sound value) {key entry : String} (hkey : r.Operand key)
    (hentry : r.Operand entry) (known : List String) (hconverted : r.Sound converted) :
    r.Sound (value.mappedEntries key entry known converted) := by
  have hmapped : r.Sound (if known.isEmpty then converted else
      Code.cat [(Code.join ", " (known.map quoted)).brackets, ".includes", (Code.site key).parens,
        " ? ", entry, " : ", converted]) := by
    split
    · exact hconverted
    · have hknown : r.Sound (Code.join ", " (known.map quoted)) :=
        sound_join (List.forall_mem_map.2 fun name _ => (complete_quoted name).sound) (by decide)
      have hfits : r.Fits _ [(Code.join ", " (known.map quoted)).brackets, ".includes", "(", key,
          ")", " ? ", entry, " : ", converted] :=
        .value (.brackets hknown) (.text (.text (.value hkey.value (.text (.text
          (.value hentry.value (.text (.sound hconverted .nil))))))))
      exact (hfits.cat (by decide)).congr (by simp [Code.parens])
  unfold Code.mappedEntries
  generalize (if known.isEmpty then converted else _) = mapped at hmapped ⊢
  have hpair : r.Value (Code.cat [key, ", ", mapped]).brackets :=
    .brackets ((Fits.value hkey.value (.text (.sound hmapped .nil))).cat (by decide))
  have hfunction : r.Sound (Code.cat ["([", key, ", ", entry, "]: [string, any]) => ",
      (Code.cat [key, ", ", mapped]).brackets]) :=
    (Fits.text (.value hkey.value (.text (.value hentry.value (.text (.value hpair .nil)))))).cat
      (by decide)
  have hfits : r.Fits _ ["Object.fromEntries", "(", "Object.entries", "(", value, ")", ".map", "(",
      Code.cat ["([", key, ", ", entry, "]: [string, any]) => ",
        (Code.cat [key, ", ", mapped]).brackets], ")", ")"] :=
    .text (.text (.text (.text (.sound h (.text (.text (.text (.sound hfunction
      (.text (.text .nil))))))))))
  exact (hfits.cat (by decide)).congr (by simp [Code.parens])

/-! ## Parameters -/

theorem sound_pair (name : String) (h : r.Sound code) :
    r.Sound (Code.cat [quoted name, ", ", code]) :=
  (Fits.complete (complete_quoted name) (.text (.sound h .nil))).cat (by decide)

theorem value_singlePair (name : String) (h : r.Sound code) : r.Value (Code.singlePair name code) :=
  .brackets (Value.brackets (sound_pair name h)).sound

theorem Sound.pairIfPresent (haccess : r.Sound access) (name : String) (h : r.Sound code) :
    r.Sound (access.pairIfPresent name code) :=
  sound_spread (Value.parens
    (sound_ifPresent haccess (value_singlePair name h).sound (by decide))).sound

theorem Value.mapped (h : r.Value array) {item : String} (hitem : r.Operand item)
    {typing : List Char}
    (htyping : Lex.Piece.closeComplete [.text typing, .text [' ', '=', '>', ' ']] = true)
    (hcode : r.Sound code) : r.Value (array.mapped item (String.ofList typing) code) := by
  have harrow : r.Complete (Code.cat [String.ofList typing, " => "]) :=
    (Fits.text (.text .nil)).catComplete htyping
  have hfits : r.Fits _ [array, ".map", "(", "(", item, ": any)",
      Code.cat [String.ofList typing, " => "], code, ")"] :=
    .value h (.text (.text (.text (.value hitem.value (.text (.complete harrow
      (.sound hcode (.text .nil))))))))
  exact (hfits.catValue (by decide)).congr (by simp [Code.mapped, Code.parens])

theorem Value.commaSeparated (h : r.Value array) : r.Value array.commaSeparated :=
  (Fits.value h (.text .nil)).appendValue (by decide)

theorem Sound.unpackedBy (h : r.Sound value) {parameter : String} (hparameter : r.Operand parameter)
    {typing : List Char}
    (htyping : Lex.Piece.closeComplete [.text typing, .text [' ', '=', '>', ' ']] = true)
    (hparts : ∀ part ∈ parts, r.Sound part) (hcode : r.Sound code) :
    r.Sound (value.unpackedBy parameter (String.ofList typing) parts code) := by
  have harrow : r.Complete (Code.cat [String.ofList typing, " => "]) :=
    (Fits.text (.text .nil)).catComplete htyping
  have hbody : r.Complete (Code.join " " (parts ++ [code.returned])).braced := by
    refine .braced (sound_join (fun part hpart => ?_) (by decide))
    rcases List.mem_append.1 hpart with hpart | hpart
    · exact hparts part hpart
    · exact List.mem_singleton.1 hpart ▸ (Complete.returned hcode).sound
  have hfits : r.Fits _ ["(", "(", parameter, ": string)",
      Code.cat [String.ofList typing, " => "],
      (Code.join " " (parts ++ [code.returned])).braced, ")", "(", value, ")"] :=
    .text (.text (.value hparameter.value (.text (.complete harrow (.complete hbody
      (.text (.text (.sound h (.text .nil)))))))))
  exact (hfits.cat (by decide)).congr (by simp [Code.unpackedBy, Code.parens])

end Reader

end OpenApi
