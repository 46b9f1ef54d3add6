import Mathlib
import OpenApi.ContentType
import OpenApi.Text.Split

/-!
Matching of content types. All that counts of a pattern and of a content type is its essence in small
letters, a type and a subtype (`matchesPattern_iff_accepts`); so matching does not depend on how either is
written (`folded_eq_of_spells`), and it is reflexive and transitive. The codec of a content type is that of
the first pattern of a table that matches it, and what a pattern with a codec matches has the same codec
(`matchesPattern_preorder`).
-/

namespace OpenApi.ContentType

/-! ## Small letters -/

/-- A text in small letters. -/
def lower (text : List Char) : List Char := text.map Char.toLower

theorem toLower_eq_iff {c d : Char} (hd : d.isAlpha = false) : c.toLower = d ↔ c = d := by
  by_cases hc : c.isUpper = true
  case neg => rw [Char.toLower_eq_of_not_isUpper hc]
  case pos =>
    -- a capital and its small letter are both letters
    have halpha : c.isAlpha = true := by rw [Char.isAlpha, hc, Bool.true_or]
    have hne (e : Char) (he : e.isAlpha = true) : e ≠ d := by
      rintro rfl
      rw [he] at hd
      cases hd
    exact iff_of_false (hne _ ((Char.isAlpha_toLower_eq_isAlpha c).trans halpha)) (hne c halpha)

theorem isBlank_eq_false_of_isAlpha {c : Char} (h : c.isAlpha = true) : Text.isBlank c = false := by
  simp only [Char.isAlpha, Char.isUpper, Char.isLower, Bool.or_eq_true, Bool.and_eq_true,
    decide_eq_true_eq, ge_iff_le, UInt32.le_iff_toNat_le, UInt32.reduceToNat, Char.reduceVal,
    Char.toNat_val] at h
  exact Text.isBlank_eq_false (by omega) (by omega)

theorem isBlank_toLower (c : Char) : Text.isBlank c.toLower = Text.isBlank c := by
  by_cases hc : c.isUpper = true
  case neg => rw [Char.toLower_eq_of_not_isUpper hc]
  case pos =>
    have halpha : c.isAlpha = true := by rw [Char.isAlpha, hc, Bool.true_or]
    rw [isBlank_eq_false_of_isAlpha halpha,
      isBlank_eq_false_of_isAlpha ((Char.isAlpha_toLower_eq_isAlpha c).trans halpha)]

@[simp] theorem lower_lower (text : List Char) : lower (lower text) = lower text := by
  simp [lower]

theorem lower_eq_star_iff {text : List Char} : lower text = ['*'] ↔ text = ['*'] := by
  cases text with
  | nil => simp [lower]
  | cons c rest => simp [lower, toLower_eq_iff (c := c) (d := '*') (by decide)]

theorem lower_takeWhile {d : Char} (hd : d.isAlpha = false) (text : List Char) :
    lower (text.takeWhile (· ≠ d)) = (lower text).takeWhile (· ≠ d) := by
  rw [lower, lower, List.takeWhile_map]
  congr 2
  funext c
  simp [toLower_eq_iff hd]

theorem lower_dropWhile {d : Char} (hd : d.isAlpha = false) (text : List Char) :
    lower (text.dropWhile (· ≠ d)) = (lower text).dropWhile (· ≠ d) := by
  rw [lower, lower, List.dropWhile_map]
  congr 2
  funext c
  simp [toLower_eq_iff hd]

theorem lower_trimChars (text : List Char) :
    lower (Text.trimChars text) = Text.trimChars (lower text) := by
  have hdrop (text : List Char) :
      lower (text.dropWhile Text.isBlank) = (lower text).dropWhile Text.isBlank := by
    rw [lower, lower, List.dropWhile_map]
    congr 2
    exact funext fun c => (isBlank_toLower c).symm
  have hreverse (text : List Char) : lower text.reverse = (lower text).reverse := List.map_reverse
  rw [Text.trimChars, hreverse, hdrop, hreverse, hdrop, Text.trimChars]

/-! ## Spellings -/

/-- What counts of a content type: its essence in small letters. -/
def folded (contentType : String) : List Char := lower (essence contentType).toList

/-- `written` is a way to write `text` as a content type: in whatever case, with blanks around it, and
with parameters behind or without. -/
def Spells (written : String) (text : List Char) : Prop :=
  ∃ before body after parameters,
    written.toList = before ++ (body ++ (after ++ parameters)) ∧ lower body = lower text ∧
    (∀ c ∈ before, Text.isBlank c = true) ∧ (∀ c ∈ after, Text.isBlank c = true) ∧
    (parameters = [] ∨ ∃ rest, parameters = ';' :: rest)

theorem exists_blanks (text : List Char) : ∃ before after,
    text = before ++ (Text.trimChars text ++ after) ∧
      (∀ c ∈ before, Text.isBlank c = true) ∧ ∀ c ∈ after, Text.isBlank c = true := by
  have hfront := List.takeWhile_append_dropWhile (p := Text.isBlank) (l := text)
  have hback := List.takeWhile_append_dropWhile (p := Text.isBlank)
    (l := (text.dropWhile Text.isBlank).reverse)
  refine ⟨text.takeWhile Text.isBlank,
    ((text.dropWhile Text.isBlank).reverse.takeWhile Text.isBlank).reverse, ?_,
    fun c hc => List.mem_takeWhile_imp hc,
    fun c hc => List.mem_takeWhile_imp (List.mem_reverse.1 hc)⟩
  rw [Text.trimChars, ← List.reverse_append, hback, List.reverse_reverse, hfront]

/-- Every content type spells its own essence. -/
theorem spells_essence (contentType : String) :
    Spells contentType (essence contentType).toList := by
  have hparameters := List.takeWhile_append_dropWhile (p := (· ≠ ';')) (l := contentType.toList)
  obtain ⟨before, after, htext, hbefore, hafter⟩ :=
    exists_blanks (contentType.toList.takeWhile (· ≠ ';'))
  refine ⟨before, _, after, contentType.toList.dropWhile (· ≠ ';'), ?_,
    by rw [essence, String.toList_ofList], hbefore, hafter, ?_⟩
  · rw [← List.append_assoc _ after, ← List.append_assoc before, ← htext, hparameters]
  · cases hdrop : contentType.toList.dropWhile (· ≠ ';') with
    | nil => exact .inl rfl
    | cons c rest =>
      exact .inr ⟨rest, by rw [Text.eq_of_dropWhile_eq_cons hdrop]⟩

theorem trimChars_blanks {before after : List Char} (hbefore : ∀ c ∈ before, Text.isBlank c = true)
    (hafter : ∀ c ∈ after, Text.isBlank c = true) (text : List Char) :
    Text.trimChars (before ++ (text ++ after)) = Text.trimChars text := by
  have hreverse : ∀ c ∈ after.reverse, Text.isBlank c = true := fun c hc =>
    hafter c (List.mem_reverse.1 hc)
  rw [Text.trimChars, List.dropWhile_append_of_pos hbefore, List.dropWhile_append, Text.trimChars]
  split
  case isTrue hempty => rw [List.isEmpty_iff.1 hempty, List.dropWhile_eq_nil_iff.2 hafter]
  case isFalse => rw [List.reverse_append, List.dropWhile_append_of_pos hreverse]

/-- The essence of a spelling is that of what is spelled. -/
theorem folded_eq_of_spells {written : String} {text : List Char} (h : Spells written text) :
    folded written = Text.trimChars ((lower text).takeWhile (· ≠ ';')) := by
  obtain ⟨before, body, after, parameters, hwritten, hbody, hbefore, hafter, hparameters⟩ := h
  have hblank {blanks : List Char} (hblanks : ∀ c ∈ blanks, Text.isBlank c = true) :
      ∀ c ∈ blanks, decide (c ≠ ';') = true := by
    refine fun c hc => decide_eq_true ?_
    rintro rfl
    exact absurd (hblanks _ hc) (by decide)
  have hend : parameters.takeWhile (· ≠ ';') = [] := by
    rcases hparameters with rfl | ⟨rest, rfl⟩ <;> rfl
  have hessence : Text.trimChars (written.toList.takeWhile (· ≠ ';')) =
      Text.trimChars (body.takeWhile (· ≠ ';')) := by
    rw [hwritten, List.takeWhile_append_of_pos (hblank hbefore), List.takeWhile_append]
    split
    case isTrue hwhole =>
      have hself : body.takeWhile (· ≠ ';') = body :=
        (List.takeWhile_prefix _).eq_of_length hwhole
      rw [List.takeWhile_append_of_pos (hblank hafter), hend, List.append_nil,
        trimChars_blanks hbefore hafter, hself]
    case isFalse => simpa using trimChars_blanks hbefore (List.forall_mem_nil _) _
  rw [folded, essence, String.toList_ofList, hessence, lower_trimChars, lower_takeWhile (by decide),
    hbody]

/-! ## Matching -/

/-- The type and the subtype of a content type in small letters. -/
def shape (contentType : String) : List Char × Option (List Char) :=
  halves (String.ofList (folded contentType))

/-- What half a pattern accepts: everything if it is the wildcard, else nothing but itself. -/
def HalfAccepts (pattern target : List Char) : Prop := pattern = ['*'] ∨ pattern = target

/-- What a pattern accepts: the halves of it accept the halves of the target. -/
def Accepts (pattern target : List Char × Option (List Char)) : Prop :=
  HalfAccepts pattern.1 target.1 ∧ Option.Rel HalfAccepts pattern.2 target.2

theorem HalfAccepts.refl (half : List Char) : HalfAccepts half half := .inr rfl

theorem HalfAccepts.trans {a b c : List Char} (hab : HalfAccepts a b) (hbc : HalfAccepts b c) :
    HalfAccepts a c := by
  rcases hab with hstar | rfl
  · exact .inl hstar
  · exact hbc

theorem Accepts.refl (shape : List Char × Option (List Char)) : Accepts shape shape := by
  obtain ⟨type, _ | subtype⟩ := shape
  · exact ⟨.refl type, .none⟩
  · exact ⟨.refl type, .some (.refl subtype)⟩

theorem Accepts.trans {a b c : List Char × Option (List Char)} (hab : Accepts a b)
    (hbc : Accepts b c) : Accepts a c := by
  obtain ⟨type, subtype⟩ := a
  obtain ⟨type', subtype'⟩ := b
  obtain ⟨type'', subtype''⟩ := c
  obtain ⟨htype, hsubtype⟩ := hab
  obtain ⟨htype', hsubtype'⟩ := hbc
  refine ⟨htype.trans htype', ?_⟩
  cases hsubtype with
  | none =>
    cases hsubtype'
    exact .none
  | some hhalf =>
    cases hsubtype' with
    | some hhalf' => exact .some (hhalf.trans hhalf')

theorem halfMatches_iff {pattern target : List Char} :
    halfMatches pattern target = true ↔ HalfAccepts (lower pattern) (lower target) := by
  rw [HalfAccepts, lower_eq_star_iff, halfMatches, Bool.or_eq_true, beq_iff_eq, beq_iff_eq]
  rfl

theorem halves_lower (text : String) : halves (String.ofList (lower text.toList)) =
    (lower (halves text).1, (halves text).2.map lower) := by
  have hslash : ('/' : Char).isAlpha = false := by decide
  have hdrop := lower_dropWhile hslash text.toList
  rw [halves, halves, String.toList_ofList, ← hdrop, ← lower_takeWhile hslash]
  cases text.toList.dropWhile (· ≠ '/') <;> rfl

theorem matchesPattern_iff_accepts {pattern target : String} :
    matchesPattern pattern target = true ↔ Accepts (shape pattern) (shape target) := by
  rw [matchesPattern, shape, shape, folded, folded, halves_lower, halves_lower]
  obtain ⟨type, subtype⟩ := halves (essence pattern)
  obtain ⟨type', subtype'⟩ := halves (essence target)
  cases subtype <;> cases subtype' <;>
    simp [Accepts, halfMatches_iff]

theorem matchesPattern_congr {a a' b b' : String} (ha : folded a = folded a')
    (hb : folded b = folded b') : matchesPattern a b = matchesPattern a' b' := by
  rw [Bool.eq_iff_iff, matchesPattern_iff_accepts, matchesPattern_iff_accepts, shape, shape, ha, hb]
  rfl

/-- A text with its first slash put back. -/
def unsplit : List Char × Option (List Char) → List Char
  | (type, none) => type
  | (type, some subtype) => type ++ '/' :: subtype

theorem unsplit_halves (text : String) : unsplit (halves text) = text.toList := by
  rw [halves]
  split
  case h_1 => rfl
  case h_2 slash subtype hdrop => exact (Text.eq_append_of_dropWhile_eq_cons hdrop).symm

/-- A pattern without wildcards matches nothing but its own spellings. -/
theorem matchesPattern_exact {pattern : String} (htype : (shape pattern).1 ≠ ['*'])
    (hsubtype : (shape pattern).2 ≠ some ['*']) {target : String} :
    matchesPattern pattern target = true ↔ folded pattern = folded target := by
  rw [matchesPattern_iff_accepts]
  constructor
  case mp =>
    rintro ⟨h, h'⟩
    have heq : shape pattern = shape target := by
      refine Prod.ext (h.resolve_left htype) ?_
      generalize (shape pattern).2 = subtype at h' hsubtype
      generalize (shape target).2 = subtype' at h'
      cases h' with
      | none => rfl
      | some hhalf => exact congrArg some (hhalf.resolve_left fun hstar => hsubtype (hstar ▸ rfl))
    have htexts := congrArg unsplit heq
    rwa [shape, shape, unsplit_halves, unsplit_halves, String.toList_ofList, String.toList_ofList]
      at htexts
  case mpr =>
    intro heq
    rw [shape, shape, heq]
    exact .refl _

/-! ## Codecs -/

/-- The patterns that have a codec, with the codec. -/
def codecs : List (String × Codec) :=
  [("application/json", .json), ("application/x-www-form-urlencoded", .form),
    ("application/binary", .binary), ("application/octet-stream", .binary), ("text/*", .text)]

/-- The codec of the first pattern that matches. -/
def firstCodec (contentType : String) : Option Codec :=
  (codecs.find? fun entry => matchesPattern entry.1 contentType).map (·.2)

/-- The patterns with a codec are no wildcards, except for the texts. -/
theorem codecs_exact : ∀ entry ∈ codecs, entry.2 ≠ .text →
    (shape entry.1).1 ≠ ['*'] ∧ (shape entry.1).2 ≠ some ['*'] := by
  decide +kernel

theorem codecs_folded : ∀ entry ∈ codecs, folded entry.1 = entry.1.toList := by decide +kernel

theorem folded_folded (contentType : String) :
    folded (String.ofList (folded contentType)) = folded contentType := by
  have hspells : Spells (String.ofList (folded contentType)) (essence contentType).toList :=
    ⟨[], folded contentType, [], [], by simp, lower_lower _, by simp, by simp, .inl rfl⟩
  rw [folded_eq_of_spells hspells, ← folded_eq_of_spells (spells_essence contentType)]

/-- A pattern without wildcards that has a codec matches nothing but its own spellings. -/
theorem matchesPattern_listed (pattern : String) (codec : Codec) (contentType : String)
    (h : (pattern, codec) ∈ codecs) (htext : codec ≠ .text) :
    matchesPattern pattern contentType =
      decide (String.ofList (folded contentType) = pattern) := by
  obtain ⟨htype, hsubtype⟩ := codecs_exact _ h htext
  rw [Bool.eq_iff_iff, matchesPattern_exact htype hsubtype, decide_eq_true_iff, codecs_folded _ h,
    ← String.toList_inj, String.toList_ofList, eq_comm]

theorem ofContentType_eq_firstCodec (contentType : String) :
    Codec.ofContentType contentType = (firstCodec contentType).getD .raw := by
  have htext : matchesPattern "text/*" (String.ofList (folded contentType)) =
      matchesPattern "text/*" contentType := matchesPattern_congr rfl (folded_folded contentType)
  have hessence : String.ofList ((essence contentType).toList.map Char.toLower) =
      String.ofList (folded contentType) := rfl
  have hjson := matchesPattern_listed "application/json" .json contentType (by decide) (by decide)
  have hform := matchesPattern_listed "application/x-www-form-urlencoded" .form contentType
    (by decide) (by decide)
  have hbinary := matchesPattern_listed "application/binary" .binary contentType (by decide)
    (by decide)
  have hbytes := matchesPattern_listed "application/octet-stream" .binary contentType (by decide)
    (by decide)
  rw [Codec.ofContentType, firstCodec, codecs]
  simp only [hessence, htext, List.find?_cons, hjson, hform, hbinary, hbytes]
  -- what is left compares the essence with the patterns in turn
  generalize String.ofList (folded contentType) = e
  by_cases h1 : e = "application/json"
  · simp [h1]
  by_cases h2 : e = "application/x-www-form-urlencoded"
  · simp [h2]
  by_cases h3 : e = "application/binary"
  · simp [h3]
  by_cases h4 : e = "application/octet-stream"
  · simp [h4]
  cases matchesPattern "text/*" contentType <;> simp [h1, h2, h3, h4]

theorem ofContentType_congr {a b : String} (h : folded a = folded b) :
    Codec.ofContentType a = Codec.ofContentType b := by
  have hfirst : firstCodec a = firstCodec b := by
    have hmatches (entry : String × Codec) :
        matchesPattern entry.1 a = matchesPattern entry.1 b := matchesPattern_congr rfl h
    rw [firstCodec, firstCodec, funext hmatches]
  rw [ofContentType_eq_firstCodec, ofContentType_eq_firstCodec, hfirst]

/-- No pattern before that of the texts matches a text. -/
theorem ofContentType_text {contentType : String}
    (h : matchesPattern "text/*" contentType = true) : Codec.ofContentType contentType = .text := by
  have hother : ∀ entry ∈ codecs, entry.2 ≠ .text →
      matchesPattern entry.1 contentType = false := by
    intro entry hentry htext
    refine Bool.eq_false_iff.2 fun hmatches => ?_
    obtain ⟨htype, hsubtype⟩ := codecs_exact entry hentry htext
    have hnone : ∀ entry ∈ codecs, entry.2 ≠ .text → matchesPattern "text/*" entry.1 = false := by
      decide +kernel
    have hsame := matchesPattern_congr (a := "text/*") rfl
      ((matchesPattern_exact htype hsubtype).1 hmatches)
    rw [h, hnone entry hentry htext] at hsame
    cases hsame
  rw [ofContentType_eq_firstCodec, firstCodec]
  simp only [codecs, List.forall_mem_cons] at hother
  obtain ⟨hjson, hform, hbinary, hbytes, -⟩ := hother
  simp [codecs, hjson, hform, hbinary, hbytes, h]

/-- What a pattern with a codec matches is read and written with the same codec. -/
theorem ofContentType_of_matchesPattern {pattern target : String}
    (hpattern : Codec.ofContentType pattern ≠ .raw)
    (hmatches : matchesPattern pattern target = true) :
    Codec.ofContentType target = Codec.ofContentType pattern := by
  rw [ofContentType_eq_firstCodec, firstCodec] at hpattern
  cases hfind : codecs.find? fun entry => matchesPattern entry.1 pattern with
  | none =>
    rw [hfind] at hpattern
    exact absurd rfl hpattern
  | some entry =>
    have hentry := List.mem_of_find?_eq_some hfind
    have hlisted := List.find?_some hfind
    by_cases htext : entry.2 = .text
    case pos =>
      have hname : ∀ entry ∈ codecs, entry.2 = .text → entry.1 = "text/*" := by decide
      rw [hname entry hentry htext] at hlisted
      have htarget : matchesPattern "text/*" target = true := by
        rw [matchesPattern_iff_accepts] at hlisted hmatches ⊢
        exact hlisted.trans hmatches
      rw [ofContentType_text hlisted, ofContentType_text htarget]
    case neg =>
      -- the pattern has no wildcard either, since it is the listed one
      obtain ⟨htype, hsubtype⟩ := codecs_exact entry hentry htext
      have hself := (matchesPattern_exact htype hsubtype).1 hlisted
      have hshape : shape entry.1 = shape pattern := congrArg (fun e => halves (String.ofList e)) hself
      rw [hshape] at htype hsubtype
      exact (ofContentType_congr ((matchesPattern_exact htype hsubtype).1 hmatches)).symm

/-! ## Laws -/

/-- Matching is a preorder that does not depend on how either side is written, and the codecs respect it:
the codec of a content type is that of the first pattern in the table that matches it, and a pattern that
has one shares it with whatever it matches. -/
theorem matchesPattern_preorder :
    (∀ a, matchesPattern a a = true) ∧
    (∀ a b c, matchesPattern a b = true → matchesPattern b c = true → matchesPattern a c = true) ∧
    (∀ a a' b b' text text', Spells a text → Spells a' text → Spells b text' → Spells b' text' →
      matchesPattern a b = matchesPattern a' b') ∧
    (∀ contentType, Codec.ofContentType contentType = (firstCodec contentType).getD .raw) ∧
    ∀ pattern target, Codec.ofContentType pattern ≠ .raw → matchesPattern pattern target = true →
      Codec.ofContentType target = Codec.ofContentType pattern := by
  refine ⟨fun a => matchesPattern_iff_accepts.2 (.refl _), fun a b c hab hbc => ?_,
    fun a a' b b' text text' ha ha' hb hb' => ?_, ofContentType_eq_firstCodec,
    fun pattern target => ofContentType_of_matchesPattern⟩
  · rw [matchesPattern_iff_accepts] at hab hbc ⊢
    exact hab.trans hbc
  · have hfolded : folded a = folded a' := (folded_eq_of_spells ha).trans (folded_eq_of_spells ha').symm
    have hfolded' : folded b = folded b' :=
      (folded_eq_of_spells hb).trans (folded_eq_of_spells hb').symm
    exact matchesPattern_congr hfolded hfolded'

/-- Tables of values under the pattern of the texts. -/
theorem matchesPattern_preorder_csv :
    matchesPattern "*/*" " TEXT/* " = true ∧
    matchesPattern " TEXT/* " "Text/CSV ; header=present" = true ∧
    matchesPattern "*/*" "Text/CSV ; header=present" = true ∧
    Spells "Text/CSV ; header=present" "text/csv".toList ∧
    matchesPattern "text/*" "Text/CSV ; header=present" = matchesPattern " TEXT/* " "text/csv" ∧
    Codec.ofContentType " TEXT/* " ≠ .raw ∧
    Codec.ofContentType "Text/CSV ; header=present" = Codec.ofContentType " TEXT/* " := by
  obtain ⟨-, htrans, hspells, -, hcodec⟩ := matchesPattern_preorder
  have hany : matchesPattern "*/*" " TEXT/* " = true := by decide +kernel
  have hcsv : matchesPattern " TEXT/* " "Text/CSV ; header=present" = true := by decide +kernel
  have hraw : Codec.ofContentType " TEXT/* " ≠ .raw := by decide +kernel
  have hblank : ∀ c ∈ [' '], Text.isBlank c = true := List.forall_mem_singleton.2 rfl
  have hnone : ∀ c ∈ ([] : List Char), Text.isBlank c = true := List.forall_mem_nil _
  have hwritten : Spells "Text/CSV ; header=present" "text/csv".toList :=
    ⟨[], "Text/CSV".toList, [' '], "; header=present".toList, by decide +kernel, by decide +kernel,
      hnone, hblank, .inr ⟨_, rfl⟩⟩
  have hplain : Spells "text/csv" "text/csv".toList :=
    ⟨[], "text/csv".toList, [], [], rfl, rfl, hnone, hnone, .inl rfl⟩
  have hstar : Spells "text/*" "text/*".toList :=
    ⟨[], "text/*".toList, [], [], rfl, rfl, hnone, hnone, .inl rfl⟩
  have hcapitals : Spells " TEXT/* " "text/*".toList :=
    ⟨[' '], "TEXT/*".toList, [' '], [], by decide +kernel, by decide +kernel, hblank, hblank,
      .inl rfl⟩
  exact ⟨hany, hcsv, htrans _ _ _ hany hcsv, hwritten,
    hspells _ _ _ _ _ _ hstar hcapitals hwritten hplain, hraw, hcodec _ _ hraw hcsv⟩

end OpenApi.ContentType
