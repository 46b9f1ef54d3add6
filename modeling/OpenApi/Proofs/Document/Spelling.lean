import OpenApi.Proofs.Document.Depth

/-!
References that are spelled in different ways. A reference is followed by its segments alone, so two
references with the same segments lead to the same schema and give it the same name; and the
reference to a component schema leads through its name, whatever characters that holds.
-/

namespace OpenApi

/-! ## Escapes -/

namespace Text

theorem replacePair_cons_of_ne {a b c : Char} {text : List Char} (h : c ≠ a) (rest : List Char) :
    replacePair a b text (c :: rest) = c :: replacePair a b text rest := by
  cases rest with
  | nil => rfl
  | cons d rest => rw [replacePair, if_neg (fun hc => h hc.1)]

/-- A character stays if the second one of the pair does not come next. -/
theorem replacePair_cons_of_forall_ne {a b c : Char} {text rest : List Char}
    (h : ∀ more, rest ≠ b :: more) :
    replacePair a b text (c :: rest) = c :: replacePair a b text rest := by
  cases rest with
  | nil => rfl
  | cons d more => rw [replacePair, if_neg fun hpair => h more (by rw [hpair.2])]

/-- What stands before the first separator belongs to the first part. -/
theorem splitFrom_append {separator : Char} {xs : List Char} (h : separator ∉ xs)
    (part rest : List Char) :
    splitFrom separator part (xs ++ rest) = splitFrom separator (part ++ xs) rest := by
  induction xs generalizing part with
  | nil => simp
  | cons x xs ih =>
    obtain ⟨hx, hxs⟩ : separator ≠ x ∧ separator ∉ xs := by simpa using h
    rw [List.cons_append, splitFrom, if_neg (Ne.symm hx), ih hxs]
    simp

theorem splitFrom_cons_self (separator : Char) (part rest : List Char) :
    splitFrom separator part (separator :: rest) = part :: splitFrom separator [] rest := by
  rw [splitFrom, if_pos rfl]

end Text

namespace Pointer

/-- The characters that stand for a character of a segment. -/
def escapeChar (c : Char) : List Char :=
  if c = '~' then ['~', '0'] else if c = '/' then ['~', '1'] else [c]

theorem toList_escape (segment : String) :
    (escape segment).toList = segment.toList.flatMap escapeChar := by
  simp only [escape, String.toList_ofList]
  rfl

theorem slash_notMem_escape (segment : String) : '/' ∉ (escape segment).toList := by
  rw [toList_escape, List.mem_flatMap]
  rintro ⟨c, _, h⟩
  unfold escapeChar at h
  split at h
  · simp at h
  · split at h
    · simp at h
    · rename_i hc
      exact hc (List.mem_singleton.1 h).symm

/-- Undoing the escapes of `/` leaves those of `~`. -/
theorem replacePair_slash (cs : List Char) :
    Text.replacePair '~' '1' ['/'] (cs.flatMap escapeChar) =
      cs.flatMap fun c => if c = '~' then ['~', '0'] else [c] := by
  induction cs with
  | nil => rfl
  | cons c cs ih =>
    rw [List.flatMap_cons, List.flatMap_cons, ← ih]
    by_cases htilde : c = '~'
    · subst htilde
      show Text.replacePair '~' '1' ['/'] ('~' :: '0' :: _) = _
      rw [Text.replacePair, if_neg (by decide), Text.replacePair_cons_of_ne (by decide)]
      rfl
    · by_cases hslash : c = '/'
      · subst hslash
        show Text.replacePair '~' '1' ['/'] ('~' :: '1' :: _) = _
        rw [Text.replacePair, if_pos ⟨rfl, rfl⟩]
        rfl
      · have hself : escapeChar c = [c] := by rw [escapeChar, if_neg htilde, if_neg hslash]
        rw [hself, if_neg htilde]
        exact Text.replacePair_cons_of_ne htilde _

theorem replacePair_tilde (cs : List Char) :
    Text.replacePair '~' '0' ['~'] (cs.flatMap fun c => if c = '~' then ['~', '0'] else [c]) = cs := by
  induction cs with
  | nil => rfl
  | cons c cs ih =>
    rw [List.flatMap_cons]
    by_cases htilde : c = '~'
    · subst htilde
      show Text.replacePair '~' '0' ['~'] ('~' :: '0' :: _) = _
      rw [Text.replacePair, if_pos ⟨rfl, rfl⟩]
      exact congrArg _ ih
    · rw [if_neg htilde]
      exact (Text.replacePair_cons_of_ne htilde _).trans (congrArg _ ih)

@[simp] theorem unescape_escape (segment : String) : unescape (escape segment) = segment := by
  rw [unescape, toList_escape, replacePair_slash, replacePair_tilde, String.ofList_toList]

/-- The reference to the part that is reached through the given names. -/
def ofSegments (names : List String) : String :=
  "#" ++ String.join (names.map fun name => "/" ++ escape name)

theorem toList_ofSegments (names : List String) : (ofSegments names).toList =
    '#' :: names.flatMap fun name => '/' :: (escape name).toList := by
  simp [ofSegments, List.flatMap_map]

/-- No escaped name has a slash in it, so the slashes are where one name ends and the next begins. -/
theorem splitFrom_escaped (name : String) (names : List String) :
    Text.splitFrom '/' [] ((escape name).toList ++
        names.flatMap fun name => '/' :: (escape name).toList) =
      (name :: names).map fun name => (escape name).toList := by
  induction names generalizing name with
  | nil =>
    rw [Text.splitFrom_append (slash_notMem_escape name), List.flatMap_nil, List.nil_append,
      Text.splitFrom, List.map_singleton]
  | cons next names ih =>
    rw [Text.splitFrom_append (slash_notMem_escape name), List.flatMap_cons, List.cons_append,
      Text.splitFrom_cons_self, ih, List.nil_append]
    simp only [List.map_cons]

theorem segments_ofSegments (names : List String) : segments (ofSegments names) = .ok names := by
  cases names with
  | nil => rfl
  | cons name names =>
    unfold segments
    rw [toList_ofSegments, List.flatMap_cons, List.cons_append]
    have hback : (fun s => unescape (String.ofList s)) ∘ (fun name => (escape name).toList) = id :=
      funext fun name => by simp
    show Except.ok ((Text.split '/' _).map _) = _
    rw [Text.split, splitFrom_escaped, List.map_map, hback, List.map_id]

/-- The reference to a component schema leads through its name. -/
theorem segments_ofSchema (name : String) :
    segments (ofSchema name) = .ok ["components", "schemas", name] := by
  have hcomponents : escape "components" = "components" := by decide
  have hschemas : escape "schemas" = "schemas" := by decide
  have hreference : ofSchema name = ofSegments ["components", "schemas", name] := by
    unfold ofSchema
    exact String.toList_inj.1 (by simp [toList_ofSegments, hcomponents, hschemas])
  rw [hreference, segments_ofSegments]

end Pointer

/-! ## Spellings -/

namespace Pointer

/-- Where one spelling leads, every other one does. -/
theorem follow_congr {reference reference' : String} {path : List String} {value target : Json}
    (h : follow reference path value = .ok target) : follow reference' path value = .ok target := by
  induction path generalizing value with
  | nil => exact h
  | cons segment rest ih =>
    obtain ⟨next, hnext, h⟩ := Except.bind_eq_ok.1 h
    refine Except.bind_eq_ok.2 ⟨next, ?_, ih h⟩
    cases value with
    | object members =>
      unfold step at hnext ⊢
      cases hmember : Members.get? members segment with
      | none => simp [hmember] at hnext
      | some value => simpa [hmember] using hnext
    | array items =>
      unfold step at hnext ⊢
      cases hindex : Text.natural? Text.maxWord64 segment with
      | none => simp [hindex] at hnext
      | some index =>
        cases hitem : items[index]? with
        | none => simp [hindex, hitem] at hnext
        | some value => simpa [hindex, hitem] using hnext
    | _ => cases hnext

theorem lastSegment?_congr {reference reference' : String} {path : List String}
    (h : segments reference = .ok path) (h' : segments reference' = .ok path) :
    lastSegment? reference = lastSegment? reference' := by
  rw [lastSegment?, lastSegment?, h, h']

end Pointer

namespace Document

variable {doc : Document} {reference reference' : String} {path : List String}

theorem resolve_congr (h : Pointer.segments reference = .ok path)
    (h' : Pointer.segments reference' = .ok path) {value : Json}
    (hvalue : doc.resolve reference = .ok value) : doc.resolve reference' = .ok value := by
  unfold resolve Pointer.resolve at hvalue ⊢
  rw [h] at hvalue
  rw [h']
  exact Pointer.follow_congr hvalue

theorem resolveAs_congr (h : Pointer.segments reference = .ok path)
    (h' : Pointer.segments reference' = .ok path) {α : Type} {expected : String}
    {decode : Decoder Json α} {a : α} (ha : doc.resolveAs reference expected decode = .ok a) :
    doc.resolveAs reference' expected decode = .ok a := by
  obtain ⟨value, hvalue, ha⟩ := Except.bind_eq_ok.1 ha
  refine Except.bind_eq_ok.2 ⟨value, resolve_congr h h' hvalue, ?_⟩
  cases hdecode : decode value with
  | error e => rw [hdecode] at ha; cases ha
  | ok b => rw [hdecode] at ha; exact ha

theorem refName_congr (h : Pointer.segments reference = .ok path)
    (h' : Pointer.segments reference' = .ok path) {name : String}
    (hname : doc.refName reference = .ok name) : doc.refName reference' = .ok name := by
  obtain ⟨value, hvalue, hname⟩ := Except.bind_eq_ok.1 hname
  refine Except.bind_eq_ok.2 ⟨value, resolve_congr h h' hvalue, ?_⟩
  rw [Pointer.lastSegment?_congr h' h]
  exact hname

end Document

end OpenApi
