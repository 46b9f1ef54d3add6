import OpenApi.Code

/-!
The characters of a piece of code, each with its origin. Joining neighbours of one origin and dropping
empty fragments changes none of them: whatever code is put together from, its characters are those of
the parts one after the other (`chars_append`, `chars_cat`, `chars_join`), and so is its text.
-/

namespace OpenApi

/-- The characters of a fragment, each with its origin. -/
def Fragment.chars (f : Fragment) : List (Char × Origin) := f.text.toList.map (·, f.origin)

theorem flatMap_intercalate {α β : Type} (f : α → List β) (separator : List α)
    (parts : List (List α)) : (separator.intercalate parts).flatMap f =
      (separator.flatMap f).intercalate (parts.map (·.flatMap f)) := by
  match parts with
  | [] => rfl
  | [part] => simp
  | first :: second :: rest =>
    have ih := flatMap_intercalate f separator (second :: rest)
    simpa using ih

namespace Code

/-- The characters of the code, each with its origin. -/
def chars (code : Code) : List (Char × Origin) := code.fragments.flatMap Fragment.chars

@[simp] theorem chars_empty : chars empty = [] := rfl

theorem chars_extend (fs : List Fragment) (f : Fragment) :
    chars ⟨extend fs f⟩ = chars ⟨fs⟩ ++ f.chars := by
  fun_induction extend fs f with
  | case1 f h => simp_all [chars, Fragment.chars, String.isEmpty_iff]
  | case2 f h => simp [chars]
  | case3 last f h => simp_all [chars, Fragment.chars, String.isEmpty_iff]
  | case4 last f h e => simp [chars, Fragment.chars, e]
  | case5 last f h e => simp [chars]
  | case6 g h rest f ih => simpa [chars] using ih

@[simp] theorem chars_append (a b : Code) : (a ++ b).chars = a.chars ++ b.chars := by
  show chars ⟨b.fragments.foldl extend a.fragments⟩ = _
  obtain ⟨fs⟩ := a
  obtain ⟨gs⟩ := b
  induction gs generalizing fs with
  | nil => simp [chars]
  | cons g gs ih =>
    simp only [List.foldl_cons] at ih ⊢
    rw [ih, chars_extend, List.append_assoc]
    rfl

@[simp] theorem chars_tagged (text : String) (origin : Origin) :
    (tagged text origin).chars = text.toList.map (·, origin) := by
  rw [tagged, chars_extend]
  rfl

@[simp] theorem chars_site (text : String) : (site text).chars = text.toList.map (·, .site) :=
  chars_tagged text .site

@[simp] theorem chars_cat (parts : List Code) : (cat parts).chars = parts.flatMap chars := by
  have hfold : ∀ a : Code, (parts.foldl append a).chars = a.chars ++ parts.flatMap chars := by
    induction parts with
    | nil => simp
    | cons part parts ih =>
      intro a
      rw [List.foldl_cons, ih, List.flatMap_cons, ← List.append_assoc]
      exact congrArg (· ++ _) (chars_append a part)
  exact hfold empty

@[simp] theorem chars_join (separator : String) (parts : List Code) (origin : Origin) :
    (join separator parts origin).chars =
      (separator.toList.map (·, origin)).intercalate (parts.map chars) := by
  match parts with
  | [] => simp [join]
  | first :: rest =>
    simp only [join]
    induction rest generalizing first with
    | nil => simp
    | cons part rest ih =>
      rw [List.foldl_cons, ih]
      cases rest <;> simp

/-- What holds of all parts, and stays where a separator and one more part are added, holds of the parts
joined. -/
theorem join_preserves {P : Code → Prop} {separator : String} {parts : List Code} {origin : Origin}
    (hempty : P empty) (hparts : ∀ part ∈ parts, P part)
    (hnext : ∀ code part, P code → P part → P (code ++ tagged separator origin ++ part)) :
    P (join separator parts origin) := by
  cases parts with
  | nil => exact hempty
  | cons first rest =>
    obtain ⟨hfirst, hrest⟩ := List.forall_mem_cons.1 hparts
    exact List.foldlRecOn rest _ hfirst fun code hcode part hpart =>
      hnext code part hcode (hrest part hpart)

@[simp] theorem chars_parens (code : Code) (origin : Origin) :
    (code.parens origin).chars = ('(', origin) :: code.chars ++ [(')', origin)] := by
  simp [parens]

/-! ## Texts -/

theorem toList_render (code : Code) : code.render.toList = code.chars.map (·.1) := by
  obtain ⟨fs⟩ := code
  induction fs with
  | nil => rfl
  | cons f fs ih => simpa [render, chars, Fragment.chars, Function.comp_def] using ih

@[simp] theorem render_empty : render empty = "" := rfl

theorem render_cons (f : Fragment) (fs : List Fragment) :
    render ⟨f :: fs⟩ = f.text ++ render ⟨fs⟩ := by
  simp [render]

@[simp] theorem render_append (a b : Code) : (a ++ b).render = a.render ++ b.render :=
  String.toList_inj.1 (by simp [toList_render])

@[simp] theorem render_tagged (text : String) (origin : Origin) :
    (tagged text origin).render = text :=
  String.toList_inj.1 (by simp [toList_render, Function.comp_def])

@[simp] theorem render_site (text : String) : (site text).render = text :=
  render_tagged text .site

@[simp] theorem render_cat (parts : List Code) :
    (cat parts).render = String.join (parts.map render) :=
  String.toList_inj.1 (by simp [toList_render, List.map_flatMap, List.flatMap_map])

@[simp] theorem render_join (separator : String) (parts : List Code) (origin : Origin) :
    (join separator parts origin).render = separator.intercalate (parts.map render) := by
  apply String.toList_inj.1
  rw [toList_render, chars_join, List.map_eq_flatMap, flatMap_intercalate,
    String.toList_intercalate, List.map_map, List.map_map]
  congr 1
  · simp [List.flatMap_map]
  · refine List.map_congr_left fun part _ => ?_
    simp [toList_render, List.map_eq_flatMap]

@[simp] theorem render_parens (code : Code) (origin : Origin) :
    (code.parens origin).render = "(" ++ code.render ++ ")" := by
  simp [parens, String.append_assoc]

@[simp] theorem render_brackets (code : Code) :
    code.brackets.render = "[" ++ code.render ++ "]" := by
  simp [brackets, String.append_assoc]

end Code

end OpenApi
