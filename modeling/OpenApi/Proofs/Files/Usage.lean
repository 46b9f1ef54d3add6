import OpenApi.Context

/-!
What a file needs only becomes more while it is written. Imports are merged module by module: no symbol is
lost when others are added.
-/

namespace OpenApi

namespace Usage

/-- Whatever is needed there is needed here, too. -/
structure Within (u u' : Usage) : Prop where
  runtime : u.runtime = true → u'.runtime = true
  types : u.types = true → u'.types = true
  queryString : u.queryString = true → u'.queryString = true
  imports : ∀ {module : String} {symbols : List String}, (module, symbols) ∈ u.imports →
    ∃ known, (module, known) ∈ u'.imports ∧ symbols ⊆ known

variable {u u' u'' : Usage}

theorem Within.refl (u : Usage) : u.Within u := ⟨id, id, id, fun h => ⟨_, h, List.Subset.refl _⟩⟩

theorem Within.trans (h : u.Within u') (h' : u'.Within u'') : u.Within u'' where
  runtime hu := h'.runtime (h.runtime hu)
  types hu := h'.types (h.types hu)
  queryString hu := h'.queryString (h.queryString hu)
  imports hu := by
    obtain ⟨known, hknown, hsub⟩ := h.imports hu
    obtain ⟨known', hknown', hsub'⟩ := h'.imports hknown
    exact ⟨known', hknown', List.Subset.trans hsub hsub'⟩

/-! ## Imports -/

theorem mem_insertSorted {symbol other : String} {symbols : List String} :
    other ∈ insertSorted symbol symbols ↔ other = symbol ∨ other ∈ symbols := by
  fun_induction insertSorted symbol symbols <;> grind

theorem mem_foldr_insertSorted {symbols known : List String} {other : String} :
    other ∈ symbols.foldr insertSorted known ↔ other ∈ symbols ∨ other ∈ known := by
  induction symbols with
  | nil => simp
  | cons symbol symbols ih => rw [List.foldr_cons, mem_insertSorted, ih, List.mem_cons, or_assoc]

theorem subset_foldr_insertSorted (symbols known : List String) :
    symbols ⊆ symbols.foldr insertSorted known :=
  fun _ h => mem_foldr_insertSorted.2 (.inl h)

/-- The symbols are among those that are imported from the module. -/
theorem insertModule_new (module : String) (symbols : List String)
    (imports : Members (List String)) :
    ∃ known, (module, known) ∈ insertModule module symbols imports ∧ symbols ⊆ known := by
  fun_induction insertModule module symbols imports with
  | case1 => exact ⟨_, List.mem_cons_self, subset_foldr_insertSorted symbols []⟩
  | case2 => exact ⟨_, List.mem_cons_self, subset_foldr_insertSorted symbols _⟩
  | case3 => exact ⟨_, List.mem_cons_self, subset_foldr_insertSorted symbols []⟩
  | case4 other known rest _ _ ih =>
    obtain ⟨known', hmem, hsub⟩ := ih
    exact ⟨known', List.mem_cons_of_mem _ hmem, hsub⟩

/-- No symbol that was imported before is lost. -/
theorem insertModule_old (module : String) (symbols : List String)
    {imports : Members (List String)} {name : String} {old : List String}
    (h : (name, old) ∈ imports) :
    ∃ known, (name, known) ∈ insertModule module symbols imports ∧ old ⊆ known := by
  fun_induction insertModule module symbols imports with
  | case1 => cases h
  | case2 known rest =>
    rcases List.mem_cons.1 h with heq | h
    · cases heq
      exact ⟨_, List.mem_cons_self, fun _ h => mem_foldr_insertSorted.2 (.inr h)⟩
    · exact ⟨old, List.mem_cons_of_mem _ h, List.Subset.refl _⟩
  | case3 => exact ⟨old, List.mem_cons_of_mem _ h, List.Subset.refl _⟩
  | case4 other known rest _ _ ih =>
    rcases List.mem_cons.1 h with heq | h
    · cases heq
      exact ⟨old, by simp, List.Subset.refl _⟩
    · obtain ⟨known', hmem, hsub⟩ := ih h
      exact ⟨known', List.mem_cons_of_mem _ hmem, hsub⟩

/-- All of the imports are needed. -/
def Needs (u : Usage) (imports : Members (List String)) : Prop :=
  ∀ entry ∈ imports, ∃ known, (entry.1, known) ∈ u.imports ∧ entry.2 ⊆ known

theorem Needs.within {imports : Members (List String)} (h : u.Needs imports) (hu : u.Within u') :
    u'.Needs imports := by
  intro entry hentry
  obtain ⟨known, hknown, hsub⟩ := h entry hentry
  obtain ⟨known', hknown', hsub'⟩ := hu.imports hknown
  exact ⟨known', hknown', List.Subset.trans hsub hsub'⟩

theorem within_insertModule (u : Usage) (module : String) (symbols : List String) :
    u.Within { u with imports := insertModule module symbols u.imports } :=
  ⟨id, id, id, insertModule_old module symbols⟩

/-- Imports that are added are needed, and so is what was needed before. -/
theorem withImports_spec (u : Usage) (imports : Members (List String)) :
    u.Within (u.withImports imports) ∧ (u.withImports imports).Needs imports := by
  induction imports generalizing u with
  | nil => exact ⟨.refl u, List.forall_mem_nil _⟩
  | cons entry imports ih =>
    obtain ⟨module, symbols⟩ := entry
    obtain ⟨hwithin, hneeds⟩ := ih { u with imports := insertModule module symbols u.imports }
    refine ⟨(within_insertModule u module symbols).trans hwithin, List.forall_mem_cons.2 ⟨?_, hneeds⟩⟩
    obtain ⟨known, hknown, hsub⟩ := insertModule_new module symbols u.imports
    obtain ⟨known', hknown', hsub'⟩ := hwithin.imports hknown
    exact ⟨known', hknown', List.Subset.trans hsub hsub'⟩

theorem within_withImports (u : Usage) (imports : Members (List String)) :
    u.Within (u.withImports imports) := (withImports_spec u imports).1

theorem needs_withImports (u : Usage) (imports : Members (List String)) :
    (u.withImports imports).Needs imports := (withImports_spec u imports).2

end Usage

end OpenApi
