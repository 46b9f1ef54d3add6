import OpenApi.Proofs.Document.Depth
import OpenApi.Reference
import OpenApi.Schema.Encode

/-!
Reading again what was written. A decoder and a writer belong together if every model that the decoder
read is read again, as the same model, from what is written for it. Lists, maps and references keep
this; so do records, as long as their members have different names, since what is written for one
member is then not read as another.
-/

namespace OpenApi

namespace Members

variable {α : Type} {xs ys : Members α} {name : String}

theorem get?_eq_none (h : name ∉ xs.names) : xs.get? name = none :=
  List.lookup_eq_none_iff.2 fun m hm => by
    have : name ≠ m.1 := fun heq => h (heq ▸ List.mem_map_of_mem hm)
    simpa using this

theorem get?_append_of_not_mem (h : name ∉ ys.names) : get? (xs ++ ys) name = xs.get? name := by
  have hnone : ys.lookup name = none := get?_eq_none h
  rw [get?, List.lookup_append, hnone, Option.or_none, get?]

theorem get?_append_of_not_mem_left (h : name ∉ xs.names) :
    get? (xs ++ ys) name = ys.get? name := by
  have hnone : xs.lookup name = none := get?_eq_none h
  rw [get?, List.lookup_append, hnone, Option.none_or, get?]

end Members

/-- What the decoder read it reads again from what is written for it. Null is written for nothing but
itself, so that a model is not taken for its absence. -/
structure Faithful {α : Type} (decode : Decoder Json α) (encode : α → Json) : Prop where
  again : ∀ {value a}, decode value = .ok a → decode (encode a) = .ok a
  notNull : ∀ {value a}, decode value = .ok a → value ≠ .null → encode a ≠ .null

namespace Decode

variable {α β : Type}

/-! ## Parts of records -/

theorem locate_eq {ν : Type} {name : String} (place : Nat) {members : Members ν} :
    (locate name place members).map (·.2) = members.get? name := by
  induction members generalizing place with
  | nil => rfl
  | cons m rest ih =>
    obtain ⟨other, value⟩ := m
    rw [locate, Members.get?, List.lookup_cons]
    by_cases heq : other = name
    · simp [heq]
    · rw [if_neg heq, beq_false_of_ne (Ne.symm heq)]
      exact ih _

/-- A member is read wherever it stands. -/
theorem field_read {ν : Type} {name : String} {hasDefault : Bool} {absent : Except DecodeError α}
    {decode : Decoder ν α} {members : Members ν} {a : α} :
    (field name hasDefault absent decode).read members = .ok a ↔
      (members.get? name).elim absent decode = .ok a := by
  rw [← locate_eq 0]
  dsimp only [field]
  cases locate name 0 members with
  | none => cases absent <;> simp [Except.mapError]
  | some found =>
    change (decode found.2).mapError _ = .ok a ↔ decode found.2 = .ok a
    cases decode found.2 <;> simp [Except.mapError]

/-- A value that is read is not null. -/
theorem nullable_eq_some {decode : Decoder Json α} {value : Json} {a : α} :
    nullable decode value = .ok (some a) ↔ value ≠ .null ∧ decode value = .ok a := by
  cases value with
  | null => simp [nullable]
  | _ =>
    dsimp only [nullable]
    cases decode _ <;> simp [Except.map]

namespace Part

/-- The names of the members that a part knows. -/
def names {ν : Type} (p : Part ν α) : List String := p.fields.map (·.name)

/-- The part reads `a` wherever it finds the members `written` under the names that it knows. -/
structure Reads (p : Part Json α) (written : Members Json) (a : α) : Prop where
  names : written.names ⊆ p.names
  read : ∀ {members}, (∀ name ∈ p.names, members.get? name = written.get? name) →
    p.read members = .ok a

/-- What a member reads it reads again from what is written for it. -/
def Rereads (p : Part Json α) (write : α → Members Json) : Prop :=
  ∀ members a, p.read members = .ok a → p.Reads (write a) a

/-- The first member of a record, and what is written for it. -/
inductive First (f : α → β) (write : α → Members Json) : β → Members Json → Prop
  | intro (a : α) : First f write (f a) (write a)

/-- One more member of a record, and what is written for it and for those before it. -/
inductive Next (writes : (α → β) → Members Json → Prop) (write : α → Members Json) :
    β → Members Json → Prop
  | intro {f : α → β} {written : Members Json} (hf : writes f written) (a : α) :
    Next writes write (f a) (written ++ write a)

/-- What a record reads so far it reads again from what is written for it, if its members have
different names. -/
def Faithful (p : Part Json α) (writes : α → Members Json → Prop) : Prop :=
  p.names.Nodup → ∀ members a, p.read members = .ok a → ∃ written, writes a written ∧
    p.Reads written a

theorem both_read {f : Part Json (α → β)} {x : Part Json α} {members : Members Json} {b : β} :
    (f <*> x).read members = .ok b ↔
      ∃ g a, f.read members = .ok g ∧ x.read members = .ok a ∧ g a = b := by
  change (Part.both f x).read members = .ok b ↔ _
  dsimp only [Part.both]
  cases f.read members <;> cases x.read members <;> simp

theorem both_names {f : Part Json (α → β)} {x : Part Json α} :
    (f <*> x).names = f.names ++ x.names := List.map_append

/-- Two parts read what is written for both, if they have no name in common. -/
theorem Reads.both {f : Part Json (α → β)} {x : Part Json α} {g : α → β} {a : α}
    {written more : Members Json} (hf : f.Reads written g) (hx : x.Reads more a)
    (hnames : ∀ name ∈ f.names, name ∉ x.names) : (f <*> x).Reads (written ++ more) (g a) where
  names := by
    rw [both_names, Members.names, List.map_append]
    exact List.append_subset.2 ⟨List.subset_append_of_subset_left _ hf.names,
      List.subset_append_of_subset_right _ hx.names⟩
  read {members} h := by
    rw [both_names] at h
    -- each part finds under its names what is written for it, since the other part has none of them
    refine both_read.2 ⟨g, a, hf.read fun name hname => ?_, hx.read fun name hname => ?_, rfl⟩
    · rw [h name (List.mem_append_left _ hname)]
      exact Members.get?_append_of_not_mem fun hmem => hnames name hname (hx.names hmem)
    · rw [h name (List.mem_append_right _ hname)]
      exact Members.get?_append_of_not_mem_left fun hmem => hnames name (hf.names hmem) hname

theorem Faithful.first {x : Part Json α} {write : α → Members Json} (f : α → β)
    (hx : x.Rereads write) : (f <$> x).Faithful (First f write) := by
  intro _ members b h
  obtain ⟨g, a, hg, ha, rfl⟩ := both_read.1 h
  cases hg
  have hf : (Part.pure f : Part Json (α → β)).Reads [] f := ⟨nofun, fun _ => rfl⟩
  exact ⟨write a, .intro a, hf.both (hx _ _ ha) nofun⟩

/-- One more member keeps this. -/
theorem Faithful.next {f : Part Json (α → β)} {x : Part Json α}
    {writes : (α → β) → Members Json → Prop} {write : α → Members Json} (hf : f.Faithful writes)
    (hx : x.Rereads write) : (f <*> x).Faithful (Next writes write) := by
  intro hnodup members b h
  rw [both_names] at hnodup
  obtain ⟨hnodup, _, hne⟩ := List.nodup_append.1 hnodup
  obtain ⟨g, a, hg, ha, rfl⟩ := both_read.1 h
  obtain ⟨written, hwrites, hreads⟩ := hf hnodup _ _ hg
  exact ⟨_, .intro hwrites a, hreads.both (hx _ _ ha)
    fun name hname hname' => hne _ hname _ hname' rfl⟩

variable {decode : Decoder Json α} {encode : α → Json} {name : String}

/-- A member that is written is read again. -/
theorem reads_field {hasDefault : Bool} {absent : Except DecodeError α} {value : Json} {a : α}
    {decode : Decoder Json α} (h : decode value = .ok a) :
    (field name hasDefault absent decode).Reads [(name, value)] a where
  names := List.Subset.refl _
  read {members} hmembers := by
    have hget : members.get? name = some value := by
      rw [hmembers name List.mem_cons_self, Members.get?, List.lookup_cons_self]
    rw [field_read, hget]
    exact h

/-- A member that is left out is read as absent. -/
theorem reads_absent {hasDefault : Bool} {decode : Decoder Json α} {a : α} :
    (field name hasDefault (.ok a) decode).Reads [] a where
  names := List.nil_subset _
  read {members} hmembers := by
    have hget : members.get? name = none := hmembers name List.mem_cons_self
    rw [field_read, hget]
    rfl

theorem Rereads.mandatory (h : OpenApi.Faithful decode encode) :
    (Decode.mandatory name decode).Rereads fun a => [(name, encode a)] := by
  intro members a hread
  rw [Decode.mandatory, field_read] at hread
  cases hget : members.get? name with
  | none => rw [hget] at hread; cases hread
  | some value => rw [hget] at hread; exact reads_field (h.again hread)

theorem Rereads.orElse (h : OpenApi.Faithful decode encode) {default : α} (value : Json)
    (hdefault : decode value = .ok default) :
    (Decode.orElse name default decode).Rereads fun a => [(name, encode a)] := by
  intro members a hread
  rw [Decode.orElse, field_read] at hread
  cases hget : members.get? name with
  | none =>
    rw [hget] at hread
    cases hread
    exact reads_field (h.again hdefault)
  | some value => rw [hget] at hread; exact reads_field (h.again hread)

theorem Rereads.orEmpty {decode : Decoder Json (List α)} {encode : List α → Json}
    (h : OpenApi.Faithful decode encode) :
    (Decode.orElse name [] decode).Rereads (Encode.unlessEmpty name encode) := by
  intro members items hread
  rw [Decode.orElse, field_read] at hread
  cases items with
  | nil => exact reads_absent
  | cons item rest =>
    cases hget : members.get? name with
    | none => rw [hget] at hread; cases hread
    | some value => rw [hget] at hread; exact reads_field (h.again hread)

theorem Rereads.optional (h : OpenApi.Faithful decode encode) :
    (Decode.optional name decode).Rereads (Encode.optional name encode) := by
  intro members read hread
  rw [Decode.optional, field_read] at hread
  cases read with
  | none => exact reads_absent
  | some a =>
    cases hget : members.get? name with
    | none => rw [hget] at hread; cases hread
    | some value =>
      rw [hget] at hread
      obtain ⟨hnull, ha⟩ := nullable_eq_some.1 hread
      exact reads_field (nullable_eq_some.2 ⟨h.notNull ha hnull, h.again ha⟩)

end Part

/-- A record is read off an object or off a list; either way its members are. -/
theorem record_eq_ok {name : String} {part : Part Json α} {value : Json} {a : α}
    (h : record name part value = .ok a) : ∃ members, part.read members = .ok a := by
  cases value with
  | object members =>
    dsimp only [record] at h
    cases hread : part.read members with
    | error fault => rw [hread] at h; cases h
    | ok b => rw [hread] at h; cases h; exact ⟨members, hread⟩
  | array items =>
    dsimp only [record, Part.readList] at h
    -- the list has its values under the names of the record in their order
    refine ⟨(part.fields.map (·.name)).zip items, ?_⟩
    cases hread : part.read ((part.fields.map (·.name)).zip items) with
    | error fault =>
      rw [hread] at h
      obtain ⟨_ | place, e⟩ := fault
      · dsimp only [Except.mapError] at h
        repeat' split at h
        all_goals cases h
      · cases h
    | ok b =>
      rw [hread] at h
      dsimp only [Except.mapError] at h
      repeat' split at h
      all_goals cases h
      rfl
  | _ => cases h

end Decode

/-- A record is read again from the object that is written for it, which is not taken for a
reference. -/
structure FaithfulRecord {α : Type} (decode : Decoder Json α) (encode : α → Json) : Prop where
  again : ∀ {value a}, decode value = .ok a → decode (encode a) = .ok a
  object : ∀ {value a}, decode value = .ok a → ∃ members, encode a = .object members ∧
    "$ref" ∉ Members.names members

open Decode in
theorem FaithfulRecord.record {α : Type} {name : String} {part : Part Json α}
    {writes : α → Members Json → Prop} {encode : α → Json} (h : part.Faithful writes)
    (hnames : ("$ref" :: part.names).Nodup)
    (hwrites : ∀ a written, writes a written → encode a = .object written) :
    FaithfulRecord (record name part) encode where
  again {value a} hread := by
    obtain ⟨members, hread⟩ := record_eq_ok hread
    obtain ⟨written, hwritten, hreads⟩ := h hnames.of_cons _ _ hread
    rw [hwrites a written hwritten, Decode.record, hreads.read fun _ _ => rfl]
    rfl
  object {value a} hread := by
    obtain ⟨members, hread⟩ := record_eq_ok hread
    obtain ⟨written, hwritten, hreads⟩ := h hnames.of_cons _ _ hread
    exact ⟨written, hwrites a written hwritten, fun hmem =>
      (List.nodup_cons.1 hnames).1 (hreads.names hmem)⟩

section

variable {α : Type} {decode : Decoder Json α} {encode : α → Json}

theorem FaithfulRecord.faithful (h : FaithfulRecord decode encode) : Faithful decode encode where
  again := h.again
  notNull hread _ := by
    obtain ⟨members, hencode, _⟩ := h.object hread
    rw [hencode]
    nofun

theorem RefOr.decode_inline {name : String} {value : Json} {a : α}
    (h : RefOr.decode name decode value = .ok (.inline a)) : decode value = .ok a := by
  dsimp only [RefOr.decode] at h
  repeat' split at h
  all_goals cases h
  all_goals assumption

/-- A reference is read again as one, and a record is not read as one. -/
theorem FaithfulRecord.orRef (h : FaithfulRecord decode encode) (name : String) :
    Faithful (RefOr.decode name decode) (RefOr.encode encode) where
  again {value a} hread := by
    cases a with
    | ref target => rfl
    | inline a =>
      have hread := RefOr.decode_inline hread
      obtain ⟨members, hencode, hmembers⟩ := h.object hread
      have hagain := h.again hread
      have htarget : Schema.target? members = none := by
        rw [Schema.target?, Members.get?_eq_none hmembers, Option.bind_none]
      rw [hencode] at hagain
      simp only [RefOr.encode, hencode, RefOr.decode, htarget, hagain]
  notNull {value a} hread _ := by
    cases a with
    | ref target => nofun
    | inline a =>
      obtain ⟨members, hencode, _⟩ := h.object (RefOr.decode_inline hread)
      rw [RefOr.encode, hencode]
      nofun

/-! ## Values, lists and maps -/

namespace Faithful

theorem string : Faithful Decode.string .string := ⟨fun _ => rfl, fun _ _ => nofun⟩

theorem bool : Faithful Decode.bool .bool := ⟨fun _ => rfl, fun _ _ => nofun⟩

theorem any : Faithful Decode.any id := ⟨fun _ => rfl, fun h hvalue => by cases h; exact hvalue⟩

/-- Variants are written by their names. -/
theorem variant {variants : List (String × α)} {name : α → String}
    (h : ∀ a, variants.lookup (name a) = some a) :
    Faithful (Decode.variant variants) fun a => .string (name a) where
  again {_ a} _ := by
    rw [Decode.variant, Decode.variant.find, h]
  notNull _ _ := nofun

theorem mapM_again {ν β : Type} {f : ν → Except DecodeError β} {g : β → ν}
    (h : ∀ {value a}, f value = .ok a → f (g a) = .ok a) {items : List ν} {as : List β}
    (hread : items.mapM f = .ok as) : (as.map g).mapM f = .ok as := by
  induction items generalizing as with
  | nil => cases hread; rfl
  | cons item rest ih =>
    rw [List.mapM_cons] at hread
    obtain ⟨a, ha, hread⟩ := Except.bind_eq_ok.1 hread
    obtain ⟨as', has, hread⟩ := Except.bind_eq_ok.1 hread
    cases hread
    rw [List.map_cons, List.mapM_cons, h ha, ih has]
    rfl

theorem list (h : Faithful decode encode) :
    Faithful (Decode.list decode) fun items => .array (items.map encode) where
  again {value items} hread := by
    cases value with
    | array values =>
      exact mapM_again (fun ha => h.again ha) (show values.mapM decode = .ok items from hread)
    | _ => cases hread
  notNull _ _ := nofun

theorem map (h : Faithful decode encode) :
    Faithful (Decode.map decode) fun members =>
      .object (members.map fun (name, a) => (name, encode a)) where
  again {value members} hread := by
    cases value with
    | object values =>
      refine mapM_again (f := fun m : String × Json => (decode m.2).map (m.1, ·))
        (g := fun m => (m.1, encode m.2)) (fun {m a} hm => ?_) hread
      obtain ⟨name, a⟩ := a
      dsimp only at hm ⊢
      cases ha : decode m.2 with
      | error e => rw [ha] at hm; cases hm
      | ok a' =>
        rw [ha] at hm
        cases hm
        rw [h.again ha]
        rfl
    | _ => cases hread
  notNull _ _ := nofun

end Faithful

end

end OpenApi
