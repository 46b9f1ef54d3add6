import OpenApi.Document.Text
import OpenApi.Proofs.Document.Components
import OpenApi.Proofs.Document.Flattening
import OpenApi.Proofs.Json.Values
import OpenApi.Proofs.Number.Rounding

/-!
The numbers of documents. The readers keep integers and round all other numbers, so whatever number
stands in a document has the form that rounding gives, whether its text is JSON (`ofJsonText_isRounded`)
or YAML (`ofYamlText_isRounded`).
-/

namespace OpenApi

namespace Binary64

variable {negative : Bool} {n e : ℕ} {x y z : Binary64}

theorem ofNat?_isRounded (h : ofNat? negative n = some x) : x.IsRounded := ofRatio?_isRounded one_pos h

theorem mul?_isRounded (h : x.mul? y = some z) : z.IsRounded :=
  ofRatio?_isRounded (Nat.pow_pos two_pos) h

theorem div?_isRounded (hy : 0 < y.significand) (h : x.div? y = some z) : z.IsRounded :=
  ofRatio?_isRounded (Nat.mul_pos hy (Nat.pow_pos two_pos)) h

/-- No natural number but zero is rounded to zero. -/
theorem significand_pos_of_ofNat? (hn : 0 < n) (h : ofNat? negative n = some x) :
    0 < x.significand := by
  have hone : (1 : ℚ) ≤ n := by exact_mod_cast hn
  obtain ⟨-, hge, -⟩ := exponentOf_spec hn one_pos
  have hunit : (2 : ℚ) ^ exponentOf n 1 ≤ n / (1 : ℕ) := by
    obtain hge | hleast := hge
    · exact le_trans (le_mul_of_one_le_left (by positivity) (by norm_num)) hge
    · rw [hleast, Nat.cast_one, div_one]
      exact le_trans (zpow_le_one_of_nonpos₀ one_le_two (by norm_num)) hone
  have hfloor := mt (quotient_lt_iff (m := 1) one_pos).1 (by simpa using hunit)
  have hunits : 1 ≤ inUnits n 1 (exponentOf n 1) :=
    (not_lt.1 hfloor).trans (roundQuotient_bounds _ _).1
  unfold ofNat? ofRatio? at h
  rw [if_neg hn.ne'] at h
  dsimp only at h
  by_cases hcarry : inUnits n 1 (exponentOf n 1) = Nat.pow 2 53
  · rw [if_pos hcarry] at h
    split at h
    · cases h
    · cases h
      exact Nat.pow_pos two_pos
  · rw [if_neg hcarry] at h
    split at h
    · cases h
    · cases h
      exact hunits

end Binary64

/-! ## Values -/

namespace Json

variable {value inner : Json} {items : List Json} {members : List (String × Json)}

/-- The numbers in the value have the form that rounding gives, unless they are integers. -/
def IsRounded (value : Json) : Prop := ∀ x, Json.number (.binary x) ∈ value.values → x.IsRounded

theorem IsRounded.of_mem_values (h : value.IsRounded) (hinner : inner ∈ value.values) :
    inner.IsRounded := fun x hx => h x (values_subset_of_mem_values hinner hx)

theorem isRounded_null : IsRounded .null := fun x h => by simp [values] at h

theorem isRounded_bool (b : Bool) : IsRounded (.bool b) := fun x h => by simp [values] at h

theorem isRounded_string (text : String) : IsRounded (.string text) := fun x h => by simp [values] at h

theorem isRounded_integer (i : ℤ) : IsRounded (.number (.integer i)) := fun x h => by simp [values] at h

theorem isRounded_binary {x : Binary64} : IsRounded (.number (.binary x)) ↔ x.IsRounded := by
  simp [IsRounded, values]

theorem isRounded_array : IsRounded (.array items) ↔ ∀ item ∈ items, item.IsRounded := by
  refine ⟨fun h item hitem => h.of_mem_values ?_, fun h x hx => ?_⟩
  · exact List.mem_cons_of_mem _ (values_subset_itemValues hitem (self_mem_values item))
  · replace hx : Json.number (.binary x) ∈ itemValues items := by simpa [values] using hx
    induction items with
    | nil => cases hx
    | cons item rest ih =>
      obtain ⟨hitem, hrest⟩ := List.forall_mem_cons.1 h
      exact (List.mem_append.1 hx).elim (hitem x) (ih hrest)

theorem isRounded_object : IsRounded (.object members) ↔ ∀ m ∈ members, m.2.IsRounded := by
  refine ⟨fun h m hm => h.of_mem_values ?_, fun h x hx => ?_⟩
  · exact List.mem_cons_of_mem _ (values_subset_memberValues hm (self_mem_values m.2))
  · replace hx : Json.number (.binary x) ∈ memberValues members := by simpa [values] using hx
    induction members with
    | nil => cases hx
    | cons m rest ih =>
      obtain ⟨hm, hrest⟩ := List.forall_mem_cons.1 h
      exact (List.mem_append.1 hx).elim (hm x) (ih hrest)

end Json

/-! ## JSON -/

namespace Json

theorem scaleDown_isRounded {x z : Binary64} {e : ℕ} (hx : x.IsRounded)
    (h : scaleDown x e = some z) : z.IsRounded := by
  have hten (e : ℕ) : 0 < Nat.pow 10 e := Nat.pow_pos (by decide)
  fun_induction scaleDown x e with
  | case1 => cases h; exact hx
  | case2 x e _ _ ih =>
    obtain ⟨power, hpower, h⟩ := Option.bind_eq_some_iff.1 h
    obtain ⟨y, hy, h⟩ := Option.bind_eq_some_iff.1 h
    exact ih y (Binary64.div?_isRounded (Binary64.significand_pos_of_ofNat? (hten _) hpower) hy) h
  | case3 x e =>
    obtain ⟨power, hpower, h⟩ := Option.bind_eq_some_iff.1 h
    exact Binary64.div?_isRounded (Binary64.significand_pos_of_ofNat? (hten _) hpower) h

theorem scaled?_isRounded {negative : Bool} {significand : ℕ} {exponent : ℤ} {z : Binary64}
    (h : scaled? negative significand exponent = some z) : z.IsRounded := by
  obtain ⟨x, hx, h⟩ := Option.bind_eq_some_iff.1 h
  replace hx := Binary64.ofNat?_isRounded hx
  split at h
  · cases h
    exact hx
  split at h
  · exact scaleDown_isRounded hx h
  split at h
  · cases h
  · obtain ⟨power, -, h⟩ := Option.bind_eq_some_iff.1 h
    exact Binary64.mul?_isRounded h

theorem integer?_isRounded {negative : Bool} {n : ℕ} {number : JsonNumber}
    (h : integer? negative n = some number) : IsRounded (.number number) := by
  unfold integer? at h
  split at h
  · cases h
    exact isRounded_integer _
  split at h
  · cases h
    exact isRounded_integer _
  · obtain ⟨x, hx, rfl⟩ := Option.map_eq_some_iff.1 h
    exact isRounded_binary.2 (Binary64.ofNat?_isRounded hx)

theorem binary_isRounded {negative : Bool} {significand : ℕ} {exponent : ℤ} {rest rest' : List Char}
    {number : JsonNumber} (h : (do
      let x ← scaled? negative significand exponent
      pure (JsonNumber.binary x, rest)) = some (number, rest')) : IsRounded (.number number) := by
  obtain ⟨x, hx, h⟩ := Option.bind_eq_some_iff.1 h
  cases h
  exact isRounded_binary.2 (scaled?_isRounded hx)

theorem readMagnitude_isRounded {negative : Bool} {text rest : List Char} {number : JsonNumber}
    (h : readMagnitude negative text = some (number, rest)) : IsRounded (.number number) := by
  unfold readMagnitude at h
  dsimp only at h
  split at h
  · cases h
  · cases h
  split at h
  · -- with a fraction
    split at h
    · cases h
    · obtain ⟨⟨e, rest⟩, -, h⟩ := Option.bind_eq_some_iff.1 h
      exact binary_isRounded h
  · obtain ⟨⟨e, rest⟩, -, h⟩ := Option.bind_eq_some_iff.1 h
    exact binary_isRounded h
  · obtain ⟨⟨e, rest⟩, -, h⟩ := Option.bind_eq_some_iff.1 h
    exact binary_isRounded h
  · -- with nothing but digits
    split at h
    · obtain ⟨n, hn, h⟩ := Option.bind_eq_some_iff.1 h
      cases h
      exact integer?_isRounded hn
    · exact binary_isRounded h

theorem readNumber_isRounded {text rest : List Char} {number : JsonNumber}
    (h : readNumber text = some (number, rest)) : IsRounded (.number number) := by
  unfold readNumber at h
  split at h
  · exact readMagnitude_isRounded h
  · exact readMagnitude_isRounded h

/-- The three readers call one another, each time with less fuel. -/
theorem read_isRounded (fuel : ℕ) :
    (∀ {depth text value rest}, readValue fuel depth text = some (value, rest) → value.IsRounded) ∧
    (∀ {depth done text value rest}, (∀ item ∈ done, item.IsRounded) →
      readItems fuel depth done text = some (value, rest) → value.IsRounded) ∧
    ∀ {depth done text value rest}, (∀ m ∈ done, m.2.IsRounded) →
      readMembers fuel depth done text = some (value, rest) → value.IsRounded := by
  induction fuel with
  | zero => exact ⟨nofun, nofun, nofun⟩
  | succ fuel ih =>
    obtain ⟨ihValue, ihItems, ihMembers⟩ := ih
    refine ⟨fun h => ?_, fun hdone h => ?_, fun hdone h => ?_⟩
    · unfold readValue at h
      split at h
      · cases h; exact isRounded_null
      · cases h; exact isRounded_bool _
      · cases h; exact isRounded_bool _
      · obtain ⟨⟨text, rest⟩, -, h⟩ := Option.map_eq_some_iff.1 h
        cases h
        exact isRounded_string _
      · split at h
        · cases h
        · cases h; exact isRounded_array.2 (List.forall_mem_nil _)
        · exact ihItems (List.forall_mem_nil _) h
      · split at h
        · cases h
        · cases h; exact isRounded_object.2 (List.forall_mem_nil _)
        · exact ihMembers (List.forall_mem_nil _) h
      · obtain ⟨⟨number, rest⟩, hnumber, h⟩ := Option.map_eq_some_iff.1 h
        cases h
        exact readNumber_isRounded hnumber
    · unfold readItems at h
      split at h
      · cases h
      case h_2 item rest hitem =>
        have hdone := List.forall_mem_cons.2 ⟨ihValue hitem, hdone⟩
        split at h
        · exact ihItems hdone h
        · cases h
          exact isRounded_array.2 fun item hitem => hdone item (List.mem_reverse.1 hitem)
        · cases h
    · unfold readMembers at h
      split at h
      case h_2 => cases h
      split at h
      · cases h
      split at h
      case h_2 => cases h
      split at h
      · cases h
      case h_2 member _ hmember =>
        have hput (name : String) : ∀ m ∈ Members.put _ name member, m.2.IsRounded := fun m hm =>
          (Members.mem_put hm).elim (fun heq => heq ▸ ihValue hmember) (hdone m)
        split at h
        · exact ihMembers (hput _) h
        · cases h; exact isRounded_object.2 (hput _)
        · cases h

end Json

/-! ## YAML -/

namespace Yaml

/-- Whatever the step gives has the property. -/
def Follow.Gives {α : Type} (step : Follow α) (P : α → Prop) : Prop :=
  ∀ left a left', step left = some (a, left') → P a

section Follow

variable {α β : Type} {P : α → Prop} {Q : β → Prop} {step : Follow α}

theorem Follow.Gives.any (step : Follow α) : Follow.Gives step fun _ => True := fun _ _ _ _ => trivial

theorem Follow.Gives.failure : Follow.Gives (failure : Follow α) P := fun _ _ _ h => by cases h

theorem Follow.Gives.pure {a : α} (h : P a) : Follow.Gives (pure a) P := fun _ _ _ heq => by
  cases heq
  exact h

theorem Follow.Gives.bind {f : α → Follow β} (h : Follow.Gives step P)
    (hf : ∀ a, P a → Follow.Gives (f a) Q) : Follow.Gives (step >>= f) Q := by
  intro left b left' heq
  obtain ⟨⟨a, between⟩, ha, hb⟩ := Option.bind_eq_some_iff.1 heq
  exact hf a (h left a between ha) between b left' hb

theorem Follow.Gives.mapM {f : β → Follow α} (h : ∀ b, Follow.Gives (f b) P) (bs : List β) :
    Follow.Gives (bs.mapM f) fun as => ∀ a ∈ as, P a := by
  induction bs with
  | nil => exact .pure nofun
  | cons b bs ih =>
    rw [List.mapM_cons]
    exact (h b).bind fun a ha => ih.bind fun as has => .pure (List.forall_mem_cons.2 ⟨ha, has⟩)

end Follow

theorem decimal?_isRounded {text : List Char} {x : Binary64} (h : decimal? text = some x) :
    x.IsRounded := by
  unfold decimal? at h
  split at h
  extract_lets whole at h
  split at h
  split at h
  · cases h
  · obtain ⟨⟨e, rest⟩, -, h⟩ := Option.bind_eq_some_iff.1 h
    split at h
    · exact Binary64.ofDecimal?_isRounded h
    · cases h

theorem binary?_isRounded {text : String} {value : Json} (h : binary? text = some value) :
    value.IsRounded := by
  unfold binary? at h
  split at h
  · cases h
    exact Json.isRounded_null
  · obtain ⟨x, hx, rfl⟩ := Option.map_eq_some_iff.1 h
    refine Json.isRounded_binary.2 ?_
    exact decimal?_isRounded hx

theorem plainValue?_isRounded {text : String} {value : Json} (h : plainValue? text = some value) :
    value.IsRounded := by
  have orText : ((binary? text).getD (.string text)).IsRounded := by
    cases hbinary : binary? text with
    | none => exact Json.isRounded_string text
    | some value => exact binary?_isRounded hbinary
  unfold plainValue? at h
  split at h
  · cases h
    exact Json.isRounded_null
  split at h
  · cases h
    exact Json.isRounded_bool _
  · split at h
    · cases h
      exact Json.isRounded_integer _
    split at h
    · cases h
    · cases h
      exact orText
  · split at h
    · cases h
      exact Json.isRounded_string _
    · cases h
      exact orText

theorem scalarValue?_isRounded {tag : Option Octets} {style : ScalarStyle} {text : String} {value : Json}
    (h : scalarValue? tag style text = some value) : value.IsRounded := by
  have untagged (h : (if style = .plain then plainValue? text else some (.string text)) = some value) :
      value.IsRounded := by
    split at h
    · exact plainValue?_isRounded h
    · cases h
      exact Json.isRounded_string _
  unfold scalarValue? at h
  dsimp only at h
  split at h
  · exact untagged h
  split at h
  · cases h
  split at h
  · exact untagged h
  split at h
  · obtain ⟨b, -, rfl⟩ := Option.map_eq_some_iff.1 h
    exact Json.isRounded_bool b
  split at h
  · split at h
    · split at h
      · cases h
        exact Json.isRounded_integer _
      · cases h
    · cases h
  split at h
  · exact binary?_isRounded h
  split at h
  · split at h
    · cases h
      exact Json.isRounded_null
    · cases h
  · cases h
    exact Json.isRounded_string _

theorem scalarValue?_gives (tag : Option Octets) (style : ScalarStyle) (text : String) :
    Follow.Gives (liftM (scalarValue? tag style text)) Json.IsRounded := by
  intro left value left' h
  obtain ⟨value, hvalue, h⟩ := Option.bind_eq_some_iff.1 h
  cases h
  exact scalarValue?_isRounded hvalue

namespace Graph

variable {g : Graph}

theorem value_zero (node : Node) : g.value 0 node = (do
    match ← g.follow node with
    | .scalar p style text => (scalarValue? p.tag style text : Option Json)
    | _ => failure) := by
  delta value
  refine congrArg (g.follow node >>= ·) (funext fun target => ?_)
  cases target <;> rfl

theorem value_succ (depth : ℕ) (node : Node) : g.value (depth + 1) node = (do
    match ← g.follow node with
    | .scalar p style text => (scalarValue? p.tag style text : Option Json)
    | .sequence p items =>
      if p.tag.any isLocalTag then failure else return .array (← items.mapM (g.value depth))
    | .mapping p pairs =>
      if p.tag.any isLocalTag then failure
      else return .object (Members.ofList (← pairs.mapM fun (key, item) => do
        return (← g.keyText key, ← g.value depth item)))
    | .aliasOf _ => failure) := by
  delta value
  refine congrArg (g.follow node >>= ·) (funext fun target => ?_)
  cases target <;> rfl

theorem value_isRounded (depth : ℕ) (node : Node) :
    Follow.Gives (g.value depth node) Json.IsRounded := by
  induction depth generalizing node with
  | zero =>
    rw [value_zero]
    refine (Follow.Gives.any _).bind fun target _ => ?_
    cases target with
    | scalar p style text => exact scalarValue?_gives p.tag style text
    | _ => exact .failure
  | succ depth ih =>
    rw [value_succ]
    refine (Follow.Gives.any _).bind fun target _ => ?_
    cases target with
    | scalar p style text => exact scalarValue?_gives p.tag style text
    | sequence p items =>
      dsimp only
      split
      · exact .failure
      · exact (Follow.Gives.mapM ih items).bind fun values hvalues =>
          .pure (Json.isRounded_array.2 hvalues)
    | mapping p pairs =>
      dsimp only
      split
      · exact .failure
      · refine (Follow.Gives.mapM (P := fun m => m.2.IsRounded) (fun pair => ?_) pairs).bind
          fun members hmembers => .pure (Json.isRounded_object.2 fun m hm => ?_)
        · exact (Follow.Gives.any _).bind fun key _ => (ih pair.2).bind fun value hvalue => .pure hvalue
        · exact (Members.mem_foldl_put hm).elim (hmembers m) nofun
    | aliasOf => exact .failure

end Graph

end Yaml

/-! ## Documents -/

namespace Document

variable {text : String} {doc : Document}

theorem ofJsonText_isRounded (h : ofJsonText text = .ok doc) : doc.raw.IsRounded := by
  unfold ofJsonText at h
  split at h
  case h_2 => cases h
  case h_1 raw hread =>
    obtain ⟨rfl, -⟩ := ofJson_eq_ok h
    unfold Json.read? at hread
    dsimp only at hread
    split at hread
    · split at hread
      · cases hread
        exact (Json.read_isRounded _).1 ‹_›
      · cases hread
    · cases hread

theorem ofYamlText_isRounded (h : ofYamlText text = .ok doc) : doc.raw.IsRounded := by
  unfold ofYamlText at h
  split at h
  case h_2 => cases h
  case h_1 raw hread =>
    obtain ⟨rfl, -⟩ := ofJson_eq_ok h
    obtain ⟨g, -, hg⟩ := Option.bind_eq_some_iff.1 hread
    obtain ⟨⟨value, left⟩, hvalue, rfl⟩ := Option.map_eq_some_iff.1 hg
    exact g.value_isRounded _ _ _ _ _ hvalue

end Document

end OpenApi
