import OpenApi.Proofs.Document.Spelling
import OpenApi.Proofs.Number.Text

/-!
References to the parts of a tree. Every part has a reference that leads to it, whatever characters the
names on the way have, and different ways have different references (`resolve_path`). Escapes are put
in and undone by two replacements one after the other; undoing them that way comes to reading the
segment once from left to right.
-/

namespace OpenApi

/-! ## Ways through a tree -/

namespace Json

/-- A step from a value to one of its parts. An index has sixty-four bits, and no array in memory has
more items than that. -/
inductive Step where
  | member (name : String)
  | item (index : UInt64)
  deriving DecidableEq, Repr

/-- How a step is written: the name of a member, or the decimal digits of an index. -/
def Step.segment : Step → String
  | .member name => name
  | .item index => toString index.toNat

/-- The part of a value that a step leads to. -/
def part? : Json → Step → Option Json
  | .object members, .member name => Members.get? members name
  | .array items, .item index => items[index.toNat]?
  | _, _ => none

/-- The part of a tree at the end of a path. -/
def nodeAt? (root : Json) : List Step → Option Json
  | [] => some root
  | step :: rest => (root.part? step).bind fun next => next.nodeAt? rest

end Json

/-! ## Indexes -/

namespace Text

theorem natural?_toString {limit n : ℕ} (h : n ≤ limit) : natural? limit (toString n) = some n := by
  have hdigits : (toString n).toList = Nat.toDigits 10 n := by simp
  have hall : (Nat.toDigits 10 n).all isDigit = true :=
    List.all_eq_true.2 fun c hc => isDigit_of_mem_toDigits hc
  have hplus : '+' ∉ Nat.toDigits 10 n := fun hmem =>
    Bool.false_ne_true (isDigit_of_mem_toDigits hmem)
  unfold natural?
  rw [hdigits]
  dsimp only
  -- digits do not begin with a sign
  split
  case h_1 rest heq => exact absurd (heq ▸ List.mem_cons_self) hplus
  case h_2 => simp [hall, ofDigits_toDigits, h]

/-! ## Replacements -/

/-- Every `c` becomes `text`. -/
def replaceChar (c : Char) (text chars : List Char) : List Char :=
  chars.flatMap fun d => if d = c then text else [d]

/-- At the front there is what was there before, or what has replaced it. -/
theorem replacePair_eq_cons {a b c : Char} {text chars more : List Char} (htext : text ≠ [])
    (h : replacePair a b text chars = c :: more) :
    (∃ rest, chars = c :: rest) ∨ text.head? = some c := by
  match chars with
  | [] => cases h
  | [d] => exact .inl ⟨more, h⟩
  | d :: e :: rest =>
    rw [replacePair] at h
    split at h
    · right
      rw [← List.head?_append_of_ne_nil _ htext, h, List.head?_cons]
    · exact .inl ⟨e :: rest, by rw [(List.cons.inj h).1]⟩

end Text

namespace Pointer

open Text

/-! ## Escapes -/

/-- Escapes undone from left to right: what an escape stands for is not looked at again. -/
def unescapeOnce : List Char → List Char
  | '~' :: '1' :: rest => '/' :: unescapeOnce rest
  | '~' :: '0' :: rest => '~' :: unescapeOnce rest
  | c :: rest => c :: unescapeOnce rest
  | [] => []

/-- Undoing the escapes of slashes puts no `0` behind a tilde, so the escapes of tildes that are undone
after that are those that were there from the beginning. -/
theorem replacePair_replacePair (chars : List Char) :
    replacePair '~' '0' ['~'] (replacePair '~' '1' ['/'] chars) = unescapeOnce chars := by
  fun_induction unescapeOnce chars with
  | case1 rest ih =>
    have hslash : replacePair '~' '1' ['/'] ('~' :: '1' :: rest) =
        '/' :: replacePair '~' '1' ['/'] rest := by
      rw [replacePair, if_pos ⟨rfl, rfl⟩, List.singleton_append]
    rw [hslash, replacePair_cons_of_ne (by decide), ih]
  | case2 rest ih =>
    have htilde : replacePair '~' '1' ['/'] ('~' :: '0' :: rest) =
        '~' :: '0' :: replacePair '~' '1' ['/'] rest := by
      rw [replacePair, if_neg (by decide), replacePair_cons_of_ne (by decide)]
    rw [htilde, replacePair, if_pos ⟨rfl, rfl⟩, List.singleton_append, ih]
  | case3 c rest hslash htilde ih =>
    by_cases hc : c = '~'
    case neg => rw [replacePair_cons_of_ne hc, replacePair_cons_of_ne hc, ih]
    case pos =>
      -- a tilde that begins no escape: the first replacement leaves it, and does not make one of it
      have hone : ∀ more, rest ≠ '1' :: more := fun more => hslash more hc
      have hzero : ∀ more, replacePair '~' '1' ['/'] rest ≠ '0' :: more := fun more heq => by
        rcases replacePair_eq_cons (List.cons_ne_nil _ _) heq with ⟨after, hrest⟩ | hreplaced
        · exact htilde after hc hrest
        · cases hreplaced
      rw [replacePair_cons_of_forall_ne hone, replacePair_cons_of_forall_ne hzero, ih]
  | case4 => rfl

theorem unescape_eq_unescapeOnce (segment : String) :
    unescape segment = String.ofList (unescapeOnce segment.toList) := by
  rw [unescape, replacePair_replacePair]

/-- Escapes are put in by two replacements, of tildes first. -/
theorem toList_escape_eq_replaceChar (segment : String) : (escape segment).toList =
    replaceChar '/' ['~', '1'] (replaceChar '~' ['~', '0'] segment.toList) := by
  rw [toList_escape, replaceChar, replaceChar, List.flatMap_assoc]
  congr 1
  funext c
  unfold escapeChar
  by_cases htilde : c = '~'
  · subst htilde
    rfl
  · simp [htilde]

theorem ofSegments_injective : Function.Injective ofSegments := fun names names' h => by
  refine Except.ok.inj (?_ : (.ok names : Except ResolveError (List String)) = .ok names')
  rw [← segments_ofSegments, h, segments_ofSegments]

end Pointer

/-! ## References to parts of a tree -/

namespace Json

variable {value next : Json} {step other : Step}

theorem natural?_segment (index : UInt64) :
    Text.natural? Text.maxWord64 (Step.segment (.item index)) = some index.toNat :=
  Text.natural?_toString (Nat.le_of_lt_succ index.toNat_lt)

/-- A reference goes on to the part that the step leads to. -/
theorem step_segment (h : value.part? step = some next) (reference : String) :
    Pointer.step reference step.segment value = .ok next := by
  cases value with
  | object members =>
    cases step with
    | item index => cases h
    | member name =>
      have hmember : Members.get? members name = some next := h
      rw [Step.segment, Pointer.step, hmember]
  | array items =>
    cases step with
    | member name => cases h
    | item index =>
      have hitem : items[index.toNat]? = some next := h
      rw [Pointer.step, natural?_segment]
      dsimp only
      rw [hitem]
  | _ => cases step <;> cases h

theorem follow_segments {root node : Json} {path : List Step} (h : root.nodeAt? path = some node)
    (reference : String) : Pointer.follow reference (path.map Step.segment) root = .ok node := by
  induction path generalizing root with
  | nil => exact congrArg Except.ok (Option.some.inj h)
  | cons step rest ih =>
    obtain ⟨next, hnext, hrest⟩ := Option.bind_eq_some_iff.1 h
    exact Except.bind_eq_ok.2 ⟨next, step_segment hnext reference, ih hrest⟩

/-- Steps to parts of one value are told apart by how they are written. -/
theorem segment_inj (hstep : (value.part? step).isSome) (hother : (value.part? other).isSome)
    (h : step.segment = other.segment) : step = other := by
  cases value with
  | object members =>
    cases step with
    | item index => cases hstep
    | member name =>
      cases other with
      | item index => cases hother
      | member name' => exact congrArg Step.member h
  | array items =>
    cases step with
    | member name => cases hstep
    | item index =>
      cases other with
      | member name => cases hother
      | item index' =>
        have hindex : some index.toNat = some index'.toNat := by
          rw [← natural?_segment, h, natural?_segment]
        exact congrArg Step.item (UInt64.toNat_inj.1 (Option.some.inj hindex))
  | _ => cases step <;> cases hstep

theorem path_inj {root : Json} {path path' : List Step} (hpath : (root.nodeAt? path).isSome)
    (hpath' : (root.nodeAt? path').isSome) (h : path.map Step.segment = path'.map Step.segment) :
    path = path' := by
  induction path generalizing root path' with
  | nil => exact (List.map_eq_nil_iff.1 h.symm).symm
  | cons step rest ih =>
    cases path' with
    | nil => cases h
    | cons step' rest' =>
      obtain ⟨hsegment, hrest⟩ := List.cons.inj h
      obtain ⟨node, hnode⟩ := Option.isSome_iff_exists.1 hpath
      obtain ⟨node', hnode'⟩ := Option.isSome_iff_exists.1 hpath'
      obtain ⟨next, hnext, hnode⟩ := Option.bind_eq_some_iff.1 hnode
      obtain ⟨next', hnext', hnode'⟩ := Option.bind_eq_some_iff.1 hnode'
      obtain rfl := segment_inj (Option.isSome_of_eq_some hnext) (Option.isSome_of_eq_some hnext')
        hsegment
      obtain rfl : next = next' := Option.some.inj (hnext.symm.trans hnext')
      rw [ih (Option.isSome_of_eq_some hnode) (Option.isSome_of_eq_some hnode') hrest]

end Json

namespace Pointer

/-- Every part of a tree is found by the reference that its path makes, names come back from the
reference that they make, and different paths make different references. -/
theorem resolve_path :
    (∀ (root node : Json) (path : List Json.Step), root.nodeAt? path = some node →
      resolve root (ofSegments (path.map Json.Step.segment)) = .ok node) ∧
    (∀ names : List String, segments (ofSegments names) = .ok names) ∧
    (∀ segment : String, unescape (escape segment) = segment) ∧
    (∀ segment : String, unescape segment = String.ofList (unescapeOnce segment.toList)) ∧
    (∀ segment : String, (escape segment).toList =
      Text.replaceChar '/' ['~', '1'] (Text.replaceChar '~' ['~', '0'] segment.toList)) ∧
    (∀ names names' : List String, names ≠ names' → ofSegments names ≠ ofSegments names') ∧
    ∀ (root : Json) (path path' : List Json.Step), (root.nodeAt? path).isSome →
      (root.nodeAt? path').isSome → path ≠ path' →
        ofSegments (path.map Json.Step.segment) ≠ ofSegments (path'.map Json.Step.segment) := by
  refine ⟨fun root node path h => ?_, segments_ofSegments, unescape_escape, unescape_eq_unescapeOnce,
    toList_escape_eq_replaceChar, fun names names' hne => ofSegments_injective.ne hne,
    fun root path path' hpath hpath' hne hsame => ?_⟩
  · rw [resolve, segments_ofSegments]
    exact Json.follow_segments h _
  · exact hne (Json.path_inj hpath hpath' (ofSegments_injective hsame))

/-- A tree whose names hold slashes, tildes, what looks like an escape, and nothing at all. -/
def aliasTree : Json :=
  .object [
    ("a", .object [("b", .bool false)]),
    ("a/b", .array [.null, .object [("~1", .bool true), ("", .null)]])]

theorem resolve_path_aliases :
    aliasTree.nodeAt? [.member "a/b", .item 1, .member "~1"] = some (.bool true) ∧
    resolve aliasTree "#/a~1b/1/~01" = .ok (.bool true) ∧
    ["a", "b"] ≠ ["a/b"] ∧ ofSegments ["a", "b"] ≠ ofSegments ["a/b"] ∧
    (aliasTree.nodeAt? [.member "a", .member "b"]).isSome ∧
    (aliasTree.nodeAt? [.member "a/b"]).isSome ∧
    [Json.Step.member "a", .member "b"] ≠ [.member "a/b"] ∧
    ofSegments ([.member "a", .member "b"].map Json.Step.segment) ≠
      ofSegments ([.member "a/b"].map Json.Step.segment) := by
  have hnode : aliasTree.nodeAt? [.member "a/b", .item 1, .member "~1"] = some (.bool true) := rfl
  have hreference : ofSegments ([.member "a/b", .item 1, .member "~1"].map Json.Step.segment) =
      "#/a~1b/1/~01" := by decide
  have hnames : ["a", "b"] ≠ ["a/b"] := by decide
  have hsteps : [Json.Step.member "a", .member "b"] ≠ [.member "a/b"] := by decide
  have hfirst : (aliasTree.nodeAt? [.member "a", .member "b"]).isSome := rfl
  have hsecond : (aliasTree.nodeAt? [.member "a/b"]).isSome := rfl
  obtain ⟨hresolve, -, -, -, -, hnames', hpaths⟩ := resolve_path
  exact ⟨hnode, hreference ▸ hresolve aliasTree _ _ hnode, hnames, hnames' _ _ hnames, hfirst, hsecond,
    hsteps, hpaths aliasTree _ _ hfirst hsecond hsteps⟩

end Pointer

end OpenApi
