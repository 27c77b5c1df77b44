import FlowAtlas.Proofs.Document.Refused
import Mathlib.Data.List.Infix
import Mathlib.Data.List.TakeWhile

/-!
# Documents of moderate numbers

Every part of a document may hold any JSON value. As long as the numbers in it are finite and of
moderate size and its texts have no long runs of digits, whatever is wrong with it is reported as a
flaw of the document: reading a number, linking and checking the graph, and finding the dominator
tree do not fail in any other way. Only what is written out as a text may be nested too deeply.

## Main definitions

* `Json.isModerate`: the numbers of a value are of moderate size, and its texts have short numerals.
* `Document.HasModerateEnds`: the ends of the runs of the blocks, where they are given by texts, are
  of moderate size.

## Main results

* `Json.Within.isModerate`: the parts of a moderate value are moderate.
* `Document.loaded_or_refused`: a moderate document is loaded, or refused for a flaw of its own,
  unless what is written out of it is nested too deeply.
* `Document.deeplyNamed_refused`: a document that is nested too deeply.
-/

namespace FlowAtlas

open Decimal (Binary64)

/-- The numbers of moderate size are those below this one. -/
def moderateBound : ℕ := 2 ^ 62

/-- A floating-point number is finite and of moderate size; this is so if its integer part is. -/
def Decimal.Binary64.isModerate : Binary64 → Bool
  | .finite negative significand exponent =>
    (truncate negative significand exponent).natAbs < moderateBound
  | .infinite _ | .notANumber => false

/-- The runs of decimal digits in a text are short enough to be read as numbers. -/
def Text.hasShortNumerals (s : String) : Bool :=
  s.toList.tails.all fun rest => (rest.takeWhile Text.isDecimalDigit).length < digitLimit

namespace Json

mutual

/-- The numbers of a JSON value are finite and of moderate size, and the runs of digits in its texts
are short. -/
def isModerate : Json → Bool
  | .null | .bool _ => true
  | .int n => n.natAbs < moderateBound
  | .float x => x.isModerate
  | .str s => Text.hasShortNumerals s
  | .arr items => areModerate items
  | .obj members => haveModerate members

/-- All values of a list are moderate. -/
def areModerate : List Json → Bool
  | [] => true
  | j :: rest => j.isModerate && areModerate rest

/-- The keys and the values of all members are moderate. -/
def haveModerate : List (String × Json) → Bool
  | [] => true
  | (key, j) :: rest => Text.hasShortNumerals key && j.isModerate && haveModerate rest

end

variable {x y j : Json} {items : List Json} {members : List (String × Json)} {key s : String}

theorem isModerate_of_mem (h : areModerate items) (hy : y ∈ items) : y.isModerate := by
  induction items with
  | nil => exact absurd hy List.not_mem_nil
  | cons j rest ih =>
    rw [areModerate, Bool.and_eq_true] at h
    rcases List.mem_cons.mp hy with rfl | hy
    · exact h.1
    · exact ih h.2 hy

theorem isModerate_of_mem_members (h : haveModerate members) (hy : (key, y) ∈ members) :
    Text.hasShortNumerals key ∧ y.isModerate := by
  induction members with
  | nil => exact absurd hy List.not_mem_nil
  | cons m rest ih =>
    obtain ⟨name, j⟩ := m
    rw [haveModerate, Bool.and_eq_true, Bool.and_eq_true] at h
    rcases List.mem_cons.mp hy with hm | hy
    · cases hm
      exact h.1
    · exact ih h.2 hy

theorem mem_of_member? (h : member? members key = some y) : (key, y) ∈ members := by
  obtain ⟨before, after, rfl, -⟩ := List.lookup_eq_some_iff.mp h
  exact List.mem_append_right before List.mem_cons_self

theorem hasShortNumerals_singleton (c : Char) : Text.hasShortNumerals (String.singleton c) := by
  rw [Text.hasShortNumerals, List.all_eq_true]
  intro rest hrest
  have hlength := (List.takeWhile_prefix Text.isDecimalDigit).length_le.trans
    ((List.mem_tails _ _).mp hrest).length_le
  rw [String.toList_singleton, List.length_singleton] at hlength
  exact decide_eq_true (Nat.lt_of_le_of_lt hlength (by decide))

/-- The parts of a moderate value are moderate. -/
theorem Within.isModerate (hx : x.Within j) (h : j.isModerate) : x.isModerate := by
  induction hx with
  | self => exact h
  | @item y j items hitems hy _ ih =>
    refine ih ?_
    cases j with
    | arr =>
      cases hitems
      exact isModerate_of_mem h hy
    | str s =>
      cases hitems
      obtain ⟨c, -, rfl⟩ := List.mem_map.mp hy
      exact hasShortNumerals_singleton c
    | obj members =>
      cases hitems
      obtain ⟨⟨key, v⟩, hm, rfl⟩ := List.mem_map.mp hy
      exact (isModerate_of_mem_members h hm).1
    | null | bool | int | float => cases hitems
  | member hy _ ih => exact ih (isModerate_of_mem_members h (mem_of_member? hy)).2

end Json

namespace Document

open Json

variable {j x y : Json} {blocks : List Json} {failure : Failure} {count : ℕ}

/-! ### Numbers -/

theorem integerOfText_ne_infinite (s : String) : integerOfText s ≠ .error .infinite := by
  rw [integerOfText]
  dsimp only
  split_ifs <;> exact fun h => by cases h

theorem toInteger_ne_infinite (h : x.isModerate) : x.toInteger ≠ .error .infinite := by
  cases x with
  | str s => exact integerOfText_ne_infinite s
  | float f =>
    cases f with
    | finite | notANumber => exact fun hinfinite => by cases hinfinite
    | infinite => exact absurd h Bool.false_ne_true
  | null | bool | int | arr | obj => exact fun hinfinite => by cases hinfinite

/-- A moderate number is read as an integer of moderate size, if it is read as one. -/
theorem natAbs_toInteger_lt {n : Int} (h : x.isModerate) (hx : ∀ s, x ≠ .str s)
    (hn : x.toInteger = .ok n) : n.natAbs < moderateBound := by
  cases x with
  | str s => exact absurd rfl (hx s)
  | bool b => cases b <;> cases hn <;> decide
  | int m =>
    cases hn
    exact of_decide_eq_true h
  | float f =>
    cases f with
    | finite =>
      cases hn
      exact of_decide_eq_true h
    | infinite | notANumber => cases hn
  | null | arr | obj => cases hn

/-- The digits of a reference are a numeral in its text. -/
theorem length_digits_lt {s : String} {mark : Char} {digits : List Char}
    (h : Text.hasShortNumerals s) (hs : reference? s.toList = some (mark, digits)) :
    digits.length < digitLimit := by
  obtain ⟨-, -, hdigits, hs⟩ := reference?_eq_some_iff.mp hs
  obtain ⟨rest, hrest, hs⟩ : ∃ rest, rest.takeWhile Text.isDecimalDigit = digits ∧
      s.toList = mark :: rest := by
    rcases hs with hs | hs
    · exact ⟨digits, List.takeWhile_eq_self_iff.mpr hdigits, hs⟩
    · refine ⟨digits ++ ['\n'], ?_, hs⟩
      rw [List.takeWhile_append_of_pos hdigits, List.takeWhile_cons_of_neg, List.append_nil]
      rw [Text.isDecimalDigit_newline]
      exact Bool.false_ne_true
  rw [Text.hasShortNumerals, List.all_eq_true] at h
  have hlength := h rest ((List.mem_tails _ _).mpr (hs ▸ List.suffix_cons mark rest))
  rw [← hrest]
  exact of_decide_eq_true hlength

/-- The number of a reference in a moderate value has few enough digits to be read. -/
theorem operand_ne_tooManyDigits (h : x.isModerate) :
    operand x ≠ .error (.tooManyDigits count) := by
  rw [operand.eq_def]
  split
  · next s =>
    split
    · exact fun herror => by cases herror
    · next mark digits hs =>
      rw [if_neg (Nat.not_lt.mpr (length_digits_lt h hs).le)]
      exact fun herror => by cases herror
  · exact fun herror => by cases herror

/-! ### Documents -/

/-- The texts that the runs of the blocks of a document are given by are no very large numbers. All
other texts that are read as numbers may be of any size. -/
def HasModerateEnds (j : Json) : Prop :=
  ∀ blocks, blocksOf? j = some blocks → ∀ y ∈ blocks, ∀ s, IsRunEnd y (.str s) →
    ∀ n, integerOfText s = .ok n → n.natAbs < moderateBound

/-- The ends of the runs of the blocks of a moderate document are not far apart. -/
theorem not_farApart (h : j.isModerate) (hends : HasModerateEnds j)
    (hblocks : blocksOf? j = some blocks) : ¬ FarApart blocks := by
  rintro ⟨y, hy, x, n, hx, hn, hlarge⟩
  have hmoderate : x.isModerate :=
    (hx.within.trans (within_of_mem_blocksOf? hblocks hy)).isModerate h
  refine absurd hlarge (Nat.not_le.mpr ?_)
  by_cases htext : ∃ s, x = .str s
  · obtain ⟨s, rfl⟩ := htext
    exact hends blocks hblocks y hy s hx n hn
  · exact natAbs_toInteger_lt hmoderate (fun s hs => htext ⟨s, hs⟩) hn

/-- **A moderate document is loaded, or refused for a flaw of its own**, unless its name, its
signature, or the head or the kind of one of its statements is nested too deeply to be written
out. -/
theorem loaded_or_refused (j : Json) (h : j.isModerate) (hends : HasModerateEnds j) :
    (∃ v, view j = .ok v) ∨ (∃ flaw, view j = .error (.document flaw)) ∨
      view j = .error .tooDeep ∧ ∃ x, WrittenOut j x ∧ levelLimit < x.depth := by
  cases hview : view j with
  | ok v => exact .inl ⟨v, rfl⟩
  | error failure =>
    rcases failsOnly_view_fault j failure hview with
      hfault | ⟨-, blocks, hblocks, hfar⟩ | ⟨rfl, hdeep⟩
    · cases hfault with
      | layout flaw => exact .inr (.inl ⟨flaw, rfl⟩)
      | digits hx hoperand => exact absurd hoperand (operand_ne_tooManyDigits (hx.isModerate h))
      | infinite hx hinfinite => exact absurd hinfinite (toInteger_ne_infinite (hx.isModerate h))
    · exact absurd hfar (not_farApart h hends hblocks)
    · exact .inr (.inr ⟨rfl, hdeep⟩)

/-- A document in which texts, truth values and objects stand where lists and numbers are expected.
Its tree lists block one as a child. -/
def oddDocument : Json :=
  .obj [
    ("code", .arr [
      .obj [("kind", .str "goto"), ("label", .str " 1 ")],
      .obj [("head", .obj [("%1", .arr [.null, .float (.finite false 3 (-1))])]),
        ("args", .obj [("_2", .null)])]]),
    ("blocks", .arr [.obj [("stmts", .arr [.bool true, .str "2"]), ("succs", .str "1")]]),
    ("domtree", .arr [.arr [.bool true]])]

theorem oddDocument_refused : oddDocument.isModerate ∧ HasModerateEnds oddDocument ∧
    ((∃ v, view oddDocument = .ok v) ∨ (∃ flaw, view oddDocument = .error (.document flaw)) ∨
      view oddDocument = .error .tooDeep ∧
        ∃ x, WrittenOut oddDocument x ∧ levelLimit < x.depth) := by
  have hmoderate : oddDocument.isModerate := rfl
  have hends : HasModerateEnds oddDocument := by
    intro blocks hblocks y hy s hs n hn
    cases hblocks
    obtain rfl := List.mem_singleton.mp hy
    obtain ⟨members, items, hmembers, hitems, hx⟩ := hs
    cases hmembers
    cases hitems
    simp only [List.mem_cons, reduceCtorEq, Json.str.injEq, List.not_mem_nil, or_false,
      false_or] at hx
    subst hx
    cases hn
    decide
  exact ⟨hmoderate, hends, loaded_or_refused oddDocument hmoderate hends⟩

example : view oddDocument = .error (.document .notATree) := by
  rfl

/-- Arrays inside one another. -/
def nested : ℕ → Json
  | 0 => .null
  | n + 1 => .arr [nested n]

theorem depth_nested (n : ℕ) : (nested n).depth = n := by
  induction n with
  | zero => rfl
  | succ n ih => rw [nested, depth, depthOfItems, depthOfItems, ih, Nat.max_zero]

theorem isModerate_nested (n : ℕ) : (nested n).isModerate := by
  induction n with
  | zero => rfl
  | succ n ih => rw [nested, isModerate, areModerate, ih, areModerate, Bool.and_self]

/-- A document without statements, with a name. -/
def named (x : Json) : Json :=
  .obj [("code", .arr []), ("blocks", .arr []), ("name", x)]

theorem view_named (hx : levelLimit < x.depth) : view (named x) = .error .tooDeep := by
  have hname : shown Value.text x = .error .tooDeep := if_neg (Nat.not_le.mpr hx)
  obtain ⟨t, ht⟩ : ∃ t, Dominance.tree? [] = some t :=
    (Dominance.exists_proper_tree? fun b hb => absurd hb List.not_mem_nil).imp fun _ ht => ht.1
  have hview : view (named x) = (found (Dominance.tree? [])).bind fun t =>
      (shown Value.text x).bind fun name =>
        .ok ⟨⟨[], []⟩, .str name, .str "(?)", .null, some t, none⟩ := rfl
  rw [hview, ht, hname]
  rfl

/-- The document the name of which has one level too many. -/
def deeplyNamed : Json :=
  named (nested (levelLimit + 1))

/-- The name of a moderate document may keep it from being loaded without a flaw that could be
reported. -/
theorem deeplyNamed_refused : deeplyNamed.isModerate ∧ HasModerateEnds deeplyNamed ∧
    ¬ ((∃ v, view deeplyNamed = .ok v) ∨ ∃ flaw, view deeplyNamed = .error (.document flaw)) := by
  refine ⟨?_, fun blocks hblocks => ?_, ?_⟩
  · rw [deeplyNamed, named, isModerate, haveModerate, haveModerate, haveModerate, isModerate_nested]
    rfl
  · cases hblocks
    exact fun y hy => absurd hy List.not_mem_nil
  · rw [deeplyNamed, view_named ((depth_nested _).symm ▸ Nat.lt_succ_self levelLimit)]
    rintro (⟨v, hv⟩ | ⟨flaw, hflaw⟩)
    · cases hv
    · cases hflaw

end Document

end FlowAtlas
