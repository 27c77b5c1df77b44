import FlowAtlas.Proofs.Document.Refused

/-!
# The depth of documents

A text is read as a JSON value of no more levels than can be gone through, and no part of a value
has more levels than the whole. So whatever is written out of a document that was read from a text
is not nested too deeply.

## Main results

* `Json.Within.depth_le`: parts have no more levels than the whole.
* `Json.depth_le_of_parse`: a value that was read has no more levels than can be gone through.
-/

namespace FlowAtlas.Json

variable {x y j v : Json} {items : List Json} {members : List (String × Json)} {key : String}
  {cs : List Char} {levels n : ℕ}

/-! ### The depth of parts -/

theorem depthOfItems_le_iff : depthOfItems items ≤ n ↔ ∀ y ∈ items, y.depth ≤ n := by
  induction items with
  | nil => simp [depthOfItems]
  | cons j rest ih => rw [depthOfItems, Nat.max_le, ih, List.forall_mem_cons]

theorem depthOfMembers_le_iff : depthOfMembers members ≤ n ↔ ∀ m ∈ members, m.2.depth ≤ n := by
  induction members with
  | nil => simp [depthOfMembers]
  | cons m rest ih => rw [depthOfMembers, Nat.max_le, ih, List.forall_mem_cons]

/-- Parts have no more levels than the whole. -/
theorem Within.depth_le (h : x.Within j) : x.depth ≤ j.depth := by
  induction h with
  | self => exact Nat.le_refl _
  | @item y j items hitems hy _ ih =>
    refine Nat.le_trans ih ?_
    cases j with
    | arr =>
      cases hitems
      exact Nat.le_succ_of_le (depthOfItems_le_iff.mp (Nat.le_refl _) y hy)
    | str s =>
      cases hitems
      obtain ⟨c, -, rfl⟩ := List.mem_map.mp hy
      exact Nat.zero_le _
    | obj members =>
      cases hitems
      obtain ⟨m, -, rfl⟩ := List.mem_map.mp hy
      exact Nat.zero_le _
    | null | bool | int | float => cases hitems
  | @member y members key hy _ ih =>
    obtain ⟨before, after, rfl, -⟩ := List.lookup_eq_some_iff.mp hy
    exact Nat.le_trans ih (Nat.le_succ_of_le (depthOfMembers_le_iff.mp (Nat.le_refl _) (key, y)
      (List.mem_append_right before List.mem_cons_self)))

/-! ### The depth of what is read -/

theorem depthOfMembers_putMember_le (h : depthOfMembers members ≤ n) (hv : v.depth ≤ n) :
    depthOfMembers (putMember members key v) ≤ n := by
  rw [depthOfMembers_le_iff] at h ⊢
  rw [putMember]
  split
  · intro m hm
    obtain ⟨m', hm', rfl⟩ := List.mem_map.mp hm
    split
    · exact hv
    · exact h m' hm'
  · exact List.forall_mem_append.mpr ⟨h, List.forall_mem_singleton.mpr hv⟩

/-- A member that is put among others where another was leaves the depth as it is. -/
theorem depthOfMembers_foldl_putMember_le {more : List (String × Json)}
    (h : depthOfMembers members ≤ n) (hmore : depthOfMembers more ≤ n) :
    depthOfMembers (more.foldl (fun all (key, v) => putMember all key v) members) ≤ n := by
  induction more generalizing members with
  | nil => exact h
  | cons m more ih =>
    rw [depthOfMembers, Nat.max_le] at hmore
    exact ih (depthOfMembers_putMember_le h hmore.1) hmore.2

theorem depth_of_mem_words : ∀ entry ∈ words, entry.2.depth = 0 := by
  simp [words, depth]

theorem depth_int (n : ℤ) : (Json.int n).depth = 0 := rfl

theorem depth_float (x : Decimal.Binary64) : (Json.float x).depth = 0 := rfl

theorem depth_of_numberOf {negative : Bool} {digits decimals : List Char} {exponent : Option ℤ}
    (h : numberOf negative digits decimals exponent = .ok v) : v.depth = 0 := by
  rw [numberOf] at h
  split_ifs at h
  · rw [← Except.ok.inj h, depth_int]
  · rw [← Except.ok.inj h, depth_float]

theorem depth_of_number? {rest : List Char} (h : number? cs = some (.ok v, rest)) :
    v.depth = 0 := by
  unfold number? at h
  simp only at h
  split at h
  · cases h
  · split at h
    · exact depth_of_numberOf (Prod.mk.inj (Option.some.inj h)).1
    · exact depth_of_numberOf (Prod.mk.inj (Option.some.inj h)).1

theorem depth_of_scalar {rest : Rest cs} (h : scalar cs = .ok (v, rest)) : v.depth = 0 := by
  rw [scalar] at h
  split at h
  · next w v' hword =>
    cases h
    exact depth_of_mem_words _ (List.mem_of_find?_eq_some hword)
  · split at h
    · cases h
    · next number rest hnumber =>
      obtain ⟨v', rfl, hv⟩ := map_eq_ok_iff.mp h
      cases hv
      exact depth_of_number? hnumber

/-- What a value is that is read: a text, a word or a number, or an object or an array of what is
read after its bracket with one level less. -/
theorem value_eq_ok {rest : Rest cs} (h : value levels cs = .ok (v, rest)) :
    (∃ s, v = .str s) ∨ (∃ rest, scalar cs = .ok (v, rest)) ∨
    ∃ n, levels = n + 1 ∧ (v = .obj [] ∨ v = .arr [] ∨ ∃ start : List Char,
      start.length < cs.length ∧
        ((∃ members rest, Json.members n start = .ok (members, rest) ∧
          v = .obj (members.foldl (fun all (key, v) => putMember all key v) [])) ∨
        ∃ items rest, Json.items n start = .ok (items, rest) ∧ v = .arr items)) := by
  rw [value.eq_def] at h
  cases htext : textLiteral? cs with
  | some text =>
    simp only [htext] at h
    obtain ⟨⟨s, _⟩, -, heq⟩ := map_eq_ok_iff.mp h
    exact .inl ⟨s, (congrArg Prod.fst heq).symm⟩
  | none =>
    cases hbrace : after? '\x7b' cs with
    | some inside =>
      obtain ⟨inner, lt⟩ := inside
      cases levels with
      | zero =>
        simp only [htext, hbrace] at h
        cases h
      | succ levels =>
        simp only [htext, hbrace] at h
        refine .inr (.inr ⟨levels, rfl, ?_⟩)
        split at h
        · cases h
          exact .inl rfl
        · obtain ⟨⟨members, rest⟩, hmembers, heq⟩ := map_eq_ok_iff.mp h
          have hle := (skipSpace inner).2
          exact .inr (.inr ⟨_, by omega, .inl ⟨members, rest, hmembers,
            (congrArg Prod.fst heq).symm⟩⟩)
    | none =>
      cases hbracket : after? '[' cs with
      | some inside =>
        obtain ⟨inner, lt⟩ := inside
        cases levels with
        | zero =>
          simp only [htext, hbrace, hbracket] at h
          cases h
        | succ levels =>
          simp only [htext, hbrace, hbracket] at h
          refine .inr (.inr ⟨levels, rfl, ?_⟩)
          split at h
          · cases h
            exact .inr (.inl rfl)
          · obtain ⟨⟨items, rest⟩, hitems, heq⟩ := map_eq_ok_iff.mp h
            have hle := (skipSpace inner).2
            exact .inr (.inr ⟨_, by omega, .inr ⟨items, rest, hitems,
              (congrArg Prod.fst heq).symm⟩⟩)
      | none =>
        simp only [htext, hbrace, hbracket] at h
        exact .inr (.inl ⟨rest, h⟩)

/-- What the items of an array are: a value, and more items after it or none. -/
theorem items_eq_ok {rest : Rest cs} (h : Json.items levels cs = .ok (items, rest)) :
    ∃ v rest, value levels cs = .ok (v, rest) ∧ (items = [v] ∨ ∃ (start : List Char) (more : _)
      (rest : _), start.length < cs.length ∧ Json.items levels start = .ok (more, rest) ∧
        items = v :: more) := by
  rw [Json.items.eq_def] at h
  split at h
  · cases h
  · next v rest lt hv =>
    refine ⟨v, _, hv, ?_⟩
    dsimp only at h
    split at h
    · cases h
      exact .inl rfl
    · split at h
      · cases h
      · next inner lt₁ _ =>
        obtain ⟨⟨more, rest'⟩, hmore, heq⟩ := map_eq_ok_iff.mp h
        have hle := (skipSpace rest).2
        have hle₁ := (skipSpace inner).2
        exact .inr ⟨_, more, rest', by omega, hmore, (congrArg Prod.fst heq).symm⟩

/-- What the members of an object are: a key with a value, and more members after it or none. -/
theorem members_eq_ok {rest : Rest cs} (h : Json.members levels cs = .ok (members, rest)) :
    ∃ (key : String) (start : List Char) (v : Json) (rest : _), start.length < cs.length ∧
      value levels start = .ok (v, rest) ∧ (members = [(key, v)] ∨ ∃ (again : List Char) (more : _)
        (rest : _), again.length < cs.length ∧ Json.members levels again = .ok (more, rest) ∧
          members = (key, v) :: more) := by
  rw [Json.members.eq_def] at h
  split at h
  · cases h
  · cases h
  · next key afterKey lt hkey =>
    dsimp only at h
    split at h
    · cases h
    · next afterColon lt₁ _ =>
      have hle := (skipSpace afterKey).2
      have hle₁ := (skipSpace afterColon).2
      split at h
      · cases h
      · next v rest lt₂ hv =>
        refine ⟨key, _, v, _, by omega, hv, ?_⟩
        have hle₂ := (skipSpace rest).2
        split at h
        · cases h
          exact .inl rfl
        · split at h
          · cases h
          · next afterComma lt₃ _ =>
            obtain ⟨⟨more, rest'⟩, hmore, heq⟩ := map_eq_ok_iff.mp h
            have hle₃ := (skipSpace afterComma).2
            exact .inr ⟨_, more, rest', by omega, hmore, (congrArg Prod.fst heq).symm⟩

/-- What is read has no more levels than are allowed. -/
theorem depth_le_of_value (n : ℕ) : ∀ cs : List Char, cs.length < n → ∀ levels,
    (∀ v rest, value levels cs = .ok (v, rest) → v.depth ≤ levels) ∧
    (∀ items rest, Json.items levels cs = .ok (items, rest) → depthOfItems items ≤ levels) ∧
    ∀ members rest, Json.members levels cs = .ok (members, rest) →
      depthOfMembers members ≤ levels := by
  -- The three readers call one another, each on less text: the induction is on how much is left.
  induction n with
  | zero => exact fun cs hcs => absurd hcs (Nat.not_lt_zero _)
  | succ n ih =>
    intro cs hcs levels
    have hvalue : ∀ v rest, value levels cs = .ok (v, rest) → v.depth ≤ levels := by
      intro v rest h
      obtain ⟨s, rfl⟩ | ⟨rest, hscalar⟩ | ⟨levels, rfl, rfl | rfl | ⟨start, hstart, hread⟩⟩ :=
        value_eq_ok h
      · exact Nat.zero_le _
      · exact (depth_of_scalar hscalar).le.trans (Nat.zero_le _)
      · exact Nat.le_add_left 1 levels
      · exact Nat.le_add_left 1 levels
      · have ih := ih start (by omega) levels
        rcases hread with ⟨members, rest, hread, rfl⟩ | ⟨items, rest, hread, rfl⟩
        · exact Nat.succ_le_succ
            (depthOfMembers_foldl_putMember_le (Nat.zero_le _) (ih.2.2 members rest hread))
        · exact Nat.succ_le_succ (ih.2.1 items rest hread)
    refine ⟨hvalue, fun items rest h => ?_, fun members rest h => ?_⟩
    · obtain ⟨v, rest, hv, rfl | ⟨start, more, rest, hstart, hmore, rfl⟩⟩ := items_eq_ok h
      · exact Nat.max_le.mpr ⟨hvalue v rest hv, Nat.zero_le _⟩
      · exact Nat.max_le.mpr ⟨hvalue v _ hv, (ih start (by omega) levels).2.1 more rest hmore⟩
    · obtain ⟨key, start, v, rest, hstart, hv, hmembers⟩ := members_eq_ok h
      have hv := (ih start (by omega) levels).1 v rest hv
      rcases hmembers with rfl | ⟨again, more, rest, hagain, hmore, rfl⟩
      · exact Nat.max_le.mpr ⟨hv, Nat.zero_le _⟩
      · exact Nat.max_le.mpr ⟨hv, (ih again (by omega) levels).2.2 more rest hmore⟩

/-- **A value that was read has no more levels than can be gone through.** -/
theorem depth_le_of_parse {text : String} (h : parse text = .ok j) : j.depth ≤ levelLimit := by
  rw [parse] at h
  split at h
  · next v hv =>
    cases h
    rw [document] at hv
    split at hv
    · cases hv
    · split at hv
      · cases hv
      · next v rest _ hvalue =>
        dsimp only at hv
        split at hv
        · cases hv
          exact (depth_le_of_value _ _ (Nat.lt_succ_self _) _).1 _ _ hvalue
        · cases hv
  · cases h
  · cases h
  · cases h

end FlowAtlas.Json
