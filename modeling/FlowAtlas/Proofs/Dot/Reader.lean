import FlowAtlas.Dot.Digraph

/-!
# Reading the DOT language

A reader for the part of the language that directed graphs are written in. A text is cut into tokens
from left to right. Outside of quotes, letters, digits, low lines and points make up names and
numerals. Between quotes every character counts as it is: a backslash protects the character after
it, and the first quote that is not protected ends the identifier. The tokens then are read as the
statements of one graph.

## Main definitions

* `run?`, `tokens?`: the tokens of a text.
* `statements?`: the statements that tokens make up.
* `read?`: the graph that a text describes.

## Main results

* `run?_append`, `run?_flatMap`: the pieces of a text are cut into tokens one after another.
-/

namespace FlowAtlas.Dot

/-! ### Tokens -/

/-- A token. The text of an identifier is what stands between its quotes, if it has any. -/
inductive Token where
  | id (text : String)
  | keyword (text : String)
  | openGraph
  | closeGraph
  | openList
  | closeList
  | equals
  | arrow
  deriving DecidableEq, Repr

/-- Where a reader is in a text. Characters that have been read of a token are held, the latest
first. -/
inductive Mode where
  | between
  /-- After a minus sign, which begins an arrow or a numeral. -/
  | minus
  | bare (held : List Char)
  | quoted (held : List Char)
  /-- Between quotes after a backslash that protects the next character. -/
  | shielded (held : List Char)
  deriving DecidableEq, Repr

/-- A character of a name or a numeral. -/
def isBareChar (c : Char) : Bool :=
  isNameChar c || c = '.'

/-- A run of characters outside of quotes as a keyword or an identifier. -/
def word? (cs : List Char) : Option Token :=
  if isKeyword cs then some (.keyword (String.ofList (cs.map Char.toLower)))
  else if isName cs || isNumeral cs then some (.id (String.ofList cs))
  else none

/-- What a character outside of words and quotes leads to. -/
def begin? (c : Char) : Option (Mode × List Token) :=
  if isBareChar c then some (.bare [c], [])
  else match c with
    | ' ' | '\t' | '\n' | '\r' => some (.between, [])
    | '"' => some (.quoted [], [])
    | '-' => some (.minus, [])
    | '\x7b' => some (.between, [.openGraph])
    | '\x7d' => some (.between, [.closeGraph])
    | '[' => some (.between, [.openList])
    | ']' => some (.between, [.closeList])
    | '=' => some (.between, [.equals])
    | _ => none

/-- What the next character leads to, and the tokens that it ends or that it is. -/
def Mode.step? : Mode → Char → Option (Mode × List Token)
  | .between, c => begin? c
  | .minus, c =>
    if c = '>' then some (.between, [.arrow])
    else if isBareChar c then some (.bare [c, '-'], [])
    else none
  | .bare held, c =>
    if isBareChar c then some (.bare (c :: held), [])
    else do
      let word ← word? held.reverse
      let (next, out) ← begin? c
      pure (next, word :: out)
  | .quoted held, c =>
    if c = '\\' then some (.shielded (c :: held), [])
    else if c = '"' then some (.between, [.id (String.ofList held.reverse)])
    else some (.quoted (c :: held), [])
  | .shielded held, c => some (.quoted (c :: held), [])

/-- Reads characters one after another. -/
def run? : Mode → List Char → Option (Mode × List Token)
  | mode, [] => some (mode, [])
  | mode, c :: cs => do
    let (next, out) ← mode.step? c
    let (last, rest) ← run? next cs
    pure (last, out ++ rest)

/-- The tokens of a text; it must not end inside of a token. -/
def tokens? (cs : List Char) : Option (List Token) :=
  match run? .between cs with
  | some (.between, out) => some out
  | _ => none

/-! ### Statements -/

/-- A statement of a graph. -/
inductive Statement where
  /-- The attributes that nodes have unless they are given others. -/
  | defaults (attributes : Attributes)
  /-- An attribute of the graph itself. -/
  | setting (name value : String)
  | node (id : String) (attributes : Attributes)
  | edge (tail head : String) (attributes : Attributes)
  deriving DecidableEq, Repr

/-- A statement with further attributes. -/
def Statement.extend (more : Attributes) : Statement → Statement
  | .defaults attributes => .defaults (attributes ++ more)
  | .setting name value => .setting name value
  | .node id attributes => .node id (attributes ++ more)
  | .edge tail head attributes => .edge tail head (attributes ++ more)

/-- The statements that the tokens up to the end of a graph make up. If a statement is given, the
tokens go on with its attributes. -/
def statements? : Option Statement → List Token → Option (List Statement)
  | none, [.closeGraph] => some []
  | none, .keyword "node" :: .openList :: rest => statements? (some (.defaults [])) rest
  | none, .id name :: .equals :: .id value :: rest =>
    (statements? none rest).map (.setting name value :: ·)
  | none, .id tail :: .arrow :: .id head :: .openList :: rest =>
    statements? (some (.edge tail head [])) rest
  | none, .id tail :: .arrow :: .id head :: rest =>
    (statements? none rest).map (.edge tail head [] :: ·)
  | none, .id id :: .openList :: rest => statements? (some (.node id [])) rest
  | none, .id id :: rest => (statements? none rest).map (.node id [] :: ·)
  | some s, .closeList :: rest => (statements? none rest).map (s :: ·)
  | some s, .id name :: .equals :: .id value :: rest =>
    statements? (some (s.extend [(name, value)])) rest
  | _, _ => none

/-- What is read of a text: the name of the graph, if it has one, and its statements in order. -/
structure Reading where
  name? : Option String
  statements : List Statement
  deriving DecidableEq, Repr

/-- The graph that a text describes, if it describes exactly one. -/
def read? (text : String) : Option Reading := do
  match ← tokens? text.toList with
  | .keyword "digraph" :: .id name :: .openGraph :: rest =>
    (statements? none rest).map (⟨some name, ·⟩)
  | .keyword "digraph" :: .openGraph :: rest => (statements? none rest).map (⟨none, ·⟩)
  | _ => none

/-! ### Pieces of texts -/

variable {mode next last : Mode} {cs cs' : List Char} {out out' : List Token} {c : Char}

theorem run?_cons (hstep : mode.step? c = some (next, out)) (h : run? next cs = some (last, out')) :
    run? mode (c :: cs) = some (last, out ++ out') :=
  Option.bind_eq_some_iff.mpr ⟨_, hstep, Option.bind_eq_some_iff.mpr ⟨_, h, rfl⟩⟩

theorem run?_singleton (hstep : mode.step? c = some (next, out)) :
    run? mode [c] = some (next, out) := by
  rw [← List.append_nil out]
  exact run?_cons hstep rfl

/-- **One piece of a text after another is cut into tokens.** -/
theorem run?_append (h : run? mode cs = some (next, out)) (h' : run? next cs' = some (last, out')) :
    run? mode (cs ++ cs') = some (last, out ++ out') := by
  induction cs generalizing mode out with
  | nil =>
    cases h
    exact h'
  | cons c cs ih =>
    rw [run?] at h
    obtain ⟨⟨mode', out₁⟩, hstep, h⟩ := Option.bind_eq_some_iff.mp h
    obtain ⟨⟨mode'', out₂⟩, hrun, h⟩ := Option.bind_eq_some_iff.mp h
    cases h
    rw [List.append_assoc]
    exact run?_cons hstep (ih hrun)

theorem run?_flatMap {α : Type} {l : List α} {f : α → List Char} {g : α → List Token}
    (h : ∀ x ∈ l, run? .between (f x) = some (.between, g x)) :
    run? .between (l.flatMap f) = some (.between, l.flatMap g) := by
  induction l with
  | nil => rfl
  | cons x l ih =>
    rw [List.forall_mem_cons] at h
    rw [List.flatMap_cons, List.flatMap_cons]
    exact run?_append h.1 (ih h.2)

end FlowAtlas.Dot
