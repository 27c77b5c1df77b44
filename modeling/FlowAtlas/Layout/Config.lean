import FlowAtlas.Failure

/-!
# The configuration of the layout program

Images are drawn by a layout program. The configuration says how it is called and in which font it
writes; both come from the environment, unless they are given otherwise.
-/

namespace FlowAtlas.Layout

/-- The configuration of the layout program. -/
structure Config where
  program : String := "dot"
  font : String := "monospace"
  deriving DecidableEq, Repr

namespace Config

/-- The value of a variable of the environment; an empty one counts as missing. -/
def nonempty? (environment : List (String × String)) (name : String) : Option String :=
  (environment.lookup name).filter fun value => !value.isEmpty

/-- The configuration that the environment gives. -/
def ofEnvironment (environment : List (String × String)) : Config where
  program := (nonempty? environment "CODEVIZ_DOT").getD { : Config }.program
  font := (nonempty? environment "CODEVIZ_FONTNAME").getD { : Config }.font

/-- The configuration with one setting changed, by the name of the setting. A setting without a
value changes nothing, whatever its name, but `self` names the configuration and no setting. -/
def change (c : Config) (name : String) (value? : Option String) : Except Failure Config :=
  match name, value? with
  | "self", _ => .error .unknownSetting
  | _, none => .ok c
  | "dot_command", some value => .ok { c with program := value }
  | "fontname", some value => .ok { c with font := value }
  | _, some _ => .error .unknownSetting

/-- The configuration after changes of its settings. -/
def override (c : Config) (changes : List (String × Option String)) : Except Failure Config :=
  changes.foldlM (fun c (name, value) => c.change name value) c

/-- The command that makes the layout program draw in a format. -/
def command (c : Config) (format : String) : List String :=
  [c.program, "-Gfontname=" ++ c.font, "-Nfontname=" ++ c.font, "-Efontname=" ++ c.font,
   "-T" ++ format]

end Config

end FlowAtlas.Layout
