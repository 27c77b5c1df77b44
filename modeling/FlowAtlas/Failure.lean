import FlowAtlas.Json.Flaw
import FlowAtlas.Text.Blank
import FlowAtlas.Text.Quoted
import FlowAtlas.Text.Utf8

/-!
# Failures

Every operation that can fail gives its cause as a value. The causes are grouped by what went wrong:
a graph or a view without what a drawing needs, a document of the wrong layout, a target that names
no function, a layout program that failed, a request for an unknown format, a file. The wording of
each cause is fixed here.
-/

namespace FlowAtlas

open Text (quoted)

/-- The count of digits above which an integer is neither read nor written in decimal. -/
def digitLimit : Nat := 4300

/-- The count of levels above which neither a document nor a tree is gone through. -/
def levelLimit : Nat := 990

/-- Why a value is no integer. -/
inductive NumeralFlaw where
  | notALiteral (text : String)
  | tooManyDigits (count : Nat)
  | notANumber
  | infinite
  | wrongType (typeName : String)
  deriving DecidableEq, Repr

/-- Why a graph or a view cannot be shown as asked. -/
inductive GraphFlaw where
  | noStatements (block : Nat)
  | outsideOfTable (block : Nat) (first last : Int) (size : Nat)
  | unknownSuccessor (block : Nat) (succ : Int) (count : Nat)
  | noTree (name : String)
  | noBytecode (name : String)
  deriving DecidableEq, Repr

/-- Why a field of a statement cannot be read. -/
inductive FieldFlaw where
  | numeral (flaw : NumeralFlaw)
  | notIterable (typeName : String)
  deriving DecidableEq, Repr

/-- Why a document cannot be loaded. -/
inductive DocumentFlaw where
  | notJson (flaw : Json.Flaw)
  | unreadable (path reason : String)
  | partsMissing
  | partsNotLists
  | missingField (kind field : String)
  | badField (kind : String) (flaw : FieldFlaw)
  | unknownKind (literal : String)
  | badBlock (number : Nat)
  | badGraph (flaw : GraphFlaw)
  | treeNotLists
  | treeChild (flaw : NumeralFlaw)
  | treeSize (nodes blocks : Nat)
  | treeUnknownBlock
  | notATree
  deriving DecidableEq, Repr

/-- Why a module is not there: its own name or that of a parent is unknown, or the parent is no
package. -/
inductive ImportFlaw where
  | unknown (name : String)
  | notAPackage (name parent : String)
  deriving DecidableEq, Repr

/-- Why a target names no function. -/
inductive TargetFlaw where
  | malformed (target : String)
  | noFile (path : String)
  | notImported (name : String) (flaw : ImportFlaw)
  | noAttribute (name path : String)
  | notAFunction (target : String)
  deriving DecidableEq, Repr

/-- A failed run of the layout program: its command line, its exit status unless it could not be
started, and what it or the system said. -/
structure RunFlaw where
  command : List String
  status : Option Int
  complaint : String
  deriving DecidableEq, Repr

/-- Why a request cannot be served. -/
inductive RequestFlaw where
  | mediaType (name : String) (known : List String)
  | format (name : String)
  | suffix (name : String) (known : List String)
  | numeral (flaw : NumeralFlaw)
  | nullInPath
  | unencodable (run : Text.Utf8.SurrogateRun)
  /-- A method whose function takes no object. -/
  | noReceiver
  deriving DecidableEq, Repr

/-- Why a file cannot be opened. -/
inductive FileFlaw where
  | missing
  | isDirectory
  | notDirectory
  | nameTooLong
  deriving DecidableEq, Repr

/-- The cause of a failure. -/
inductive Failure where
  | graph (flaw : GraphFlaw)
  | document (flaw : DocumentFlaw)
  | target (flaw : TargetFlaw)
  | run (flaw : RunFlaw)
  | request (flaw : RequestFlaw)
  | encoding (fault : Text.Utf8.Fault)
  | file (flaw : FileFlaw)
  /-- A tree is drawn over a graph with another number of blocks. -/
  | treeMismatch (nodes blocks : Nat)
  /-- A statement or a block has no element with its number. -/
  | noSuchNumber
  /-- An infinite number stands for an integer, or a run is too long to be counted. -/
  | overflow
  /-- A tree or a document has more levels than can be gone through. -/
  | tooDeep
  /-- A jump target that cannot be looked up. -/
  | unhashable
  /-- A module name that begins with a full stop. -/
  | relativeModule
  /-- A package that does not list the places of its modules. -/
  | packagePath
  /-- An object without an attribute that is asked for. -/
  | noAttribute
  /-- Code of which the instructions are not known. -/
  | unknownCode
  /-- An object that cannot be called. -/
  | notCallable
  /-- A setting that does not exist. -/
  | unknownSetting
  /-- The layout program is given without a name. -/
  | noProgram
  /-- A drawing that draws nothing. -/
  | abstract
  deriving DecidableEq, Repr

/-- The value of a look-up that must succeed. -/
def found {α : Type} : Option α → Except Failure α
  | some x => .ok x
  | none => .error .noSuchNumber

/-- The wording of a count of digits above the limit. -/
def tooManyDigitsMessage (count : Nat) : String :=
  "Exceeds the limit (" ++ toString digitLimit ++
    " digits) for integer string conversion: value has " ++ toString count ++
    " digits; use sys.set_int_max_str_digits() to increase the limit"

def NumeralFlaw.message : NumeralFlaw → String
  | .notALiteral text =>
    "invalid literal for int() with base 10: " ++ String.ofList ((quoted text).toList.take 200)
  | .tooManyDigits count => tooManyDigitsMessage count
  | .notANumber => "cannot convert float NaN to integer"
  | .infinite => "cannot convert float infinity to integer"
  | .wrongType typeName =>
    "int() argument must be a string, a bytes-like object or a real number, not '" ++
      typeName ++ "'"

def GraphFlaw.message : GraphFlaw → String
  | .noStatements block => "block #" ++ toString block ++ " has no statements"
  | .outsideOfTable block first last size =>
    "block #" ++ toString block ++ " statements " ++ toString first ++ ":" ++ toString last ++
      " outside of a " ++ toString size ++ "-statement table"
  | .unknownSuccessor block succ count =>
    "block #" ++ toString block ++ " has successor #" ++ toString succ ++ ", graph has " ++
      toString count ++ " blocks"
  | .noTree name => "no dominator tree was provided for " ++ name
  | .noBytecode name => name ++ " was not read from Python bytecode"

def FieldFlaw.message : FieldFlaw → String
  | .numeral flaw => flaw.message
  | .notIterable typeName => "'" ++ typeName ++ "' object is not iterable"

def DocumentFlaw.message : DocumentFlaw → String
  | .notJson flaw => "not a JSON document: " ++ flaw.message
  | .unreadable path reason => "cannot read " ++ path ++ ": " ++ reason
  | .partsMissing => "IR document needs 'code' and 'blocks'"
  | .partsNotLists => "'code' and 'blocks' must be lists"
  | .missingField kind field => kind ++ " statement is missing field " ++ quoted field
  | .badField kind flaw => kind ++ " statement: " ++ flaw.message
  | .unknownKind literal => "unknown statement kind: " ++ literal
  | .badBlock number =>
    "block #" ++ toString number ++
      ": expected \x7b\"stmts\": [first, last], \"succs\": [...]\x7d"
  | .badGraph flaw => flaw.message
  | .treeNotLists => "domtree must be a list of child lists"
  | .treeChild flaw => "domtree children must be block numbers: " ++ flaw.message
  | .treeSize nodes blocks =>
    "domtree has " ++ toString nodes ++ " nodes for " ++ toString blocks ++ " blocks"
  | .treeUnknownBlock => "domtree refers to a block that does not exist"
  | .notATree => "domtree is not a tree rooted at block 1"

def ImportFlaw.message : ImportFlaw → String
  | .unknown name => "No module named " ++ quoted name
  | .notAPackage name parent =>
    "No module named " ++ quoted name ++ "; " ++ quoted parent ++ " is not a package"

def TargetFlaw.message : TargetFlaw → String
  | .malformed target =>
    "Expected module:function or file.py:function, got " ++ quoted target
  | .noFile path => "No such file: " ++ path
  | .notImported name flaw => "Cannot import " ++ name ++ ": " ++ flaw.message
  | .noAttribute name path => name ++ " has no attribute " ++ path
  | .notAFunction target => target ++ " is not a Python function"

/-- A complaint of blanks only is left out. -/
def RunFlaw.message (f : RunFlaw) : String :=
  let status := match f.status with
    | none => "could not be started"
    | some n => "exited with status " ++ toString n
  let complaint := Text.trimBlank f.complaint
  f.command.headD "" ++ " " ++ status ++ (if complaint.isEmpty then "" else ": " ++ complaint)

/-- The wording of lone surrogates in a text that is to be encoded. -/
def surrogatesMessage (run : Text.Utf8.SurrogateRun) : String :=
  let place :=
    if run.length = 1 then
      "character '\\u" ++ String.ofList (Text.hexDigits 4 run.codePoint) ++ "' in position " ++
        toString run.position
    else
      "characters in position " ++ toString run.position ++ "-" ++
        toString (run.position + run.length - 1)
  "'utf-8' codec can't encode " ++ place ++ ": surrogates not allowed"

def RequestFlaw.message : RequestFlaw → String
  | .mediaType name known =>
    "Unsupported media type: " ++ name ++ " (expected one of " ++ ", ".intercalate known ++ ")"
  | .format name => "Unsupported format: " ++ name
  | .suffix name known =>
    "Cannot tell the output format of " ++ name ++ "; use one of " ++ ", ".intercalate known
  | .numeral flaw => flaw.message
  | .nullInPath => "embedded null byte"
  | .unencodable run => surrogatesMessage run
  | .noReceiver => "invalid method signature"

def FileFlaw.message : FileFlaw → String
  | .missing => "No such file or directory"
  | .isDirectory => "Is a directory"
  | .notDirectory => "Not a directory"
  | .nameTooLong => "File name too long"

/-- The wording of the faulty bytes of a text. -/
def encodingMessage (fault : Text.Utf8.Fault) : String :=
  let place :=
    if fault.length = 1 then
      "byte 0x" ++ String.ofList (Text.hexDigits 2 fault.byte.toNat) ++ " in position " ++
        toString fault.position
    else
      "bytes in position " ++ toString fault.position ++ "-" ++
        toString (fault.position + fault.length - 1)
  let reason := match fault.reason with
    | .invalidStart => "invalid start byte"
    | .invalidContinuation => "invalid continuation byte"
    | .unexpectedEnd => "unexpected end of data"
  "'utf-8' codec can't decode " ++ place ++ ": " ++ reason

/-- The wording of a failure that is reported to the user; any other has none. -/
def Failure.message? : Failure → Option String
  | .graph flaw => some flaw.message
  | .document flaw => some flaw.message
  | .target flaw => some flaw.message
  | .run flaw => some flaw.message
  | .request flaw => some flaw.message
  | .encoding fault => some (encodingMessage fault)
  | _ => none

/-- The wording of a tree that does not fit its graph. -/
def treeMismatchMessage (nodes blocks : Nat) : String :=
  "dominator tree has " ++ toString nodes ++ " nodes for " ++ toString blocks ++ " blocks"

end FlowAtlas
