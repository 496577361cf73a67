/-
**Definitions and configurations in a folder.**

Main definitions:

* `Folder.document` — the text of a file of limited size;
* `Folder.loadDefinition`, `Folder.loadDefinitions` — a definition from a file, and all definitions
  of a folder;
* `Folder.loadConfig` — a configuration from a file.
-/

import HttpProbe.Document.Config
import HttpProbe.Document.Definition
import HttpProbe.Folder.Search

set_option autoImplicit false
set_option relaxedAutoImplicit false

namespace HttpProbe.Folder

/-! ### Files -/

/-- The most octets that a document may have. -/
def documentLimit : Nat := 1048576

/-- Why a file gives no text. -/
inductive FileFault where
  | missing
  | tooLarge
  | isFolder
  | notText
  deriving DecidableEq, Repr

/-- The text of an entry. -/
def readEntry (e : Entry) : Except FileFault String :=
  match e with
  | .folder => .error .isFolder
  | .file content =>
    if documentLimit < content.length then .error .tooLarge
    else
      match Text.decode? content with
      | some cs => .ok (String.ofList cs)
      | none => .error .notText

/-- The text of the file that steps lead to. -/
def document (f : Folder) (steps : List String) : Except FileFault String :=
  match (f.locate? [] steps).bind f.entry? with
  | none => .error .missing
  | some e => readEntry e

/-- The fault of a check whose file gives no text, in the words of those who asked for it. -/
def FileFault.fault (missing tooLarge : Fault) : FileFault → Fault
  | .missing => missing
  | .tooLarge => tooLarge
  | .isFolder => .io "Is a directory"
  | .notText => .io "stream did not contain valid UTF-8"

/-! ### Definitions -/

/-- The fault of a file with a definition. -/
def definitionFault (shown : String) : FileFault → Fault :=
  FileFault.fault (.definition ("Definition file not found: " ++ shown))
    (.definition ("Definition exceeds 1MB limit: " ++ shown))

/-- The definition in the file that steps lead to.  Faults name the file as it is shown. -/
def definitionAt (f : Folder) (shown : String) (steps : List String) : Except Fault Definition :=
  match f.document steps with
  | .error e => .error (definitionFault shown e)
  | .ok text =>
    match Definition.read text with
    | .error e => .error (.definition (shown ++ ": " ++ e.message))
    | .ok d => .ok d

/-- The definition in a file. -/
def loadDefinition (f : Folder) (path : String) : Except Fault Definition :=
  f.definitionAt (f.shown path) (steps path)

/-- The definition in a file that was found. -/
def loadFound (f : Folder) (found : List String) : Except Fault Definition :=
  f.definitionAt (f.shown (Text.join separator found)) found

/-- What the names of files with definitions end in. -/
def endings : List String := [".yaml", ".yml"]

/-- The definitions in a folder, in the order of their paths.  There are none in a folder that is
missing. -/
def loadDefinitions (f : Folder) (path : String) : Except Fault (List Definition) :=
  if (f.locate? [] (steps path)).isNone then .ok []
  else
    match f.namedAny? path endings with
    | none => .error (.config ("Invalid glob pattern: " ++ f.shown path))
    | some found => (sortSteps found).mapM f.loadFound

/-! ### Configurations -/

/-- The fault of a file with a configuration. -/
def configFault (shown : String) : FileFault → Fault :=
  FileFault.fault (.config ("Config file not found: " ++ shown))
    (.config "Config file exceeds 1MB limit")

/-- The configuration in a file; it must be valid. -/
def loadConfig (f : Folder) (path : String) : Except Fault Config :=
  match f.document (steps path) with
  | .error e => .error (configFault (f.shown path) e)
  | .ok text => do
    let c ← Config.read text
    c.validate
    .ok c

end HttpProbe.Folder
