import Formwork.Config
import Formwork.Toml.Parser

/-! # Configuration files

The settings for forms stand in a section of a TOML document. Where the file or the
section is missing, the defaults hold.
-/

namespace Formwork.Config

/-- Why a configuration file gives no settings. -/
inductive Fault where
  /-- The path leads to a directory. -/
  | isDirectory
  /-- The file holds no text. -/
  | notText
  /-- The text is no TOML document. -/
  | malformed
  | invalid (issues : List Issue)
  deriving Repr, DecidableEq

def sectionName : String := "forms"

/-- The section of a file, when there is a file; a document without the section has an
    empty one. -/
def sectionOf (file : FileContent) : Except Fault (Option Value) :=
  match file.text with
  | .error .absent => .ok none
  | .error .isDirectory => .error .isDirectory
  | .error .notUtf8 => .error .notText
  | .ok text => match Toml.parse? text.toList with
      | none => .error .malformed
      | some document => .ok (some ((document.get? sectionName).getD (.object [])))

def load (file : FileContent) : Except Fault Config := do
  match ← sectionOf file with
  | none => return {}
  | some part =>
      if part.truthy then
        match ofValue part with
        | .read config => return config
        | .refused issues => throw (.invalid issues)
      else return {}

def loadNotices (file : FileContent) : List Notice :=
  match sectionOf file with
  | .ok (some part) => if part.truthy then [] else [.noSettings]
  | _ => []

end Formwork.Config
