import Formwork.Text.Class

/-! # Files

What a path leads to, the text of a file, and the normal spelling of a path.
-/

namespace Formwork

/-- What stands at a path. -/
inductive FileContent where
  | absent
  | directory
  | bytes (content : ByteArray)
  deriving Inhabited

/-- Why a path gives no text. -/
inductive FileFault where
  | absent
  | isDirectory
  | notUtf8
  deriving Repr, DecidableEq

namespace FileContent

/-- Whether something stands at the path. -/
def isPresent : FileContent → Bool
  | .absent => false
  | _ => true

def text : FileContent → Except FileFault String
  | .absent => .error .absent
  | .directory => .error .isDirectory
  | .bytes content => match String.fromUTF8? content with
      | some text => .ok text
      | none => .error .notUtf8

end FileContent

namespace Path

def splitSlashes (path : List Char) : List (List Char) :=
  path.foldr (fun c parts => match parts with
    | part :: rest => if c == '/' then [] :: part :: rest else (c :: part) :: rest
    | [] => [[c]]) [[]]

/-- The root that a path starts from: two slashes keep both, more count as one. -/
def root : List Char → List Char
  | '/' :: '/' :: '/' :: _ => ['/']
  | '/' :: '/' :: _ => ['/', '/']
  | '/' :: _ => ['/']
  | _ => []

/-- A path without doubled slashes, dots and a slash at its end. The empty path is a dot. -/
def normal (path : String) : String :=
  let parts := (splitSlashes path.toList).filter fun part => part != [] && part != ['.']
  let joined := root path.toList ++ (List.intersperse ['/'] parts).flatten
  if joined.isEmpty then "." else String.ofList joined

end Path

end Formwork
