import Cutscene.Text.Encoding

/-!
Paths of files, and a directory of files.
-/

namespace Cutscene.App

namespace Path

/-- The names along a path. Empty ones, and single periods, lead nowhere else. -/
def names (path : Text) : List Text :=
  (path.splitOn '/').filter fun name => !name.isEmpty && name ≠ ['.']

/-- The slashes that an absolute path starts with: two if there are just two, else one. -/
def root : Text → Text
  | ['/', '/'] => ['/', '/']
  | '/' :: '/' :: c :: _ => if c = '/' then ['/'] else ['/', '/']
  | '/' :: _ => ['/']
  | _ => []

def shown (path : Text) : Text :=
  match root path ++ ['/'].intercalate (names path) with
  | [] => ['.']
  | t => t

end Path

/-- Files by their names. -/
abbrev Directory := List (Text × Bytes)

/-- The file that a path leads to from the directory: one name, and no root before it. A slash after
the name makes no difference. -/
def Directory.file? (d : Directory) (path : Text) : Option Bytes :=
  match Path.root path, Path.names path with
  | [], [name] => d.lookup name
  | _, _ => none

end Cutscene.App
