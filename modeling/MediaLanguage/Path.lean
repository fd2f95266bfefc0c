import MediaLanguage.Text.Lines

/-!
# Paths

A path is a count of leading slashes and a list of names. Reading a path drops empty names and the name `.`, so a
path prints in a normal form; the name `..` stays, because what it leads to depends on the file system.
`Path.normalize` takes it away all the same, for a path that starts at the root.
-/

namespace MediaLanguage

/-- A path of a file or directory. -/
structure Path where
  /-- Leading slashes: none for a relative path, one for an absolute path, or two, which some systems set apart. -/
  slashes : Nat
  parts : List String
deriving DecidableEq, Inhabited

namespace Path

/-- The path that a text writes. Three or more leading slashes are as good as one. -/
def ofString (s : String) : Path where
  slashes :=
    let n := (s.toList.takeWhile (· == '/')).length
    if n ≤ 2 then n else 1
  parts := ((Text.splitWhere (· == '/') s.toList).map String.ofList).filter fun name => name != "" && name != "."

/-- Whether a path starts at the root. -/
def isAbsolute (p : Path) : Bool :=
  p.slashes != 0

/-- The path `p` as seen from a directory. An absolute path stays as it is. -/
def join (directory p : Path) : Path :=
  if p.isAbsolute then p else { directory with parts := directory.parts ++ p.parts }

/-- The directory of a path. -/
def parent (p : Path) : Path :=
  { p with parts := p.parts.dropLast }

/-- The last name of a path, or nothing. -/
def name (p : Path) : String :=
  p.parts.getLast?.getD ""

/-- The last name without its ending: what stands before its last point, unless that is the first or the last
character of the name. -/
def stem (p : Path) : String :=
  let ending := p.name.toList.reverse.takeWhile (· != '.')
  let front := p.name.toList.take (p.name.length - ending.length - 1)
  if ending.isEmpty || front.isEmpty then p.name else String.ofList front

/-- The names after one more step: `..` takes the last name away. -/
def step (parts : List String) (name : String) : List String :=
  if name = ".." then parts.dropLast else parts ++ [name]

/-- The path without `..`. -/
def normalize (p : Path) : Path :=
  { p with parts := p.parts.foldl step [] }

/-- The text of a path; the empty path is the current directory. -/
def toString (p : Path) : String :=
  let text := String.ofList (List.replicate p.slashes '/') ++ String.intercalate "/" p.parts
  if text.isEmpty then "." else text

end Path

end MediaLanguage
