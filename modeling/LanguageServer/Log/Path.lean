/-! The paths of log files. A path is taken apart at its slashes. Empty parts and parts that are a single
    dot do not count, except at the start; the last part that counts is the name, unless it leads
    upwards. -/

namespace LanguageServer.Log.Path

/-- The parts of a path between its slashes. -/
def split (path : List Char) : List (List Char) := path.splitOn '/'

/-- A part that does not count. -/
def isIdle (part : List Char) : Bool := part == [] || part == ['.']

/-- The parts up to the last one that counts. -/
def trimParts (parts : List (List Char)) : List (List Char) :=
  (parts.reverse.dropWhile isIdle).reverse

/-- The parts with slashes between them. -/
def join (parts : List (List Char)) : List Char := List.intercalate ['/'] parts

/-- A path as its start (the root, the current directory, or nothing) and the parts behind. -/
def parts (path : List Char) : List Char × List (List Char) :=
  match split path with
  | [] :: rest => if rest.isEmpty then ([], []) else (['/'], trimParts rest)
  | ['.'] :: rest => (['.'], trimParts rest)
  | all => ([], trimParts all)

/-- The directory of a path and its name, if it has one. -/
def splitName? (path : List Char) : Option (List Char × List Char) :=
  match parts path with
  | (start, all) =>
    match all.reverse with
    | [] => none
    | name :: before =>
      if name = ['.', '.'] then none
      else
        let inner := trimParts before.reverse
        some
          (if inner.isEmpty then start
            else if start = [] ∨ start = ['/'] then start ++ join inner
            else start ++ '/' :: join inner, name)

/-- A name before its last dot and behind it. A dot at the start belongs to the name. -/
def splitExtension (name : List Char) : List Char × Option (List Char) :=
  match name.reverse.dropWhile (· ≠ '.') with
  | [] => (name, none)
  | _ :: stem =>
    if stem.isEmpty then (name, none)
    else (stem.reverse, some (name.reverse.takeWhile (· ≠ '.')).reverse)

/-- The path with a mark before the extension of its name. A path without a name stays as it is. -/
def mark (path mark : String) : String :=
  match splitName? path.toList with
  | none => path
  | some (directory, name) =>
    let marked :=
      match splitExtension name with
      | (stem, some (c :: extension)) => stem ++ '.' :: mark.toList ++ '.' :: c :: extension
      | (stem, _) => stem ++ '.' :: mark.toList
    let separator := if directory.isEmpty || directory.getLast? == some '/' then [] else ['/']
    String.ofList (directory ++ separator ++ marked)

example : mark "/tmp/logs/replay.log" "7" = "/tmp/logs/replay.7.log" := by decide +kernel
example : mark "a.tar.gz" "7" = "a.tar.7.gz" := by decide +kernel
example : mark ".hidden" "7" = ".hidden.7" := by decide +kernel
example : mark "dir/" "7" = "dir.7" := by decide +kernel
example : mark "./x//y." "7" = "./x/y.7" := by decide +kernel
example : mark "a/.." "7" = "a/.." := by decide +kernel

end LanguageServer.Log.Path
