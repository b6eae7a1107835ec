import NameTables.Script.Utility.Copying

/-!
# Where paths lead

The programs that tell what a link says, and the path of a place without any links in it.

## Main definitions

* `realPlace` — the place that a path leads to, of which more or less has to be there.
* `pathBetween` — the path from one place to another.
* `tellLink`, `tellRealPath` — the programs.
-/

namespace NameTables.Script.Utility

open Shell (path)

/-- How much of a path has to be there. -/
inductive Presence
  /-- All of it. -/
  | all
  /-- All but the last part. -/
  | mostly
  /-- Nothing. -/
  | none_
  deriving DecidableEq

/-- The place that a path leads to. -/
def realPlace (fs : Files) (presence : Presence) (p : Text) : Except IoFault Place :=
  let trimmed := withoutSlashes p
  match presence with
  | .all => do
    let place ← fs.locate (path p)
    if (fs.node? place).isSome then return place else throw .notFound
  | .mostly => do
    if p.isEmpty then throw .notFound
    let place ← fs.locate (path trimmed)
    -- what is no directory has no slash behind it
    if trimmed.length < p.length && (fs.node? place).any (!·.isDirectory) then throw .notDirectory
    return place
  | .none_ =>
    if p.isEmpty then .error .notFound
    else
      let start : Place := if p.head? = some '/' then [] else fs.here
      .ok ((splitAt (· = '/') (ofOctets p)).foldl (fun place part =>
        if part.isEmpty || part = ['.'] then place
        else if part = ['.', '.'] then place.tail
        else
          -- links are followed as far as there are any
          let next := part :: place
          match fs.node? next with
          | some (.link _) => (fs.locate (Files.pathOf next)).toOption.getD next
          | _ => next) start)

/-- The path of a place, in octets. -/
def placeText (place : Place) : Text := octets (Files.pathOf place).text

/-- Tell what links say, or where paths lead. -/
def tellLink : Utility :=
  Usage.program ⟨"femnqsvz", "", [("canonicalize", 'f'), ("canonicalize-existing", 'e'),
    ("canonicalize-missing", 'm'), ("no-newline", 'n'), ("quiet", 'q'), ("silent", 's'),
    ("verbose", 'v'), ("zero", 'z')]⟩ fun options names => do
    let last := ((options.map Prod.fst).filter (· ∈ ['f', 'e', 'm'])).getLast?
    let stop : Text :=
      if isGiven 'n' options && names.length = 1 then []
      else if isGiven 'z' options then ['\x00'] else ['\n']
    if names.isEmpty then modify (·.misuse "missing operand".toList)
    else
      for name in names do
        let s ← get
        let found : Except IoFault Text :=
          match last with
          | some 'f' => (realPlace s.files .mostly name).map placeText
          | some 'e' => (realPlace s.files .all name).map placeText
          | some _ => (realPlace s.files .none_ name).map placeText
          | none => do
            let place ← s.files.locateLink (path name)
            match s.files.node? place with
            | some (.link target) => return octets target
            | some _ => throw .invalid
            | none => throw .notFound
        match found with
        | .ok text => Run.print (text ++ stop)
        | .error fault =>
          if isGiven 'v' options then Run.fail (asShellWord name ++ ": ".toList ++ fault.reason)
          else modify (·.withStatus 1)

/-- The path from one place to another. -/
def pathBetween (base goal : Place) : Text :=
  let (a, b) := (base.reverse.map octets, goal.reverse.map octets)
  let common := ((a.zip b).takeWhile fun (x, y) => x = y).length
  let parts := List.replicate (a.length - common) "..".toList ++ b.drop common
  if parts.isEmpty then ['.'] else Text.join ['/'] parts

/-- Tell where paths lead. -/
def tellRealPath : Utility :=
  Usage.program ⟨"emqsPLz", "tb", [("canonicalize-existing", 'e'), ("canonicalize-missing", 'm'),
    ("quiet", 'q'), ("strip", 's'), ("no-symlinks", 's'), ("zero", 'z'), ("physical", 'P'),
    ("logical", 'L'), ("relative-to", 't'), ("relative-base", 'b')]⟩ fun options names => do
    let presence : Presence :=
      if isGiven 'e' options then .all else if isGiven 'm' options then .none_ else .mostly
    let stop := if isGiven 'z' options then '\x00' else '\n'
    if names.isEmpty then modify (·.misuse "missing operand".toList)
    else
      for name in names do
        let s ← get
        let found := realPlace s.files (if isGiven 's' options then .none_ else presence) name
        let base := (wordOf? 't' options).bind fun p => (realPlace s.files presence p).toOption
        match found, base with
        | .ok place, some base => Run.print (pathBetween base place ++ [stop])
        | .ok place, none => Run.print (placeText place ++ [stop])
        | .error fault, _ =>
          if isGiven 'q' options then modify (·.withStatus 1)
          else Run.fail (asShellWord name ++ ": ".toList ++ fault.reason)

end NameTables.Script.Utility
