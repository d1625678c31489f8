import Booty.Lib.GoError
import Booty.Lib.GoFiles

namespace Booty.Espsync

open Booty.Lib
open Booty.Lib.Prog (fail handle each wrapErr ask withState deferred lift)

/-!
# Mirroring an EFI system partition

`copyTree` copies the source into a staging directory on the destination, removes what is stale
from the destination and moves the staged entries into place.  Every call on the file tree is a call
of the model, so a run can be interrupted after each of them.  Permission bits are left out.

* `copyDir` — the source into the staging directory.
* `pruneTree` — destination entries that are not staged.
* `syncTree` — prune, then install.
-/

/-- An error; the payload is the error of a cleanup after it. -/
abbrev EspError := GoError Errno Errno

/-- The programs of the package. -/
abbrev Esp := FileProg Unit EspError

/-- `fmt.Errorf("text: %w", err)`. -/
def wrapped (text : String) (e : Errno) : EspError := .wrap text (.sentinel e)

/-- The text of a relative path. -/
def relText (p : TreePath) : String := "/".intercalate p

/-- The text of a path. -/
def pathText (p : TreePath) : String := "/" ++ relText p

/-- The start of the names of staging directories. -/
def stagingPrefix : String := ".booty-esp-sync-staging-"

/-- The name of a staging directory. -/
def isStagingName (name : String) : Bool := stagingPrefix.toList.isPrefixOf name.toList

variable (H : Host)

/-! ### Roots and staging -/

variable (source destination : TreePath)

/-- `validateRoots`: the paths are absolute and clean; a directory is the same as another when both
    paths lead to the same place. -/
def validateRoots : Esp Unit :=
  if source = destination then fail (.new "source and destination are identical")
  else do
    let sourceKind ← wrapErr (wrapped "stat source") (H.stat source)
    let destinationKind ← wrapErr (wrapped "stat destination") (H.stat destination)
    if sourceKind ≠ .dir ∨ destinationKind ≠ .dir then
      fail (.new "source and destination must be directories")
    else do
      let sourceStat ← wrapErr (wrapped "validate ESP roots") (ask H.fails fun t => t.target source)
      let destinationStat ←
        wrapErr (wrapped "validate ESP roots") (ask H.fails fun t => t.target destination)
      if sourceStat = destinationStat then
        fail (.new "source and destination resolve to the same directory")
      else pure ()

/-- `cleanStaging`. -/
def cleanStaging (destination : TreePath) : Esp Unit := do
  let entries ← wrapErr (wrapped "ESP synchronization") (H.readDir destination)
  each (fun entry =>
    if entry.2 ≠ .dir ∨ ¬isStagingName entry.1 then pure ()
    else wrapErr (wrapped "ESP synchronization") (H.removeAll (destination ++ [entry.1]))) entries

/-! ### The source -/

/-- `copyFileFromRoot`; `rel` is the path below the root of the source. -/
def copyFileFromRoot (rel : TreePath) : Esp Unit := do
  let content ← wrapErr (wrapped ("open " ++ relText rel)) (H.readFile source)
  wrapErr (wrapped "ESP synchronization") (H.mkdirAll destination.dropLast ())
  wrapErr (wrapped ("create " ++ pathText destination)) (H.create destination ())
  each (fun piece => wrapErr (wrapped ("copy " ++ relText rel)) (H.extend destination piece))
    (H.pieces content)
  wrapErr (wrapped "ESP synchronization") H.settle
  wrapErr (wrapped "close ESP output") H.settle

/-- `copyEntry`. -/
def copyEntry (source target rel : TreePath) : Kind → Esp Unit
  | .file => copyFileFromRoot H source target rel
  | .dir => wrapErr (wrapped ("create ESP directory " ++ pathText target)) (H.mkdirAll target ())
  | .link => do
    let link ← wrapErr (wrapped ("read source symlink " ++ pathText source)) (H.readlink source)
    wrapErr (wrapped ("create symlink parent " ++ pathText target)) (H.mkdirAll target.dropLast ())
    wrapErr (wrapped ("create ESP symlink " ++ relText rel)) (H.symlink link target)

/-- What `copyDir` does for an entry of the walk; true skips the directory. -/
def copyVisit (source destination path : TreePath) (kind : Kind) : Esp Bool :=
  let rel := path.drop source.length
  if rel = [] then pure false
  else if kind = .dir ∧ rel.dropLast = [] ∧ isStagingName (rel.getLastD "") then pure true
  else do
    let info ← wrapErr (wrapped "ESP synchronization") (H.lstat path)
    copyEntry H path (destination ++ rel) rel info
    pure false

/-- `copyDir`. -/
def copyDir : Esp Unit := do
  wrapErr (wrapped "open source root") (H.openDir source)
  wrapErr (wrapped "open staged root") (H.openDir destination)
  wrapErr (GoError.wrap "walk source ESP")
    (H.walkDir GoError.sentinel (copyVisit H source destination) source)

/-! ### The destination -/

/-- `stagedEntryIsDir`, `isDirectory`. -/
def isDirectory (path : TreePath) : Esp Bool :=
  handle (H.stat path) (fun k => pure (k = .dir)) fun _ => pure false

/-- What `pruneTree` does for an entry that is not the staging directory. -/
def pruneEntry (prune : TreePath → TreePath → Esp Unit) (path stagedPath : TreePath)
    (kind : Kind) : Esp Unit :=
  handle (H.lstat stagedPath)
    (fun _ =>
      if kind = .dir then do
        let staged ← isDirectory H stagedPath
        if staged then wrapErr (GoError.wrap "ESP synchronization") (prune path stagedPath)
        else pure ()
      else pure ())
    fun e =>
      if e = .noent then
        wrapErr (wrapped ("remove stale ESP path " ++ pathText path)) (H.removeAll path)
      else fail (wrapped "ESP synchronization" e)

/-- `pruneTree`. -/
def pruneFrom : Nat → TreePath → TreePath → Esp Unit
  | 0, _, _ => lift (.fault .outOfFuel)
  | fuel + 1, destination, staged => do
    let entries ← wrapErr (wrapped "ESP synchronization") (H.readDir destination)
    each (fun entry =>
      if destination ++ [entry.1] = staged then pure ()
      else pruneEntry H (pruneFrom fuel) (destination ++ [entry.1]) (staged ++ [entry.1]) entry.2)
      entries

/-- `pruneTree`. -/
def pruneTree (destination staged : TreePath) : Esp Unit :=
  withState fun t => pruneFrom H (t.height + 1) destination staged

/-- `replacePath`. -/
def replacePath (destination staged : TreePath) : Esp Unit := do
  wrapErr (wrapped "ESP synchronization") (H.mkdirAll destination.dropLast ())
  handle (H.rename staged destination) pure fun e => do
    let dir ← isDirectory H destination
    if !dir then fail (wrapped "ESP synchronization" e)
    else do
      wrapErr (wrapped "ESP synchronization") (H.removeAll destination)
      wrapErr (wrapped "install staged ESP path") (H.rename staged destination)

/-- The directory at a path, after what else was there. -/
def installDir (target : TreePath) : Esp Unit := do
  handle (H.lstat target)
    (fun k =>
      if k ≠ .dir then wrapErr (wrapped "ESP synchronization") (H.removeAll target) else pure ())
    fun e => if e = .noent then pure () else fail (wrapped "ESP synchronization" e)
  wrapErr GoError.sentinel (H.mkdirAll target ())

/-- What `syncTree` does for an entry of the walk. -/
def installVisit (staged destination path : TreePath) (kind : Kind) : Esp Bool :=
  let rel := path.drop staged.length
  if rel = [] then pure false
  else do
    if kind = .dir then installDir H (destination ++ rel)
    else wrapErr (GoError.wrap "ESP synchronization") (replacePath H (destination ++ rel) path)
    pure false

/-- `syncTree`. -/
def syncTree (staged destination : TreePath) : Esp Unit := do
  wrapErr (GoError.wrap "ESP synchronization") (pruneTree H destination staged)
  wrapErr (GoError.wrap "ESP synchronization")
    (H.walkDir GoError.sentinel (installVisit H staged destination) staged)

/-! ### The whole copy -/

/-- A step of `CopyTree` that removes the staging directory when it fails. -/
def orCleanup (staged : TreePath) (text : String) (m : Esp Unit) : Esp Unit :=
  handle m pure fun err =>
    handle (H.removeAll staged) (fun _ => fail (.wrap "ESP synchronization" err))
      fun cleanupErr => fail (.typed cleanupErr (.wrap (text ++ ": %w (cleanup staging: %w)") err))

/-- `CopyTree`. -/
def copyTree : Esp Unit := do
  wrapErr (GoError.wrap "ESP synchronization") (validateRoots H source destination)
  wrapErr (GoError.wrap "clean stale staging") (cleanStaging H destination)
  let name ← wrapErr (wrapped "create staging") (H.mkdirTemp destination stagingPrefix ())
  let staged := destination ++ [name]
  deferred
    (do
      orCleanup H staged "copy source" (copyDir H source staged)
      orCleanup H staged "sync destination" (syncTree H staged destination)
      wrapErr (wrapped "remove staging") (H.removeAll staged))
    (H.removeAll staged)

end Booty.Espsync
