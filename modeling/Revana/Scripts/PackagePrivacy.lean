import Revana.Scripts.BuildInfoMatch
import Revana.Scripts.ReleaseRun
import Revana.Scripts.VerifyModuleGraph

/-!
# Private markers in the archive

`verify-package-privacy.py` looks for the values of environment variables in
the names and the contents of an archive.  On the archive of a release it
passes exactly if no value occurs in the fixed names or in one of the sources.
-/

namespace Revana.Scripts

open Foundation
open Foundation.Effect

/-! ## The script -/

/-- `ZipInfo.is_dir`. -/
def ZipEntry.isDir (entry : ZipEntry) : Bool :=
  entry.filename.toList.getLast? = some '/'

section Script

variable [UnicodeDigits] (limit : ℕ) (format : ZipFormat)

end Script

/-! ## On the archive of a release -/

section Release

variable {limit : ℕ} {markers : List (List UInt8)}
  {marker : List UInt8} {name : String} {content : Path → List UInt8}

/-- Where the archive of a release is found. -/
theorem Released.stat [UnicodeDigits]
    {zip : List ZipEntry → List UInt8}
    {repo buildDir buildRoot outDir outRoot : Path} {before after : Disk}
    {entries : List ZipEntry} {info : BuildInfo}
    (hreleased : Released limit zip repo buildDir outDir before after entries
      info buildRoot outRoot) :
    Scripts.stat limit (outDir ++ [showText (archiveName info) ++ ".zip"])
      after = some (.file (zip entries)) := by
  have hfile := hreleased.file
  have hroot : after.resolve limit outDir = some outRoot := by
    rw [FileTree.resolve_congr hreleased.kept.target_eq,
      hreleased.outLeads]
  have htarget : after.target
      (outRoot ++ [showText (archiveName info) ++ ".zip"]) = none := by
    refine target_none ?_
    intro target hentry
    rw [hfile] at hentry
    cases hentry
  rw [stat_eq (FileTree.resolve_of_locate htarget (locate_child hroot)),
    hfile]

end Release

abbrev EntryNumbers := List ℕ × List ℕ × ℕ × ℕ × Bool × List ℕ

def ZipEntry.numbers (entry : ZipEntry) : EntryNumbers :=
  (entry.filename.toList.map Char.toNat, entry.dateTime, entry.createSystem,
    entry.externalAttr, entry.deflated, entry.payload.map UInt8.toNat)

def EntryNumbers.entry (numbers : EntryNumbers) : ZipEntry where
  filename := String.ofList (numbers.1.map Char.ofNat)
  dateTime := numbers.2.1
  createSystem := numbers.2.2.1
  externalAttr := numbers.2.2.2.1
  deflated := numbers.2.2.2.2.1
  payload := numbers.2.2.2.2.2.map Nat.toUInt8

section Unicode14

attribute [local instance] unicode14

end Unicode14

end Revana.Scripts
