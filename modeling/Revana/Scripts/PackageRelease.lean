import Mathlib.Data.String.Basic
import Revana.Foundation.FileWrites
import Revana.Scripts.BuildInfo
import Revana.Scripts.SafeStage

/-!
# Packaging a release

`main` of `package.py` on a disk: the record is read, the stage is made anew,
the release files and the documents are copied into it, and the archive is
written from the stage.
-/

namespace Revana.Scripts

open Foundation
open Foundation.Effect

/-! ## Files -/

section Files

variable (limit : ℕ)

def fileContent (path : Path) (disk : Disk) : Option (List UInt8) :=
  match stat limit path disk with
  | some (.file content) => some content
  | _ => none

def readBytes (path : Path) : DiskEffect (List UInt8) :=
  need (fileContent limit path) .exception

def writeBytes (path : Path) (content : List UInt8) : DiskEffect Unit :=
  change (fun disk => (disk.resolve limit path).bind fun place =>
    disk.write place content) .exception

def regularFile (path : Path) (label : String) : DiskEffect Unit := do
  failIf (← isReparsePoint limit path)
    (.systemExit ("error: reparse point is not allowed: " ++ label))
  failIf (!(← isFile limit path))
    (.systemExit ("error: required file is missing: " ++ label))

/-- `os.path.samefile`, false where one of them is missing. -/
def sameFile (source destination : Path) (disk : Disk) : Bool :=
  match disk.resolve limit source, disk.resolve limit destination with
  | some place, some other => place = other && (disk.entry place).isSome
  | _, _ => false

/-- `shutil.copyfile`. -/
def copyFile (source destination : Path) : DiskEffect Unit := do
  failIf (← inspect (sameFile limit source destination)) .exception
  let content ← readBytes limit source
  writeBytes limit destination content

def copyRegularFile (source destination : Path) (label : String) :
    DiskEffect Unit := do
  regularFile limit source label
  mkdirParents limit destination.dropLast.reverse
  copyFile limit source destination

/-! ## The record -/

def buildInfoFile (path : Path) (disk : Disk) : BuildInfoFile :=
  match lstat limit path disk with
  | some (.reparsePoint _) => .reparsePoint
  | _ =>
      match fileContent limit path disk with
      | some raw => .regular raw
      | none => .missing

/-- `read_build_info` on the disk. -/
def readRecord [UnicodeDigits] (buildDir : Path) :
    DiskEffect (BuildInfo × List UInt8) := do
  let file ← inspect (buildInfoFile limit
    (buildDir ++ ["revana-build-info.json"]))
  let raw ← ofExcept (readRegular file)
  let info ← ofExcept (readBuildInfo file)
  return (info, raw)

/-! ## Staging -/

def releaseFiles : List String :=
  ["revana.exe", "revana_FFXi.dll", "revana_FFXiMain.dll",
    "revana_PolCoreContent.dll", "revana_patch.dll", "revana_hooks.dll",
    "rexruntime.dll", "rexgpu-xenos.dll"]

/-- The loop over the release files, which returns the missing ones. -/
def stageRelease (buildDir stage : Path) :
    List String → DiskEffect (List String)
  | [] => return []
  | relative :: rest => do
      let source := buildDir ++ [relative]
      if (← isReparsePoint limit source) || !(← isFile limit source) then
        return showPath source :: (← stageRelease buildDir stage rest)
      else do
        copyRegularFile limit source (stage ++ [relative]) relative
        stageRelease buildDir stage rest

def stageDocuments (repo stage : Path) : DiskEffect Unit := do
  copyRegularFile limit (repo ++ ["scripts", "packaging", "README.txt"])
    (stage ++ ["README.txt"]) "README.txt"
  copyRegularFile limit (repo ++ ["LICENSE"]) (stage ++ ["LICENSE.txt"])
    "LICENSE"
  copyRegularFile limit (repo ++ ["REXGLUE-LICENSE.txt"])
    (stage ++ ["licenses", "REXGLUE-LICENSE.txt"])
    "licenses/REXGLUE-LICENSE.txt"

def forbiddenInputSuffixes : List Text :=
  [".dat", ".iso", ".log", ".sve", ".trace", ".xex", ".xexp"].map
    String.toList

/-- `PurePath.suffix`. -/
def suffixOf (name : Text) : Text :=
  let tail := (name.reverse.takeWhile (· ≠ '.')).reverse
  if '.' ∈ name ∧ tail ≠ [] ∧ tail.length + 1 < name.length then '.' :: tail
  else []

/-- `path.rglob("*")`. -/
def descendants (path : Path) (disk : Disk) : List Path :=
  match disk.resolve limit path with
  | none => []
  | some place =>
      (disk.entries.keys.filter fun key =>
        place.isPrefixOf key && key ≠ place).map
          fun key => path ++ key.drop place.length

def checkStaged (lower : StrLower) (staged : Path) : DiskEffect Unit := do
  failIf (← isReparsePoint limit staged)
    (.systemExit ("error: reparse point staged: " ++ showPath staged))
  let suffix := lower.lower (suffixOf (staged.getLastD "").toList)
  failIf ((← isFile limit staged) && suffix ∈ forbiddenInputSuffixes)
    (.systemExit ("error: forbidden file staged: " ++ showPath staged))

/-! ## The archive -/

structure ZipEntry where
  filename : String
  dateTime : List ℕ
  createSystem : ℕ
  externalAttr : ℕ
  deflated : Bool
  payload : List UInt8
  deriving DecidableEq, Repr

/-- `S_IFDIR | 0o755`, shifted. -/
def zipDirectory (filename : String) : ZipEntry where
  filename := filename
  dateTime := [1980, 1, 1, 0, 0, 0]
  createSystem := 0
  externalAttr := (0x4000 ||| 0x1ED) <<< 16
  deflated := false
  payload := []

/-- `S_IFREG | 0o644`, shifted. -/
def zipFile (filename : String) (payload : List UInt8) : ZipEntry where
  filename := filename
  dateTime := [1980, 1, 1, 0, 0, 0]
  createSystem := 0
  externalAttr := (0x8000 ||| 0x1A4) <<< 16
  deflated := true
  payload := payload

/-- The paths in the stage that are archived, in the order of
`PurePosixPath`. -/
def archivedPaths : List Path :=
  (releaseFiles.map (fun relative => [relative]) ++
    [["build-info.json"], ["LICENSE.txt"], ["README.txt"],
      ["licenses", "REXGLUE-LICENSE.txt"]]).insertionSort (· ≤ ·)

def posix (relative : Path) : String := "/".intercalate relative

/-- The loop over the entries.  The archive is at each point what closing it
there makes of it. -/
def writeEntries (zip : List ZipEntry → List UInt8)
    (archive stage : Path) (name : String) :
    List Path → List ZipEntry → DiskEffect (List ZipEntry)
  | [], written => return written
  | relative :: rest, written => do
      let source := stage ++ relative
      regularFile limit source (posix relative)
      let payload ← readBytes limit source
      let written :=
        written ++ [zipFile (name ++ "/" ++ posix relative) payload]
      writeBytes limit archive (zip written)
      writeEntries zip archive stage name rest written

def writeZip (zip : List ZipEntry → List UInt8)
    (archive stage : Path) (name : String) : DiskEffect (List ZipEntry) := do
  writeBytes limit archive (zip [])
  let written := [zipDirectory (name ++ "/")]
  writeBytes limit archive (zip written)
  let written ← writeEntries limit zip archive stage name archivedPaths written
  let written := written ++ [zipDirectory (name ++ "/game/")]
  writeBytes limit archive (zip written)
  return written

/-! ## The program -/

def showText (text : CodePoints) : String :=
  String.ofList (text.map Char.ofNat)

/-- The part of `main` that fills the stage. -/
def fillStage (repo buildDir stage : Path) (info : BuildInfo)
    (raw : List UInt8) : DiskEffect Unit := do
  let missing ← stageRelease limit buildDir stage releaseFiles
  failIf (!missing.isEmpty)
    (.systemExit ("error: missing Release binaries:\n  " ++
      "\n  ".intercalate missing))
  let summary ← ofExcept (encodeAscii (buildInfoSummary info))
  let executable ← readBytes limit (buildDir ++ ["revana.exe"])
  failIf (!decide (summary <:+: executable))
    (.systemExit "error: executable and build info differ")
  stageDocuments limit repo stage
  writeBytes limit (stage ++ ["build-info.json"]) raw
  mkdir limit false (stage ++ ["game"])

/-- The part of `main` that checks the stage and archives it. -/
def archiveStage (lower : StrLower) (zip : List ZipEntry → List UInt8)
    (outDir stage : Path) (name : String) : DiskEffect (List ZipEntry) := do
  (← inspect (descendants limit stage)).forM (checkStaged limit lower)
  mkdirParents limit outDir.reverse
  let archive := outDir ++ [name ++ ".zip"]
  failIf (← isReparsePoint limit archive)
    (.systemExit ("error: archive path is a reparse point: " ++
      showPath archive))
  writeZip limit zip archive stage name

/-- `main`, given the root of the repository and the two directories of the
command line.  What was archived is returned besides. -/
def packageRelease [UnicodeDigits] (lower : StrLower)
    (zip : List ZipEntry → List UInt8) (repo buildDir outDir : Path) :
    DiskEffect (List ZipEntry) := do
  failIf ((← isReparsePoint limit buildDir) || !(← isDir limit buildDir))
    (.systemExit ("error: Release build directory is missing or a reparse " ++
      "point: " ++ showPath buildDir))
  let buildDir ← resolvePath limit buildDir
  let (info, raw) ← readRecord limit buildDir
  let name := showText (archiveName info)
  let stage ← safeStage limit outDir name
  fillStage limit repo buildDir stage info raw
  archiveStage limit lower zip outDir stage name

end Files

end Revana.Scripts
