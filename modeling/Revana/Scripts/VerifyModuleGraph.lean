import Revana.Foundation.Checks
import Revana.Foundation.LexicalPath
import Revana.Scripts.Python

/-!
# The module graph check

`verify-module-graph.py` accepts a parsed title manifest.  Its containment
test looks at the first part of a path only, so an accepted path may climb
back out by `..` or end at the root itself.
-/

namespace Revana.Scripts

open Foundation

/-! ## Paths -/

/-- `path.replace("\\", "/")`. -/
def replaceBackslashes (path : Text) : Text :=
  path.map fun char => if char = '\\' then '/' else char

def beneath (str : StrLower) (path root : Text) : Bool :=
  match parts (replaceBackslashes path) with
  | [] => false
  | first :: _ => str.lower first = root

/-! ## Manifests -/

/-- A parsed value; integers, floats, booleans, dates and times are scalars. -/
inductive Toml where
  | string (value : Text)
  | scalar (source : Text)
  | array (elements : List Toml)
  | table (entries : List (Text × Toml))

namespace Toml

/-- `value.get(key)`, which only a table has. -/
def get (value : Toml) (key : String) : Except Failure (Option Toml) :=
  match value with
  | table entries => .ok (entries.lookup key.toList)
  | _ => .error .exception

def getOr (value : Toml) (key : String) (fallback : Toml) :
    Except Failure Toml := do
  let found ← value.get key
  return found.getD fallback

def asText : Toml → Except Failure Text
  | string value => .ok value
  | _ => .error .exception

def getText (value : Toml) (key : String) : Except Failure Text := do
  let found ← value.getOr key (string [])
  found.asText

def iterate : Toml → Except Failure (List Toml)
  | string value => .ok (value.map fun char => string [char])
  | array elements => .ok elements
  | table entries => .ok (entries.map fun entry => string entry.1)
  | scalar _ => .error .exception

def isText (value : Option Toml) (text : String) : Bool :=
  match value with
  | some (string found) => found = text.toList
  | _ => false

end Toml

def expectedModules : List Text :=
  ["polcorecontent.xex".toList, "ffxi.dll".toList, "ffximain.dll".toList,
    "patch.xex".toList]

def guestName (str : StrLower) (module : Toml) : Except Failure Text := do
  let path ← module.getText "guest_path"
  return str.lower path

def checkModule (str : StrLower) (module : Toml) : Except Failure Unit := do
  let file ← module.getText "file_path"
  require (beneath str file "game".toList = true)
    (.systemExit "every module input must be beneath game/")
  let out ← module.getText "out_directory_path"
  require (beneath str out "generated".toList = true)
    (.systemExit "every module output must be beneath generated/")

/-- `main` from the names of the manifests it finds and the parsed one. -/
def main (str : StrLower) (manifests : List Text) (data : Toml) :
    Except Failure Unit := do
  require (manifests = ["revana_manifest.toml".toList])
    (.systemExit "revana_manifest.toml must be the only title manifest")
  let project ← data.getOr "project" (.table [])
  let name ← project.get "name"
  require (Toml.isText name "revana" = true)
    (.systemExit "manifest project name must be revana")
  let entrypoint ← data.getOr "entrypoint" (.table [])
  let file ← entrypoint.getText "file_path"
  require (str.lower (nameOf file) = "gameexeccontent0001.xex".toList)
    (.systemExit "manifest must have one GameExecContent0001 entrypoint")
  require (beneath str file "game".toList = true)
    (.systemExit "entrypoint must read beneath game/")
  let out ← entrypoint.getText "out_directory_path"
  require (beneath str out "generated".toList = true)
    (.systemExit "entrypoint output must be beneath generated/")
  let modules ← data.getOr "modules" (.array [])
  let elements ← modules.iterate
  let names ← elements.mapM (guestName str)
  require (elements.length = 4 ∧
      names.toFinset = expectedModules.toFinset)
    (.systemExit "manifest companion module graph is not exact")
  checkAll (checkModule str) elements

/-! ## What is accepted -/

def textAt (value : Toml) (key : String) : Text :=
  match value.getText key with
  | .ok text => text
  | .error _ => []

def entrypointOf (data : Toml) : Toml :=
  match data.getOr "entrypoint" (.table []) with
  | .ok entrypoint => entrypoint
  | .error _ => .table []

def modulesOf (data : Toml) : List Toml :=
  match data.getOr "modules" (.array []) >>= Toml.iterate with
  | .ok modules => modules
  | .error _ => []

def guestPaths (data : Toml) : List Text :=
  (modulesOf data).map fun module => textAt module "guest_path"

def inputPaths (data : Toml) : List Text :=
  (entrypointOf data :: modulesOf data).map fun value =>
    textAt value "file_path"

def outputPaths (data : Toml) : List Text :=
  (entrypointOf data :: modulesOf data).map fun value =>
    textAt value "out_directory_path"

section Accepted

variable {str : StrLower} {manifests : List Text} {data : Toml}

theorem textAt_of_getText
    {value : Toml} {key : String} {text : Text}
    (htext : value.getText key = .ok text) :
    textAt value key = text := by
  unfold textAt
  rw [htext]

theorem guestName_ok
    {module : Toml} {name : Text} (hname : guestName str module = .ok name) :
    name = str.lower (textAt module "guest_path") := by
  obtain ⟨path, hpath, hlower⟩ := bind_eq_ok.mp hname
  rw [textAt_of_getText hpath]
  exact (Except.ok.inj hlower).symm

theorem lower_guestNames
    {elements : List Toml} {names : List Text}
    (hnames : List.Forall₂
      (fun module name => guestName str module = .ok name) elements names) :
    elements.map (fun module => str.lower (textAt module "guest_path")) =
      names := by
  induction hnames with
  | nil => rfl
  | cons hname hrest ih => rw [List.map_cons, ih, guestName_ok hname]

theorem checkModule_ok
    {module : Toml} (hmodule : checkModule str module = .ok ()) :
    beneath str (textAt module "file_path") "game".toList = true ∧
      beneath str (textAt module "out_directory_path") "generated".toList =
        true := by
  obtain ⟨file, hfile, hmodule⟩ := bind_eq_ok.mp hmodule
  obtain ⟨_, hinput, hmodule⟩ := bind_eq_ok.mp hmodule
  obtain ⟨out, hout, houtput⟩ := bind_eq_ok.mp hmodule
  rw [textAt_of_getText hfile, textAt_of_getText hout]
  exact ⟨require_eq_ok.mp hinput, require_eq_ok.mp houtput⟩

/-- Four names that make up the expected set are the expected names, each
once. -/
theorem perm_expectedModules
    {names : List Text} (hlength : names.length = 4)
    (hnames : names.toFinset = expectedModules.toFinset) :
    names.Perm expectedModules := by
  have hexpected : expectedModules.Nodup := by decide
  have hcard : names.toFinset.card = names.length := by
    rw [hnames, hlength]
    decide
  have hnodup : names.Nodup :=
    Multiset.toFinset_card_eq_card_iff_nodup.mp hcard
  exact List.perm_of_nodup_nodup_toFinset_eq hnodup hexpected hnames

/-- What an accepted manifest has passed. -/
structure Passed (str : StrLower) (data : Toml) : Prop where
  modules : ((guestPaths data).map str.lower).Perm expectedModules
  inputs : ∀ path ∈ inputPaths data, beneath str path "game".toList = true
  outputs : ∀ path ∈ outputPaths data,
    beneath str path "generated".toList = true

theorem main_passed (haccepts : main str manifests data = .ok ()) :
    Passed str data := by
  obtain ⟨_, -, hmain⟩ := bind_eq_ok.mp haccepts
  obtain ⟨project, -, hmain⟩ := bind_eq_ok.mp hmain
  obtain ⟨name, -, hmain⟩ := bind_eq_ok.mp hmain
  obtain ⟨_, -, hmain⟩ := bind_eq_ok.mp hmain
  obtain ⟨entrypoint, hentrypoint, hmain⟩ := bind_eq_ok.mp hmain
  obtain ⟨file, hfile, hmain⟩ := bind_eq_ok.mp hmain
  obtain ⟨_, -, hmain⟩ := bind_eq_ok.mp hmain
  obtain ⟨_, hinput, hmain⟩ := bind_eq_ok.mp hmain
  obtain ⟨out, hout, hmain⟩ := bind_eq_ok.mp hmain
  obtain ⟨_, houtput, hmain⟩ := bind_eq_ok.mp hmain
  obtain ⟨modules, hmodules, hmain⟩ := bind_eq_ok.mp hmain
  obtain ⟨elements, helements, hmain⟩ := bind_eq_ok.mp hmain
  obtain ⟨names, hnames, hmain⟩ := bind_eq_ok.mp hmain
  obtain ⟨_, hexact, hchecks⟩ := bind_eq_ok.mp hmain
  have hentrypointOf : entrypointOf data = entrypoint := by
    unfold entrypointOf
    rw [hentrypoint]
  have hmodulesOf : modulesOf data = elements := by
    unfold modulesOf
    rw [bind_eq_ok.mpr ⟨modules, hmodules, helements⟩]
  have hall := checkAll_eq_ok.mp hchecks
  constructor
  · obtain ⟨hlength, hset⟩ := require_eq_ok.mp hexact
    have hforall := mapM_eq_ok.mp hnames
    have hlower : (guestPaths data).map str.lower = names := by
      unfold guestPaths
      rw [hmodulesOf, List.map_map]
      exact lower_guestNames hforall
    rw [hlower]
    exact perm_expectedModules (hforall.length_eq ▸ hlength) hset
  · unfold inputPaths
    rw [hentrypointOf, hmodulesOf, List.map_cons, List.forall_mem_cons]
    constructor
    · rw [textAt_of_getText hfile]
      exact require_eq_ok.mp hinput
    · intro path hpath
      obtain ⟨module, hmodule, rfl⟩ := List.mem_map.mp hpath
      exact (checkModule_ok (hall module hmodule)).1
  · unfold outputPaths
    rw [hentrypointOf, hmodulesOf, List.map_cons, List.forall_mem_cons]
    constructor
    · rw [textAt_of_getText hout]
      exact require_eq_ok.mp houtput
    · intro path hpath
      obtain ⟨module, hmodule, rfl⟩ := List.mem_map.mp hpath
      exact (checkModule_ok (hall module hmodule)).2

end Accepted

/-! ## Containment -/

/-- The steps of a path behind its root. -/
def stepsOf (path : Text) : List (PathStep Text) :=
  (tailOf path).map fun part => if part = ['.', '.'] then .up else .down part

/-- The path is relative and resolves to a place at least so deep beneath the
root, whose case does not matter. -/
def LiesBeneath (str : StrLower) (root : Text) (depth : ℕ) (path : Text) :
    Prop :=
  rootOf (replaceBackslashes path) = [] ∧
    ∃ names first, resolve (stepsOf (replaceBackslashes path)) =
        ⟨0, names ++ [first]⟩ ∧
      str.lower first = root ∧ depth ≤ names.length

/-- The steps behind the part that `beneath` compares. -/
def behindFirst (path : Text) : List (PathStep Text) :=
  (stepsOf (replaceBackslashes path)).tail

/-- The steps never lead out of where they start and end so deep below it; or
they lead out once, go down the root's name again and never lead out of that. -/
def StaysBehind (str : StrLower) (root : Text) (depth : ℕ)
    (behind : List (PathStep Text)) : Prop :=
  (Stays behind ∧ depth + upCount behind ≤ downCount behind) ∨
    ∃ out name after, behind = out ++ .down name :: after ∧
      LeavesOnce out ∧ str.lower name = root ∧ Stays after ∧
      depth + upCount after ≤ downCount after

/-- What the check is there for. -/
structure OnlyBeneath (str : StrLower) (data : Toml) : Prop where
  modules : ((guestPaths data).map str.lower).Perm expectedModules
  inputs : ∀ path ∈ inputPaths data, LiesBeneath str "game".toList 1 path
  outputs : ∀ path ∈ outputPaths data,
    LiesBeneath str "generated".toList 0 path

section Containment

variable {str : StrLower} {root path : Text} {depth : ℕ}

/-- The root of an absolute path is not the name that is looked for. -/
theorem relative_of_beneath
    (hbeneath : beneath str path root = true) (hroot : '/' ∉ root) :
    rootOf (replaceBackslashes path) = [] := by
  by_contra habsolute
  unfold beneath parts at hbeneath
  rw [if_neg habsolute] at hbeneath
  have hlower := of_decide_eq_true hbeneath
  apply hroot
  rw [← hlower]
  rcases rootOf_cases (replaceBackslashes path) with
    hnone | hslash | hslashes
  · exact absurd hnone habsolute
  · rw [hslash, str.ascii _ (by simp)]
    decide
  · rw [hslashes, str.ascii _ (by simp)]
    decide

/-- The first step of an accepted path goes down the root. -/
theorem stepsOf_of_beneath
    (hbeneath : beneath str path root = true) (hroot : '/' ∉ root)
    (hup : root ≠ ['.', '.']) :
    ∃ first, str.lower first = root ∧
      stepsOf (replaceBackslashes path) =
        .down first :: behindFirst path := by
  have hrelative := relative_of_beneath hbeneath hroot
  unfold beneath parts at hbeneath
  rw [if_pos hrelative] at hbeneath
  unfold behindFirst stepsOf
  cases htail : tailOf (replaceBackslashes path) with
  | nil =>
      rw [htail] at hbeneath
      cases hbeneath
  | cons first rest =>
      rw [htail] at hbeneath
      have hfirst : str.lower first = root := of_decide_eq_true hbeneath
      have hdown : first ≠ ['.', '.'] := by
        rintro rfl
        have hsame : str.lower ['.', '.'] = ['.', '.'] := by
          rw [str.ascii ['.', '.'] (by simp)]
          rfl
        exact hup (hfirst.symm.trans hsame)
      refine ⟨first, hfirst, ?_⟩
      rw [List.map_cons, if_neg hdown, List.tail_cons]

/-- Where an accepted path leads is decided behind its first part. -/
theorem liesBeneath_iff
    (hbeneath : beneath str path root = true) (hroot : '/' ∉ root)
    (hup : root ≠ ['.', '.']) :
    LiesBeneath str root depth path ↔
      StaysBehind str root depth (behindFirst path) := by
  have hrelative := relative_of_beneath hbeneath hroot
  obtain ⟨first, hfirst, hsteps⟩ := stepsOf_of_beneath hbeneath hroot hup
  unfold LiesBeneath
  rw [hsteps]
  constructor
  · rintro ⟨-, names, name, hresolve, hname, hdepth⟩
    obtain ⟨before, after, hsplit, hbefore, hafter, hcount⟩ :=
      resolve_beneath_iff.mp ⟨names, rfl, hresolve⟩
    cases before with
    | nil =>
        obtain ⟨-, hbehind⟩ := List.cons.inj hsplit
        rw [hbehind]
        exact Or.inl ⟨hafter, by omega⟩
    | cons step out =>
        obtain ⟨rfl, hbehind⟩ := List.cons.inj hsplit
        exact Or.inr ⟨out, name, after, hbehind,
          leadsBack_down_iff.mp hbefore, hname, hafter, by omega⟩
  · rintro (⟨hstays, hcount⟩ |
      ⟨out, name, after, hbehind, hout, hname, hafter, hcount⟩)
    · obtain ⟨names, hlength, hresolve⟩ := resolve_beneath_iff.mpr
        ⟨[], behindFirst path, rfl, ⟨stays_nil, rfl⟩, hstays,
          Nat.sub_add_cancel hstays.total⟩
      exact ⟨hrelative, names, first, hresolve, hfirst, by omega⟩
    · obtain ⟨names, hlength, hresolve⟩ := resolve_beneath_iff.mpr
        ⟨.down first :: out, after, rfl, leadsBack_down_iff.mpr hout, hafter,
          Nat.sub_add_cancel hafter.total⟩
      rw [hbehind]
      exact ⟨hrelative, names, name, hresolve, hname, by omega⟩

/-- Behind its first part a path without `..` never leads out. -/
theorem staysBehind_of_plain
    (hplain : ∀ part ∈ tailOf (replaceBackslashes path), part ≠ ['.', '.'])
    (hdepth : depth < (tailOf (replaceBackslashes path)).length) :
    StaysBehind str root depth (behindFirst path) := by
  have hsteps : behindFirst path =
      (tailOf (replaceBackslashes path)).tail.map .down := by
    unfold behindFirst stepsOf
    rw [← List.map_tail]
    apply List.map_congr_left
    intro part hpart
    rw [if_neg (hplain part (List.mem_of_mem_tail hpart))]
  rw [hsteps]
  refine Or.inl ⟨stays_map_down _, ?_⟩
  rw [upCount_map_down, downCount_map_down, List.length_tail]
  omega

end Containment

/-- An accepted manifest lists the expected modules once each.  It stays
beneath its roots exactly when behind the first part that `beneath` compares
no path climbs out of its root, other than by coming straight back, and no
input ends at `game` itself. -/
theorem main_onlyBeneath_iff
    {str : StrLower} {manifests : List Text} {data : Toml}
    (haccepts : main str manifests data = .ok ()) :
    OnlyBeneath str data ↔
      (∀ path ∈ inputPaths data,
        StaysBehind str "game".toList 1 (behindFirst path)) ∧
      ∀ path ∈ outputPaths data,
        StaysBehind str "generated".toList 0 (behindFirst path) := by
  have hpassed := main_passed haccepts
  have hinput (path : Text) (hpath : path ∈ inputPaths data) :
      LiesBeneath str "game".toList 1 path ↔
        StaysBehind str "game".toList 1 (behindFirst path) :=
    liesBeneath_iff (hpassed.inputs path hpath) (by decide) (by decide)
  have houtput (path : Text) (hpath : path ∈ outputPaths data) :
      LiesBeneath str "generated".toList 0 path ↔
        StaysBehind str "generated".toList 0 (behindFirst path) :=
    liesBeneath_iff (hpassed.outputs path hpath) (by decide) (by decide)
  constructor
  · intro honly
    exact ⟨fun path hpath => (hinput path hpath).mp (honly.inputs path hpath),
      fun path hpath => (houtput path hpath).mp (honly.outputs path hpath)⟩
  · rintro ⟨hinputsStay, houtputsStay⟩
    exact ⟨hpassed.modules,
      fun path hpath => (hinput path hpath).mpr (hinputsStay path hpath),
      fun path hpath => (houtput path hpath).mpr (houtputsStay path hpath)⟩

/-- Lowering the capital letters of ASCII only. -/
def asciiLower : StrLower := ⟨List.map Char.toLower, fun _ _ => rfl⟩

def modulePaths (guest file out : String) : Toml :=
  .table [("guest_path".toList, .string guest.toList),
    ("file_path".toList, .string file.toList),
    ("out_directory_path".toList, .string out.toList)]

/-- The manifest of the repository with the input of its last module. -/
def manifestWith (patchFile : String) : Toml :=
  .table [
    ("project".toList, .table [("name".toList, .string "revana".toList)]),
    ("entrypoint".toList, .table [
      ("file_path".toList,
        .string "game/PlayOnline/GameExecContent0001.xex".toList),
      ("out_directory_path".toList,
        .string "generated/gameexeccontent0001".toList)]),
    ("modules".toList, .array [
      modulePaths "polcorecontent.xex" "game/PlayOnline/PolCoreContent.xex"
        "generated/polcorecontent",
      modulePaths "ffxi.dll" "game/0001/FFXi.dll" "generated/ffxi",
      modulePaths "ffximain.dll" "game/0001/FFXiMain.dll"
        "generated/ffximain",
      modulePaths "patch.xex" patchFile "generated/patch"])]

theorem manifest_accepted :
    main asciiLower ["revana_manifest.toml".toList]
      (manifestWith "game/0001/patch.xex") = .ok () := by
  decide +kernel

theorem manifest_onlyBeneath :
    OnlyBeneath asciiLower (manifestWith "game/0001/patch.xex") := by
  have hplain : ∀ path ∈ inputPaths (manifestWith "game/0001/patch.xex"),
      (∀ part ∈ tailOf (replaceBackslashes path), part ≠ ['.', '.']) ∧
      1 < (tailOf (replaceBackslashes path)).length := by
    decide +kernel
  have hplainOut :
      ∀ path ∈ outputPaths (manifestWith "game/0001/patch.xex"),
        (∀ part ∈ tailOf (replaceBackslashes path), part ≠ ['.', '.']) ∧
        0 < (tailOf (replaceBackslashes path)).length := by
    decide +kernel
  refine (main_onlyBeneath_iff manifest_accepted).mpr ⟨?_, ?_⟩
  · intro path hpath
    obtain ⟨hparts, hdepth⟩ := hplain path hpath
    exact staysBehind_of_plain hparts hdepth
  · intro path hpath
    obtain ⟨hparts, hdepth⟩ := hplainOut path hpath
    exact staysBehind_of_plain hparts hdepth

/-- An input that climbs out of `game` is accepted. -/
theorem climbingManifest_accepted :
    main asciiLower ["revana_manifest.toml".toList]
        (manifestWith "game/../patch.xex") = .ok () ∧
      ¬OnlyBeneath asciiLower (manifestWith "game/../patch.xex") := by
  refine ⟨by decide +kernel, ?_⟩
  intro honly
  have hpath : "game/../patch.xex".toList ∈
      inputPaths (manifestWith "game/../patch.xex") := by decide
  obtain ⟨-, names, first, hresolve, -, hdepth⟩ :=
    honly.inputs _ hpath
  have hplace : resolve (stepsOf (replaceBackslashes
      "game/../patch.xex".toList)) = ⟨0, ["patch.xex".toList]⟩ := by decide
  rw [hplace] at hresolve
  have hlength := congrArg (fun place => place.names.length) hresolve
  simp only [List.length_cons, List.length_nil, List.length_append] at hlength
  omega

end Revana.Scripts
