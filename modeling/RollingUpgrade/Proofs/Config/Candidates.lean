import Mathlib.Data.List.Basic
import RollingUpgrade.Config.Upgrade
import RollingUpgrade.Proofs.Config.Files

namespace RollingUpgrade.Config

-- The places where a file is looked for.
inductive Place
  | given
  | fileVariable
  | directoryVariable
  | workingDirectory
  | userDirectory
  | systemDirectory
  deriving DecidableEq

namespace Place

def all : List Place :=
  [given, fileVariable, directoryVariable, workingDirectory, userDirectory, systemDirectory]

-- How many places go before this one.
def rank (place : Place) : Nat := all.idxOf place

instance : LT Place := ⟨fun p q => p.rank < q.rank⟩

instance : LE Place := ⟨fun p q => p.rank ≤ q.rank⟩

instance (p q : Place) : Decidable (p < q) := inferInstanceAs (Decidable (p.rank < q.rank))

instance (p q : Place) : Decidable (p ≤ q) := inferInstanceAs (Decidable (p.rank ≤ q.rank))

def source : Place → Source
  | given             => .explicit
  | fileVariable      => .environment
  | directoryVariable => .environment
  | workingDirectory  => .workingDirectory
  | userDirectory     => .userDirectory
  | systemDirectory   => .systemDirectory

-- The path of the file in a place, if there is such a place.
def path? (h : Host) (explicit : Option String) (file : File) : Place → Option String
  | given             => explicit
  | fileVariable      => h.valueOf? file.pathVariable
  | directoryVariable => (h.valueOf? Config.directoryVariable).map (Path.join · file.name)
  | workingDirectory  => h.workingDirectory?.map (Path.join · file.name)
  | userDirectory     => (userDirectory? h).map (Path.join · file.name)
  | systemDirectory   => some (Path.join Config.systemDirectory file.name)

-- The hosts agree on where a place is.
def SameSetting (h h' : Host) (file : File) : Place → Prop
  | given             => True
  | fileVariable      => h'.valueOf? file.pathVariable = h.valueOf? file.pathVariable
  | directoryVariable => h'.valueOf? Config.directoryVariable = h.valueOf? Config.directoryVariable
  | workingDirectory  => h'.workingDirectory? = h.workingDirectory?
  | userDirectory     => h'.configHome = h.configHome
  | systemDirectory   => True

end Place

variable {h h' : Host} {explicit : Option String} {file : File} {place other : Place}
  {c : Candidate} {path : String}

-- The candidate is a file in a place, and there are no files in the places before it.
structure Found (h : Host) (explicit : Option String) (file : File) (place : Place)
    (c : Candidate) : Prop where
  path : place.path? h explicit file = some c.path
  source : c.source = place.source
  isFile : ∃ entry, h.lookup c.path = .ok entry ∧ entry.kind = .file
  passed : ∀ (other : Place) path, other < place → other.path? h explicit file = some path →
    h.NoFile path

-- There are no files in any place.
def Nowhere (h : Host) (explicit : Option String) (file : File) : Prop :=
  ∀ (place : Place) path, place.path? h explicit file = some path → h.NoFile path

-- The hosts differ in nothing that is of concern to a place or to those before it. Of the entries
-- on the way to a file, only the kinds are of concern.
structure SameUpTo (place : Place) (h h' : Host) (explicit : Option String) (file : File) :
    Prop where
  directory : h'.workingDirectory = h.workingDirectory
  settings : ∀ other ≤ place, other.SameSetting h h' file
  alike : ∀ (other : Place) path, other ≤ place → other.path? h explicit file = some path →
    h.files.Alike h'.files (FileTree.way h.workingDirectory path)

theorem Place.path?_congr (same : place.SameSetting h h' file) :
    place.path? h' explicit file = place.path? h explicit file := by
  cases place
  case userDirectory =>
    have same : h'.configHome = h.configHome := same
    simp only [path?, userDirectory?, same]
  all_goals simp_all only [SameSetting, path?]

theorem Place.mem_all (place : Place) : place ∈ all := by
  cases place <;> decide

theorem Place.all_ascending : all.Pairwise (· < ·) := by
  decide

-- The places before a place are those that are listed before it.
theorem Place.lt_iff_mem {earlier later : List Place} (split : all = earlier ++ place :: later) :
    other < place ↔ other ∈ earlier := by
  have ascending := split ▸ all_ascending
  have ⟨_, behind, before⟩ := List.pairwise_append.mp ascending
  constructor
  · intro lt
    have mem := split ▸ other.mem_all
    rw [List.mem_append, List.mem_cons] at mem
    obtain mem | eq | mem := mem
    case inl       => exact mem
    case inr.inl   => exact absurd (eq ▸ lt) (Nat.lt_irrefl _)
    case inr.inr   =>
      have gt : place < other := List.rel_of_pairwise_cons behind mem
      exact absurd lt (Nat.lt_asymm gt)
  · exact fun mem => before other mem place List.mem_cons_self

-- The candidate that a place makes, if it is a file.
def candidateIn (h : Host) (explicit : Option String) (file : File) (place : Place) :
    Option Candidate :=
  ((place.path? h explicit file).map (⟨·, place.source⟩)).filter fun c => h.isFile c.path

theorem candidates_eq : candidates h explicit file =
    Place.all.filterMap fun place => (place.path? h explicit file).map (⟨·, place.source⟩) := by
  simp [candidates, Place.all, Place.path?, Place.source, List.filterMap_eq_flatMap_toList,
    Option.toList_map, Function.comp_def]

theorem locate?_eq :
    locate? h explicit file = Place.all.findSome? (candidateIn h explicit file) := by
  rw [locate?, candidates_eq, ← List.head?_filter, List.filter_filterMap, List.head?_filterMap]
  rfl

theorem candidateIn_eq_some_iff : candidateIn h explicit file place = some c ↔
    place.path? h explicit file = some c.path ∧ c.source = place.source ∧
      ∃ entry, h.lookup c.path = .ok entry ∧ entry.kind = .file := by
  obtain ⟨path, source⟩ := c
  simp only [candidateIn, Option.filter_eq_some_iff, Option.map_eq_some_iff, Candidate.mk.injEq,
    ← Host.isFile_iff]
  constructor
  · intro ⟨⟨path, found, eq, source⟩, isFile⟩
    exact ⟨eq ▸ found, source.symm, isFile⟩
  · intro ⟨found, eq, isFile⟩
    exact ⟨⟨path, found, rfl, eq.symm⟩, isFile⟩

theorem candidateIn_eq_none_iff : candidateIn h explicit file place = none ↔
    ∀ path, place.path? h explicit file = some path → h.NoFile path := by
  simp [candidateIn, Option.filter_eq_none_iff, ← Host.isFile_eq_false_iff]

theorem locate?_eq_some_iff :
    locate? h explicit file = some c ↔ ∃ place, Found h explicit file place c := by
  rw [locate?_eq, List.findSome?_eq_some_iff]
  constructor
  · intro ⟨earlier, place, later, split, made, passed⟩
    have ⟨path, source, isFile⟩ := candidateIn_eq_some_iff.mp made
    refine ⟨place, path, source, isFile, fun other path before => ?_⟩
    exact candidateIn_eq_none_iff.mp (passed other ((Place.lt_iff_mem split).mp before)) path
  · intro ⟨place, found⟩
    have ⟨earlier, later, split⟩ := List.append_of_mem place.mem_all
    refine ⟨earlier, place, later, split, ?made, fun other mem => ?passed⟩
    case made => exact candidateIn_eq_some_iff.mpr ⟨found.path, found.source, found.isFile⟩
    case passed =>
      have before : other < place := (Place.lt_iff_mem split).mpr mem
      exact candidateIn_eq_none_iff.mpr fun path => found.passed other path before

theorem locate?_eq_none_iff : locate? h explicit file = none ↔ Nowhere h explicit file := by
  simp only [locate?_eq, List.findSome?_eq_none_iff, candidateIn_eq_none_iff, Place.mem_all,
    forall_const, Nowhere]

theorem SameUpTo.path?_eq (same : SameUpTo place h h' explicit file) (le : other ≤ place) :
    other.path? h' explicit file = other.path? h explicit file :=
  Place.path?_congr (same.settings other le)

theorem SameUpTo.isFile_eq (same : SameUpTo place h h' explicit file) (le : other ≤ place)
    (found : other.path? h explicit file = some path) : h'.isFile path = h.isFile path := by
  rw [Host.isFile, Host.isFile, same.directory]
  exact FileTree.isFile_congr (same.alike other path le found)

theorem Found.congr (found : Found h explicit file place c)
    (same : SameUpTo place h h' explicit file) : Found h' explicit file place c := by
  have self : place ≤ place := Nat.le_refl _
  refine ⟨(same.path?_eq self).trans found.path, found.source, ?isFile, ?passed⟩
  case isFile =>
    rw [← Host.isFile_iff, same.isFile_eq self found.path, Host.isFile_iff]
    exact found.isFile
  case passed =>
    intro other path before known
    have le : other ≤ place := Nat.le_of_lt before
    rw [same.path?_eq le] at known
    rw [← Host.isFile_eq_false_iff, same.isFile_eq le known, Host.isFile_eq_false_iff]
    exact found.passed other path before known

-- The file in the first place that has one is found, and nothing is if no place has one. What is
-- changed behind this place does not matter. Settings of an upgrade are what this file says or else
-- an error, and the defaults only if there is no file.
theorem locate?_first_file (parse : Yaml.Parser UpgradeConfig) (h : Host) (explicit : Option String)
    (file : File) :
    (∀ c, locate? h explicit file = some c ↔ ∃ place, Found h explicit file place c) ∧
    (locate? h explicit file = none ↔ Nowhere h explicit file) ∧
    (∀ place c, Found h explicit file place c → ∀ h', SameUpTo place h h' explicit file →
      locate? h' explicit file = some c) ∧
    (∀ place c, Found h explicit upgradeFile place c →
      h.Reads parse c.path (UpgradeConfig.load h explicit parse)) ∧
    (Nowhere h explicit upgradeFile → UpgradeConfig.load h explicit parse = .ok .default) := by
  refine ⟨fun c => locate?_eq_some_iff, locate?_eq_none_iff, ?unchanged, ?read, ?default⟩
  case unchanged =>
    intro place c found h' same
    exact locate?_eq_some_iff.mpr ⟨place, found.congr same⟩
  case read =>
    intro place c found
    have located : locate? h explicit upgradeFile = some c := locate?_eq_some_iff.mpr ⟨place, found⟩
    rw [UpgradeConfig.load, located]
    exact h.readParsed_reads parse c.path
  case default =>
    intro nowhere
    rw [UpgradeConfig.load, locate?_eq_none_iff.mpr nowhere]

def denied : String := "Permission denied (os error 13)"

-- The path that is given is one of a directory, the variable of the file leads nowhere, and the one
-- of the directory to a file that cannot be read.
def layered : Host where
  files            := ((FileTree.empty.withDirectory "/srv/upgrade.yaml").withUnreadable
    "/cfg/upgrade.yaml" denied).withFile "/home/upgrade.yaml" []
  workingDirectory := "/home"
  environment      :=
    .ofList [("STACKCHECK_CONFIG_DIR", "/cfg"), ("STACKCHECK_UPGRADE_CONFIG", "upgrade.yml")]
  configHome       := none

-- The file is no text any more, that in the working directory is gone, and there is one for the
-- user.
def rearranged : Host where
  files            := ((FileTree.empty.withDirectory "/srv/upgrade.yaml").withFile
    "/cfg/upgrade.yaml" [0xFF]).withFile "/home/stackcheck/upgrade.yaml" []
  workingDirectory := "/home"
  environment      := layered.environment
  configHome       := some "/home"

theorem locate?_first_file_layered :
    let explicit := some "/srv/upgrade.yaml"
    let c : Candidate := ⟨"/cfg/upgrade.yaml", .environment⟩
    Found layered explicit upgradeFile .directoryVariable c ∧
      locate? layered explicit upgradeFile = some c ∧
      locate? rearranged explicit upgradeFile = some c ∧
      UpgradeConfig.load layered explicit = .error (.io denied) ∧
      UpgradeConfig.load rearranged explicit =
        .error (.io "stream did not contain valid UTF-8") := by
  intro explicit c
  have refused : layered.lookup c.path = .ok (.unreadable denied) := by decide
  have noText : rearranged.lookup c.path = .ok (.file [0xFF]) := by decide
  have found : Found layered explicit upgradeFile .directoryVariable c := by
    refine ⟨by decide, rfl, ⟨_, refused, rfl⟩, fun other path before known => ?_⟩
    cases other
    case given        => cases known; exact .directory (by decide)
    case fileVariable =>
      cases known
      exact .missing (by decide : layered.lookup _ = .error .noSuchFile)
    all_goals exact absurd before (by decide)
  have same : SameUpTo .directoryVariable layered rearranged explicit upgradeFile := by
    refine ⟨rfl, fun other le => ?settings, fun other path le known => ?alike⟩
    case settings =>
      cases other
      case given => trivial
      case fileVariable | directoryVariable => dsimp only [Place.SameSetting]; decide
      all_goals exact absurd le (by decide)
    case alike =>
      cases other
      case given | fileVariable | directoryVariable =>
        cases known
        dsimp only [FileTree.Alike]
        decide
      all_goals exact absurd le (by decide)
  have ⟨first, _, unchanged, read, _⟩ :=
    locate?_first_file UpgradeConfig.parse layered explicit upgradeFile
  have ⟨_, _, _, read', _⟩ :=
    locate?_first_file UpgradeConfig.parse rearranged explicit upgradeFile
  have reads : layered.Reads UpgradeConfig.parse c.path (.error (.io denied)) := .refused refused
  have reads' : rearranged.Reads UpgradeConfig.parse c.path
      (.error (.io FileTree.Failure.notText.message)) := .notText noText (by decide)
  refine ⟨found, (first c).mpr ⟨_, found⟩, unchanged _ c found _ same, ?layered, ?rearranged⟩
  case layered =>
    exact (Host.reads_iff.mp (read _ c found)).symm.trans (Host.reads_iff.mp reads)
  case rearranged =>
    have found' := read' _ c (found.congr same)
    exact (Host.reads_iff.mp found').symm.trans (Host.reads_iff.mp reads')

end RollingUpgrade.Config
