import RollingUpgrade.Proofs.Config.Candidates
import RollingUpgrade.Proofs.Config.Overrides

namespace RollingUpgrade.Topology

-- The file at the path counts: one that is given, or else the one that is found.
inductive Chosen (h : Host) : Option String → String → Prop
  | given {path : String} {entry : FileEntry} : h.lookup path = .ok entry →
    Chosen h (some path) path
  | found {place : Config.Place} {c : Config.Candidate} :
    Config.Found h none Config.networkFile place c → Chosen h none c.path

-- There is no file that counts. What is missed is the path that is given, or else the usual name.
inductive Missing (h : Host) : Option String → String → Prop
  | given {path : String} {f : FileTree.Failure} : h.lookup path = .error f →
    Missing h (some path) path
  | nowhere : Config.Nowhere h none Config.networkFile → Missing h none Config.networkFile.name

variable {h : Host} {explicit : Option String} {file name : String} {parse : Parser}
  {topologies : NameMap Topology} {texts : NameMap String} {ignore : Bool} {e : Error}

theorem path_of_chosen (chosen : Chosen h explicit file) : path h explicit = .ok file := by
  cases chosen
  case given entry found      => simp [path, Host.contains_iff.mpr ⟨entry, found⟩]
  case found place c found    => simp [path, Config.locate?_eq_some_iff.mpr ⟨place, found⟩]

theorem path_of_missing (missing : Missing h explicit file) :
    path h explicit = .error (.networkConfigNotFound file) := by
  cases missing
  case given f failed =>
    have absent : ¬h.contains file := by simp [Host.contains_iff, failed]
    simp [path, absent]
  case nowhere nowhere => simp [path, Config.locate?_eq_none_iff.mpr nowhere]

theorem chosen_or_missing (h : Host) (explicit : Option String) :
    ∃ file, Chosen h explicit file ∨ Missing h explicit file := by
  cases explicit
  case some file =>
    cases found : h.lookup file
    case error f  => exact ⟨file, .inr (.given found)⟩
    case ok entry => exact ⟨file, .inl (.given found)⟩
  case none =>
    cases located : Config.locate? h none Config.networkFile
    case none => exact ⟨_, .inr (.nowhere (Config.locate?_eq_none_iff.mp located))⟩
    case some c =>
      have ⟨place, found⟩ := Config.locate?_eq_some_iff.mp located
      exact ⟨_, .inl (.found found)⟩

theorem ofHost_of_missing (missing : Missing h explicit file) :
    ofHost h name ignore explicit parse = .error (.networkConfigNotFound file) := by
  rw [ofHost, path_of_missing missing]
  rfl

-- Once a file counts, it alone decides, and no path that is given has another one take its place.
theorem ofHost_of_chosen (chosen : Chosen h explicit file) :
    ofHost h name ignore explicit parse = load h file name (overrides h ignore) parse := by
  rw [ofHost, path_of_chosen chosen]
  rfl

theorem load_of_failed (reads : h.Reads parse file (.error e)) :
    load h file name texts parse = .error e := by
  rw [load, Host.reads_iff.mp reads]
  rfl

theorem load_of_parsed (reads : h.Reads parse file (.ok topologies)) :
    load h file name texts parse = pick topologies file name texts := by
  rw [load, Host.reads_iff.mp reads]
  rfl

theorem pick_eq_error_iff :
    pick topologies file name texts = .error e ↔
      name ∉ topologies ∧ e = .topologyNotFound name file := by
  rw [pick, ← NameMap.find?_eq_none_iff]
  cases topologies.find? name
  case none   => simp [eq_comm]
  case some t => simp

-- Loading blames the name only if the file has been read.
theorem load_eq_topologyNotFound_iff {topology path : String} :
    load h file name texts parse = .error (.topologyNotFound topology path) ↔
      topology = name ∧ path = file ∧
        ∃ topologies, h.Reads parse file (.ok topologies) ∧ name ∉ topologies := by
  have reads := h.readParsed_reads parse file
  constructor
  · intro failed
    cases hr : h.readParsed parse file
    case error e =>
      rw [hr] at reads
      rw [load_of_failed reads] at failed
      cases failed
      cases reads
    case ok topologies =>
      rw [hr] at reads
      rw [load_of_parsed reads, pick_eq_error_iff] at failed
      have ⟨absent, same⟩ := failed
      cases same
      exact ⟨rfl, rfl, topologies, reads, absent⟩
  · intro ⟨topology, path, topologies, reads, absent⟩
    rw [load_of_parsed reads, pick_eq_error_iff, topology, path]
    exact ⟨absent, rfl⟩

theorem ofHost_eq_topologyNotFound_iff {topology path : String} :
    ofHost h name ignore explicit parse = .error (.topologyNotFound topology path) ↔
      topology = name ∧ Chosen h explicit path ∧
        ∃ topologies, h.Reads parse path (.ok topologies) ∧ name ∉ topologies := by
  constructor
  · intro failed
    have ⟨file, h⟩ := chosen_or_missing h explicit
    cases h
    case inr missing =>
      rw [ofHost_of_missing missing] at failed
      nomatch failed
    case inl chosen =>
      rw [ofHost_of_chosen chosen, load_eq_topologyNotFound_iff] at failed
      have ⟨topology, path, parsed⟩ := failed
      subst path
      exact ⟨topology, chosen, parsed⟩
  · intro ⟨topology, chosen, parsed⟩
    rw [ofHost_of_chosen chosen, load_eq_topologyNotFound_iff]
    exact ⟨topology, rfl, parsed⟩

-- The topology that is put together has the texts where there are any, and is that of the file
-- elsewhere.
theorem withTexts_overlays (t : Topology) (texts : NameMap String) :
    (∀ key ∉ texts, (t.withTexts texts).find? key = t.find? key) ∧
    ∀ key s, texts.find? key = some s → (t.withTexts texts).find? key = some (.text s) := by
  refine ⟨fun key outside => ?_, fun key s inside => ?_⟩
  · rw [find?_withTexts, NameMap.find?_eq_none_iff.mpr outside]
    rfl
  · rw [find?_withTexts, inside]
    rfl

-- A path that is given has to lead somewhere. Then the topology of the name in the file that counts
-- decides, with the settings of the environment put over it unless they are ignored, and no other
-- topology does. If the name is not among the topologies of the file, this is the failure that is
-- reported, and it is reported for nothing else.
theorem ofHost_overlays (parse : Parser) (h : Host) (name : String) (ignore : Bool)
    (explicit : Option String) :
    let outcome := ofHost h name ignore explicit parse
    let texts := overrides h ignore
    (∀ file, Missing h explicit file → outcome = .error (.networkConfigNotFound file)) ∧
    (∀ file topologies t, Chosen h explicit file → h.Reads parse file (.ok topologies) →
      topologies.find? name = some t → ∃ config, outcome = .ok config ∧
        (∀ key ∉ texts, config.find? key = t.find? key) ∧
        (∀ key s, texts.find? key = some s → config.find? key = some (.text s)) ∧
        ∀ h' explicit' file' topologies', overrides h' ignore = texts →
          Chosen h' explicit' file' → h'.Reads parse file' (.ok topologies') →
          topologies'.find? name = some t → ofHost h' name ignore explicit' parse = outcome) ∧
    (∀ file (h' : Host), explicit = some file → h'.files = h.files →
      h'.workingDirectory = h.workingDirectory →
      ofHost h' name true explicit parse = ofHost h name true explicit parse) ∧
    ∀ topology file, outcome = .error (.topologyNotFound topology file) ↔
      topology = name ∧ Chosen h explicit file ∧
        ∃ topologies, h.Reads parse file (.ok topologies) ∧ name ∉ topologies := by
  intro outcome texts
  refine ⟨fun file => ofHost_of_missing, ?overlaid, ?unaware, fun topology file =>
    ofHost_eq_topologyNotFound_iff⟩
  case overlaid =>
    have picked {h' : Host} {explicit' : Option String} {file' : String}
        {topologies' : NameMap Topology} {t : Topology} (chosen : Chosen h' explicit' file')
        (reads : h'.Reads parse file' (.ok topologies')) (found : topologies'.find? name = some t) :
        ofHost h' name ignore explicit' parse = .ok (t.withTexts (overrides h' ignore)) := by
      rw [ofHost_of_chosen chosen, load_of_parsed reads, pick, found]
    intro file topologies t chosen reads found
    obtain ⟨outside, inside⟩ := withTexts_overlays t texts
    refine ⟨_, picked chosen reads found, outside, inside, ?_⟩
    intro h' explicit' file' topologies' same chosen' reads' found'
    rw [picked chosen' reads' found', same]
    exact (picked chosen reads found).symm
  case unaware =>
    intro file h' given files directory
    have lookup (path : String) : h'.lookup path = h.lookup path := by
      rw [Host.lookup, Host.lookup, files, directory]
    have found : path h' explicit = path h explicit := by
      rw [given, path, path, Host.contains, Host.contains, files, directory]
    simp only [ofHost, found, load, overrides, Host.readParsed_eq, lookup, if_true]

def labs : List UInt8 :=
  "lab: {net_id: private, default_gateway: 10.0.0.1}\nother: {}\n".toUTF8.toList

-- A host with two topologies in a file. The file in the working directory does not count.
def twoLabs : Host where
  files            :=
    (FileTree.empty.withFile "/etc/labs.yaml" labs).withFile "/srv/network.yaml" []
  workingDirectory := "/srv"
  environment      := .ofList [("GATEWAY", "10.0.0.254")]
  configHome       := none

theorem ofHost_overlays_two_labs :
    (∃ config, ofHost twoLabs "lab" false (some "/etc/labs.yaml") = .ok config ∧
      config.find? "default_gateway" = some (.text "10.0.0.254") ∧
      config.find? "net_id" = some (.text "private")) ∧
    ofHost twoLabs "third" false (some "/etc/labs.yaml") =
      .error (.topologyNotFound "third" "/etc/labs.yaml") ∧
    ofHost twoLabs "lab" false (some "/etc/none.yaml") =
      .error (.networkConfigNotFound "/etc/none.yaml") := by
  have chosen : Chosen twoLabs (some "/etc/labs.yaml") "/etc/labs.yaml" :=
    .given (by decide +kernel : twoLabs.lookup "/etc/labs.yaml" = .ok (.file labs))
  have missing : Missing twoLabs (some "/etc/none.yaml") "/etc/none.yaml" :=
    .given (by decide : twoLabs.lookup "/etc/none.yaml" = .error .noSuchFile)
  have known : (twoLabs.readParsed parseAll "/etc/labs.yaml").toOption.any fun topologies =>
      "third" ∉ topologies ∧
        (topologies.find? "lab").any fun t => t.find? "net_id" = some (.text "private") := by
    decide +kernel
  cases parsed : twoLabs.readParsed parseAll "/etc/labs.yaml"
  case error e => simp [parsed, Except.toOption] at known
  case ok topologies =>
    have reads := Host.reads_iff.mpr parsed
    simp only [parsed, Except.toOption, Option.any_some, decide_eq_true_eq,
      Option.any_eq_true] at known
    have ⟨third, t, found, netId⟩ := known
    have ⟨_, overlaid, _, _⟩ :=
      ofHost_overlays parseAll twoLabs "lab" false (some "/etc/labs.yaml")
    have ⟨config, outcome, outside, inside, _⟩ := overlaid _ _ _ chosen reads found
    refine ⟨⟨config, outcome, inside _ _ (by decide), ?netId⟩, ?third, ?missing⟩
    case netId => rw [outside "net_id" (by decide), netId]
    case third =>
      have ⟨_, _, _, absent⟩ :=
        ofHost_overlays parseAll twoLabs "third" false (some "/etc/labs.yaml")
      exact (absent _ _).mpr ⟨rfl, chosen, topologies, reads, third⟩
    case missing =>
      have ⟨fails, _⟩ := ofHost_overlays parseAll twoLabs "lab" false (some "/etc/none.yaml")
      exact fails _ missing

end RollingUpgrade.Topology
