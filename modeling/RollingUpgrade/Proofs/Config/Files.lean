import RollingUpgrade.Config.Host

namespace RollingUpgrade

namespace FileTree

variable {t t' : FileTree} {p q : Position} {name directory path : String} {names : List String}

def kindAt? (t : FileTree) (p : Position) : Option FileEntry.Kind :=
  (t.entryAt? p).map FileEntry.kind

-- Where a name leads to if it leads anywhere.
def next (p : Position) (name : String) : Position :=
  if name == "." then p else if name == ".." then p.tail else name :: p

-- The positions that names lead through, from the first one to the last one.
def passage : Position → List String → List Position
  | p, []            => [p]
  | p, name :: names => p :: passage (next p name) names

-- The positions that a path leads through, as seen from a directory.
def way (directory path : String) : List Position :=
  passage (startOf directory path) (namesOf path)

-- Entries along names are of the same kinds.
def Alike (t t' : FileTree) (positions : List Position) : Prop :=
  ∀ p ∈ positions, t'.kindAt? p = t.kindAt? p

theorem mem_passage_self (p : Position) (names : List String) : p ∈ passage p names := by
  cases names <;> simp [passage]

theorem enter_eq (t : FileTree) (p : Position) (name : String) : t.enter p name =
    match t.kindAt? p with
    | some .directory =>
      if name == "." then .ok p
      else if name == ".." then .ok p.tail
      else if maxNameBytes < name.utf8ByteSize then .error .nameTooLong
      else if (t.kindAt? (name :: p)).isSome then .ok (name :: p)
      else .error .noSuchFile
    | some .file => .error .notADirectory
    | none => .error .noSuchFile := by
  rw [enter, kindAt?, kindAt?, Option.isSome_map]
  cases t.entryAt? p
  case none => rfl
  case some entry => cases entry <;> rfl

theorem enter_eq_ok (h : t.enter p name = .ok q) : q = next p name := by
  rw [enter_eq] at h
  unfold next
  split at h <;> grind

theorem enter_congr (here : t'.kindAt? p = t.kindAt? p)
    (there : t'.kindAt? (next p name) = t.kindAt? (next p name)) :
    t'.enter p name = t.enter p name := by
  rw [enter_eq, enter_eq, here]
  by_cases self : name == "."
  case pos => simp only [self, if_true]
  case neg =>
    by_cases up : name == ".."
    case pos => simp only [self, up, if_true, if_false, Bool.false_eq_true]
    case neg =>
      simp only [next, self, up, if_false, Bool.false_eq_true] at there
      rw [there]

theorem foldlM_enter_congr (alike : Alike t t' (passage p names)) :
    names.foldlM t'.enter p = names.foldlM t.enter p := by
  induction names generalizing p
  case nil => rfl
  case cons name names hi =>
    have ⟨here, rest⟩ := List.forall_mem_cons.mp alike
    rw [List.foldlM_cons, List.foldlM_cons, enter_congr here (rest _ (mem_passage_self _ _))]
    cases entered : t.enter p name
    case error f => rfl
    case ok q =>
      cases enter_eq_ok entered
      exact hi rest

-- Names that lead somewhere lead through positions of their passage.
theorem mem_passage_of_foldlM (h : names.foldlM t.enter p = .ok q) : q ∈ passage p names := by
  induction names generalizing p
  case nil =>
    cases h
    exact mem_passage_self _ _
  case cons name names hi =>
    rw [List.foldlM_cons] at h
    cases entered : t.enter p name
    case error f => simp [entered, bind, Except.bind] at h
    case ok r =>
      rw [entered] at h
      cases enter_eq_ok entered
      exact List.mem_cons_of_mem _ (hi h)

theorem arrive_eq (t : FileTree) (path : String) (p : Position) :
    (t.arrive path p).map FileEntry.kind =
    match t.kindAt? p with
    | some .directory => .ok .directory
    | some .file =>
      if path.toList.getLast? == some '/' then .error .notADirectory else .ok .file
    | none => .error .noSuchFile := by
  rw [arrive, kindAt?]
  cases t.entryAt? p
  case none => rfl
  case some entry =>
    cases entry
    case directory => rfl
    case file | unreadable =>
      dsimp only [Option.map, FileEntry.kind]
      split <;> rfl

theorem arrive_congr (same : t'.kindAt? p = t.kindAt? p) :
    (t'.arrive path p).map FileEntry.kind = (t.arrive path p).map FileEntry.kind := by
  rw [arrive_eq, arrive_eq, same]

theorem lookup_congr (alike : Alike t t' (way directory path)) :
    (t'.lookup directory path).map FileEntry.kind =
      (t.lookup directory path).map FileEntry.kind := by
  unfold lookup
  split
  case isTrue => rfl
  split
  case isTrue => rfl
  split
  case isTrue => rfl
  rw [foldlM_enter_congr alike]
  cases walked : (namesOf path).foldlM t.enter (startOf directory path)
  case error f => rfl
  case ok p => exact arrive_congr (alike p (mem_passage_of_foldlM walked))

theorem isFile_congr (alike : Alike t t' (way directory path)) :
    t'.isFile directory path = t.isFile directory path := by
  rw [isFile, isFile, lookup_congr alike]

end FileTree

namespace Host

variable {α : Type} {h : Host} {path text : String} {parse : Yaml.Parser α} {r : Except Error α}
  {a : α}

-- What a path leads to.
def lookup (h : Host) (path : String) : Except FileTree.Failure FileEntry :=
  h.files.lookup h.workingDirectory path

-- The path leads nowhere, or to a directory.
inductive NoFile (h : Host) (path : String) : Prop
  | missing {f : FileTree.Failure} : h.lookup path = .error f → NoFile h path
  | directory : h.lookup path = .ok .directory → NoFile h path

-- How reading the file at a path and parsing its text goes. A file is read if the system lets it be
-- and its bytes are a text.
inductive Reads (h : Host) (parse : Yaml.Parser α) (path : String) : Except Error α → Prop
  | missing {f : FileTree.Failure} : h.lookup path = .error f →
    Reads h parse path (.error (.io f.message))
  | directory : h.lookup path = .ok .directory →
    Reads h parse path (.error (.io FileTree.Failure.isADirectory.message))
  | refused {message : String} : h.lookup path = .ok (.unreadable message) →
    Reads h parse path (.error (.io message))
  | notText {bytes : List UInt8} : h.lookup path = .ok (.file bytes) →
    Text.Utf8.decode? bytes = none →
    Reads h parse path (.error (.io FileTree.Failure.notText.message))
  | unparsable {bytes : List UInt8} {text message : String} : h.lookup path = .ok (.file bytes) →
    Text.Utf8.decode? bytes = some text → parse text = .error message →
    Reads h parse path (.error (.yaml message))
  | parsed {bytes : List UInt8} {text : String} {a : α} : h.lookup path = .ok (.file bytes) →
    Text.Utf8.decode? bytes = some text → parse text = .ok a → Reads h parse path (.ok a)

theorem isFile_iff :
    h.isFile path = true ↔ ∃ entry, h.lookup path = .ok entry ∧ entry.kind = .file := by
  rw [isFile, FileTree.isFile, ← lookup.eq_1]
  cases h.lookup path
  case error f  => simp [Except.map]
  case ok entry => cases entry <;> simp [Except.map, FileEntry.kind]

theorem isFile_eq_false_iff : h.isFile path = false ↔ h.NoFile path := by
  rw [isFile, FileTree.isFile, ← lookup.eq_1]
  constructor
  · intro none
    cases found : h.lookup path
    case error f => exact .missing found
    case ok entry =>
      cases entry
      case directory         => exact .directory found
      case file | unreadable => simp [found, Except.map, FileEntry.kind] at none
  · intro none
    cases none
    case missing found   => rw [found]; rfl
    case directory found => rw [found]; rfl

theorem contains_iff : h.contains path = true ↔ ∃ entry, h.lookup path = .ok entry := by
  rw [contains, FileTree.contains, ← lookup.eq_1]
  cases h.lookup path <;> simp

theorem readParsed_eq (h : Host) (parse : Yaml.Parser α) (path : String) :
    h.readParsed parse path =
      match h.lookup path with
      | .error f => .error (.io f.message)
      | .ok .directory => .error (.io FileTree.Failure.isADirectory.message)
      | .ok (.unreadable message) => .error (.io message)
      | .ok (.file bytes) =>
        match Text.Utf8.decode? bytes with
        | none => .error (.io FileTree.Failure.notText.message)
        | some text => (parse text).mapError .yaml := by
  rw [readParsed, readText, FileTree.readText, ← lookup.eq_1]
  cases h.lookup path
  case error f => rfl
  case ok entry =>
    cases entry
    case directory | unreadable => rfl
    case file bytes =>
      dsimp only [bind, Except.bind]
      cases Text.Utf8.decode? bytes <;> rfl

theorem readParsed_reads (h : Host) (parse : Yaml.Parser α) (path : String) :
    h.Reads parse path (h.readParsed parse path) := by
  rw [readParsed_eq]
  split
  case h_1 f found       => exact .missing found
  case h_2 found         => exact .directory found
  case h_3 message found => exact .refused found
  case h_4 bytes found =>
    split
    case h_1 noText => exact .notText found noText
    case h_2 text decoded =>
      cases outcome : parse text
      case error message => exact .unparsable found decoded outcome
      case ok a          => exact .parsed found decoded outcome

theorem reads_iff : h.Reads parse path r ↔ h.readParsed parse path = r := by
  constructor
  · intro reads
    rw [readParsed_eq]
    cases reads <;> simp only [*] <;> rfl
  · intro eq
    exact eq ▸ readParsed_reads h parse path

end Host
end RollingUpgrade
