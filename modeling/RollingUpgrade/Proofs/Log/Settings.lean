import RollingUpgrade.Proofs.Log.Naming

namespace RollingUpgrade.Log.Settings

open Text

-- What is chosen for a setting: what the caller gives, or else what the variable for it names.
inductive Chosen {α : Type} (names : List (String × α)) (lookup : String → Option String)
    (name : String) (given : Option α) : Option α → Prop
  | given {a : α} : given = some a → Chosen names lookup name given (some a)
  | named {text : String} {a : α} : given = none → lookup name = some text →
    Spells names text a → Chosen names lookup name given (some a)
  | nothing : given = none → (∀ text, lookup name = some text → ∀ a, ¬Spells names text a) →
    Chosen names lookup name given none

-- The level and the directives that follow from the choice of a level. Directives count only where
-- no level is chosen.
inductive Drawn (lookup : String → Option String) : Option Level → Level → Option String → Prop
  | chosen {l : Level} : Drawn lookup (some l) l none
  | named {text : String} {l : Level} : lookup "RUST_LOG" = some text → ¬Blank text.toList →
    MostVerbose text l → Drawn lookup none l (some text)
  | unnamed {text : String} : lookup "RUST_LOG" = some text → ¬Blank text.toList →
    (∀ l, ¬Names text l) → Drawn lookup none .info (some text)
  | unset : (∀ text, lookup "RUST_LOG" = some text → Blank text.toList) →
    Drawn lookup none .info none

-- The settings of an environment.
structure Starts (lookup : String → Option String) (level : Option Level) (format : Option Format)
    (s : Settings) : Prop where
  level : ∃ chosen, Chosen Level.names lookup "STACKCHECK_LOG" level chosen ∧
    Drawn lookup chosen s.level s.directives
  format : ∃ chosen, Chosen Format.names lookup "STACKCHECK_LOG_FORMAT" format chosen ∧
    s.format = chosen.getD .human
  timestamps : s.timestamps

-- A later change of one of the settings.
inductive Change
  | level (l : Level)
  | format (f : Format)
  | timestamps (wanted : Bool)

namespace Change

def apply (s : Settings) : Change → Settings
  | level l           => s.withLevel l
  | format f          => s.withFormat f
  | timestamps wanted => s.withTimestamps wanted

def level? : Change → Option Level
  | level l => some l
  | _       => none

def format? : Change → Option Format
  | format f => some f
  | _        => none

def timestamps? : Change → Option Bool
  | timestamps wanted => some wanted
  | _                 => none

end Change

-- What changes make of settings. Each setting has the value that was written last.
structure Changed (start : Settings) (changes : List Change) (final : Settings) : Prop where
  level : final.level = (changes.filterMap Change.level?).getLast?.getD start.level
  format : final.format = (changes.filterMap Change.format?).getLast?.getD start.format
  timestamps :
    final.timestamps = (changes.filterMap Change.timestamps?).getLast?.getD start.timestamps
  dropped : final.directives = none ↔ start.directives = none ∨ ∃ l, .level l ∈ changes
  kept : ∀ text, final.directives = some text → start.directives = some text

section

variable {α : Type} {lookup : String → Option String} {level : Option Level}
  {format : Option Format}

theorem chosen_or {names : List (String × α)} {read : String → Option α}
    (reads : ∀ {text a}, read text = some a ↔ Spells names text a) (name : String)
    (given : Option α) : Chosen names lookup name given (given.or ((lookup name).bind read)) := by
  cases given
  case some a => exact .given rfl
  case none =>
    cases found : (lookup name).bind read
    case some a =>
      have ⟨text, set, named⟩ := Option.bind_eq_some_iff.mp found
      exact .named rfl set (reads.mp named)
    case none =>
      refine .nothing rfl fun text set a spells => ?_
      rw [set, Option.bind_some, reads.mpr spells] at found
      cases found

theorem isBlankText_iff {text : String} : isBlankText text ↔ Blank text.toList := by
  simp [isBlankText, Blank]

theorem drawn (lookup : String → Option String) (chosen : Option Level) :
    let directives :=
      if chosen.isSome then none else (lookup "RUST_LOG").filter (!isBlankText ·)
    Drawn lookup chosen ((chosen.or (directives.bind mostVerbose?)).getD .info) directives := by
  cases chosen
  case some l => exact .chosen
  case none =>
    simp only [Option.isSome_none, Bool.false_eq_true, if_false, Option.none_or]
    cases found : (lookup "RUST_LOG").filter (!isBlankText ·)
    case none =>
      refine .unset fun text set => ?_
      simpa [set, Option.filter, isBlankText_iff] using found
    case some text =>
      have ⟨set, blank⟩ := Option.filter_eq_some_iff.mp found
      have blank : ¬Blank text.toList := by simpa [← isBlankText_iff] using blank
      cases named : mostVerbose? text
      case none =>
        rw [Option.bind_some, named]
        exact .unnamed set blank (mostVerbose?_eq_none_iff.mp named)
      case some l =>
        rw [Option.bind_some, named]
        exact .named set blank (mostVerbose?_eq_some_iff.mp named)

theorem ofEnvironment_starts : Starts lookup level format (ofEnvironment lookup level format) := by
  constructor
  case timestamps => rfl
  case format     => exact ⟨_, chosen_or Format.ofName?_eq_some_iff _ _, rfl⟩
  case level =>
    refine ⟨_, chosen_or Level.ofName?_eq_some_iff _ _, ?_⟩
    rw [ofEnvironment, levelVariable]
    generalize level.or ((lookup "STACKCHECK_LOG").bind Level.ofName?) = chosen
    exact drawn lookup chosen

-- If a change writes a field or leaves it as it is, then a list of changes leaves in it what was
-- written last.
theorem foldl_apply (field : Settings → α) (written : Change → Option α)
    (step : ∀ s c, field (Change.apply s c) = (written c).getD (field s)) (changes : List Change)
    (s : Settings) :
    field (changes.foldl Change.apply s) = (changes.filterMap written).getLast?.getD (field s) := by
  have present (s : Settings) (c : Change) :
      some (field (c.apply s)) = (written c).or (some (field s)) := by
    rw [step, Option.or_some]
  have last := foldl_last_written (some <| field ·) present changes s
  exact Option.some.inj (last.trans Option.or_some)

-- Directives are dropped when a level is chosen, and stay otherwise.
theorem directives_foldl (start : Settings) (changes : List Change) :
    let final := changes.foldl Change.apply start
    (∃ l, .level l ∈ changes) ∧ final.directives = none ∨
    (∀ l, .level l ∉ changes) ∧ final.directives = start.directives := by
  induction changes generalizing start
  case nil => exact .inr ⟨nofun, rfl⟩
  case cons c changes hi =>
    cases hi (c.apply start)
    case inl h =>
      have ⟨⟨l, later⟩, dropped⟩ := h
      exact .inl ⟨⟨l, List.mem_cons_of_mem _ later⟩, dropped⟩
    case inr h =>
      have ⟨later, kept⟩ := h
      cases c
      case level l => exact .inl ⟨⟨l, List.mem_cons_self⟩, kept⟩
      all_goals exact .inr ⟨by simpa using later, kept⟩

theorem changed (start : Settings) (changes : List Change) :
    Changed start changes (changes.foldl Change.apply start) where
  level      := foldl_apply (·.level) _ (fun _ c => by cases c <;> rfl) _ _
  format     := foldl_apply (·.format) _ (fun _ c => by cases c <;> rfl) _ _
  timestamps := foldl_apply (·.timestamps) _ (fun _ c => by cases c <;> rfl) _ _
  dropped := by
    cases directives_foldl start changes
    case inl h => exact ⟨fun _ => .inr h.left, fun _ => h.right⟩
    case inr h =>
      have none : ¬∃ l, .level l ∈ changes := fun ⟨l, mem⟩ => h.left l mem
      rw [h.right, or_iff_left none]
  kept text h' := by
    cases directives_foldl start changes
    case inl h => exact nomatch h'.symm.trans h.right
    case inr h => exact h.right.symm.trans h'

theorem Chosen.not_none {names : List (String × α)} {name : String} {given : Option α} {a : α}
    (h : Chosen names lookup name given (some a)) : ¬Chosen names lookup name given none := by
  intro nothing
  cases nothing
  case nothing absent unnamed =>
    cases h
    case given present      => exact nomatch absent.symm.trans present
    case named _ set spells => exact unnamed _ set _ spells

theorem levelDirective_eq (s : Settings) :
    s.levelDirective = "sc_core=" ++ s.level.name ++ ",sc_config=" ++ s.level.name := by
  simp [levelDirective, Target.families, ← String.toList_inj]

theorem Drawn.directives_eq {chosen : Option Level} {l : Level} {text : String}
    (h : Drawn lookup chosen l (some text)) : chosen = none ∧ lookup "RUST_LOG" = some text := by
  cases h
  case named set _ _   => exact ⟨rfl, set⟩
  case unnamed set _ _ => exact ⟨rfl, set⟩

theorem Drawn.directives_eq_none {chosen l : Level} {directives : Option String}
    (h : Drawn lookup (some chosen) l directives) : directives = none := by
  cases h
  rfl

end

-- The settings of an environment after some changes. Directives are in force only as they stand in
-- the environment, and only if no level is chosen. Otherwise the level is, for both parts of the
-- program.
theorem chosen_level_in_force (lookup : String → Option String) (level : Option Level)
    (format : Option Format) (changes : List Change) :
    let start := ofEnvironment lookup level format
    let final := changes.foldl Change.apply start
    Starts lookup level format start ∧ Changed start changes final ∧
    (∀ text, final.directives = some text →
      lookup "RUST_LOG" = some text ∧ final.filterDirective = text) ∧
    (final.directives = none →
      final.filterDirective = "sc_core=" ++ final.level.name ++ ",sc_config=" ++ final.level.name) ∧
    ((∃ l, Chosen Level.names lookup "STACKCHECK_LOG" level (some l)) ∨ (∃ l, .level l ∈ changes) →
      final.directives = none) := by
  intro start final
  have starts : Starts lookup level format start := ofEnvironment_starts
  have changed : Changed start changes final := changed start changes
  refine ⟨starts, changed, ?raw, ?named, ?unshadowed⟩
  case raw =>
    intro text h
    have ⟨chosen, _, drawn⟩ := starts.level
    rw [changed.kept text h] at drawn
    exact ⟨drawn.directives_eq.right, by rw [filterDirective, h]; rfl⟩
  case named =>
    intro h
    rw [filterDirective, h, Option.getD_none, levelDirective_eq]
  case unshadowed =>
    intro h
    cases h
    case inr h => exact changed.dropped.mpr (.inr h)
    case inl h =>
      have ⟨l, given⟩ := h
      have ⟨chosen, found, drawn⟩ := starts.level
      cases chosen
      case none   => exact absurd found given.not_none
      case some l => exact changed.dropped.mpr (.inl drawn.directives_eq_none)

-- An environment with a level that cannot be read and with directives.
def verbose (name : String) : Option String :=
  [("STACKCHECK_LOG", "loud"), ("RUST_LOG", "sc_core= Debug ,warning")].lookup name

theorem chosen_level_in_force_verbose :
    let start := ofEnvironment verbose none none
    start.level = .debug ∧ start.filterDirective = "sc_core= Debug ,warning" ∧
    ([.level .error, .timestamps false].foldl Change.apply start).filterDirective =
      "sc_core=error,sc_config=error" := by
  have ⟨_, _, raw, _⟩ := chosen_level_in_force verbose none none []
  have ⟨_, _, _, named, unshadowed⟩ :=
    chosen_level_in_force verbose none none [.level .error, .timestamps false]
  have ⟨_, passed⟩ := raw "sc_core= Debug ,warning" (by decide +kernel)
  exact ⟨by decide +kernel, passed, named (unshadowed (.inr ⟨.error, List.mem_cons_self⟩))⟩

end RollingUpgrade.Log.Settings
