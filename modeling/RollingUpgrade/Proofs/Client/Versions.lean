import RollingUpgrade.Proofs.Client.Replies
import RollingUpgrade.Proofs.Model.Placement
import RollingUpgrade.Proofs.Rendition

namespace RollingUpgrade.Client

variable {σ : Type} {answer : Client.Handler σ} {s : σ} {application package unit : String}
  {ids versions : List String}

-- The tool knows the application, and its units have these names.
def Lists (answer : Client.Handler σ) (s : σ) (application : String) (ids : List String) : Prop :=
  ∃ snapshot, (answer .status s).1 = .ok snapshot ∧ PlacedUnit.UnitNames snapshot application ids

theorem run_units {snapshot : Snapshot} (h : (answer .status s).1 = .ok snapshot) :
    (units application).run answer s =
      ⟨match PlacedUnit.ofApplication? snapshot application with
        | some units => .ok units
        | none       => .error (.client s!"application {application} not found"),
      [.asked .status (answer .status s).1], (answer .status s).2⟩ := by
  rw [units, Program.run_bind, Call.run_perform, Run.andThen_ok h]
  cases PlacedUnit.ofApplication? snapshot application <;> rfl

theorem run_packageVersion : (packageVersion application package).run answer s =
    ((units application).run answer s).andThen fun units s =>
      (((units.map (·.id)).mapM (versionOn package)).run answer s).andThen fun versions s =>
        ⟨agreement application package versions, [], s⟩ := by
  rw [packageVersion, packageVersions, Program.run_bind, Program.run_bind, Run.andThen_assoc]
  congr
  funext units s
  rw [List.mapM_map]
  congr
  funext versions s
  cases agreement application package versions <;> rfl

section

variable (application package)

theorem packageVersion_of_unanswered {e : Error} (h : (answer .status s).1 = .error e) :
    let run := (packageVersion application package).run answer s
    run.result = .error e ∧ run.exchanges = [⟨.status, (answer .status s).1⟩] := by
  rw [run_packageVersion, units, Program.run_bind, Call.run_perform, h]
  exact ⟨rfl, rfl⟩

theorem packageVersion_of_unknown {snapshot : Snapshot} (h : (answer .status s).1 = .ok snapshot)
    (unknown : application ∉ snapshot.applications) :
    let run := (packageVersion application package).run answer s
    run.result = .error (.client s!"application {application} not found") ∧
    run.exchanges = [⟨.status, (answer .status s).1⟩] := by
  rw [run_packageVersion, run_units h, PlacedUnit.ofApplication?_eq_none_iff.mpr unknown,
    Run.andThen_error rfl]
  exact ⟨rfl, rfl⟩

end

theorem packageVersion_of_lists (package : String) (h : Lists answer s application ids) :
    let rest := ((ids.mapM (versionOn package)).run answer (answer .status s).2).andThen
      fun versions s => ⟨agreement application package versions, [], s⟩
    let run := (packageVersion application package).run answer s
    run.result = rest.result ∧
    run.exchanges = ⟨.status, (answer .status s).1⟩ :: rest.exchanges := by
  have ⟨snapshot, status, names⟩ := h
  have ⟨units, listed, eq⟩ := PlacedUnit.unitNames_iff.mp names
  subst eq
  rw [run_packageVersion, run_units status, listed, Run.andThen_ok (a := units) rfl]
  exact ⟨rfl, rfl⟩

theorem packageVersion_of_told (lists : Lists answer s application ids)
    (tell : List.Forall₂ (fun r v => Tells r.2 v)
      (replies answer (listing package) ids (answer .status s).2) versions) :
    let run := (packageVersion application package).run answer s
    run.result = agreement application package versions ∧
    run.exchanges = ⟨.status, (answer .status s).1⟩ ::
      (replies answer (listing package) ids (answer .status s).2).map
        (asked (listing package)) := by
  have ⟨result, exchanges⟩ := packageVersion_of_lists package lists
  have ⟨told, asked⟩ := mapM_versionOn_of_tells tell
  constructor
  · rw [result, Run.andThen_ok told]
  · rw [exchanges, Run.exchanges_andThen_ok told, asked]
    exact congrArg _ (List.append_nil _)

theorem packageVersion_of_stopped {told later : List (String × Except Error CommandResult)}
    {reply : Except Error CommandResult} {e : Error} (lists : Lists answer s application ids)
    (split : replies answer (listing package) ids (answer .status s).2 =
      told ++ (unit, reply) :: later)
    (tell : ∀ r ∈ told, ∃ v, Tells r.2 v) (fails : Fails unit (listing package) reply e) :
    let run := (packageVersion application package).run answer s
    run.result = .error e ∧
    run.exchanges = ⟨.status, (answer .status s).1⟩ ::
      (told ++ [(unit, reply)]).map (asked (listing package)) := by
  have ⟨result, exchanges⟩ := packageVersion_of_lists package lists
  have ⟨stopped, asked⟩ := mapM_versionOn_of_fails split tell fails
  constructor
  · rw [result, Run.andThen_error stopped]
  · rw [exchanges, Run.exchanges_andThen_error stopped, asked]

-- The tool does not answer or does not know the application, or all units tell their versions, or
-- there is a first unit that does not.
inductive Situation (answer : Client.Handler σ) (s : σ) (application package : String) : Prop
  | unanswered {e : Error} (status : (answer .status s).1 = .error e)
  | unknown {snapshot : Snapshot} (status : (answer .status s).1 = .ok snapshot)
    (unknown : application ∉ snapshot.applications)
  | told {ids versions : List String} (lists : Lists answer s application ids)
    (tell : List.Forall₂ (fun r v => Tells r.2 v)
      (replies answer (listing package) ids (answer .status s).2) versions)
  | stopped {ids : List String} {told later : List (String × Except Error CommandResult)}
    {unit : String} {reply : Except Error CommandResult} {e : Error}
    (lists : Lists answer s application ids)
    (split : replies answer (listing package) ids (answer .status s).2 =
      told ++ (unit, reply) :: later)
    (tell : ∀ r ∈ told, ∃ v, Tells r.2 v) (fails : Fails unit (listing package) reply e)

theorem situation (answer : Client.Handler σ) (s : σ) (application package : String) :
    Situation answer s application package := by
  cases status : (answer .status s).1
  case error e => exact .unanswered status
  case ok snapshot =>
    cases listed : PlacedUnit.ofApplication? snapshot application
    case none => exact .unknown status (PlacedUnit.ofApplication?_eq_none_iff.mp listed)
    case some units =>
      have lists : Lists answer s application (units.map (·.id)) :=
        ⟨snapshot, status, PlacedUnit.unitNames_iff.mpr ⟨units, listed, rfl⟩⟩
      cases all_tell_or_first_fails (listing package)
        (replies answer (listing package) (units.map (·.id)) (answer .status s).2)
      case inl all =>
        have ⟨_, tell⟩ := all
        exact .told lists tell
      case inr first =>
        have ⟨_, _, _, _, _, split, tell, fails⟩ := first
        exact .stopped lists split tell fails

theorem packageVersion_eq_ok_iff {version : String} :
    ((packageVersion application package).run answer s).result = .ok version ↔
      ∃ ids, Lists answer s application ids ∧ ids ≠ [] ∧
        ∀ r ∈ replies answer (listing package) ids (answer .status s).2, Tells r.2 version := by
  constructor
  · intro h
    cases situation answer s application package
    case unanswered e status =>
      cases h.symm.trans (packageVersion_of_unanswered application package status).left
    case unknown snapshot status unknown =>
      cases h.symm.trans (packageVersion_of_unknown application package status unknown).left
    case stopped lists split tell fails =>
      cases h.symm.trans (packageVersion_of_stopped lists split tell fails).left
    case told ids versions lists tell =>
      have agreed := (packageVersion_of_told lists tell).left.symm.trans h
      have ⟨nonempty, same⟩ := agreement_eq_ok_iff.mp agreed
      refine ⟨ids, lists, fun none => nonempty ?_, fun r hr => ?_⟩
      · rw [replies_eq_nil_iff.mpr none] at tell
        exact List.forall₂_nil_left_iff.mp tell
      · have ⟨v, hv, tells⟩ := (exists_of_forall₂ tell).left r hr
        exact same v hv ▸ tells
  · intro ⟨ids, lists, nonempty, tell⟩
    have all := List.forall₂_map_right_iff.mpr (List.forall₂_same.mpr tell)
    rw [(packageVersion_of_told lists all).left, agreement_eq_ok_iff]
    exact ⟨mt List.map_eq_nil_iff.mp (mt replies_eq_nil_iff.mp nonempty), by simp⟩

theorem Lists.status_ne {e : Error} {call : Call} (lists : Lists answer s application ids) :
    (⟨call, .error e⟩ : Client.Exchange) ≠ ⟨.status, (answer .status s).1⟩ := by
  intro h
  have ⟨snapshot, status, _⟩ := lists
  rw [status] at h
  cases h

-- A failure of the tool is handed on.
theorem packageVersion_of_failed_call {call : Call} {e : Error} :
    let run := (packageVersion application package).run answer s
    ⟨call, .error e⟩ ∈ run.exchanges → run.result = .error e := by
  intro run failed
  cases situation answer s application package
  case unanswered e' status =>
    have ⟨result, exchanges⟩ := packageVersion_of_unanswered application package status
    rw [exchanges, List.mem_singleton, status] at failed
    cases failed
    exact result
  case unknown snapshot status unknown =>
    have ⟨result, exchanges⟩ := packageVersion_of_unknown application package status unknown
    rw [exchanges, List.mem_singleton, status] at failed
    cases failed
  case told ids versions lists tell =>
    have ⟨result, exchanges⟩ := packageVersion_of_told lists tell
    rw [exchanges] at failed
    have ⟨r, hr, eq⟩ := List.mem_map.mp ((List.mem_cons.mp failed).resolve_left lists.status_ne)
    have ⟨v, _, tells⟩ := (exists_of_forall₂ tell).left r hr
    rw [reply_of_asked eq.symm] at tells
    cases tells
  case stopped ids told later unit reply e' lists split tell fails =>
    have ⟨result, exchanges⟩ := packageVersion_of_stopped lists split tell fails
    rw [exchanges] at failed
    have ⟨r, hr, eq⟩ := List.mem_map.mp ((List.mem_cons.mp failed).resolve_left lists.status_ne)
    have error := reply_of_asked eq.symm
    cases List.mem_append.mp hr
    case inl hr =>
      have ⟨v, tells⟩ := tell r hr
      rw [error] at tells
      cases tells
    case inr hr =>
      cases List.mem_singleton.mp hr
      cases error
      cases fails
      exact result

-- Units that differ are not the only reason, as the tool may give this failure for a call itself.
theorem packageVersion_eq_mismatch_iff {p : String} :
    let run := (packageVersion application package).run answer s
    run.result = .error (.packageVersionMismatch p versions) ↔
      (p = package ∧ ∃ ids, Lists answer s application ids ∧
        List.Forall₂ (fun r v => Tells r.2 v)
          (replies answer (listing package) ids (answer .status s).2) versions ∧
        ∃ v ∈ versions, ∃ w ∈ versions, v ≠ w) ∨
      ∃ call, ⟨call, .error (.packageVersionMismatch p versions)⟩ ∈ run.exchanges := by
  intro run
  constructor
  · intro h
    cases situation answer s application package
    case unanswered e status =>
      have ⟨result, exchanges⟩ := packageVersion_of_unanswered application package status
      cases h.symm.trans result
      rw [status] at exchanges
      exact .inr ⟨.status, exchanges ▸ List.mem_singleton_self _⟩
    case unknown snapshot status unknown =>
      cases h.symm.trans (packageVersion_of_unknown application package status unknown).left
    case told ids versions' lists tell =>
      have agreed := (packageVersion_of_told lists tell).left.symm.trans h
      have ⟨named, listed, differ⟩ := agreement_eq_mismatch_iff.mp agreed
      exact .inl ⟨named, ids, lists, listed ▸ tell, listed ▸ differ⟩
    case stopped ids told later unit reply e' lists split tell fails =>
      have ⟨result, exchanges⟩ := packageVersion_of_stopped lists split tell fails
      have last := List.mem_append_right told (List.mem_singleton_self (unit, reply))
      cases h.symm.trans result
      cases fails
      exact .inr ⟨.run unit (listing package),
        exchanges ▸ List.mem_cons_of_mem _ (List.mem_map_of_mem last)⟩
  · intro h
    cases h
    case inl h =>
      have ⟨named, ids, lists, tell, differ⟩ := h
      rw [(packageVersion_of_told lists tell).left]
      exact agreement_eq_mismatch_iff.mpr ⟨named, rfl, differ⟩
    case inr h =>
      have ⟨call, failed⟩ := h
      exact packageVersion_of_failed_call failed

theorem packageVersion_stops (lists : Lists answer s application ids)
    (failure : ∃ r ∈ replies answer (listing package) ids (answer .status s).2,
      ∃ e, Fails r.1 (listing package) r.2 e) :
    let run := (packageVersion application package).run answer s
    ∃ told unit reply later e,
      replies answer (listing package) ids (answer .status s).2 =
        told ++ (unit, reply) :: later ∧
      (∀ r ∈ told, ∃ v, Tells r.2 v) ∧ Fails unit (listing package) reply e ∧
      run.result = .error e ∧
      run.exchanges = ⟨.status, (answer .status s).1⟩ ::
        (told ++ [(unit, reply)]).map (asked (listing package)) := by
  cases all_tell_or_first_fails (listing package)
    (replies answer (listing package) ids (answer .status s).2)
  case inl all =>
    have ⟨versions, tell⟩ := all
    have ⟨r, hr, e, fails⟩ := failure
    have ⟨v, _, tells⟩ := (exists_of_forall₂ tell).left r hr
    exact absurd fails tells.not_fails
  case inr first =>
    have ⟨told, unit, reply, later, e, split, tell, fails⟩ := first
    exact ⟨told, unit, reply, later, e, split, tell, fails,
      packageVersion_of_stopped lists split tell fails⟩

theorem calls_of_exchanges {run : Run Client σ String} {reply : Except Error Snapshot}
    (h : run.exchanges = [⟨.status, reply⟩]) : run.calls = [.status] := by
  rw [Run.calls, ← Run.map_fst_exchanges, h]
  rfl

-- The version is the third word of the first line that the command printed on each of the units, of
-- which there is one at least. Where units differ, their versions are reported in the order of the
-- units' names. A failure is handed on, and nothing is asked after it.
theorem packageVersion_agrees (answer : Client.Handler σ) (s : σ) (application package : String) :
    let run := (packageVersion application package).run answer s
    let command := "dpkg -l | grep " ++ package
    let replies ids := replies answer command ids (answer .status s).2
    (∀ version, run.result = .ok version ↔ ∃ ids, Lists answer s application ids ∧ ids ≠ [] ∧
      ∀ r ∈ replies ids, Tells r.2 version) ∧
    (∀ p versions, run.result = .error (.packageVersionMismatch p versions) ↔
      (p = package ∧ ∃ ids, Lists answer s application ids ∧
        List.Forall₂ (fun r v => Tells r.2 v) (replies ids) versions ∧
        ∃ v ∈ versions, ∃ w ∈ versions, v ≠ w) ∨
      ∃ call, ⟨call, .error (.packageVersionMismatch p versions)⟩ ∈ run.exchanges) ∧
    (∀ snapshot, (answer .status s).1 = .ok snapshot →
      (application ∉ snapshot.applications →
        run.result = .error (.client s!"application {application} not found") ∧
        run.calls = [.status]) ∧
      (PlacedUnit.UnitNames snapshot application [] →
        run.result = .error (.client s!"application {application} has no units") ∧
        run.calls = [.status])) ∧
    (∀ e, (answer .status s).1 = .error e → run.result = .error e ∧ run.calls = [.status]) ∧
    ∀ ids, Lists answer s application ids → (∃ r ∈ replies ids, ∃ e, Fails r.1 command r.2 e) →
      ∃ told unit reply later e, replies ids = told ++ (unit, reply) :: later ∧
        (∀ r ∈ told, ∃ v, Tells r.2 v) ∧ Fails unit command reply e ∧ run.result = .error e ∧
        run.exchanges = ⟨.status, (answer .status s).1⟩ ::
          (told ++ [(unit, reply)]).map fun r => ⟨.run r.1 command, r.2⟩ := by
  intro run command replies
  refine ⟨fun _ => packageVersion_eq_ok_iff, fun _ _ => packageVersion_eq_mismatch_iff, ?missing,
    ?unanswered, fun _ => packageVersion_stops⟩
  case missing =>
    intro snapshot status
    constructor
    · intro unknown
      have ⟨result, exchanges⟩ := packageVersion_of_unknown application package status unknown
      exact ⟨result, calls_of_exchanges exchanges⟩
    · intro none
      have ⟨result, exchanges⟩ : run.result = _ ∧ run.exchanges = _ :=
        packageVersion_of_told ⟨snapshot, status, none⟩ .nil
      exact ⟨result.trans agreement_nil, calls_of_exchanges exchanges⟩
  case unanswered =>
    intro e status
    have ⟨result, exchanges⟩ := packageVersion_of_unanswered application package status
    exact ⟨result, calls_of_exchanges exchanges⟩

-- A cluster rides on both units of a service, and the package of the cluster is on one of them. A
-- third application has a unit on which its package is missing, and a fourth one has no units.
def rack : Snapshot :=
  ⟨.ofList [("hacluster", ⟨"hacluster", ["keystone"], none, .empty⟩),
    ("keystone", ⟨"keystone", [], none,
      .ofList [("keystone/0", PlacedUnit.carrying "0" ["hacluster/1"]),
        ("keystone/1", PlacedUnit.carrying "1" ["hacluster/0"])]⟩),
    ("nova", ⟨"nova", [], none, .ofList [("nova/0", PlacedUnit.carrying "2" []),
      ("nova/1", PlacedUnit.carrying "3" [])]⟩),
    ("spare", ⟨"nova", [], none, .empty⟩)]⟩

def rackModel : ScriptedModel :=
  (((ScriptedModel.empty.withSnapshot rack).withCommandResult "dpkg -l | grep keystone"
    (.ofExit 0 "ii  keystone 2:21.0.1 all\nii  python3-keystone 2:21.0.0 all\n" "")).withRunResult
    "hacluster/0" "dpkg -l | grep corosync" (.ofExit 0 "ii corosync 3.1.6" "")).withRunResult
    "nova/0" "dpkg -l | grep nova" (.ofExit 1 "" "nova is missing")

theorem names_rack {app : String} {a : Application} (units : List PlacedUnit)
    (deployed : rack.applications.find? app = some a)
    (h : PlacedUnit.arranged (PlacedUnit.found rack app a) = units) :
    PlacedUnit.UnitNames rack app (units.map (·.id)) :=
  PlacedUnit.unitNames_iff.mpr
    ⟨units, (PlacedUnit.ofApplication?_eq_some_iff deployed).mpr h, rfl⟩

theorem packageVersion_agrees_rack :
    let run application package := (packageVersion application package).run rackModel.handler ()
    (run "keystone" "keystone").result = .ok "2:21.0.1" ∧
    (run "hacluster" "corosync").result =
      .error (.packageVersionMismatch "corosync" ["3.1.6", ""]) ∧
    (run "nova" "nova").result =
      .error (.commandFailed "nova/0" "dpkg -l | grep nova" 1 "nova is missing") ∧
    (run "nova" "nova").calls = [.status, .run "nova/0" "dpkg -l | grep nova"] ∧
    (run "spare" "nova").result = .error (.client "application spare has no units") ∧
    (run "glance" "glance").result = .error (.client "application glance not found") := by
  intro run
  have keystone : PlacedUnit.UnitNames rack "keystone" ["keystone/0", "keystone/1"] :=
    names_rack [⟨_, "keystone", "0", none⟩, ⟨_, "keystone", "1", none⟩] rfl
      (PlacedUnit.arranged_eq_iff.mpr (by decide))
  have hacluster : PlacedUnit.UnitNames rack "hacluster" ["hacluster/0", "hacluster/1"] :=
    names_rack [⟨_, "hacluster", "1", none⟩, ⟨_, "hacluster", "0", none⟩] rfl
      (PlacedUnit.arranged_eq_iff.mpr (by decide))
  have nova : PlacedUnit.UnitNames rack "nova" ["nova/0", "nova/1"] :=
    names_rack [⟨_, "nova", "2", none⟩, ⟨_, "nova", "3", none⟩] rfl
      (PlacedUnit.arranged_eq_iff.mpr (by decide))
  have spare : PlacedUnit.UnitNames rack "spare" [] :=
    names_rack [] rfl (PlacedUnit.arranged_eq_iff.mpr (by decide))
  have shown : Tells (.ok (rackModel.resultOf "keystone/0" "dpkg -l | grep keystone")) "2:21.0.1" :=
    .intro (by decide) (thirdWord_iff.mpr (by decide))
  have riding : Tells (.ok (rackModel.resultOf "hacluster/0" "dpkg -l | grep corosync")) "3.1.6" :=
    .intro (by decide) (thirdWord_iff.mpr (by decide))
  have riding' : Tells (.ok (rackModel.resultOf "hacluster/1" "dpkg -l | grep corosync")) "" :=
    .intro (by decide) (thirdWord_iff.mpr (by decide))
  have failed : Fails "nova/0" "dpkg -l | grep nova"
      (.ok (rackModel.resultOf "nova/0" "dpkg -l | grep nova"))
      (.commandFailed "nova/0" "dpkg -l | grep nova" 1 "nova is missing") := .failed (by decide)
  have ⟨agreed, _⟩ := packageVersion_agrees rackModel.handler () "keystone" "keystone"
  have ⟨_, differ, _⟩ := packageVersion_agrees rackModel.handler () "hacluster" "corosync"
  have ⟨_, _, _, _, stops⟩ := packageVersion_agrees rackModel.handler () "nova" "nova"
  have ⟨_, _, bare, _⟩ := packageVersion_agrees rackModel.handler () "spare" "nova"
  have ⟨_, _, unknown, _⟩ := packageVersion_agrees rackModel.handler () "glance" "glance"
  have ⟨told, unit, reply, later, e, split, tell, fails, result, exchanges⟩ :=
    stops _ ⟨rack, rfl, nova⟩ ⟨_, List.mem_cons_self, _, failed⟩
  have stopped : (run "nova" "nova").result =
        .error (.commandFailed "nova/0" "dpkg -l | grep nova" 1 "nova is missing") ∧
      (run "nova" "nova").calls = [.status, .run "nova/0" "dpkg -l | grep nova"] := by
    cases told
    case cons r told =>
      have ⟨head, _⟩ := List.cons.inj split
      have ⟨v, tells⟩ := tell r List.mem_cons_self
      exact absurd failed (head ▸ tells).not_fails
    case nil =>
      have ⟨head, _⟩ := List.cons.inj split
      cases head
      cases fails
      rw [Run.calls, ← Run.map_fst_exchanges]
      exact ⟨result, congrArg (List.map (·.1)) exchanges⟩
  refine ⟨(agreed _).mpr ⟨_, ⟨rack, rfl, keystone⟩, by decide, ?all⟩,
    (differ _ _).mpr (.inl ⟨rfl, _, ⟨rack, rfl, hacluster⟩, .cons riding (.cons riding' .nil),
      by decide⟩), stopped.left, stopped.right, ((bare rack rfl).right spare).left,
    ((unknown rack rfl).left (by decide)).left⟩
  exact List.forall_mem_cons.mpr ⟨shown, List.forall_mem_singleton.mpr shown⟩

end RollingUpgrade.Client
