import Mathlib.Data.List.Chain
import RollingUpgrade.Client.Recorder
import RollingUpgrade.Proofs.Series.Rolling

namespace RollingUpgrade

namespace Call

def waits : Call → Bool
  | .awaitIdle | .awaitWorkload .. => true
  | _                              => false

-- The calls that take a machine down, bring it back, or set up its application anew.
def changes : Call → Bool
  | .prepareSeries .. | .completeSeries _ | .setConfig .. | .setSeries .. => true
  | _                                                                     => false

-- The calls that neither wait for the model nor change it.
def Plain (c : Call) : Prop :=
  ¬c.waits ∧ ¬c.changes

theorem Opens.plain {c : Call} : c.Opens → c.Plain
  | status | pause _ => ⟨Bool.false_ne_true, Bool.false_ne_true⟩

end Call

namespace Series

-- The model has been waited for, and now it is idle.
def idled : Client.Exchange :=
  ⟨.awaitIdle, .ok ()⟩

def WaitFailed (x : Client.Exchange) : Prop :=
  x.1.waits ∧ ∃ e, x.2 = .error e

-- What may be asked next: nothing if the last wait failed, and a change only of an idle model.
def MayFollow (x y : Client.Exchange) : Prop :=
  ¬WaitFailed x ∧ (y.1.changes → x = idled)

-- A run that waits for the model before it changes it. To ensure that such runs can be put one
-- behind the other, the first call is no change, and a run that succeeds does not end in a wait
-- that failed.
structure Patient {σ α : Type} (r : Run Client σ α) : Prop where
  chain : r.exchanges.IsChain MayFollow
  start : ∀ x ∈ r.exchanges.head?, ¬x.1.changes
  finish : ∀ a, r.result = .ok a → ∀ x ∈ r.exchanges.getLast?, ¬WaitFailed x

-- Hooks that leave it to the upgrade to wait for the model and to change it.
def Unobtrusive {σ : Type} (answer : Client.Handler σ) (hooks : List Hook) : Prop :=
  ∀ hook ∈ hooks, ∀ unit, (hook unit).Only answer Call.Plain

namespace Patient

variable {σ α β : Type} {r : Run Client σ α}

theorem of_plain (h : ∀ c ∈ r.requests, c.Plain) : Patient r := by
  have plain : ∀ x ∈ r.exchanges, x.1.Plain :=
    fun x hx => h _ (r.map_fst_exchanges ▸ List.mem_map_of_mem hx)
  refine ⟨?chain, ?start, ?finish⟩
  case chain =>
    refine List.Pairwise.isChain (List.pairwise_of_forall_mem_list fun x hx y hy => ?_)
    exact ⟨fun failed => (plain x hx).left failed.left, fun hc => absurd hc (plain y hy).right⟩
  case start  => exact fun x hx => (plain x (List.mem_of_mem_head? hx)).right
  case finish => exact fun _ _ x hx failed => (plain x (List.mem_of_getLast? hx)).left failed.left

theorem andThen {next : α → σ → Run Client σ β} (hr : Patient r)
    (hn : ∀ a s, Patient (next a s)) : Patient (r.andThen next) := by
  cases h : r.result
  case error e =>
    have same : (r.andThen next).exchanges = r.exchanges := Run.exchanges_andThen_error h
    refine ⟨same ▸ hr.chain, same ▸ hr.start, fun b hb => ?_⟩
    rw [Run.andThen_error h] at hb
    cases hb
  case ok a =>
    have rest := hn a r.state
    have both : (r.andThen next).exchanges = r.exchanges ++ (next a r.state).exchanges :=
      Run.exchanges_andThen_ok h
    refine ⟨?chain, ?start, fun b hb => ?finish⟩
    case chain =>
      rw [both]
      refine hr.chain.append rest.chain fun x hx y hy => ⟨hr.finish a h x hx, fun hc => ?_⟩
      exact absurd hc (rest.start y hy)
    case start =>
      rw [both, List.head?_append]
      intro x hx
      rcases Option.or_eq_some_iff.mp hx with hx | ⟨_, hx⟩
      · exact hr.start x hx
      · exact rest.start x hx
    case finish =>
      rw [Run.andThen_ok h] at hb
      rw [both, List.getLast?_append]
      intro x hx
      rcases Option.or_eq_some_iff.mp hx with hx | ⟨_, hx⟩
      · exact rest.finish b hb x hx
      · exact hr.finish a h x hx

theorem follows {before after : List Client.Exchange} {x y : Client.Exchange} (h : Patient r)
    (split : r.exchanges = before ++ x :: y :: after) : MayFollow x y :=
  List.isChain_iff_forall_rel_of_append_cons_cons.mp h.chain split

theorem idled_before {before after : List Client.Exchange} {x : Client.Exchange} (h : Patient r)
    (split : r.exchanges = before ++ x :: after) (hc : x.1.changes) :
    before.getLast? = some idled := by
  rcases List.eq_nil_or_concat' before with rfl | ⟨l, y, rfl⟩
  · exact absurd hc (h.start x (split ▸ rfl))
  · rw [List.append_assoc] at split
    rw [List.getLast?_concat, (h.follows split).right hc]

theorem nothing_after {before after : List Client.Exchange} {x : Client.Exchange} (h : Patient r)
    (split : r.exchanges = before ++ x :: after) (hx : WaitFailed x) : after = [] := by
  cases after
  case nil      => rfl
  case cons y _ => exact absurd hx (h.follows split).left

theorem of_outline (h : Patient r.outline) : Patient r := by
  have same := r.exchanges_outline
  refine ⟨same ▸ h.chain, same ▸ h.start, fun a ha => same ▸ h.finish () ?_⟩
  rw [Run.outline, ha]
  rfl

theorem outline (h : Patient r) : Patient r.outline := by
  have same := r.exchanges_outline
  refine ⟨same.symm ▸ h.chain, same.symm ▸ h.start, fun _ hu => ?_⟩
  rw [same]
  cases ha : r.result
  case error e => simp [Run.outline, ha, Except.map] at hu
  case ok a    => exact h.finish a ha

end Patient

section

variable {σ : Type} {answer : Client.Handler σ} {unit machine : String} {settings : SeriesSettings}
  {hooks : List Hook} {ts us : List Stage} {s : σ}

theorem exchanges_issue (c : Call) (judge : Except Error c.Result → Verdict) :
    (issue answer c judge s).exchanges = [⟨c, (answer c s).1⟩] := by
  rw [issue]
  cases judge (answer c s).1 <;> rfl

theorem reply_of_issue_ok {c : Call} (h : (issue answer c Verdict.ofCall s).result = .ok ()) :
    ∃ a, (answer c s).1 = .ok a := by
  rw [issue] at h
  cases hr : (answer c s).1
  case ok a    => exact ⟨a, rfl⟩
  case error e => simp [hr, Verdict.ofCall] at h

theorem not_waitFailed_of_issue_ok {c : Call}
    (h : (issue answer c Verdict.ofCall s).result = .ok ()) :
    ¬WaitFailed ⟨c, (answer c s).1⟩ := by
  have ⟨_, ha⟩ := reply_of_issue_ok h
  rintro ⟨_, _, he⟩
  cases ha.symm.trans he

theorem patient_of_plain {t : Stage} (h : ∀ k, t ≠ .hook k)
    (hc : ∀ c, t.call? unit = some c → c.Plain) : Patient (t.run answer unit s) := by
  have calls : (t.run answer unit s).calls = (t.call? unit).toList := Stage.calls_run h
  exact .of_plain fun c hm => hc c (Option.mem_toList.mp (calls ▸ hm))

theorem patient_of_wait {c : Call} (h : ¬c.changes) :
    Patient (Stage.run answer unit (.call c) s) := by
  have one : (Stage.run answer unit (.call c) s).exchanges = [⟨c, (answer c s).1⟩] :=
    exchanges_issue _ _
  refine ⟨?chain, ?start, ?finish⟩
  case chain  => exact one ▸ List.isChain_singleton _
  case start  => rw [one]; rintro x ⟨⟩; exact h
  case finish => rw [one]; rintro _ hr x ⟨⟩; exact not_waitFailed_of_issue_ok hr

-- The stages make up a patient run wherever they start.
def PatientStages (answer : Client.Handler σ) (unit : String) (ts : List Stage) : Prop :=
  ∀ s, Patient (walk answer unit ts s)

namespace PatientStages

theorem nil : PatientStages answer unit [] :=
  fun _ => .of_plain nofun

theorem append (ht : PatientStages answer unit ts) (hu : PatientStages answer unit us) :
    PatientStages answer unit (ts ++ us) := by
  intro s
  rw [walk_append]
  exact (ht s).andThen fun _ => hu

theorem cons {t : Stage} (ht : ∀ s, Patient (t.run answer unit s))
    (hu : PatientStages answer unit us) : PatientStages answer unit (t :: us) :=
  fun s => (ht s).andThen fun _ => hu

theorem of_forall (h : ∀ t ∈ ts, ∀ s, Patient (t.run answer unit s)) :
    PatientStages answer unit ts := by
  induction ts
  case nil => exact nil
  case cons t ts hi =>
    rw [List.forall_mem_cons] at h
    exact cons h.left (hi h.right)

theorem idle_change (c : Call) : PatientStages answer unit [.call .awaitIdle, .call c] := by
  intro s
  let wait : Run Client σ Unit := Stage.run answer unit (.call .awaitIdle) s
  have before : wait.exchanges = [⟨.awaitIdle, (answer .awaitIdle s).1⟩] := exchanges_issue _ _
  have walked : walk answer unit [.call .awaitIdle, .call c] s =
      wait.andThen fun _ => Stage.run answer unit (.call c) := by
    rw [walk]
    congr
    funext _ s
    exact walk_singleton
  rw [walked]
  cases h : wait.result
  case error e =>
    have first : Patient wait := patient_of_wait Bool.false_ne_true
    rw [Run.andThen_error h, ← h]
    exact first
  case ok =>
    obtain ⟨_, idle⟩ := reply_of_issue_ok h
    have after : (Stage.run answer unit (.call c) wait.state).exchanges =
        [⟨c, (answer c wait.state).1⟩] := exchanges_issue _ _
    have both : (wait.andThen fun _ => Stage.run answer unit (.call c)).exchanges =
        [idled, ⟨c, (answer c wait.state).1⟩] := by
      rw [Run.exchanges_andThen_ok h, before, after, idle]
      rfl
    refine ⟨?chain, ?start, ?finish⟩
    case chain =>
      rw [both]
      exact .cons_cons ⟨by rintro ⟨_, _, ⟨⟩⟩, fun _ => rfl⟩ (.singleton _)
    case start =>
      rw [both]
      rintro x ⟨⟩
      exact Bool.false_ne_true
    case finish =>
      rw [both, Run.andThen_ok h]
      rintro _ hr x ⟨⟩
      exact not_waitFailed_of_issue_ok hr

-- A change may be asked for if nothing comes between it and the wait that it is made after.
theorem change (c : Call) (hu : PatientStages answer unit us) :
    PatientStages answer unit (.call .awaitIdle :: .call c :: us) :=
  (idle_change c).append hu

theorem origin (application : String) (o : Option String)
    (hu : PatientStages answer unit (.call .awaitIdle :: us)) :
    PatientStages answer unit (.call .awaitIdle :: (o.toList.flatMap (fun origin =>
      [.call (.setConfig application (.ofList [(origin, defaultPocket)])), .call .awaitIdle]) ++
        us)) := by
  cases o
  case none   => exact hu
  case some o => exact change _ hu

variable (unit machine settings) in
theorem procedure (unobtrusive : Unobtrusive answer hooks) :
    PatientStages answer unit (procedure unit machine settings hooks) := by
  have command text s : Patient (Stage.run answer unit (.command text) s) :=
    patient_of_plain (by simp) (by simp [Stage.call?, Call.Plain, Call.waits, Call.changes])
  have shell args s : Patient (Stage.run answer unit (.shell args) s) :=
    patient_of_plain (by simp) (by simp [Stage.call?, Call.Plain, Call.waits, Call.changes])
  have copy file s : Patient (Stage.run answer unit (.copy file) s) :=
    patient_of_plain (by simp) (by simp [Stage.call?, Call.Plain, Call.waits, Call.changes])
  have idle s : Patient (Stage.run answer unit (.call .awaitIdle) s) :=
    patient_of_wait Bool.false_ne_true
  have workload status s : Patient (Stage.run answer unit (.call (.awaitWorkload unit status)) s) :=
    patient_of_wait Bool.false_ne_true
  have files : PatientStages answer unit (settings.files.map .copy) :=
    .of_forall (by simp [copy])
  have script : PatientStages answer unit
      (settings.workaroundScript.toList.map fun script => .shell ["sudo " ++ script]) :=
    .of_forall (by simp [shell])
  have performed : PatientStages answer unit (hooks.map .hook) :=
    .of_forall (by simpa using fun hook hh s => .of_plain (unobtrusive hook hh unit s))
  simp only [Series.procedure, groundwork, outage, aftermath, List.append_assoc, List.cons_append,
    List.nil_append]
  exact
    .cons (command _)           <|
    .cons (command _)           <|
    .cons (command _)           <|
    .change (.prepareSeries ..) <|
    .cons (workload _)          <|
    .cons idle                  <|
    .append files               <|
    .append script              <|
    .cons (shell _)             <|
    .cons (shell _)             <|
    .cons (workload _)          <|
    .origin _ _                 <|
    .change (.completeSeries _) <|
    .cons idle                  <|
    .append performed           <|
    .cons (workload _)          <|
    .change (.setSeries ..) .nil

end PatientStages

-- The program is patient whatever state the client is in.
def PatientProgram {α : Type} (answer : Client.Handler σ) (p : Program Client α) : Prop :=
  ∀ s, Patient (p.run answer s)

namespace PatientProgram

variable {α β : Type} {p : Program Client α} {f : α → Program Client β}

theorem bind (hp : PatientProgram answer p) (hf : ∀ a, PatientProgram answer (f a)) :
    PatientProgram answer (p >>= f) := by
  intro s
  rw [Program.run_bind]
  exact (hp s).andThen hf

theorem of_opens (h : p.Only answer Call.Opens) : PatientProgram answer p :=
  fun s => .of_plain fun c hc => (h s c hc).plain

theorem fail (e : Error) : PatientProgram answer (.fail e : Program Client α) :=
  of_opens (.fail e)

variable (unit machine settings) in
theorem upgradeMachine (unobtrusive : Unobtrusive answer hooks) :
    PatientProgram answer (upgradeMachine unit machine settings hooks) := by
  intro s
  have walked := PatientStages.procedure unit machine settings unobtrusive s
  exact .of_outline (upgradeMachine_follows answer unit machine settings hooks s ▸ walked.outline)

theorem upgradeUnits (unobtrusive : Unobtrusive answer hooks) (order : List (String × String))
    (completed : List String) :
    PatientProgram answer (upgradeUnits settings hooks order completed) := by
  induction order generalizing completed
  case nil => exact of_opens (.done _)
  case cons place rest hi =>
    rw [Series.upgradeUnits]
    split
    case isTrue  => exact .bind (of_opens (.emit _ _ _ _)) fun _ => hi _
    case isFalse => exact .bind (upgradeMachine _ _ _ unobtrusive) fun _ => hi _

variable (settings) in
theorem upgradeApplication (application : String) (completed : List String)
    (unobtrusive : Unobtrusive answer hooks) :
    PatientProgram answer (upgradeApplication application settings completed hooks) := by
  refine .bind (of_opens (Call.perform_only .status)) fun snapshot => ?_
  split
  case h_2 => exact fail _
  case h_1 app _ =>
    split
    case h_2 => exact fail _
    case h_1 leader leading _ =>
      refine .bind (of_opens (.forM fun _ _ => pauseUnit_opens _ _)) fun _ => ?_
      exact upgradeUnits unobtrusive _ _

end PatientProgram

-- However the upgrade of an application ends, it changes the model only when it has just waited for
-- it and the model is idle, and if a wait fails, it asks for nothing more.
theorem upgradeApplication_changes_idle_model (application : String) (completed : List String)
    (s : σ) (unobtrusive : Unobtrusive answer hooks) :
    let run := (upgradeApplication application settings completed hooks).run answer s
    (∀ before c reply after, run.exchanges = before ++ ⟨c, reply⟩ :: after → c.changes →
      before.getLast? = some ⟨.awaitIdle, .ok ()⟩) ∧
    ∀ before c e after, run.exchanges = before ++ ⟨c, .error e⟩ :: after → c.waits →
      after = [] := by
  have patient := PatientProgram.upgradeApplication settings application completed unobtrusive s
  exact ⟨fun _ _ _ _ split => patient.idled_before split,
    fun _ _ e _ split waits => patient.nothing_after split ⟨waits, e, rfl⟩⟩

-- An application with one unit.
def vault : Snapshot :=
  ⟨.ofList [("vault", ⟨"vault", [], none, .ofList [
    ("vault/0", ⟨true, "7", none, none, none, .empty⟩)]⟩)]⟩

-- The unit does not become active again, so the series of the application is not set.
theorem upgradeApplication_changes_idle_model_vault :
    let late : Error := .timeout "unit vault/0 workload active" 2700
    let hook : Hook := fun unit => do let _ ← (Call.run unit "hostname").perform
    let run := (ScriptedModel.empty.withSnapshot vault).run [(17, late)]
      (upgradeApplication "vault" .default [] [hook])
    run.result = .error late ∧
    run.calls.filter (·.changes) = [.prepareSeries "7" "xenial",
      .setConfig "vault" (.ofList [("openstack-origin", defaultPocket)]), .completeSeries "7"] ∧
    (∀ before c reply after, run.exchanges = before ++ ⟨c, reply⟩ :: after → c.changes →
      before.getLast? = some ⟨.awaitIdle, .ok ()⟩) ∧
    ∀ before c e after, run.exchanges = before ++ ⟨c, .error e⟩ :: after → c.waits →
      after = [] := by
  intro late hook run
  have unobtrusive : Unobtrusive (Recorder.handleFaulty [(17, late)]) [hook] := by
    intro _ h unit
    cases List.mem_singleton.mp h
    exact .bind (Call.perform_only ⟨Bool.false_ne_true, Bool.false_ne_true⟩) fun _ => .done _
  have changes := @upgradeApplication_changes_idle_model _ _ .default _ "vault" []
    (.ofModel (.withSnapshot .empty vault), 0) unobtrusive
  exact ⟨by rfl, by rfl, changes⟩

end
end Series
end RollingUpgrade
