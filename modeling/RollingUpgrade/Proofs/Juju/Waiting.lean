import Mathlib.Logic.Function.Iterate
import RollingUpgrade.Proofs.Juju.Command

namespace RollingUpgrade

namespace Snapshot

theorem isIdle_iff (s : Snapshot) : s.isIdle ↔ ∀ state ∈ s.unitStates, state.agent = "idle" := by
  simp [isIdle]

theorem workload?_beq_iff (s : Snapshot) (unit status : String) :
    s.workload? unit == some status ↔ ∃ before state after,
      s.unitStates = before ++ state :: after ∧ (∀ other ∈ before, other.unit ≠ unit) ∧
      state.unit = unit ∧ state.workload = status := by
  rw [beq_iff_eq, workload?, Option.map_eq_some_iff]
  constructor
  · intro ⟨state, found, reported⟩
    have ⟨named, before, after, split, others⟩ := List.find?_eq_some_iff_append.mp found
    exact ⟨before, state, after, split, by simpa using others, by simpa using named, reported⟩
  · intro ⟨before, state, after, split, others, named, reported⟩
    refine ⟨state, List.find?_eq_some_iff_append.mpr ?_, reported⟩
    exact ⟨by simpa using named, before, after, split, by simpa using others⟩

end Snapshot

namespace Juju

open Program

-- What a look shows of the model, and how long the wait has lasted after it.
structure Look where
  shown : Except Error Snapshot
  elapsed : Nat

namespace Look

variable {j : Juju} {what : String} {holds : Snapshot → Prop} {look : Look} {r : Except Error Unit}

-- How a look ends a wait: by its failure, else by what it shows, else because the time is over.
inductive Ends (j : Juju) (what : String) (holds : Snapshot → Prop) (look : Look) :
    Except Error Unit → Prop
  | failed {e : Error} (shown : look.shown = .error e) : Ends j what holds look (.error e)
  | satisfied {s : Snapshot} (shown : look.shown = .ok s) (met : holds s) :
    Ends j what holds look (.ok ())
  | expired {s : Snapshot} (shown : look.shown = .ok s) (unmet : ¬holds s)
    (late : j.poll.timeoutSecs * nanosPerSecond ≤ look.elapsed) :
    Ends j what holds look (.error (.timeout what j.poll.timeoutSecs))

theorem exists_ends_of_late (late : j.poll.timeoutSecs * nanosPerSecond ≤ look.elapsed) :
    ∃ r, look.Ends j what holds r := by
  cases shown : look.shown
  case error e => exact ⟨_, .failed shown⟩
  case ok s =>
    by_cases met : holds s
    case pos => exact ⟨_, .satisfied shown met⟩
    case neg => exact ⟨_, .expired shown met late⟩

theorem shows_of_not_ends (h : ∀ r, ¬look.Ends j what holds r) : ∃ s, look.shown = .ok s := by
  cases shown : look.shown
  case error e => exact absurd (.failed shown) (h _)
  case ok s    => exact ⟨s, rfl⟩

-- What a look asks for. After one that fails, the time does not matter.
def requests (j : Juju) (look : Look) : List Terminal.Request :=
  j.statusCommand :: if look.shown.isOk then [.clock] else []

end Look

-- The wait ends at the look number `n` and at none before it.
structure EndsAt (j : Juju) (what : String) (holds : Snapshot → Prop) (looks : Nat → Look) (n : Nat)
    (r : Except Error Unit) : Prop where
  goesOn : ∀ i < n, ∀ r, ¬(looks i).Ends j what holds r
  ends : (looks n).Ends j what holds r

section

variable {σ : Type} (j : Juju) (answer : Terminal.Handler σ)

-- The reading of the clock after a look, and the state of the terminal after it.
def clockAfter (t : σ) : Nat × σ := answer .clock (j.look.run answer t).state

-- The look that a wait takes in some state of the terminal, and the state after the pause that
-- follows it.
def lookAt (began : Nat) (t : σ) : Look :=
  ⟨(j.look.run answer t).result, (j.clockAfter answer t).1 - began⟩

def afterPause (t : σ) : σ := (answer (.pause j.poll.intervalSecs) (j.clockAfter answer t).2).2

-- The looks that a wait takes one after the other for as long as none of them ends it.
def looksFrom (began : Nat) (t : σ) (n : Nat) : Look :=
  j.lookAt answer began ((j.afterPause answer)^[n] t)

-- The looks of a wait that starts in some state of the terminal. It reads the clock first.
def looks (s : σ) : Nat → Look := j.looksFrom answer (answer .clock s).1 (answer .clock s).2

end

variable {σ : Type} {j : Juju} {horizon : Horizon} {answer : Terminal.Handler σ} {what : String}
  {done : Snapshot → Bool} {holds : Snapshot → Prop} {began : Nat} {t : σ} {r : Except Error Unit}
  {again n : Nat}

section

variable {next : Program Terminal Unit}

theorem lookThen_of_failed {e : Error} (h : (j.lookAt answer began t).shown = .error e) :
    ((j.lookThen what done began next).run answer t).result = .error e ∧
    ((j.lookThen what done began next).run answer t).requests = [j.statusCommand] := by
  have failed : (j.look.run answer t).result = .error e := h
  rw [lookThen, run_bind, Run.andThen_error failed]
  exact ⟨rfl, requests_look t⟩

-- After a look that shows a snapshot comes a reading of the clock, and then what the two lead to.
theorem lookThen_of_shown {s : Snapshot} {p : Program Terminal Unit}
    (h : (j.lookAt answer began t).shown = .ok s)
    (leads : j.afterLook what (done s) (j.lookAt answer began t).elapsed next = p) :
    ((j.lookThen what done began next).run answer t).result =
      (p.run answer (j.clockAfter answer t).2).result ∧
    ((j.lookThen what done began next).run answer t).requests =
      j.statusCommand :: .clock :: (p.run answer (j.clockAfter answer t).2).requests := by
  have shown : (j.look.run answer t).result = .ok s := h
  have rest : ((clock >>= fun now => j.afterLook what (done s) (now - began) next).run answer
      (j.look.run answer t).state) =
      ⟨(p.run answer (j.clockAfter answer t).2).result,
        .asked .clock (j.clockAfter answer t).1 :: (p.run answer (j.clockAfter answer t).2).steps,
        (p.run answer (j.clockAfter answer t).2).state⟩ := leads ▸ rfl
  rw [lookThen, run_bind, Run.requests_andThen_ok shown, Run.andThen_ok shown, rest, requests_look]
  exact ⟨rfl, rfl⟩

theorem lookThen_of_ends (decides : ∀ s, done s ↔ holds s)
    (h : (j.lookAt answer began t).Ends j what holds r) :
    ((j.lookThen what done began next).run answer t).result = r ∧
    ((j.lookThen what done began next).run answer t).requests =
      (j.lookAt answer began t).requests j := by
  cases h
  case failed e shown =>
    rw [Look.requests, shown]
    exact lookThen_of_failed shown
  case satisfied s shown met =>
    rw [Look.requests, shown]
    exact lookThen_of_shown shown (if_pos ((decides s).mpr met))
  case expired s shown unmet late =>
    have leads : j.afterLook what (done s) (j.lookAt answer began t).elapsed next =
        .fail (.timeout what j.poll.timeoutSecs) := by
      rw [afterLook, if_neg (mt (decides s).mp unmet), if_pos late]
    rw [Look.requests, shown]
    exact lookThen_of_shown shown leads

-- A look that does not end the wait shows a snapshot, and the clock is read before the wait goes
-- on.
theorem lookThen_of_not_ends (decides : ∀ s, done s ↔ holds s)
    (h : ∀ r, ¬(j.lookAt answer began t).Ends j what holds r) :
    ((j.lookThen what done began next).run answer t).result =
      (next.run answer (j.clockAfter answer t).2).result ∧
    ((j.lookThen what done began next).run answer t).requests =
      j.statusCommand :: .clock :: (next.run answer (j.clockAfter answer t).2).requests := by
  have ⟨s, shown⟩ := Look.shows_of_not_ends h
  have unmet : ¬holds s := fun met => h _ (.satisfied shown met)
  have early : ¬j.poll.timeoutSecs * nanosPerSecond ≤ (j.lookAt answer began t).elapsed :=
    fun late => h _ (.expired shown unmet late)
  have leads : j.afterLook what (done s) (j.lookAt answer began t).elapsed next = next := by
    rw [afterLook, if_neg (mt (decides s).mp unmet), if_neg early]
  exact lookThen_of_shown shown leads

end

-- What is asked for in so many looks that do not end a wait.
def rounds (j : Juju) (n : Nat) : List Terminal.Request :=
  (List.replicate n [j.statusCommand, .clock, .pause j.poll.intervalSecs]).flatten

theorem rounds_succ (j : Juju) (n : Nat) : j.rounds (n + 1) =
    [j.statusCommand, .clock, .pause j.poll.intervalSecs] ++ j.rounds n := by
  simp [rounds, List.replicate_succ]

-- What a wait asks for that goes on up to some look.
def asked (j : Juju) (n : Nat) (last : Look) : List Terminal.Request :=
  .clock :: (j.rounds n ++ last.requests j)

-- A look that does not end the wait takes it to the next one, after a pause.
theorem waitFrom_of_not_ends (decides : ∀ s, done s ↔ holds s)
    (h : ∀ r, ¬(j.lookAt answer began t).Ends j what holds r) (beyond : Error) (again : Nat) :
    ((j.waitFrom what done began beyond (again + 1)).run answer t).result =
      ((j.waitFrom what done began beyond again).run answer (j.afterPause answer t)).result ∧
    ((j.waitFrom what done began beyond (again + 1)).run answer t).requests =
      [j.statusCommand, .clock, .pause j.poll.intervalSecs] ++
        ((j.waitFrom what done began beyond again).run answer (j.afterPause answer t)).requests :=
  lookThen_of_not_ends decides h

theorem waitFrom_of_endsAt (decides : ∀ s, done s ↔ holds s) (bound : n ≤ again)
    (h : EndsAt j what holds (j.looksFrom answer began t) n r) (beyond : Error) :
    ((j.waitFrom what done began beyond again).run answer t).result = r ∧
    ((j.waitFrom what done began beyond again).run answer t).requests =
      j.rounds n ++ (j.looksFrom answer began t n).requests j := by
  induction n generalizing t again
  case zero =>
    have ends : (j.lookAt answer began t).Ends j what holds r := h.ends
    cases again
    case zero       => exact lookThen_of_ends decides ends
    case succ again => exact lookThen_of_ends decides ends
  case succ n hi =>
    cases again
    case zero => exact absurd bound (Nat.not_succ_le_zero n)
    case succ again =>
      have goesOn : ∀ r, ¬(j.lookAt answer began t).Ends j what holds r :=
        h.goesOn 0 (Nat.succ_pos n)
      have later : EndsAt j what holds (j.looksFrom answer began (j.afterPause answer t)) n r :=
        ⟨fun i lt => h.goesOn (i + 1) (Nat.succ_lt_succ lt), h.ends⟩
      have ⟨result, requests⟩ := waitFrom_of_not_ends decides goesOn beyond again
      have ⟨result', requests'⟩ := hi (Nat.le_of_succ_le_succ bound) later
      rw [result, requests, result', requests', rounds_succ, List.append_assoc]
      exact ⟨rfl, rfl⟩

-- A wait that no look ends looks for as long as it is followed.
theorem waitFrom_of_none (decides : ∀ s, done s ↔ holds s)
    (h : ∀ n ≤ again, ∀ r, ¬(j.looksFrom answer began t n).Ends j what holds r) (beyond : Error) :
    ((j.waitFrom what done began beyond again).run answer t).result = .error beyond ∧
    ((j.waitFrom what done began beyond again).run answer t).requests =
      j.rounds again ++ (j.looksFrom answer began t again).requests j := by
  induction again generalizing t
  case zero =>
    have goesOn : ∀ r, ¬(j.lookAt answer began t).Ends j what holds r := h 0 (Nat.le_refl 0)
    have ⟨s, shown⟩ := Look.shows_of_not_ends goesOn
    rw [looksFrom, Function.iterate_zero_apply, Look.requests, shown]
    exact lookThen_of_not_ends decides goesOn
  case succ again hi =>
    have goesOn : ∀ r, ¬(j.lookAt answer began t).Ends j what holds r := h 0 (Nat.zero_le _)
    have later : ∀ n ≤ again, ∀ r,
        ¬(j.looksFrom answer began (j.afterPause answer t) n).Ends j what holds r :=
      fun n le => h (n + 1) (Nat.succ_le_succ le)
    have ⟨result, requests⟩ := waitFrom_of_not_ends decides goesOn beyond again
    have ⟨result', requests'⟩ := hi later
    rw [result, requests, result', requests', rounds_succ, List.append_assoc]
    exact ⟨rfl, rfl⟩

theorem count_asked (n : Nat) (last : Look) : (j.asked n last).count j.statusCommand = n + 1 := by
  have round : [j.statusCommand, .clock, .pause j.poll.intervalSecs].count j.statusCommand = 1 := by
    simp [statusCommand]
  have rounds : (j.rounds n).count j.statusCommand = n := by
    simp [Juju.rounds, List.count_flatten, round]
  have final : (last.requests j).count j.statusCommand = 1 := by
    rw [Look.requests]
    split <;> simp [statusCommand]
  have clock : (Terminal.Request.clock == j.statusCommand) = false := rfl
  simp [asked, List.count_cons, rounds, final, clock]

-- If some look ends a wait, then there is a first one.
theorem exists_endsAt {looks : Nat → Look} {k : Nat} (h : (looks k).Ends j what holds r) :
    ∃ n ≤ k, ∃ r, EndsAt j what holds looks n r := by
  induction k using Nat.strongRecOn generalizing r
  case ind k hi =>
    by_cases before : ∃ i < k, ∃ r, (looks i).Ends j what holds r
    case pos =>
      have ⟨i, lt, r, ends⟩ := before
      have ⟨n, le, first⟩ := hi i lt ends
      exact ⟨n, Nat.le_trans le (Nat.le_of_lt lt), first⟩
    case neg =>
      exact ⟨k, Nat.le_refl k, r, fun i lt r ends => before ⟨i, lt, r, ends⟩, h⟩

-- How a wait goes whose looks are known. It ends at the first look that ends it, so at the latest
-- when the time is over, and in no other way for as long as it is followed. It looks at least once,
-- and only once if it has no time. If it ends well, its last look shows what it waits for.
structure Waited (j : Juju) (horizon : Horizon) (what : String) (holds : Snapshot → Prop)
    (looks : Nat → Look) (run : Run Terminal σ Unit) : Prop where
  ends : ∀ n ≤ horizon.looks, ∀ r, EndsAt j what holds looks n r →
    run.result = r ∧ run.requests = j.asked n (looks n)
  inTime : ∀ k, j.poll.timeoutSecs * nanosPerSecond ≤ (looks k).elapsed →
    ∃ n ≤ k, ∃ r, EndsAt j what holds looks n r
  goesOn : (∀ n ≤ horizon.looks, ∀ r, ¬(looks n).Ends j what holds r) →
    run.result = .error horizon.beyond ∧ run.requests = j.asked horizon.looks (looks horizon.looks)
  decided : run.result ≠ .error horizon.beyond →
    ∃ n ≤ horizon.looks, EndsAt j what holds looks n run.result
  fetches : 1 ≤ run.requests.count j.statusCommand
  fetchesOnce : j.poll.timeoutSecs = 0 → run.requests.count j.statusCommand = 1
  met : run.result = .ok () → ∃ n s, run.requests.count j.statusCommand = n + 1 ∧
    (looks n).shown = .ok s ∧ holds s

theorem wait_of_endsAt (decides : ∀ s, done s ↔ holds s) {s : σ} (bound : n ≤ horizon.looks)
    (h : EndsAt j what holds (j.looks answer s) n r) :
    ((j.wait horizon what done).run answer s).result = r ∧
    ((j.wait horizon what done).run answer s).requests = j.asked n (j.looks answer s n) := by
  have ⟨result, requests⟩ := waitFrom_of_endsAt decides bound h horizon.beyond
  exact ⟨result, congrArg (List.cons Terminal.Request.clock) requests⟩

theorem wait_of_none (decides : ∀ s, done s ↔ holds s) {s : σ}
    (h : ∀ n ≤ horizon.looks, ∀ r, ¬(j.looks answer s n).Ends j what holds r) :
    ((j.wait horizon what done).run answer s).result = .error horizon.beyond ∧
    ((j.wait horizon what done).run answer s).requests =
      j.asked horizon.looks (j.looks answer s horizon.looks) := by
  have ⟨result, requests⟩ := waitFrom_of_none decides h horizon.beyond
  exact ⟨result, congrArg (List.cons Terminal.Request.clock) requests⟩

-- One of the first looks ends the wait, or none of them does.
theorem exists_endsAt_or_none (j : Juju) (what : String) (holds : Snapshot → Prop)
    (looks : Nat → Look) (last : Nat) :
    (∃ n ≤ last, ∃ r, EndsAt j what holds looks n r) ∨
      ∀ n ≤ last, ∀ r, ¬(looks n).Ends j what holds r := by
  by_cases h : ∃ n ≤ last, ∃ r, (looks n).Ends j what holds r
  case pos =>
    have ⟨k, bound, r, ends⟩ := h
    have ⟨n, le, first⟩ := exists_endsAt ends
    exact .inl ⟨n, Nat.le_trans le bound, first⟩
  case neg => exact .inr fun n bound r ends => h ⟨n, bound, r, ends⟩

theorem wait_waited (decides : ∀ s, done s ↔ holds s) (s : σ) :
    j.Waited horizon what holds (j.looks answer s) ((j.wait horizon what done).run answer s) := by
  have inTime (k : Nat)
      (late : j.poll.timeoutSecs * nanosPerSecond ≤ (j.looks answer s k).elapsed) :
      ∃ n ≤ k, ∃ r, EndsAt j what holds (j.looks answer s) n r :=
    have ⟨_, ends⟩ := Look.exists_ends_of_late late
    exists_endsAt ends
  have ended := exists_endsAt_or_none j what holds (j.looks answer s) horizon.looks
  have decided (followed : ((j.wait horizon what done).run answer s).result ≠
      .error horizon.beyond) : ∃ n ≤ horizon.looks, EndsAt j what holds (j.looks answer s) n
        ((j.wait horizon what done).run answer s).result := by
    cases ended
    case inl first =>
      have ⟨n, bound, r, h⟩ := first
      exact ⟨n, bound, (wait_of_endsAt decides bound h).left ▸ h⟩
    case inr none => exact absurd (wait_of_none decides none).left followed
  refine ⟨fun n bound r => wait_of_endsAt decides bound, inTime, wait_of_none decides, decided,
    ?fetches, ?fetchesOnce, ?met⟩
  case fetches =>
    cases ended
    case inl first =>
      have ⟨n, bound, r, h⟩ := first
      rw [(wait_of_endsAt decides bound h).right, count_asked]
      exact Nat.le_add_left 1 n
    case inr none =>
      rw [(wait_of_none decides none).right, count_asked]
      exact Nat.le_add_left 1 horizon.looks
  case fetchesOnce =>
    intro untimed
    have late : j.poll.timeoutSecs * nanosPerSecond ≤ (j.looks answer s 0).elapsed := by
      simp [untimed]
    have ⟨n, le, r, h⟩ := inTime 0 late
    cases Nat.le_zero.mp le
    rw [(wait_of_endsAt decides (Nat.zero_le _) h).right, count_asked]
  case met =>
    intro ok
    obtain ⟨n, bound, h⟩ := decided (ok ▸ nofun)
    rw [ok] at h
    have requests := (wait_of_endsAt decides bound h).right
    cases h.ends
    case satisfied snapshot shown met =>
      exact ⟨n, snapshot, requests ▸ count_asked n _, shown, met⟩

-- Whatever the commands of a wait reply and whatever the clock says after them, the wait ends at
-- the first look that fails, that shows what is waited for or that comes when the time is over. A
-- wait for the whole model waits for every agent to be idle, a wait for a unit for the first state
-- under its name to be of the workload.
theorem perform_waits {σ : Type} (j : Juju) (horizon : Horizon) (answer : Terminal.Handler σ)
    (s : σ) :
    j.Waited horizon "all units idle" (fun s => ∀ state ∈ s.unitStates, state.agent = "idle")
      (j.looks answer s) ((j.perform horizon .awaitIdle).run answer s) ∧
    ∀ unit status, j.Waited horizon s!"{unit} workload status {status}"
      (fun s => ∃ before state after, s.unitStates = before ++ state :: after ∧
        (∀ other ∈ before, other.unit ≠ unit) ∧ state.unit = unit ∧ state.workload = status)
      (j.looks answer s) ((j.perform horizon (.awaitWorkload unit status)).run answer s) :=
  ⟨wait_waited Snapshot.isIdle_iff s, fun unit status =>
    wait_waited (fun s => s.workload?_beq_iff unit status) s⟩

-- A model without units, seen through a tool that prints an empty object and whose commands take
-- four seconds each.
def bareTerminal : Terminal.Handler Nat
  | .start _ _, n => (.ok ⟨some 0, [0x7b, 0x7d], []⟩, n + 4 * nanosPerSecond)
  | .clock, n     => (n, n)
  | .pause _, n   => ((), n)

def untimed : Juju := { default with poll := ⟨0, 1⟩ }

def hurried : Juju := { default with poll := ⟨5, 1⟩ }

def twoLooks : Horizon := ⟨1, .client "still waiting"⟩

theorem lookAt_bare (j : Juju) (began n : Nat) : j.lookAt bareTerminal began n =
    ⟨.ok ⟨.empty⟩, n + 4 * nanosPerSecond - began⟩ := by
  have told : snapshot j.refusal (Exit.output ⟨some 0, [0x7b, 0x7d], []⟩) = .ok ⟨.empty⟩ := rfl
  have shown : (j.look.run bareTerminal n).result = .ok ⟨.empty⟩ := (result_look rfl rfl).trans told
  have state : (j.look.run bareTerminal n).state = n + 4 * nanosPerSecond := state_look n
  rw [lookAt, clockAfter, shown, state]
  rfl

theorem looks_bare_zero (j : Juju) :
    j.looks bareTerminal 0 0 = ⟨.ok ⟨.empty⟩, 4 * nanosPerSecond⟩ :=
  lookAt_bare j 0 0

theorem looks_bare_one (j : Juju) :
    j.looks bareTerminal 0 1 = ⟨.ok ⟨.empty⟩, 8 * nanosPerSecond⟩ := by
  have later : j.afterPause bareTerminal 0 = 4 * nanosPerSecond := state_look 0
  rw [looks, looksFrom, Function.iterate_one]
  exact later ▸ lookAt_bare j 0 _

theorem endsAt_bare : EndsAt untimed "all units idle"
    (fun s => ∀ state ∈ s.unitStates, state.agent = "idle") (untimed.looks bareTerminal 0) 0
    (.ok ()) := by
  refine ⟨fun i lt => absurd lt (Nat.not_lt_zero i), ?ends⟩
  rw [looks_bare_zero]
  exact .satisfied rfl nofun

-- A wait without any time still ends well if its only look shows what it waits for, and one that
-- has five seconds takes a second look before it gives up.
theorem perform_waits_bare :
    ((untimed.perform twoLooks .awaitIdle).run bareTerminal 0).result = .ok () ∧
    ((hurried.perform twoLooks (.awaitWorkload "vault/0" "active")).run bareTerminal 0).result =
      .error (.timeout "vault/0 workload status active" 5) ∧
    ((hurried.perform twoLooks (.awaitWorkload "vault/0" "active")).run bareTerminal 0).requests =
      hurried.asked 1 (hurried.looks bareTerminal 0 1) := by
  have idle := (perform_waits untimed twoLooks bareTerminal 0).left
  have active := (perform_waits hurried twoLooks bareTerminal 0).right "vault/0" "active"
  have none : Snapshot.unitStates ⟨.empty⟩ = [] := rfl
  have unmet : ¬∃ before state after, Snapshot.unitStates ⟨.empty⟩ = before ++ state :: after ∧
      (∀ other ∈ before, other.unit ≠ "vault/0") ∧ state.unit = "vault/0" ∧
      state.workload = "active" := by simp [none]
  constructor
  case left => exact (idle.ends 0 (Nat.zero_le _) (.ok ()) endsAt_bare).left
  case right =>
    apply active.ends 1 (by decide)
    constructor
    case ends =>
      rw [looks_bare_one]
      exact .expired rfl unmet (by decide)
    case goesOn =>
      intro i lt r ends
      cases Nat.lt_one_iff.mp lt
      rw [looks_bare_zero] at ends
      cases ends
      case failed shown         => cases shown
      case satisfied shown met  => cases shown; exact unmet met
      case expired late         => exact absurd late (by decide)

end Juju
end RollingUpgrade
