import RollingUpgrade.Juju.Client
import RollingUpgrade.Proofs.Run

namespace RollingUpgrade.Juju

open Program

variable {σ α : Type} {j : Juju} {answer : Terminal.Handler σ} {subcommand : String}
  {args : List String} {s : σ} {exit : Exit}

theorem result_start (h : (answer (.start j.binary (j.arguments subcommand args)) s).1 = .ok exit) :
    ((j.start subcommand args).run answer s).result = .ok exit := by
  have asked : ((question (I := Terminal) (.start j.binary (j.arguments subcommand args))).run
      answer s).result = .ok (.ok exit) := congrArg Except.ok h
  rw [start, emit, log_bind, done_bind]
  refine (result_run_bind answer (question (I := Terminal) _) _ s).trans ?_
  rw [asked]
  rfl

theorem result_printed
    (h : (answer (.start j.binary (j.arguments subcommand args)) s).1 = .ok exit)
    (success : exit.success = true) :
    ((j.printed subcommand args).run answer s).result = .ok exit.output := by
  rw [printed, run_bind, Run.andThen_ok (result_start h), if_pos success]
  rfl

theorem result_read
    (h : (answer (.start j.binary (j.arguments subcommand args)) s).1 = .ok exit)
    (success : exit.success = true) (read : String → Except Error α) :
    ((j.printed subcommand args >>= fun text => ofExcept (read text)).run answer s).result =
      read exit.output := by
  rw [run_bind, Run.andThen_ok (result_printed h success)]
  cases read exit.output <;> rfl

theorem requests_start (subcommand : String) (args : List String) (s : σ) :
    ((j.start subcommand args).run answer s).requests =
      [.start j.binary (j.arguments subcommand args)] := by
  rw [start, emit, log_bind, done_bind]
  refine requests_bind_of_silent (p := question (I := Terminal) _) (fun reply s => ?silent) s
  case silent =>
    cases reply
    case ok exit       => rfl
    case error failure =>
      dsimp only
      split <;> rfl

theorem requests_printed (subcommand : String) (args : List String) (s : σ) :
    ((j.printed subcommand args).run answer s).requests =
      [.start j.binary (j.arguments subcommand args)] := by
  rw [printed, requests_bind_of_silent, requests_start]
  case silent =>
    intro exit s
    split <;> rfl

-- Waits are not followed beyond their first look.
def noWaits : Horizon := ⟨0, .client "still waiting"⟩

-- The command that tells of the model.
def statusCommand (j : Juju) : Terminal.Request :=
  .start j.binary (j.arguments "status" ["--format=json"])

theorem requests_look (s : σ) : (j.look.run answer s).requests = [j.statusCommand] := by
  rw [look, requests_bind_of_silent, requests_printed, statusCommand]
  case silent =>
    intro text s
    cases snapshot j.refusal text <;> rfl

theorem state_look (s : σ) : (j.look.run answer s).state = (answer j.statusCommand s).2 := by
  rw [state_run, requests_look]
  rfl

theorem result_look (h : (answer j.statusCommand s).1 = .ok exit) (success : exit.success = true) :
    (j.look.run answer s).result = snapshot j.refusal exit.output :=
  result_read h success (snapshot j.refusal)

end RollingUpgrade.Juju
