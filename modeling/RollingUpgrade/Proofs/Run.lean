import RollingUpgrade.Client.Recorder

namespace RollingUpgrade

-- Whoever answers requests: the reply to a request, and the state in which the request leaves it.
-- The state may hold anything, so the same request may get ever new replies.
abbrev Interface.Handler (I : Interface) (σ : Type) := (r : I.Request) → σ → I.Reply r × σ

-- Each request has one reply, whatever was asked before.
def Interface.Handler.Unchanging {I : Interface} {σ : Type} (answer : I.Handler σ) : Prop :=
  ∀ r s t, (answer r s).1 = (answer r t).1

-- A request with the reply that it got.
abbrev Interface.Exchange (I : Interface) := (request : I.Request) × I.Reply request

namespace Step

variable {I : Interface}

-- Notes are the events that tell how the work goes on. Warnings are no notes.
def isNote : Step I → Bool
  | .logged event => event.level != .warn
  | .asked ..     => false

end Step

namespace Run

variable {I : Interface} {σ α β γ : Type}

-- The second run starts in the state in which the first one ended, and takes place only if the
-- first one succeeded.
def andThen (r : Run I σ α) (next : α → σ → Run I σ β) : Run I σ β :=
  match r.result with
  | .error e => ⟨.error e, r.steps, r.state⟩
  | .ok a    =>
    let rest := next a r.state
    ⟨rest.result, r.steps ++ rest.steps, rest.state⟩

def warnings (r : Run I σ α) : List Log.Event :=
  r.events.filter (·.level == .warn)

-- What was asked and how it was answered, in order.
def exchanges (r : Run I σ α) : List I.Exchange :=
  r.steps.filterMap fun
    | .asked request reply => some ⟨request, reply⟩
    | .logged _            => none

-- What is left of a run without its notes and without the value that it gives.
def outline (r : Run I σ α) : Run I σ Unit :=
  ⟨r.result.map fun _ => (), r.steps.filter (!·.isNote), r.state⟩

-- The first run does what the second one does, notes apart, and ends with what `f` makes of its
-- value.
structure Retells (f : α → β) (r' : Run I σ β) (r : Run I σ α) : Prop where
  result : r'.result = r.result.map f
  exchanges : r'.exchanges = r.exchanges
  warnings : r'.warnings = r.warnings

variable {r : Run I σ α} {next : α → σ → Run I σ β} {a : α} {e : Error}

theorem andThen_ok (h : r.result = .ok a) :
    r.andThen next =
      ⟨(next a r.state).result, r.steps ++ (next a r.state).steps, (next a r.state).state⟩ := by
  simp only [andThen, h]

theorem andThen_error (h : r.result = .error e) :
    r.andThen next = ⟨.error e, r.steps, r.state⟩ := by
  simp only [andThen, h]

theorem result_andThen_eq_ok {b : β} (h : (r.andThen next).result = .ok b) :
    ∃ a, r.result = .ok a ∧ (next a r.state).result = .ok b := by
  cases hr : r.result
  case error e => rw [andThen_error hr] at h; cases h
  case ok a    => rw [andThen_ok hr] at h; exact ⟨a, rfl, h⟩

theorem retells_value (f : α → β) :
    (r.andThen fun a s => (⟨.ok (f a), [], s⟩ : Run I σ β)).Retells f r := by
  cases h : r.result
  case error e =>
    rw [andThen_error h]
    exact ⟨by simp [h, Except.map], rfl, rfl⟩
  case ok a =>
    rw [andThen_ok h, List.append_nil]
    exact ⟨by simp [h, Except.map], rfl, rfl⟩

theorem Retells.refl (r : Run I σ α) : r.Retells id r := by
  refine ⟨?result, rfl, rfl⟩
  cases r.result <;> rfl

theorem Retells.trans {f : α → β} {g : β → γ} {r' : Run I σ β} {r'' : Run I σ γ}
    (h : r''.Retells g r') (h' : r'.Retells f r) : r''.Retells (g ∘ f) r := by
  refine ⟨?result, h.exchanges.trans h'.exchanges, h.warnings.trans h'.warnings⟩
  rw [h.result, h'.result]
  cases r.result <;> rfl

theorem andThen_assoc (r : Run I σ α) (f : α → σ → Run I σ β) (g : β → σ → Run I σ γ) :
    (r.andThen f).andThen g = r.andThen fun a s => (f a s).andThen g := by
  cases h : r.result
  case error e => rw [andThen_error h, andThen_error h, andThen_error rfl]
  case ok a =>
    rw [andThen_ok h, andThen_ok h]
    cases h' : (f a r.state).result
    case error e => rw [andThen_error h', andThen_error rfl]
    case ok b    => rw [andThen_ok h', andThen_ok rfl, List.append_assoc]

theorem requests_andThen_ok (h : r.result = .ok a) :
    (r.andThen next).requests = r.requests ++ (next a r.state).requests := by
  simp [andThen_ok h, requests]

theorem requests_andThen_error (h : r.result = .error e) :
    (r.andThen next).requests = r.requests := by
  simp [andThen_error h, requests]

theorem warnings_andThen_ok (h : r.result = .ok a) :
    (r.andThen next).warnings = r.warnings ++ (next a r.state).warnings := by
  simp [andThen_ok h, warnings, events]

theorem warnings_andThen_error (h : r.result = .error e) :
    (r.andThen next).warnings = r.warnings := by
  simp [andThen_error h, warnings, events]

theorem exchanges_andThen_ok (h : r.result = .ok a) :
    (r.andThen next).exchanges = r.exchanges ++ (next a r.state).exchanges := by
  simp [andThen_ok h, exchanges]

theorem exchanges_andThen_error (h : r.result = .error e) :
    (r.andThen next).exchanges = r.exchanges := by
  simp [andThen_error h, exchanges]

theorem map_fst_exchanges (r : Run I σ α) : r.exchanges.map (·.1) = r.requests := by
  rw [exchanges, requests, List.map_filterMap]
  congr
  funext step
  cases step <;> rfl

theorem exchanges_of_notes {notes : List (Step I)} (h : ∀ step ∈ notes, step.isNote) {s : σ} :
    (⟨.ok a, notes, s⟩ : Run I σ α).exchanges = [] := by
  refine List.filterMap_eq_nil_iff.mpr fun step hs => ?_
  have note := h step hs
  cases step
  case asked  => simp [Step.isNote] at note
  case logged => rfl

theorem warnings_of_notes {notes : List (Step I)} (h : ∀ step ∈ notes, step.isNote) {s : σ} :
    (⟨.ok a, notes, s⟩ : Run I σ α).warnings = [] := by
  simp only [warnings, events, List.filter_eq_nil_iff, List.mem_filterMap]
  intro event ⟨step, hs, he⟩
  have note := h step hs
  cases step
  case asked  => simp at he
  case logged => simp_all [Step.isNote]

theorem mem_requests_andThen {c : I.Request} (h : c ∈ (r.andThen next).requests) :
    c ∈ r.requests ∨ ∃ a s, c ∈ (next a s).requests := by
  cases hr : r.result
  case error e => exact .inl (requests_andThen_error hr ▸ h)
  case ok a =>
    rw [requests_andThen_ok hr, List.mem_append] at h
    exact h.imp_right fun h => ⟨a, r.state, h⟩

theorem outline_andThen {next' : σ → Run I σ Unit} (h : ∀ a s, (next a s).outline = next' s) :
    (r.andThen next).outline = r.outline.andThen fun _ => next' := by
  cases hr : r.result
  case error e =>
    have hr' : r.outline.result = .error e := by simp [outline, hr, Except.map]
    rw [andThen_error hr, andThen_error hr']
    rfl
  case ok a =>
    have hr' : r.outline.result = .ok () := by simp [outline, hr, Except.map]
    rw [andThen_ok hr, andThen_ok hr', ← h a]
    simp [outline]

theorem outline_andThen_const (r : Run I σ α) (next : σ → Run I σ β) :
    (r.andThen fun _ => next).outline = r.outline.andThen fun _ s => (next s).outline :=
  outline_andThen fun _ _ => rfl

theorem result_outline (r : Run I σ Unit) : r.outline.result = r.result := by
  cases h : r.result <;> simp [outline, h, Except.map]

@[simp]
theorem requests_outline (r : Run I σ α) : r.outline.requests = r.requests := by
  simp only [requests, outline, List.filterMap_filter]
  congr
  funext step
  cases step <;> simp [Step.isNote]

@[simp]
theorem exchanges_outline (r : Run I σ α) : r.outline.exchanges = r.exchanges := by
  simp only [exchanges, outline, List.filterMap_filter]
  congr
  funext step
  cases step <;> simp [Step.isNote]

@[simp]
theorem warnings_outline (r : Run I σ α) : r.outline.warnings = r.warnings := by
  simp only [warnings, events, outline, List.filterMap_filter, List.filter_filterMap]
  congr
  funext step
  cases step
  case asked => simp [Step.isNote]
  case logged event =>
    by_cases h : event.level = .warn <;> simp [Step.isNote, Option.filter, h]

end Run

namespace Program

variable {I : Interface} {σ α β : Type} {answer : I.Handler σ}

theorem run_bind (p : Program I α) (f : α → Program I β) (s : σ) :
    (p >>= f).run answer s = (p.run answer s).andThen fun a => (f a).run answer := by
  induction p generalizing s
  case done | fail => rfl
  case log event next hi =>
    rw [log_bind, run, run, hi]
    cases h : (next.run answer s).result <;> simp [Run.andThen, h]
  case ask request next hi =>
    rw [ask_bind, run, run]
    simp only [hi]
    cases h : ((next (answer request s).1).run answer (answer request s).2).result <;>
      simp [Run.andThen, h]

theorem result_bind_eq_ok {p : Program I α} {f : α → Program I β} {s : σ} {b : β}
    (h : ((p >>= f).run answer s).result = .ok b) :
    ∃ a, (p.run answer s).result = .ok a ∧
      ((f a).run answer (p.run answer s).state).result = .ok b := by
  rw [run_bind] at h
  exact Run.result_andThen_eq_ok h

-- What follows asks for nothing.
theorem requests_bind_of_silent {p : Program I α} {f : α → Program I β}
    (silent : ∀ a s, ((f a).run answer s).requests = []) (s : σ) :
    ((p >>= f).run answer s).requests = (p.run answer s).requests := by
  rw [run_bind]
  cases h : (p.run answer s).result
  case error e => exact Run.requests_andThen_error h
  case ok a    => rw [Run.requests_andThen_ok h, silent, List.append_nil]

-- Nothing but the requests of a program moves the state.
theorem state_run (p : Program I α) (s : σ) :
    (p.run answer s).state = (p.run answer s).requests.foldl (fun s r => (answer r s).2) s := by
  induction p generalizing s
  case done | fail         => rfl
  case log event next hi   => exact hi s
  case ask request next hi => exact hi _ _

theorem run_mapM_cons (a : α) (l : List α) (f : α → Program I β) (s : σ) :
    ((a :: l).mapM f).run answer s = ((f a).run answer s).andThen fun b s =>
      ((l.mapM f).run answer s).andThen fun bs s => ⟨.ok (b :: bs), [], s⟩ := by
  rw [List.mapM_cons, run_bind]
  congr
  funext b s
  exact run_bind _ _ _

theorem forM_cons (a : α) (l : List α) (f : α → Program I PUnit) :
    (a :: l).forM f = f a >>= fun _ => l.forM f :=
  rfl

-- Programs do the same where the replies are the same and go on being so.
theorem run_of_related {τ : Type} {answer' : I.Handler τ} (related : σ → τ → Prop)
    (reply : ∀ r s t, related s t → (answer r s).1 = (answer' r t).1)
    (state : ∀ r s t, related s t → related (answer r s).2 (answer' r t).2) (p : Program I α)
    {s : σ} {t : τ} (start : related s t) :
    (p.run answer s).result = (p.run answer' t).result ∧
      (p.run answer s).steps = (p.run answer' t).steps := by
  induction p generalizing s t
  case done | fail => exact ⟨rfl, rfl⟩
  case log event next hi =>
    have ⟨result, steps⟩ := hi start
    exact ⟨result, congrArg (List.cons _) steps⟩
  case ask request next hi =>
    have ⟨result, steps⟩ := hi (answer request s).1 (state request s t start)
    simp only [run, ← reply request s t start]
    exact ⟨result, congrArg (List.cons _) steps⟩

-- Each request has one reply, so it does not matter in which state a program starts.
theorem result_run_of_unchanging (h : answer.Unchanging) (p : Program I α) (s t : σ) :
    (p.run answer s).result = (p.run answer t).result :=
  (run_of_related (fun _ _ => True) (fun r s t _ => h r s t) (fun _ _ _ _ => trivial) p
    trivial).left

-- If the replies do not depend on the state, then what is exchanged follows from what is asked.
theorem exchanges_run_of_replies {reply : (r : I.Request) → I.Reply r}
    (h : ∀ r s, (answer r s).1 = reply r) (p : Program I α) (s : σ) :
    (p.run answer s).exchanges = (p.run answer s).requests.map fun r => ⟨r, reply r⟩ := by
  induction p generalizing s
  case done | fail         => rfl
  case log event next hi   => exact hi s
  case ask request next hi =>
    have first : (⟨request, (answer request s).1⟩ : I.Exchange) = ⟨request, reply request⟩ := by
      rw [h]
    exact List.cons_eq_cons.mpr ⟨first, hi _ _⟩

-- The program only takes notes on the way to its value.
def Notes (answer : I.Handler σ) (p : Program I α) (a : α) : Prop :=
  ∀ s, ∃ notes, p.run answer s = ⟨.ok a, notes, s⟩ ∧ ∀ step ∈ notes, step.isNote

namespace Notes

variable {p : Program I α} {f : α → Program I β} {a : α} {b : β}

theorem done (a : α) : (Program.done a).Notes answer a :=
  fun _ => ⟨[], rfl, fun _ h => nomatch h⟩

theorem emit (level : Log.Level) (h : level ≠ .warn) (target message : String)
    (fields : List (String × Log.Value)) :
    (Program.emit level target message fields : Program I Unit).Notes answer () := by
  refine fun s => ⟨_, rfl, fun step hs => ?_⟩
  cases List.mem_singleton.mp hs
  simpa [Step.isNote] using h

theorem bind (hp : p.Notes answer a) (hf : (f a).Notes answer b) :
    (p >>= f).Notes answer b := by
  intro s
  have ⟨notes, hr, h⟩ := hp s
  have ⟨notes', hr', h'⟩ := hf s
  refine ⟨notes ++ notes', ?_, List.forall_mem_append.mpr ⟨h, h'⟩⟩
  rw [run_bind, hr, Run.andThen_ok rfl, hr']

theorem forM {l : List α} {f : α → Program I PUnit} (h : ∀ a, (f a).Notes answer ()) :
    (l.forM f).Notes answer () := by
  induction l
  case nil          => exact done _
  case cons a l hi  => exact (h a).bind hi

end Notes

theorem retells_of_notes {p : Program I α} {f : α → Program I β} {g : α → β}
    (h : ∀ a, (f a).Notes answer (g a)) (s : σ) :
    ((p >>= f).run answer s).Retells g (p.run answer s) := by
  rw [run_bind]
  cases hr : (p.run answer s).result
  case error e =>
    have result : ((p.run answer s).andThen fun a => (f a).run answer).result =
        (p.run answer s).result.map g := by simp [Run.andThen_error hr, hr, Except.map]
    exact ⟨result, Run.exchanges_andThen_error hr, Run.warnings_andThen_error hr⟩
  case ok a =>
    have ⟨notes, run, quiet⟩ := h a (p.run answer s).state
    have result : ((p.run answer s).andThen fun a => (f a).run answer).result =
        (p.run answer s).result.map g := by simp [Run.andThen_ok hr, hr, run, Except.map]
    refine ⟨result, ?exchanges, ?warnings⟩
    case exchanges =>
      rw [Run.exchanges_andThen_ok hr, run, Run.exchanges_of_notes quiet, List.append_nil]
    case warnings =>
      rw [Run.warnings_andThen_ok hr, run, Run.warnings_of_notes quiet, List.append_nil]

-- Whatever state the client is in, the program makes only calls of the kind.
def Only (answer : I.Handler σ) (kind : I.Request → Prop) (p : Program I α) : Prop :=
  ∀ s, ∀ c ∈ (p.run answer s).requests, kind c

namespace Only

variable {kind : I.Request → Prop}

theorem done (a : α) : (Program.done a).Only answer kind :=
  fun _ _ h => nomatch h

theorem fail (e : Error) : (Program.fail e : Program I α).Only answer kind :=
  fun _ _ h => nomatch h

theorem emit (level : Log.Level) (target message : String) (fields : List (String × Log.Value)) :
    (Program.emit level target message fields : Program I Unit).Only answer kind :=
  fun _ _ h => nomatch h

theorem bind {p : Program I α} {f : α → Program I β} (hp : p.Only answer kind)
    (hf : ∀ a, (f a).Only answer kind) : (p >>= f).Only answer kind := by
  intro s c h
  rw [run_bind] at h
  cases Run.mem_requests_andThen h
  case inl h => exact hp s c h
  case inr h =>
    have ⟨a, s', h⟩ := h
    exact hf a s' c h

theorem forM {l : List α} {f : α → Program I PUnit} (h : ∀ a ∈ l, (f a).Only answer kind) :
    (l.forM f).Only answer kind := by
  induction l
  case nil => exact done _
  case cons a l hi =>
    rw [forM_cons]
    exact (h a List.mem_cons_self).bind fun _ => hi fun b hb => h b (List.mem_cons_of_mem _ hb)

theorem mapM {l : List α} {f : α → Program I β} (h : ∀ a ∈ l, (f a).Only answer kind) :
    (l.mapM f).Only answer kind := by
  induction l
  case nil => exact done _
  case cons a l hi =>
    rw [List.mapM_cons]
    exact (h a List.mem_cons_self).bind fun _ =>
      (hi fun b hb => h b (List.mem_cons_of_mem _ hb)).bind fun _ => done _

end Only

theorem result_run_attempt (p : Program I α) (s : σ) :
    (p.attempt.run answer s).result = .ok (p.run answer s).result := by
  induction p generalizing s
  case done | fail         => rfl
  case log event next hi   => exact hi s
  case ask request next hi => exact hi _ _

theorem state_run_attempt (p : Program I α) (s : σ) :
    (p.attempt.run answer s).state = (p.run answer s).state := by
  induction p generalizing s
  case done | fail         => rfl
  case log event next hi   => exact hi s
  case ask request next hi => exact hi _ _

-- A tool that has the same reply for every request of a kind as someone else, whatever the state
-- of either, can stand in for them where no other requests are made.
theorem result_run_through {J : Interface} {τ : Type} {answer' : J.Handler τ}
    {tool : (r : I.Request) → Program J (I.Reply r)} {kind : I.Request → Prop}
    (same : ∀ r, kind r → ∀ s t, ((tool r).run answer' t).result = .ok (answer r s).1)
    {p : Program I α} (only : p.Only answer kind) (s : σ) (t : τ) :
    ((p.through tool).run answer' t).result = (p.run answer s).result := by
  replace only := only s
  induction p generalizing s t
  case done | fail => rfl
  case log event next hi => exact hi s t only
  case ask request next hi =>
    have known : kind request := only request (List.mem_cons_self ..)
    rw [through, run_bind, Run.andThen_ok (same request known s t)]
    exact hi _ _ _ fun c hc => only c (List.mem_cons_of_mem _ hc)

end Program

namespace Run

variable {σ α β : Type} {r : Run Client σ α} {next : α → σ → Run Client σ β} {a : α} {e : Error}

theorem calls_andThen_ok (h : r.result = .ok a) :
    (r.andThen next).calls = r.calls ++ (next a r.state).calls :=
  requests_andThen_ok h

theorem calls_andThen_error (h : r.result = .error e) : (r.andThen next).calls = r.calls :=
  requests_andThen_error h

end Run

namespace Call

variable {σ : Type} {answer : Client.Handler σ} {kind : Call → Prop}

theorem run_perform (c : Call) (s : σ) : c.perform.run answer s =
    ⟨(answer c s).1, [.asked c (answer c s).1], (answer c s).2⟩ := by
  cases h : (answer c s).1 <;> simp [perform, Program.run, Program.ofExcept, h]

theorem result_perform (c : Call) (s : σ) : (c.perform.run answer s).result = (answer c s).1 := by
  rw [run_perform]

theorem perform_only {c : Call} (h : kind c) : c.perform.Only answer kind := by
  intro s c' hc'
  rw [run_perform] at hc'
  exact List.mem_singleton.mp hc' ▸ h

end Call

namespace Recorder

-- A call is replied to by the script and put on record, whatever the reply.
theorem handle_eq (c : Call) (r : Recorder) :
    handle c r = (r.model.answer c, { r with calls := r.calls ++ [c] }) := by
  cases c <;> rfl

theorem handleFaulty_eq (faults : List (Nat × Error)) (c : Call) (r : Recorder) (place : Nat) :
    handleFaulty faults c (r, place) = ((faults.lookup place).elim (r.model.answer c) .error,
      { r with calls := r.calls ++ [c] }, place + 1) := by
  rw [handleFaulty, StateT.run, handle_eq]

theorem foldl_handleFaulty (faults : List (Nat × Error)) (cs : List Call) (r : Recorder)
    (place : Nat) : cs.foldl (fun s c => (handleFaulty faults c s).2) (r, place) =
      ({ r with calls := r.calls ++ cs }, place + cs.length) := by
  induction cs generalizing r place
  case nil => simp
  case cons c cs hi =>
    rw [List.foldl_cons, handleFaulty_eq, hi]
    simp [Nat.add_assoc, Nat.add_comm 1]

-- A program leaves all its calls on record, in order, and nothing else.
theorem state_run {α : Type} (faults : List (Nat × Error)) (p : Program Client α) (r : Recorder) :
    (r.run faults p).state.1 = { r with calls := r.calls ++ (r.run faults p).calls } := by
  rw [run, Program.state_run, foldl_handleFaulty]
  rfl

end Recorder

namespace ScriptedModel

-- A scripted model as the tool. Without faults it stays as it is.
def handler (m : ScriptedModel) : Client.Handler Unit := fun c s => (m.answer c, s)

theorem handler_unchanging (m : ScriptedModel) : m.handler.Unchanging := fun _ _ _ => rfl

-- What is on record is of no concern to a program.
theorem run_recorded {α : Type} (p : Program Client α) (r : Recorder) :
    (r.run [] p).result = (p.run r.model.handler ()).result ∧
      (r.run [] p).steps = (p.run r.model.handler ()).steps := by
  refine Program.run_of_related (fun s _ => s.1.model = r.model) (fun c s _ same => ?reply)
    (fun c s _ same => ?state) p rfl
  case reply =>
    have ⟨recorder, place⟩ := s
    rw [Recorder.handleFaulty_eq, same]
    rfl
  case state =>
    have ⟨recorder, place⟩ := s
    rw [Recorder.handleFaulty_eq]
    exact same

end ScriptedModel
end RollingUpgrade
