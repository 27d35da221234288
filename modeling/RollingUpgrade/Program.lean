import RollingUpgrade.Error
import RollingUpgrade.Log.Event

namespace RollingUpgrade

-- The questions that a program may ask, and the type of answer that each has.
structure Interface where
  Request : Type
  Reply : Request → Type

inductive Program (I : Interface) (α : Type) : Type
  | done (a : α)
  | fail (e : Error)
  | log (event : Log.Event) (next : Program I α)
  | ask (request : I.Request) (next : I.Reply request → Program I α)

inductive Step (I : Interface)
  | logged (event : Log.Event)
  | asked (request : I.Request) (reply : I.Reply request)

-- How a run went: its result, its steps in order, and the state it left behind.
structure Run (I : Interface) (σ α : Type) where
  result : Except Error α
  steps : List (Step I)
  state : σ

namespace Program

variable {I J : Interface} {α β γ σ : Type}

def bind : Program I α → (α → Program I β) → Program I β
  | .done a, f => f a
  | .fail e, _ => .fail e
  | .log event next, f => .log event (next.bind f)
  | .ask request next, f => .ask request fun reply => (next reply).bind f

instance : Monad (Program I) where
  pure := .done
  bind := bind

@[simp] theorem pure_eq (a : α) : (pure a : Program I α) = .done a := rfl

@[simp] theorem done_bind (a : α) (f : α → Program I β) : (Program.done a >>= f) = f a := rfl

@[simp] theorem log_bind (event : Log.Event) (p : Program I α) (f : α → Program I β) :
    (Program.log event p >>= f) = .log event (p >>= f) := rfl

@[simp] theorem ask_bind (request : I.Request) (next : I.Reply request → Program I α)
    (f : α → Program I β) :
    (Program.ask request next >>= f) = .ask request fun reply => next reply >>= f := rfl

theorem bind_done (p : Program I α) : (p >>= Program.done) = p := by
  induction p with
  | done | fail => rfl
  | log event next ih => rw [log_bind, ih]
  | ask request next ih => rw [ask_bind]; exact congrArg _ (funext ih)

theorem bind_assoc (p : Program I α) (f : α → Program I β) (g : β → Program I γ) :
    (p >>= f >>= g) = p >>= fun a => f a >>= g := by
  induction p with
  | done | fail => rfl
  | log event next ih => simp only [log_bind, ih]
  | ask request next ih => simp only [ask_bind, ih]

instance : LawfulMonad (Program I) := LawfulMonad.mk' (Program I)
  (fun p => bind_done p) (fun _ _ => rfl) bind_assoc

-- The program that hands a failure on as a value.
def attempt : Program I α → Program I (Except Error α)
  | .done a => .done (.ok a)
  | .fail e => .done (.error e)
  | .log event next => .log event next.attempt
  | .ask request next => .ask request fun reply => (next reply).attempt

def ofExcept : Except Error α → Program I α
  | .ok a => .done a
  | .error e => .fail e

def question (request : I.Request) : Program I (I.Reply request) := .ask request .done

def emit (level : Log.Level) (target message : String) (fields : List (String × Log.Value)) :
    Program I Unit :=
  .log ⟨level, target, message, fields⟩ (.done ())

-- Answers the questions of a program by programs over another interface.
def through (answer : (r : I.Request) → Program J (I.Reply r)) : Program I α → Program J α
  | .done a => .done a
  | .fail e => .fail e
  | .log event next => .log event (next.through answer)
  | .ask request next => answer request >>= fun reply => (next reply).through answer

def run (answer : (r : I.Request) → σ → I.Reply r × σ) : Program I α → σ → Run I σ α
  | .done a, s => ⟨.ok a, [], s⟩
  | .fail e, s => ⟨.error e, [], s⟩
  | .log event next, s =>
    let rest := next.run answer s
    { rest with steps := .logged event :: rest.steps }
  | .ask request next, s =>
    let (reply, s) := answer request s
    let rest := (next reply).run answer s
    { rest with steps := .asked request reply :: rest.steps }

theorem result_run_bind (answer : (r : I.Request) → σ → I.Reply r × σ) (p : Program I α)
    (f : α → Program I β) (s : σ) :
    ((p >>= f).run answer s).result =
      (p.run answer s).result >>= fun a => ((f a).run answer (p.run answer s).state).result := by
  induction p generalizing s with
  | done | fail => rfl
  | log event next ih => exact ih s
  | ask request next ih => exact ih (answer request s).1 (answer request s).2

theorem result_run_forM (answer : (r : I.Request) → σ → I.Reply r × σ) {f : α → Program I PUnit}
    {g : α → Except Error PUnit} (h : ∀ a s, ((f a).run answer s).result = g a) (l : List α)
    (s : σ) : ((l.forM f).run answer s).result = l.forM g := by
  induction l generalizing s with
  | nil => rfl
  | cons a l ih =>
    have step := result_run_bind answer (f a) (fun _ => l.forM f) s
    rw [h] at step
    simp only [ih] at step
    exact step

end Program

namespace Run

variable {I : Interface} {σ α : Type}

def requests (r : Run I σ α) : List I.Request :=
  r.steps.filterMap fun
    | .asked request _ => some request
    | .logged _ => none

def events (r : Run I σ α) : List Log.Event :=
  r.steps.filterMap fun
    | .logged event => some event
    | .asked .. => none

end Run
end RollingUpgrade
