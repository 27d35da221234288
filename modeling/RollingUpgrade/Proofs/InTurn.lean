import RollingUpgrade.Proofs.Run

namespace RollingUpgrade

variable {I : Interface} {σ α β : Type}

namespace Run

-- The run of parts up to the first one that fails.
def inTurn : List (σ → Run I σ Unit) → σ → Run I σ Unit
  | [],      s => ⟨.ok (), [], s⟩
  | p :: ps, s => (p s).andThen fun _ => inTurn ps

-- The runs of parts when each starts in the state in which the one before it ended, no matter how
-- that one ended.
def each : List (σ → Run I σ Unit) → σ → List (Run I σ Unit)
  | [],      _ => []
  | p :: ps, s => p s :: each ps (p s).state

variable {ps qs : List (σ → Run I σ Unit)} {s : σ} {e : Error}

theorem inTurn_append :
    inTurn (ps ++ qs) s = (inTurn ps s).andThen fun _ => inTurn qs := by
  induction ps generalizing s
  case nil => rw [inTurn, andThen_ok (a := ()) rfl]; rfl
  case cons p ps hi =>
    rw [List.cons_append, inTurn, inTurn, andThen_assoc]
    congr
    funext _ s
    exact hi

theorem inTurn_singleton {p : σ → Run I σ Unit} : inTurn [p] s = p s := by
  rw [inTurn]
  cases h : (p s).result
  case error e => rw [andThen_error h, ← h]
  case ok u    => rw [andThen_ok h, inTurn, List.append_nil, ← h]

theorem take_each (k : Nat) : (each ps s).take k = each (ps.take k) s := by
  induction ps generalizing s k
  case nil => simp [each]
  case cons p ps hi =>
    cases k
    case zero   => rfl
    case succ k => rw [each, List.take_succ_cons, List.take_succ_cons, each, hi]

theorem inTurn_of_no_failure (h : ∀ r ∈ each ps s, r.result = .ok ()) :
    (inTurn ps s).result = .ok () ∧
    (inTurn ps s).requests = (each ps s).flatMap requests ∧
    (inTurn ps s).warnings = (each ps s).flatMap warnings := by
  induction ps generalizing s
  case nil => exact ⟨rfl, rfl, rfl⟩
  case cons p ps hi =>
    simp only [each, List.mem_cons, forall_eq_or_imp] at h
    have ⟨result, requests, warnings⟩ := hi h.right
    simp only [each, inTurn, List.flatMap_cons, ← requests, ← warnings]
    exact ⟨andThen_ok h.left ▸ result, requests_andThen_ok h.left, warnings_andThen_ok h.left⟩

theorem inTurn_of_first_failure {k : Nat} {r : Run I σ Unit}
    (passed : ∀ r ∈ (each ps s).take k, r.result = .ok ())
    (failed : (each ps s)[k]? = some r) (h : r.result = .error e) :
    (inTurn ps s).result = .error e ∧
    (inTurn ps s).requests = ((each ps s).take (k + 1)).flatMap requests ∧
    (inTurn ps s).warnings = ((each ps s).take (k + 1)).flatMap warnings := by
  induction ps generalizing s k
  case nil => simp [each] at failed
  case cons p ps hi =>
    simp only [each, inTurn] at passed failed ⊢
    cases k
    case zero =>
      have failed : p s = r := by simpa using failed
      subst failed
      rw [requests_andThen_error h, warnings_andThen_error h, andThen_error h]
      simp only [List.take_succ_cons, List.take_zero, List.flatMap_singleton, and_self]
    case succ k =>
      simp only [List.take_succ_cons, List.mem_cons, forall_eq_or_imp] at passed
      have ⟨result, requests, warnings⟩ := hi passed.right (by simpa using failed)
      simp only [List.take_succ_cons, List.flatMap_cons, ← requests, ← warnings]
      exact ⟨andThen_ok passed.left ▸ result, requests_andThen_ok passed.left,
        warnings_andThen_ok passed.left⟩

end Run

namespace Program

-- The runs of a program are those of parts, up to notes and to the value that it gives.
def Tracks (answer : I.Handler σ) (p : Program I α) (parts : List (σ → Run I σ Unit)) : Prop :=
  ∀ s, (p.run answer s).outline = (Run.inTurn parts s).outline

namespace Tracks

variable {answer : I.Handler σ} {p : Program I α} {f : α → Program I β}
  {parts parts' : List (σ → Run I σ Unit)}

theorem bind (hp : p.Tracks answer parts) (hf : ∀ a, (f a).Tracks answer parts') :
    (p >>= f).Tracks answer (parts ++ parts') := by
  intro s
  rw [run_bind, Run.inTurn_append, Run.outline_andThen hf, Run.outline_andThen_const, hp s]

theorem part {r : σ → Run I σ Unit} (h : ∀ s, (p.run answer s).outline = (r s).outline) :
    p.Tracks answer [r] := by
  intro s
  rw [h s, Run.inTurn_singleton]

theorem done (a : α) : (Program.done a).Tracks answer [] :=
  fun _ => rfl

theorem note (target message : String) (fields : List (String × Log.Value)) :
    (Program.emit .info target message fields : Program I Unit).Tracks answer [] :=
  fun _ => rfl

theorem forM {l : List α} {f : α → Program I PUnit} {g : α → List (σ → Run I σ Unit)}
    (h : ∀ a ∈ l, (f a).Tracks answer (g a)) : (l.forM f).Tracks answer (l.flatMap g) := by
  induction l
  case nil => exact done _
  case cons a l hi =>
    rw [forM_cons, List.flatMap_cons]
    exact (h a List.mem_cons_self).bind fun _ => hi fun b hb => h b (List.mem_cons_of_mem _ hb)

theorem state (h : p.Tracks answer parts) (s : σ) :
    (p.run answer s).state = (Run.inTurn parts s).state :=
  congrArg Run.state (h s)

theorem requests (h : p.Tracks answer parts) (s : σ) :
    (p.run answer s).requests = (Run.inTurn parts s).requests := by
  rw [← Run.requests_outline, h s, Run.requests_outline]

theorem warnings (h : p.Tracks answer parts) (s : σ) :
    (p.run answer s).warnings = (Run.inTurn parts s).warnings := by
  rw [← Run.warnings_outline, h s, Run.warnings_outline]

theorem result {p : Program I Unit} (h : p.Tracks answer parts) (s : σ) :
    (p.run answer s).result = (Run.inTurn parts s).result := by
  rw [← Run.result_outline, h s, Run.result_outline]

end Tracks
end Program
end RollingUpgrade
