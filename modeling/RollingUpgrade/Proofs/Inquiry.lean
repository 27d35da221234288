import RollingUpgrade.Proofs.Run

namespace RollingUpgrade

-- How one asks about things: the exchange in which a thing turns out to have a value, the values
-- that will do, and the exchanges that end the inquiry, each with the error that it leads to.
structure Inquiry (I : Interface) (α β : Type) where
  told : α × β → I.Exchange
  Accepts : α × β → Prop
  Refuses : α → I.Exchange → Error → Prop

namespace Inquiry

variable {I : Interface} {α β γ δ σ : Type}

-- A run that asks about the items of a list in order and asks nothing else. It gets through all of
-- them, or it fails and has asked nothing after the exchange that it fails for. What it gives goes
-- by what it found.
inductive Conducts (q : Inquiry I α β) (items : List α) (gives : List (α × β) → γ → Prop)
    (r : Run I σ γ) : Prop
  | through (found : List (α × β)) {c : γ} (all : found.map (·.1) = items)
      (accepted : ∀ f ∈ found, q.Accepts f) (exchanges : r.exchanges = found.map q.told)
      (result : r.result = .ok c) (given : gives found c)
  | upTo (found : List (α × β)) {a : α} {rest : List α} {x : I.Exchange} {e : Error}
      (before : items = found.map (·.1) ++ a :: rest) (accepted : ∀ f ∈ found, q.Accepts f)
      (exchanges : r.exchanges = found.map q.told ++ [x]) (refused : q.Refuses a x e)
      (result : r.result = .error e)

namespace Conducts

variable {q : Inquiry I α β} {items items' : List α} {gives : List (α × β) → γ → Prop}
  {r : Run I σ γ}

theorem of_silent {c : γ} (exchanges : r.exchanges = []) (result : r.result = .ok c)
    (given : gives [] c) : q.Conducts [] gives r :=
  .through [] rfl (fun _ h => nomatch h) exchanges result given

theorem retell {r' : Run I σ δ} {g : γ → δ} {gives' : List (α × β) → δ → Prop}
    (h : r'.Retells g r) (hr : q.Conducts items gives r)
    (given : ∀ found c, gives found c → gives' found (g c)) : q.Conducts items gives' r' := by
  cases hr
  case through found c all accepted exchanges result hc =>
    have result' : r'.result = .ok (g c) := by simp [h.result, result, Except.map]
    exact .through _ all accepted (h.exchanges.trans exchanges) result' (given found c hc)
  case upTo found a rest x e before accepted exchanges refused result =>
    have result' : r'.result = .error e := by simp [h.result, result, Except.map]
    exact .upTo _ before accepted (h.exchanges.trans exchanges) refused result'

theorem andThen {gives' : List (α × β) → δ → Prop} {next : γ → σ → Run I σ δ}
    (hr : q.Conducts items gives r)
    (hn : ∀ found c, gives found c → ∀ s,
      q.Conducts items' (fun found' => gives' (found ++ found')) (next c s)) :
    q.Conducts (items ++ items') gives' (r.andThen next) := by
  cases hr
  case upTo found a rest x e before accepted exchanges refused result =>
    have before' : items ++ items' = found.map (·.1) ++ a :: (rest ++ items') := by simp [before]
    rw [Run.andThen_error result]
    exact .upTo _ before' accepted exchanges refused rfl
  case through found c all accepted exchanges result given =>
    have gone : (r.andThen next).result = (next c r.state).result := by
      rw [Run.andThen_ok result]
    have asked : (r.andThen next).exchanges = r.exchanges ++ (next c r.state).exchanges :=
      Run.exchanges_andThen_ok result
    cases hn found c given r.state
    case through found' d all' accepted' exchanges' result' given' =>
      have all : (found ++ found').map (·.1) = items ++ items' := by simp [all, all']
      have exchanges : (r.andThen next).exchanges = (found ++ found').map q.told := by
        simp [asked, exchanges, exchanges']
      exact .through _ all (List.forall_mem_append.mpr ⟨accepted, accepted'⟩) exchanges
        (gone.trans result') given'
    case upTo found' a rest x e before' accepted' exchanges' refused' result' =>
      have before : items ++ items' = (found ++ found').map (·.1) ++ a :: rest := by
        simp [all, before']
      have exchanges : (r.andThen next).exchanges = (found ++ found').map q.told ++ [x] := by
        simp [asked, exchanges, exchanges']
      exact .upTo _ before (List.forall_mem_append.mpr ⟨accepted, accepted'⟩) exchanges refused'
        (gone.trans result')

-- What is asked about the elements of a list one after the other. A relation between the elements,
-- what is found and what is given holds if each element keeps it.
theorem mapM {answer : I.Handler σ} {l : List δ} {f : δ → Program I γ} {items : δ → List α}
    {gives : δ → List (α × β) → γ → Prop} {Rel : List δ → List (α × β) → List γ → Prop}
    (h : ∀ d ∈ l, ∀ s, q.Conducts (items d) (gives d) ((f d).run answer s)) (nil : Rel [] [] [])
    (cons : ∀ d l found found' c cs, gives d found c → Rel l found' cs →
      Rel (d :: l) (found ++ found') (c :: cs)) (s : σ) :
    q.Conducts (l.flatMap items) (Rel l) ((l.mapM f).run answer s) := by
  induction l generalizing s
  case nil => exact .of_silent rfl rfl nil
  case cons d l hi =>
    have ⟨first, rest⟩ := List.forall_mem_cons.mp h
    rw [Program.run_mapM_cons, List.flatMap_cons]
    apply (first s).andThen
    intro found c hc s
    exact (hi rest s).retell (Run.retells_value _) fun found' cs => cons d l found found' c cs hc

end Conducts
end Inquiry
end RollingUpgrade
