import PatternSync.Proofs.Courses
import PatternSync.Proofs.Inventory

/-!
# Passes against a server with fates

A pass is run against a state that serves its calls, each with a fate of its own, so that a run is
determined by the pass, the state and the fates. Main statement: the runs of a pass are its courses
along which the state changes call by call (`conduct_iff`). Facts about runs are read off the
courses of the pass and the trail of states.
-/

namespace PatternSync

open Pass

/-- A pass that was run: its result, the state after it, and its steps. -/
structure Conduct (σ α : Type) where
  value : α
  state : σ
  steps : List Step

section

variable {σ α : Type} (serve : Handler σ)

/-- Runs a pass. A fate is used up by each call; with too few or impossible ones there is no
run. -/
def Pass.conduct : Pass α → σ → List Fate → Option (Conduct σ α)
  | .done a, s, _ => some { value := a, state := s, steps := [] }
  | .call _ _, _, [] => none
  | .call c next, s, fate :: fates =>
    (serve s c fate).bind fun (result, after) =>
      (conduct (next result) after fates).map fun rest =>
        { rest with steps := .called c result :: rest.steps }
  | .note n next, s, fates =>
    (conduct next s fates).map fun rest => { rest with steps := .noted n :: rest.steps }

/-- The states before and after some steps. -/
inductive Trail : σ → List Step → σ → Prop where
  | nil (s : σ) : Trail s [] s
  | call {s mid after : σ} {c : Call} {result : Except ApiFailure Json} {steps : List Step}
      (fate : Fate) (hserve : serve s c fate = some (result, mid))
      (rest : Trail mid steps after) : Trail s (.called c result :: steps) after
  | note {s after : σ} {n : Note} {steps : List Step} (rest : Trail s steps after) :
      Trail s (.noted n :: steps) after

variable {serve} {s after : σ} {steps : List Step}

/-! ## Trails -/

theorem trail_nil (h : Trail serve s [] after) : after = s := by
  cases h
  rfl

theorem trail_call {c : Call} {result : Except ApiFailure Json}
    (h : Trail serve s (.called c result :: steps) after) :
    ∃ fate mid, serve s c fate = some (result, mid) ∧ Trail serve mid steps after := by
  cases h with
  | call fate hserve rest => exact ⟨fate, _, hserve, rest⟩

theorem trail_note {n : Note} (h : Trail serve s (.noted n :: steps) after) :
    Trail serve s steps after := by
  cases h with
  | note rest => exact rest

theorem trail_append {first second : List Step} :
    Trail serve s (first ++ second) after ↔
      ∃ mid, Trail serve s first mid ∧ Trail serve mid second after := by
  constructor
  · intro h
    induction first generalizing s with
    | nil => exact ⟨s, .nil s, h⟩
    | cons step first ih =>
      cases h with
      | call fate hserve rest =>
        obtain ⟨mid, hfirst, hsecond⟩ := ih rest
        exact ⟨mid, .call fate hserve hfirst, hsecond⟩
      | note rest =>
        obtain ⟨mid, hfirst, hsecond⟩ := ih rest
        exact ⟨mid, .note hfirst, hsecond⟩
  · rintro ⟨mid, hfirst, hsecond⟩
    induction hfirst with
    | nil s => exact hsecond
    | call fate hserve rest ih => exact .call fate hserve (ih hsecond)
    | note rest ih => exact .note (ih hsecond)

/-- What every call among the steps keeps holds after them. -/
theorem Trail.invariant (Inv : σ → Prop) (h : Trail serve s steps after)
    (hkeep : ∀ {s mid c result fate}, .called c result ∈ steps →
      serve s c fate = some (result, mid) → Inv s → Inv mid)
    (hs : Inv s) : Inv after := by
  induction h with
  | nil s => exact hs
  | call fate hserve rest ih =>
    exact ih (fun hmem => hkeep (List.mem_cons_of_mem _ hmem))
      (hkeep List.mem_cons_self hserve hs)
  | note rest ih => exact ih (fun hmem => hkeep (List.mem_cons_of_mem _ hmem)) hs

/-- Steps whose calls leave the state alone leave it alone together. -/
theorem Trail.eq_start (h : Trail serve s steps after)
    (hkeep : ∀ {s mid c result fate}, .called c result ∈ steps →
      serve s c fate = some (result, mid) → mid = s) : after = s := by
  induction h with
  | nil s => rfl
  | call fate hserve rest ih =>
    rw [ih fun hmem => hkeep (List.mem_cons_of_mem _ hmem)]
    exact hkeep List.mem_cons_self hserve
  | note rest ih => exact ih fun hmem => hkeep (List.mem_cons_of_mem _ hmem)

theorem Trail.served (h : Trail serve s steps after)
    (hkeep : ∀ {s mid c result fate}, .called c result ∈ steps →
      serve s c fate = some (result, mid) → mid = s)
    {c : Call} {result : Except ApiFailure Json} (hmem : .called c result ∈ steps) :
    ∃ fate, serve s c fate = some (result, s) := by
  induction h with
  | nil s => cases hmem
  | call fate hserve rest ih =>
    obtain rfl := hkeep List.mem_cons_self hserve
    rcases List.mem_cons.1 hmem with heq | hmem
    · cases heq
      exact ⟨fate, hserve⟩
    · exact ih (fun hmem => hkeep (List.mem_cons_of_mem _ hmem)) hmem
  | note rest ih =>
    rcases List.mem_cons.1 hmem with heq | hmem
    · cases heq
    · exact ih (fun hmem => hkeep (List.mem_cons_of_mem _ hmem)) hmem

theorem Trail.eq_start_of_quiet (h : Trail serve s steps after) (hquiet : Quiet steps) :
    after = s := by
  refine h.eq_start fun hmem _ => ?_
  obtain ⟨line, hline⟩ := hquiet _ hmem
  cases hline

/-! ## Runs -/

/-- A run is a course of the pass with a trail of states. -/
theorem conduct_iff {p : Pass α} {r : Conduct σ α} :
    (∃ fates, p.conduct serve s fates = some r) ↔
      Course p r.steps r.value ∧ Trail serve s r.steps r.state := by
  constructor
  · rintro ⟨fates, h⟩
    induction p generalizing s fates r with
    | done a =>
      cases h
      exact ⟨.done a, .nil s⟩
    | call c next ih =>
      cases fates with
      | nil => cases h
      | cons fate fates =>
        obtain ⟨⟨result, mid⟩, hserve, hrest⟩ := Option.bind_eq_some_iff.1 h
        obtain ⟨rest, hconduct, rfl⟩ := Option.map_eq_some_iff.1 hrest
        obtain ⟨hcourse, htrail⟩ := ih result fates hconduct
        exact ⟨.call result hcourse, .call fate hserve htrail⟩
    | note n next ih =>
      obtain ⟨rest, hconduct, rfl⟩ := Option.map_eq_some_iff.1 h
      obtain ⟨hcourse, htrail⟩ := ih fates hconduct
      exact ⟨.note hcourse, .note htrail⟩
  · obtain ⟨value, state, steps⟩ := r
    rintro ⟨hcourse, htrail⟩
    dsimp only at hcourse htrail
    induction hcourse generalizing s with
    | done a => exact ⟨[], by rw [trail_nil htrail]; rfl⟩
    | call result rest ih =>
      obtain ⟨fate, mid, hserve, hrest⟩ := trail_call htrail
      obtain ⟨fates, hconduct⟩ := ih hrest
      refine ⟨fate :: fates, ?_⟩
      rw [Pass.conduct, hserve]
      exact congrArg (Option.map _) hconduct
    | note rest ih =>
      obtain ⟨fates, hconduct⟩ := ih (trail_note htrail)
      refine ⟨fates, ?_⟩
      exact congrArg (Option.map _) hconduct

end

/-! ## Honest answers -/

/-- Whether the failure says that the application that the call is about does not exist. -/
def Call.denies : Call → ApiFailure → Bool
  | readApplication _ _, f => f.isAbsence
  | deleteApplication _ _, f => f.isGone
  | _, _ => false

namespace Inventory

/-- Serves a call without denying an application that is stored. -/
def honest : Handler Inventory := fun s c fate =>
  (s.serve c fate).filter fun (result, after) =>
    match result with
    | .ok _ => true
    | .error f => !c.denies f || (c.place?.bind after.stored).isNone

variable {s after : Inventory} {c : Call} {fate : Fate} {result : Except ApiFailure Json}

theorem serve_of_honest (h : s.honest c fate = some (result, after)) :
    s.serve c fate = some (result, after) :=
  (Option.filter_eq_some_iff.1 h).1

theorem stored_of_denies {f : ApiFailure} {place : Place} (hc : c.denies f = true)
    (hplace : c.place? = some place) (h : s.honest c fate = some (.error f, after)) :
    after.stored place = none := by
  have hhonest := (Option.filter_eq_some_iff.1 h).2
  simpa [hc, hplace] using hhonest

/-- Every call can fail because nothing answers. -/
theorem honest_service (s : Inventory) (c : Call) (text : String) :
    s.honest c (.refused (.service text)) = some (.error (.service text), s) := by
  have hdenies : c.denies (.service text) = false := by cases c <;> rfl
  refine Option.filter_eq_some_iff.2 ⟨rfl, ?_⟩
  show (!c.denies (.service text) || _) = true
  rw [hdenies]
  rfl

/-- A stored application that can be read can be served. -/
theorem honest_read {s : Inventory} {ns name : String} {j : Json}
    (hstored : s.stored { ns, name } = some j) (hcheck : Application.shape.check j = .ok ()) :
    s.honest (.readApplication ns name) (.served .null "") = some (.ok j, s) := by
  have hanswer : s.answer? .null (.readApplication ns name) = some j := by
    show (s.stored { ns, name }).filter _ = _
    rw [hstored]
    exact Option.filter_eq_some_iff.2 ⟨rfl, by rw [hcheck]; rfl⟩
  exact Option.filter_eq_some_iff.2 ⟨Handler.plain_served rfl hanswer, rfl⟩

/-- A pass can meet a server that does not answer. -/
theorem exists_trail {α : Type} (p : Pass α) (s : Inventory) :
    ∃ steps v, Course p steps v ∧ Trail honest s steps s := by
  induction p with
  | done a => exact ⟨[], a, .done a, .nil s⟩
  | call c next ih =>
    obtain ⟨steps, v, hcourse, htrail⟩ := ih (.error (.service ""))
    exact ⟨_, v, .call _ hcourse, .call _ (s.honest_service c "") htrail⟩
  | note n next ih =>
    obtain ⟨steps, v, hcourse, htrail⟩ := ih
    exact ⟨_, v, .note hcourse, .note htrail⟩

end Inventory

/-! ## Where the application of a pattern is -/

def Pattern.home (p : Pattern) (settings : Settings) : Place where
  ns := settings.applicationNamespace
  name := p.applicationName

end PatternSync
