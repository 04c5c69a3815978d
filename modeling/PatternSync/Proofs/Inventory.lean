import PatternSync.Pass

/-!
# What an API server promises about applications

An inventory holds the stored applications and every document that was ever stored. It says what a
server may do with a call: a created application must not exist yet, a merge patch is applied by
the rules of `Server.patched`, and every write gives the document a version that no earlier
document at its place had. Whether a call is served at all, and whether its answer arrives, is left
open (`Fate`). What that comes to is said once, for any state that calls can be carried out in
(`Handler.performing`). Main statement: a document that was stored at a place is known by its
version (`Sound`, which every write keeps).
-/

namespace PatternSync

/-- Where an application is stored. -/
structure Place where
  ns : String
  name : String
  deriving DecidableEq

/-- The stored applications, and all documents that were ever stored at a place. -/
structure Inventory where
  stored : Place → Option Json := fun _ => none
  past : Place → List Json := fun _ => []

namespace Call

def place? : Call → Option Place
  | readApplication ns name | mergeApplication ns name _ | deleteApplication ns name =>
    some { ns, name }
  | createApplication ns a => some { ns, name := a.metadata.name.getD "" }
  | _ => none

def isWrite : Call → Bool
  | createApplication _ _ | mergeApplication _ _ _ => true
  | _ => false

def changesApplications : Call → Bool
  | createApplication _ _ | mergeApplication _ _ _ | deleteApplication _ _ => true
  | _ => false

end Call

namespace Inventory

/-! ## Writing -/

/-- Whether no document at the place ever had the version. -/
def isFresh (s : Inventory) (place : Place) (version : String) : Bool :=
  (s.past place).all fun j => j.version ≠ .str version

def store (s : Inventory) (place : Place) (document : Json) (version : String) : Inventory where
  stored q := if q = place then some (document.withVersion version) else s.stored q
  past q := if q = place then document.withVersion version :: s.past q else s.past q

/-- The inventory after a document was stored under a version, if the version is fresh. -/
def store? (s : Inventory) (place : Place) (document : Json) (version : String) :
    Option Inventory :=
  if s.isFresh place version then some (s.store place document version) else none

def remove (s : Inventory) (place : Place) : Inventory :=
  { s with stored := fun q => if q = place then none else s.stored q }

/-! ## Calls -/

/-- The inventory after a call was carried out; nothing if a server cannot do what is asked. -/
def perform? (s : Inventory) (version : String) (c : Call) : Option Inventory :=
  match c with
  | .createApplication ns a =>
    let place : Place := { ns, name := a.metadata.name.getD "" }
    if (s.stored place).isNone then s.store? place a.toJson version else none
  | .mergeApplication ns name change =>
    match s.stored { ns, name } with
    | none => none
    | some document =>
      match Server.patched document (.merge change) with
      | .ok j => s.store? { ns, name } j version
      | .error _ => none
  | .deleteApplication ns name =>
    if (s.stored { ns, name }).isSome then some (s.remove { ns, name }) else none
  | _ => some s

/-- What a served call answers with: the application as it is stored afterwards, as long as it can
be read, or any document where the call is not about what is stored. -/
def answer? (s : Inventory) (given : Json) (c : Call) : Option Json :=
  match c with
  | .readApplication _ _ | .createApplication _ _ | .mergeApplication _ _ _ =>
    (c.place?.bind s.stored).filter fun j => (Application.shape.check j).isOk
  | _ => some given

end Inventory

/-! ## Calls with fates -/

/-- What becomes of a call. -/
inductive Fate where
  /-- It is carried out and answered. A write has the version as its result; `given` is the answer
  to a call that is not about a stored application. -/
  | served (given : Json) (version : String)
  /-- It is not carried out. -/
  | refused (f : ApiFailure)
  /-- It is carried out, but the answer does not arrive. -/
  | lost (f : ApiFailure) (version : String)

def Fate.isRefused : Fate → Bool
  | refused _ => true
  | _ => false

/-- What comes of a call with a fate, and the state afterwards; nothing if the fate is
impossible. -/
abbrev Handler (σ : Type) : Type :=
  σ → Call → Fate → Option (Except ApiFailure Json × σ)

namespace Handler

/-- The handler of a state in which calls can be carried out and answered. The state may keep an
account of the calls that were answered, and of those that were refused. -/
def performing {σ : Type} (perform? : σ → String → Call → Option σ)
    (answered refused : σ → Call → σ)
    (answer? : σ → Json → Call → Option Json := fun _ given _ => some given) : Handler σ :=
  fun s c fate =>
    match fate with
    | .served given version =>
      (perform? s version c).bind fun next =>
        (answer? next given c).map fun j => (.ok j, answered next c)
    | .refused f => some (.error f, refused s c)
    | .lost f version => (perform? s version c).map fun next => (.error f, next)

/-- The handler of a state that keeps no account of calls. -/
def plain {σ : Type} (perform? : σ → String → Call → Option σ)
    (answer? : σ → Json → Call → Option Json := fun _ given _ => some given) : Handler σ :=
  performing perform? (fun s _ => s) (fun s _ => s) answer?

section

variable {σ : Type} {perform? : σ → String → Call → Option σ} {answered refused : σ → Call → σ}
  {answer? : σ → Json → Call → Option Json} {s after : σ} {c : Call} {fate : Fate}
  {result : Except ApiFailure Json}

/-- A call is carried out and answered, or refused, or carried out without an answer. -/
theorem performing_cases
    (h : performing perform? answered refused answer? s c fate = some (result, after)) :
    (∃ given version next j, fate = .served given version ∧ result = .ok j
        ∧ perform? s version c = some next ∧ answer? next given c = some j
        ∧ after = answered next c)
      ∨ (∃ f, fate = .refused f ∧ result = .error f ∧ after = refused s c)
      ∨ ∃ f version, fate = .lost f version ∧ result = .error f
        ∧ perform? s version c = some after := by
  cases fate with
  | served given version =>
    obtain ⟨next, hnext, hrest⟩ := Option.bind_eq_some_iff.1 h
    obtain ⟨j, hanswer, heq⟩ := Option.map_eq_some_iff.1 hrest
    cases heq
    exact .inl ⟨given, version, next, j, rfl, rfl, hnext, hanswer, rfl⟩
  | refused f =>
    cases h
    exact .inr (.inl ⟨f, rfl, rfl, rfl⟩)
  | lost f version =>
    obtain ⟨next, hnext, heq⟩ := Option.map_eq_some_iff.1 h
    cases heq
    exact .inr (.inr ⟨f, version, rfl, rfl, hnext⟩)

theorem plain_served {given j : Json} {version : String}
    (hperform : perform? s version c = some after) (hanswer : answer? after given c = some j) :
    plain perform? answer? s c (.served given version) = some (.ok j, after) := by
  rw [plain, performing, hperform, Option.bind_some, hanswer, Option.map_some]

/-- Without an account, a call is refused and leaves the state alone, or it is carried out. -/
theorem refused_or_performed (h : plain perform? answer? s c fate = some (result, after)) :
    (∃ f, fate = .refused f ∧ result = .error f ∧ after = s)
      ∨ fate.isRefused = false ∧ ∃ version, perform? s version c = some after := by
  obtain ⟨_, version, next, _, rfl, -, hnext, -, rfl⟩ | hrefused | ⟨_, version, rfl, -, hnext⟩ :=
    performing_cases h
  · exact .inr ⟨rfl, version, hnext⟩
  · exact .inl hrefused
  · exact .inr ⟨rfl, version, hnext⟩

end

end Handler

namespace Inventory

def serve : Handler Inventory :=
  Handler.plain perform? answer?

/-! ## Versions identify documents -/

/-- Everything that is stored has been stored, and a version belongs to one document. -/
structure Sound (s : Inventory) : Prop where
  past : ∀ {place j}, s.stored place = some j → j ∈ s.past place
  versioned : ∀ {place j}, j ∈ s.past place → ∃ k v, j = Json.withVersion k v
  unique : ∀ {place j k}, j ∈ s.past place → k ∈ s.past place → j.version = k.version → j = k

theorem sound_empty : Sound {} where
  past := by
    intro place j h
    cases h
  versioned := fun h => absurd h List.not_mem_nil
  unique := fun h => absurd h List.not_mem_nil

theorem version_withVersion (j : Json) (v : String) : (j.withVersion v).version = .str v := by
  simp [Json.version, Json.withVersion, Json.at?, Json.child?, Json.member?, Json.orNull]

theorem Sound.store {s : Inventory} (h : s.Sound) {place : Place} {version : String}
    (hfresh : s.isFresh place version = true) (document : Json) :
    (s.store place document version).Sound := by
  have hnew : ∀ j ∈ s.past place, j.version ≠ (document.withVersion version).version := by
    intro j hj
    rw [version_withVersion]
    simpa using List.all_eq_true.1 hfresh j hj
  have hpast : ∀ {q j}, j ∈ (s.store place document version).past q →
      q = place ∧ j = document.withVersion version ∨ j ∈ s.past q := by
    intro q j hj
    simp only [Inventory.store] at hj
    split at hj
    · rename_i hq
      exact (List.mem_cons.1 hj).imp_left fun heq => ⟨hq, heq⟩
    · exact .inr hj
  constructor
  · intro q j hj
    simp only [Inventory.store] at hj ⊢
    split at hj
    · rename_i hq
      cases hj
      rw [if_pos hq]
      exact List.mem_cons_self
    · rename_i hq
      rw [if_neg hq]
      exact h.past hj
  · intro q j hj
    rcases hpast hj with ⟨-, rfl⟩ | hj
    · exact ⟨document, version, rfl⟩
    · exact h.versioned hj
  · intro q j k hj hk hversion
    rcases hpast hj with ⟨hq, rfl⟩ | hj
    · rcases hpast hk with ⟨-, rfl⟩ | hk
      · rfl
      · exact absurd hversion.symm (hnew k (hq ▸ hk))
    · rcases hpast hk with ⟨hq, rfl⟩ | hk
      · exact absurd hversion (hnew j (hq ▸ hj))
      · exact h.unique hj hk hversion

theorem Sound.remove {s : Inventory} (h : s.Sound) (place : Place) : (s.remove place).Sound where
  past := by
    intro q j hj
    simp only [Inventory.remove] at hj
    split at hj
    · cases hj
    · exact h.past hj
  versioned := h.versioned
  unique := h.unique

/-! ## What a call can do -/

theorem store?_eq_some {s after : Inventory} {place : Place} {document : Json} {version : String}
    (h : s.store? place document version = some after) :
    s.isFresh place version = true ∧ after = s.store place document version := by
  unfold store? at h
  split at h
  · rename_i hfresh
    exact ⟨hfresh, (Option.some.inj h).symm⟩
  · cases h

theorem perform?_create {s after : Inventory} {version ns : String} {a : Application}
    (h : s.perform? version (.createApplication ns a) = some after) :
    s.stored { ns, name := a.metadata.name.getD "" } = none
      ∧ s.isFresh { ns, name := a.metadata.name.getD "" } version = true
      ∧ after = s.store { ns, name := a.metadata.name.getD "" } a.toJson version := by
  unfold perform? at h
  dsimp only at h
  split at h
  · rename_i hnone
    exact ⟨Option.isNone_iff_eq_none.1 hnone, store?_eq_some h⟩
  · cases h

theorem perform?_merge {s after : Inventory} {version ns name : String} {change : Json}
    (h : s.perform? version (.mergeApplication ns name change) = some after) :
    ∃ document, s.stored { ns, name } = some document
      ∧ (change.version = .null ∨ change.version = document.version)
      ∧ s.isFresh { ns, name } version = true
      ∧ after = s.store { ns, name } (document.merge change) version := by
  simp only [perform?] at h
  split at h
  · cases h
  · rename_i document hstored
    refine ⟨document, hstored, ?_⟩
    by_cases hrefused : change.version ≠ .null ∧ change.version ≠ document.version
    · rw [Server.patched_merge_of_ne hrefused.1 hrefused.2] at h
      cases h
    · rw [Server.patched, if_neg hrefused] at h
      refine ⟨?_, store?_eq_some h⟩
      by_cases hnull : change.version = .null
      · exact .inl hnull
      · exact .inr (Classical.not_not.1 fun hne => hrefused ⟨hnull, hne⟩)

theorem perform?_delete {s after : Inventory} {version ns name : String}
    (h : s.perform? version (.deleteApplication ns name) = some after) :
    (s.stored { ns, name }).isSome = true ∧ after = s.remove { ns, name } := by
  simp only [perform?] at h
  split at h
  · rename_i hstored
    exact ⟨hstored, (Option.some.inj h).symm⟩
  · cases h

theorem perform?_other {s after : Inventory} {version : String} {c : Call}
    (hc : c.changesApplications = false) (h : s.perform? version c = some after) : after = s := by
  cases c with
  | createApplication ns a => cases hc
  | mergeApplication ns name change => cases hc
  | deleteApplication ns name => cases hc
  | _ => exact (Option.some.inj h).symm

/-- A call leaves the inventory alone, stores a document under a fresh version, or removes one. -/
theorem perform?_cases {s after : Inventory} {version : String} {c : Call}
    (h : s.perform? version c = some after) :
    after = s
      ∨ (∃ place document, s.isFresh place version = true
          ∧ after = s.store place document version)
      ∨ ∃ place, after = s.remove place := by
  cases c with
  | createApplication ns a =>
    obtain ⟨-, hstore⟩ := perform?_create h
    exact .inr (.inl ⟨_, _, hstore⟩)
  | mergeApplication ns name change =>
    obtain ⟨document, -, -, hstore⟩ := perform?_merge h
    exact .inr (.inl ⟨_, _, hstore⟩)
  | deleteApplication ns name =>
    obtain ⟨-, hremove⟩ := perform?_delete h
    exact .inr (.inr ⟨_, hremove⟩)
  | _ => exact .inl (Option.some.inj h).symm

theorem Sound.perform? {s after : Inventory} {version : String} {c : Call} (hs : s.Sound)
    (h : s.perform? version c = some after) : after.Sound := by
  obtain rfl | ⟨place, document, hfresh, rfl⟩ | ⟨place, rfl⟩ := perform?_cases h
  · exact hs
  · exact hs.store hfresh document
  · exact hs.remove place

section

variable {s after : Inventory} {c : Call} {fate : Fate} {result : Except ApiFailure Json}

theorem serve_other (hc : c.changesApplications = false)
    (h : s.serve c fate = some (result, after)) : after = s := by
  obtain ⟨_, -, -, rfl⟩ | ⟨-, version, hperform⟩ := Handler.refused_or_performed h
  · rfl
  · exact perform?_other hc hperform

theorem Sound.serve (hs : s.Sound) (h : s.serve c fate = some (result, after)) :
    after.Sound := by
  obtain ⟨_, -, -, rfl⟩ | ⟨-, version, hperform⟩ := Handler.refused_or_performed h
  · exact hs
  · exact hs.perform? hperform

/-- An application that is read is stored, and its document can be read. -/
theorem serve_read {ns name : String} {j : Json}
    (h : s.serve (.readApplication ns name) fate = some (.ok j, after)) :
    after = s ∧ s.stored { ns, name } = some j ∧ (Application.shape.check j).isOk = true := by
  rw [serve, Handler.plain] at h
  obtain ⟨given, version, next, k, -, hk, hperform, hanswer, rfl⟩ | ⟨f, -, hf, -⟩
    | ⟨f, version, -, hf, -⟩ := Handler.performing_cases h
  · cases hk
    obtain rfl := perform?_other rfl hperform
    obtain ⟨hstored, hcheck⟩ := Option.filter_eq_some_iff.1 hanswer
    exact ⟨rfl, hstored, hcheck⟩
  · cases hf
  · cases hf

end

/-! ## What was ever stored -/

/-- Everything that was ever stored still was. -/
def Grows (s after : Inventory) : Prop :=
  ∀ place j, j ∈ s.past place → j ∈ after.past place

theorem grows_refl (s : Inventory) : s.Grows s :=
  fun _ _ h => h

theorem grows_store (s : Inventory) (place : Place) (document : Json) (version : String) :
    s.Grows (s.store place document version) := by
  intro q j hj
  simp only [store]
  split
  · exact List.mem_cons_of_mem _ hj
  · exact hj

theorem grows_remove (s : Inventory) (place : Place) : s.Grows (s.remove place) :=
  fun _ _ h => h

theorem grows_perform? {s after : Inventory} {version : String} {c : Call}
    (h : s.perform? version c = some after) : s.Grows after := by
  obtain rfl | ⟨place, document, -, rfl⟩ | ⟨place, rfl⟩ := perform?_cases h
  · exact grows_refl _
  · exact s.grows_store place document version
  · exact s.grows_remove place

theorem grows_serve {s after : Inventory} {c : Call} {fate : Fate}
    {result : Except ApiFailure Json} (h : s.serve c fate = some (result, after)) :
    s.Grows after := by
  obtain ⟨_, -, -, rfl⟩ | ⟨-, version, hperform⟩ := Handler.refused_or_performed h
  · exact grows_refl _
  · exact grows_perform? hperform

end Inventory

end PatternSync
