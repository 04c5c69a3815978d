import PatternSync.Proofs.Bookkeeping
import PatternSync.Proofs.InLine
import PatternSync.Proofs.Lists
import PatternSync.Proofs.MergePatch

/-!
# Passes among other writers

A world in which any number of passes are under way while others create, change and delete
applications. A move is one step of one pass or one write of somebody else, so that the runs of the
world are all interleavings. Main statement: a patch that the server applies was computed from the
very document that it is applied to, and a pass whose write is refused changes no application,
claims no write and fails (`no_lost_update`).

The induction is on the moves. What it carries: what a pass has read was stored at that time, and
a version that was ever used belongs to one document (`World.Sound`).
-/

namespace PatternSync

open Json Pass

/-! ## Worlds -/

/-- Something that a pass did: a call with its fate, what came of it, and the inventory before and
after it, or a note. -/
inductive Deed where
  | asked (c : Call) (fate : Fate) (result : Except ApiFailure Json) (before after : Inventory)
  | noted (n : Note)

def Deed.step : Deed → Step
  | asked c _ result _ _ => .called c result
  | noted n => .noted n

/-- A pass that is under way: its deeds so far, and the rest of it. -/
structure Flight where
  pattern : Pattern
  around : Surroundings
  deeds : List Deed
  rest : Pass (Except Failure Requeue)

namespace Flight

def start (p : Pattern) (around : Surroundings) : Flight where
  pattern := p
  around
  deeds := []
  rest := p.reconcile around

/-- The pass after its next step, in which a call meets the fate; nothing if it has ended or the
fate is impossible. -/
def go? (flight : Flight) (s : Inventory) (fate : Fate) : Option (Flight × Inventory) :=
  match flight.rest with
  | .done _ => none
  | .call c next =>
    (s.serve c fate).map fun (result, after) =>
      ({ flight with
          deeds := flight.deeds ++ [.asked c fate result s after]
          rest := next result }, after)
  | .note n next => some ({ flight with deeds := flight.deeds ++ [.noted n], rest := next }, s)

end Flight

/-- The stored applications, and the passes that are under way or have ended. -/
structure World where
  inventory : Inventory := {}
  flights : List Flight := []

/-- What can happen next. -/
inductive Move where
  /-- A pass over a pattern begins. -/
  | start (p : Pattern) (around : Surroundings)
  /-- A pass goes on. -/
  | go (index : Nat) (fate : Fate)
  /-- Somebody else creates or changes an application. -/
  | put (place : Place) (document : Json) (version : String)
  /-- Somebody else deletes an application. -/
  | remove (place : Place)

namespace World

/-- The world after a move, if the move is possible. -/
def step? (w : World) : Move → Option World
  | .start p around => some { w with flights := w.flights ++ [.start p around] }
  | .go index fate =>
    match w.flights[index]? with
    | none => none
    | some flight =>
      (flight.go? w.inventory fate).map fun (next, inventory) =>
        { inventory, flights := w.flights.set index next }
  | .put place document version =>
    (w.inventory.store? place document version).map fun inventory => { w with inventory }
  | .remove place => some { w with inventory := w.inventory.remove place }

def replay (w : World) : List Move → Option World
  | [] => some w
  | move :: moves => (w.step? move).bind fun next => replay next moves

end World

/-! ## What a pass in flight knows -/

/-- Everything that was read has been stored. -/
def Seen (deeds : List Deed) (s : Inventory) : Prop :=
  ∀ ns name fate j before after,
    .asked (.readApplication ns name) fate (.ok j) before after ∈ deeds → j ∈ s.past { ns, name }

theorem Seen.grows {deeds : List Deed} {s after : Inventory} (h : Seen deeds s)
    (hgrows : s.Grows after) : Seen deeds after :=
  fun ns name fate j before after hmem => hgrows _ _ (h ns name fate j before after hmem)

theorem Seen.of_step {deeds : List Deed} {s : Inventory} (h : Seen deeds s) {ns name : String}
    {j : Json} (hmem : .called (.readApplication ns name) (.ok j) ∈ deeds.map Deed.step) :
    j ∈ s.past { ns, name } := by
  obtain ⟨deed, hdeed, hstep⟩ := List.mem_map.1 hmem
  cases deed with
  | asked c fate result before after =>
    cases hstep
    exact h _ _ _ _ _ _ hdeed
  | noted n => cases hstep

namespace Flight

/-- What holds of a pass in flight: it follows a course, all it has read has been stored, and each
of its calls was served by an inventory that had stored what was read before. -/
structure Sound (flight : Flight) (s : Inventory) : Prop where
  follows : ∀ {more v}, Course flight.rest more v →
    Course (flight.pattern.reconcile flight.around) (flight.deeds.map Deed.step ++ more) v
  seen : Seen flight.deeds s
  timely : ∀ {earlier c fate result before after later},
    flight.deeds = earlier ++ .asked c fate result before after :: later →
      before.Sound ∧ Seen earlier before ∧ before.serve c fate = some (result, after)

theorem sound_start (p : Pattern) (around : Surroundings) (s : Inventory) :
    (start p around).Sound s where
  follows h := h
  seen _ _ _ _ _ _ hmem := absurd hmem List.not_mem_nil
  timely heq := absurd heq.symm (List.append_ne_nil_of_right_ne_nil _ (List.cons_ne_nil _ _))

theorem Sound.grows {flight : Flight} {s after : Inventory} (h : flight.Sound s)
    (hgrows : s.Grows after) : flight.Sound after where
  follows := h.follows
  seen := h.seen.grows hgrows
  timely := h.timely

/-- What holds of a pass in flight holds after one more deed, if that is the next step of the pass
and was done on what the pass had seen. -/
theorem Sound.proceed {flight : Flight} {s after : Inventory} (h : flight.Sound s) {deed : Deed}
    {cont : Pass (Except Failure Requeue)}
    (hnext : ∀ {more v}, Course cont more v → Course flight.rest (deed.step :: more) v)
    (hgrows : s.Grows after)
    (hread : ∀ ns name fate j before after', deed
      = .asked (.readApplication ns name) fate (.ok j) before after' → j ∈ s.past { ns, name })
    (hserved : ∀ c fate result before after', deed = .asked c fate result before after' →
      before.Sound ∧ Seen flight.deeds before ∧ before.serve c fate = some (result, after')) :
    Sound { flight with deeds := flight.deeds ++ [deed], rest := cont } after where
  follows := by
    intro more v hcourse
    rw [List.map_append, List.append_assoc]
    exact h.follows (hnext hcourse)
  seen := by
    intro ns name fate j before after' hmem
    rcases List.mem_append.1 hmem with hmem | hmem
    · exact hgrows _ _ (h.seen _ _ _ _ _ _ hmem)
    · exact hgrows _ _ (hread _ _ _ _ _ _ (List.mem_singleton.1 hmem).symm)
  timely := by
    intro earlier c fate result before after' later heq
    rcases concat_split heq with ⟨rfl, hdeed, -⟩ | ⟨rest, hdeeds, -⟩
    · exact hserved _ _ _ _ _ hdeed
    · exact h.timely hdeeds

/-- What holds of a pass in flight holds after its next step. -/
theorem Sound.go {flight next : Flight} {s after : Inventory} {fate : Fate}
    (h : flight.Sound s) (hs : s.Sound) (hgo : flight.go? s fate = some (next, after)) :
    next.Sound after ∧ after.Sound ∧ s.Grows after := by
  unfold go? at hgo
  split at hgo
  · cases hgo
  · rename_i c cont hrest
    obtain ⟨⟨result, mid⟩, hserve, heq⟩ := Option.map_eq_some_iff.1 hgo
    cases heq
    have hgrows := Inventory.grows_serve hserve
    refine ⟨h.proceed (fun hcourse => ?_) hgrows ?_ ?_, hs.serve hserve, hgrows⟩
    · rw [hrest]
      exact .call result hcourse
    · rintro ns name fate j before after' ⟨⟩
      obtain ⟨rfl, hstored, -⟩ := Inventory.serve_read hserve
      exact hs.past hstored
    · rintro d fate result before after' ⟨⟩
      exact ⟨hs, h.seen, hserve⟩
  · rename_i n cont hrest
    cases hgo
    refine ⟨h.proceed (fun hcourse => ?_) s.grows_refl ?_ ?_, hs, s.grows_refl⟩
    · rw [hrest]
      exact .note hcourse
    · rintro ns name fate j before after' ⟨⟩
    · rintro d fate result before after' ⟨⟩

end Flight

/-! ## What a world keeps -/

namespace World

/-- What holds in every world that moves lead to. -/
structure Sound (w : World) : Prop where
  inventory : w.inventory.Sound
  flights : ∀ flight ∈ w.flights, flight.Sound w.inventory

theorem sound_empty : Sound {} where
  inventory := Inventory.sound_empty
  flights _ h := absurd h List.not_mem_nil

theorem Sound.step? {w next : World} {move : Move} (h : w.Sound)
    (hstep : w.step? move = some next) : next.Sound := by
  cases move with
  | start p around =>
    cases hstep
    refine ⟨h.inventory, fun flight hflight => ?_⟩
    rcases List.mem_append.1 hflight with hflight | hflight
    · exact h.flights flight hflight
    · exact List.mem_singleton.1 hflight ▸ Flight.sound_start p around _
  | go index fate =>
    simp only [World.step?] at hstep
    split at hstep
    · cases hstep
    · rename_i flight hflight
      obtain ⟨⟨gone, inventory⟩, hgo, heq⟩ := Option.map_eq_some_iff.1 hstep
      cases heq
      obtain ⟨hgone, hinventory, hgrows⟩ :=
        (h.flights flight (List.mem_of_getElem? hflight)).go h.inventory hgo
      refine ⟨hinventory, fun other hother => ?_⟩
      rcases List.mem_or_eq_of_mem_set hother with hother | rfl
      · exact (h.flights other hother).grows hgrows
      · exact hgone
  | put place document version =>
    obtain ⟨inventory, hstore, heq⟩ := Option.map_eq_some_iff.1 hstep
    cases heq
    obtain ⟨hfresh, rfl⟩ := Inventory.store?_eq_some hstore
    exact ⟨h.inventory.store hfresh document, fun flight hflight =>
      (h.flights flight hflight).grows (w.inventory.grows_store place document version)⟩
  | remove place =>
    cases hstep
    exact ⟨h.inventory.remove place, fun flight hflight =>
      (h.flights flight hflight).grows (w.inventory.grows_remove place)⟩

theorem Sound.replay {w last : World} {moves : List Move} (h : w.Sound)
    (hreplay : w.replay moves = some last) : last.Sound := by
  induction moves generalizing w with
  | nil =>
    cases hreplay
    exact h
  | cons move moves ih =>
    obtain ⟨next, hstep, hrest⟩ := Option.bind_eq_some_iff.1 hreplay
    exact ih (h.step? hstep) hrest

end World

/-! ## Versions in patches -/

namespace Application

theorem metadata_update (goal live : Application) :
    (goal.update live).1.metadata = live.metadata := by
  rw [update_frame]

theorem version_writeBack (a : Application) :
    a.writeBack.version = orNull (a.metadata.resourceVersion.map .str) := by
  simp [writeBack, Json.version, Json.at?, Json.child?, Json.object, Keyed.ofList, Keyed.get?_put,
    orNull]

theorem resourceVersion_withVersion (j : Json) (version : String) :
    (ofJson (j.withVersion version)).metadata.resourceVersion = some version := by
  have hmetadata : shape.field? (j.withVersion version) "metadata"
      = some (.obj (Keyed.put "resourceVersion" (.str version)
          (orNull (j.member? "metadata")).members)) :=
    Keyed.get?_put_self _ _ _
  rw [ofJson, hmetadata]
  show Wire.optional Wire.text (Keyed.get? (Keyed.put "resourceVersion" _ _) _) = _
  rw [Keyed.get?_put_self]
  rfl

end Application

/-! ## Patches and refusals -/

namespace Flight

def count (flight : Flight) (m : Metrics) : Metrics :=
  flight.deeds.foldl
    (fun m deed =>
      match deed with
      | .asked .. => m
      | .noted n => n.count m)
    m

theorem count_of_unclaimed {flight : Flight}
    (h : ∀ pattern operation, .noted (.wrote pattern operation) ∉ flight.deeds.map Deed.step)
    (m : Metrics) : (flight.count m).writes = m.writes := by
  have hsteps : flight.count m = (flight.deeds.map Deed.step).foldl Step.count m := by
    rw [List.foldl_map, count]
    congr 1
    funext m deed
    cases deed <;> rfl
  rw [hsteps]
  exact writes_count h m

/-- Every patch that was applied had been computed from the document that it was applied to, as the
pass had read it. -/
def PatchesWhatItRead (flight : Flight) : Prop :=
  ∀ earlier ns name change fate result before after later,
    flight.deeds
        = earlier ++ .asked (.mergeApplication ns name change) fate result before after :: later →
    fate.isRefused = false →
    ∃ document, before.stored { ns, name } = some document
      ∧ .called (.readApplication ns name) (.ok document) ∈ earlier.map Deed.step
      ∧ ∃ status settings, change = ((({ flight.pattern with status := some status } : Pattern).goal
          settings).update (.ofJson document)).1.writeBack

/-- What a pass leaves behind that wrote nothing. -/
structure LeavesNoTrace (flight : Flight) : Prop where
  inventory : ∀ c fate result before after,
    .asked c fate result before after ∈ flight.deeds → after = before
  counted : ∀ m, (flight.count m).writes = m.writes
  recorded : ∀ ns name status result,
    .called (.recordStatus ns name status) result ∈ flight.deeds.map Deed.step →
      status.version = flight.pattern.observed.version
  failed : ∀ v, flight.rest = .done v → ∃ e, v = .error e

section

variable {flight : Flight} {s : Inventory}

/-- Every pass in flight is the beginning of a course. -/
theorem Sound.course (h : flight.Sound s) :
    ∃ more v, ReconcileCourse flight.pattern flight.around (flight.deeds.map Deed.step ++ more) v
      ∧ ∀ w, flight.rest = .done w → v = w := by
  obtain ⟨more, hmore⟩ := course_run {} flight.rest
  refine ⟨more, _, reconcileCourse_of_course (h.follows hmore), fun w hw => ?_⟩
  rw [hw] at hmore ⊢
  exact (course_done hmore).2

/-- Around a call of a pass that changes applications the pass does not change any, and the call is
one of those that a pass can change applications by. -/
theorem Sound.around_change (h : flight.Sound s) {earlier later : List Deed} {c : Call}
    {fate : Fate} {result : Except ApiFailure Json} {before after : Inventory}
    (heq : flight.deeds = earlier ++ .asked c fate result before after :: later)
    (hc : c.changesApplications = true) :
    Avoids Call.acts (earlier.map Deed.step)
      ∧ Avoids Call.changesApplications (later.map Deed.step)
      ∧ Change flight.pattern flight.around (earlier.map Deed.step) c := by
  obtain ⟨more, v, hcourse, -⟩ := h.course
  have hsteps : flight.deeds.map Deed.step ++ more = earlier.map Deed.step
      ++ .called c result :: (later.map Deed.step ++ more) := by
    rw [heq, List.map_append, List.append_assoc]
    rfl
  obtain ⟨hearlier, hlater, hchange⟩ := hcourse.oneChange.split hsteps hc
  exact ⟨hearlier, fun d result hmem => hlater d result (List.mem_append_left _ hmem), hchange⟩

theorem patchesWhatItRead (h : flight.Sound s) : flight.PatchesWhatItRead := by
  intro earlier ns name change fate result before after later heq hfate
  obtain ⟨hbefore, hseen, hserve⟩ := h.timely heq
  obtain ⟨_, rfl, -⟩ | ⟨-, version, hperform⟩ := Handler.refused_or_performed hserve
  · cases hfate
  obtain ⟨document, hdocument, hversion, -⟩ := Inventory.perform?_merge hperform
  obtain ⟨-, -, hchange⟩ := h.around_change heq rfl
  generalize hcall : Call.mergeApplication ns name change = call at hchange
  cases hchange with
  | delete hsettings hopening => cases hcall
  | @sync opening settings status _ hsettings hopening hsync =>
    cases hsync with
    | create => cases hcall
    | @merge j hread =>
      cases hcall
      have hpast : j ∈ before.past _ := hseen.of_step hread
      obtain ⟨k, v, rfl⟩ := hbefore.versioned hpast
      have hwritten : ((({ flight.pattern with status := some status } : Pattern).goal
          settings).update (.ofJson (k.withVersion v))).1.writeBack.version = .str v := by
        rw [Application.version_writeBack, Application.metadata_update,
          Application.resourceVersion_withVersion]
        rfl
      -- the server has compared the versions, and a version belongs to one document
      have hsame : document.version = (k.withVersion v).version := by
        rw [Inventory.version_withVersion, ← hwritten]
        refine (hversion.resolve_left ?_).symm
        rw [hwritten]
        exact Json.noConfusion
      obtain rfl := hbefore.unique (hbefore.past hdocument) hpast hsame
      exact ⟨_, hdocument, hread, status, settings, rfl⟩

theorem leavesNoTrace {c : Call} {f : ApiFailure} {result : Except ApiFailure Json}
    {before after : Inventory} (h : flight.Sound s)
    (hmem : .asked c (.refused f) result before after ∈ flight.deeds) (hc : c.isWrite = true) :
    flight.LeavesNoTrace := by
  obtain ⟨more, v, hcourse, hend⟩ := h.course
  obtain ⟨earlier, later, heq⟩ := List.append_of_mem hmem
  obtain ⟨-, -, hserve⟩ := h.timely heq
  obtain ⟨rfl, rfl⟩ : after = before ∧ result = .error f := by
    cases hserve
    exact ⟨rfl, rfl⟩
  obtain ⟨hearlier, hlater, -⟩ :=
    h.around_change heq (Call.changesApplications_of_isWrite hc)
  have hcalled : .called c (.error f) ∈ flight.deeds.map Deed.step ++ more :=
    List.mem_append_left _ (List.mem_map_of_mem hmem)
  obtain ⟨⟨e, rfl⟩, hunclaimed⟩ := hcourse.failed_of_write hcalled hc
  refine ⟨?_, ?_, ?_, fun w hw => ⟨e, (hend w hw).symm⟩⟩
  · intro d fate result before after hdeed
    cases hd : d.changesApplications with
    | false =>
      obtain ⟨_, _, hsplit⟩ := List.append_of_mem hdeed
      exact Inventory.serve_other hd (h.timely hsplit).2.2
    | true =>
      rw [heq] at hdeed
      rcases List.mem_append.1 hdeed with hdeed | hdeed
      · cases hd.symm.trans (Call.changesApplications_of_acts
          (hearlier d result (List.mem_map_of_mem hdeed)))
      · rcases List.mem_cons.1 hdeed with hsame | hdeed
        · cases hsame
          rfl
        · cases hd.symm.trans
            (hlater d result (List.mem_map_of_mem hdeed))
  · exact count_of_unclaimed fun pattern operation hwrote =>
      hunclaimed.counted pattern operation (List.mem_append_left _ hwrote)
  · intro ns name status result hrecord
    exact hunclaimed.recorded ns name status result (List.mem_append_left _ hrecord)

end

end Flight

/-! ## All interleavings -/

/-- However passes are interleaved with each other and with the writes of others: a patch that is
applied was computed from the document that it is applied to, and a pass whose write is refused
leaves no trace. -/
theorem no_lost_update {moves : List Move} {w : World}
    (hreplay : World.replay {} moves = some w) {flight : Flight} (hflight : flight ∈ w.flights) :
    flight.PatchesWhatItRead
      ∧ ∀ c f result before after, .asked c (.refused f) result before after ∈ flight.deeds →
        c.isWrite = true → flight.LeavesNoTrace := by
  have hsound := (World.sound_empty.replay hreplay).flights flight hflight
  exact ⟨Flight.patchesWhatItRead hsound, fun _ _ _ _ _ hmem hc =>
    Flight.leavesNoTrace hsound hmem hc⟩

def finalized : Pattern where
  metadata :=
    { name := some "mcg"
      namespaceName := some "default"
      finalizers := some [Pattern.finalizer] }
  spec :=
    { clusterGroupName := "hub"
      git := { targetRepo := "https://example.com/mcg", targetRevision := "main" } }

/-- The moves in which somebody else changes the application between the read and the write of a
pass, and the next pass succeeds. -/
def overtaken : List Move :=
  let place : Place := { ns := "openshift-gitops", name := "mcg-hub" }
  let document : Json := .obj
    [("spec", .object [("destination", .object []), ("project", .str "default")])]
  let around : Surroundings :=
    { operatorNamespace := "operators", now := .midnight (.newYear 2024) }
  let answered (version : String) : Fate := .served .null version
  let absent : Fate := .refused (.refusal { status := "", reason := "NotFound", code := 404 })
  let silent : Fate := .refused (.service "")
  let conflict : Fate := .refused (.refusal { status := "", reason := "Conflict", code := 409 })
  let opening := [silent, silent, absent, silent, silent, silent, answered "", silent]
  [.put place document "7", .start finalized around] ++ opening.map (.go 0)
    ++ [.put place document "8"] ++ [conflict, silent, silent, silent, silent].map (.go 0)
    ++ [.start finalized around] ++ opening.map (.go 1)
    ++ [answered "9", silent, answered "", silent].map (.go 1)

def Deed.isRefusedWrite : Deed → Bool
  | asked c (.refused _) _ _ _ => c.isWrite
  | _ => false

theorem no_lost_update_overtaken :
    ∃ w, World.replay {} overtaken = some w
      ∧ ∃ flight ∈ w.flights, (∃ deed ∈ flight.deeds, deed.isRefusedWrite = true)
        ∧ flight.PatchesWhatItRead ∧ flight.LeavesNoTrace := by
  have hruns : (World.replay {} overtaken).any (fun w =>
      w.flights.any fun flight => flight.deeds.any Deed.isRefusedWrite) = true := by
    decide
  obtain ⟨w, hreplay, hflights⟩ := (Option.any_eq_true _ _).1 hruns
  obtain ⟨flight, hflight, hdeeds⟩ := List.any_eq_true.1 hflights
  obtain ⟨deed, hdeed, hrefused⟩ := List.any_eq_true.1 hdeeds
  obtain ⟨hpatches, htraces⟩ := no_lost_update hreplay hflight
  refine ⟨w, hreplay, flight, hflight, ⟨deed, hdeed, hrefused⟩, hpatches, ?_⟩
  cases deed with
  | asked c fate result before after =>
    cases fate with
    | refused f => exact htraces c f result before after hdeed hrefused
    | served given version => cases hrefused
    | lost f version => cases hrefused
  | noted n => cases hrefused

end PatternSync
