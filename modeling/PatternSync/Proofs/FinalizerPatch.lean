import PatternSync.Proofs.ReadBack
import PatternSync.Reconcile.Finalizer

/-!
# What a patch of the finalizers leaves alone

The operator puts its finalizer on a pattern and takes it off by JSON patches whose pointers all
lead below `/metadata/finalizers`. Main statement: such a patch changes nothing of the stored
pattern but its finalizers (`Pattern.ofJson_finalizerPatch`).

The induction is on the operations of the patch; each leaves every member but `metadata` alone, and
of that every member but `finalizers` (`BesideFinalizers`).
-/

namespace PatternSync

open Json Wire

/-! ## Pointers -/

namespace Pointer

/-- What stands before a slash is a piece of its own. -/
theorem pieces_append_slash {first : List Char} (h : '/' ∉ first) (rest : List Char) :
    pieces (first ++ '/' :: rest) = first :: pieces rest := by
  have hsome : ∀ s, ∃ piece more, pieces s = piece :: more := by
    intro s
    cases s with
    | nil => exact ⟨_, _, rfl⟩
    | cons c s =>
      unfold pieces
      split
      · exact ⟨_, _, rfl⟩
      · split <;> exact ⟨_, _, rfl⟩
  induction first with
  | nil =>
    obtain ⟨piece, more, hpieces⟩ := hsome rest
    simp only [List.nil_append, pieces, hpieces, if_true]
  | cons c first ih =>
    have hc : c ≠ '/' := fun heq => h (heq ▸ List.mem_cons_self)
    have hfirst : '/' ∉ first := fun hmem => h (List.mem_cons_of_mem _ hmem)
    simp only [List.cons_append, pieces, ih hfirst, if_neg hc]

theorem pieces_of_not_mem {cs : List Char} (h : '/' ∉ cs) : pieces cs = [cs] := by
  induction cs with
  | nil => rfl
  | cons c cs ih =>
    have hc : c ≠ '/' := fun heq => h (heq ▸ List.mem_cons_self)
    simp only [pieces, ih fun hmem => h (List.mem_cons_of_mem _ hmem), if_neg hc]

theorem unescape_of_not_mem {cs : List Char} (h : '~' ∉ cs) : unescape cs = cs := by
  induction cs with
  | nil => rfl
  | cons c cs ih =>
    have hc : c ≠ '~' := fun heq => h (heq ▸ List.mem_cons_self)
    have hrest := ih fun hmem => h (List.mem_cons_of_mem _ hmem)
    unfold unescape
    split
    · rename_i heq
      cases heq
      exact absurd rfl hc
    · rename_i heq
      cases heq
      exact absurd rfl hc
    · rename_i heq
      cases heq
      rw [hrest]
    · rename_i heq
      cases heq

theorem ofText?_of_slash {s : String} {rest : List Char} (h : s.toList = '/' :: rest) :
    ofText? s = some ((pieces rest).map fun p => String.ofList (unescape p)) := by
  rw [ofText?, h]
  rfl

/-- The pointer to a finalizer. -/
theorem ofText?_finalizer (n : Nat) :
    ofText? ("/metadata/finalizers/" ++ toString n)
      = some ["metadata", "finalizers", toString n] := by
  have htext : ("/metadata/finalizers/" ++ toString n).toList
      = '/' :: ("metadata".toList ++ '/' :: ("finalizers".toList
        ++ '/' :: (toString n).toList)) := by
    rw [String.toList_append]
    rfl
  have hdigit : ∀ c ∈ (toString n).toList, c.isDigit = true := by
    rw [Nat.toString_eq_ofList_toDigits, String.toList_ofList]
    exact fun c hc => Nat.isDigit_of_mem_toDigits (by decide) (by decide) hc
  have hslash : '/' ∉ (toString n).toList := fun hmem => by cases hdigit _ hmem
  have htilde : '~' ∉ (toString n).toList := fun hmem => by cases hdigit _ hmem
  rw [ofText?_of_slash htext, pieces_append_slash (by decide), pieces_append_slash (by decide),
    pieces_of_not_mem hslash, List.map_cons, List.map_cons, List.map_singleton,
    unescape_of_not_mem htilde, String.ofList_toList]
  rfl

end Pointer

namespace PatchOp

/-- The operation is about the finalizers, as a whole or one by one. -/
def OnFinalizers (op : PatchOp) : Prop :=
  ∃ more, Pointer.ofText? op.path = some ("metadata" :: "finalizers" :: more)

end PatchOp

namespace Pattern

theorem onFinalizers_addFinalizer (p : Pattern) : ∀ op ∈ p.addFinalizer, op.OnFinalizers := by
  have hwhole : Pointer.ofText? "/metadata/finalizers" = some ["metadata", "finalizers"] := by
    decide
  have hlast : Pointer.ofText? "/metadata/finalizers/-" = some ["metadata", "finalizers", "-"] := by
    decide
  intro op hop
  unfold addFinalizer at hop
  dsimp only at hop
  split at hop
  · rcases List.mem_cons.1 hop with rfl | hop
    · exact ⟨[], hwhole⟩
    · exact List.mem_singleton.1 hop ▸ ⟨[], hwhole⟩
  · rcases List.mem_cons.1 hop with rfl | hop
    · exact ⟨[], hwhole⟩
    · exact List.mem_singleton.1 hop ▸ ⟨["-"], hlast⟩

theorem onFinalizers_removeFinalizer (index : Nat) :
    ∀ op ∈ removeFinalizer index, op.OnFinalizers := by
  intro op hop
  rcases List.mem_cons.1 hop with rfl | hop
  · exact ⟨_, Pointer.ofText?_finalizer index⟩
  · exact List.mem_singleton.1 hop ▸ ⟨_, Pointer.ofText?_finalizer index⟩

end Pattern

/-! ## Changes below a member -/

namespace Json

def DifferAt (key : String) (before after : Json) : Prop :=
  ∃ earlier later, before = .obj earlier ∧ after = .obj later
    ∧ ∀ other, other ≠ key → Keyed.get? later other = Keyed.get? earlier other

section

variable {key : String}

theorem differAt_put (members : Keyed Json) (value : Json) :
    DifferAt key (.obj members) (.obj (Keyed.put key value members)) :=
  ⟨_, _, rfl, rfl, fun _ hother => Keyed.get?_put_of_ne hother _ _⟩

variable (hindex : Pointer.index? key = none)

include hindex

/-- A key that is no index names nothing in a list. -/
theorem object_of_child? {j part : Json} (h : j.child? key = some part) :
    ∃ members, j = .obj members := by
  cases j with
  | obj members => exact ⟨members, rfl⟩
  | arr items =>
    rw [child?, hindex] at h
    cases h
  | _ => cases h

theorem differAt_addChild? {j value after : Json} (hkey : key ≠ "-")
    (h : j.addChild? key value = some after) : DifferAt key j after := by
  cases j with
  | obj members => exact Option.some.inj h ▸ differAt_put members value
  | arr items =>
    rw [addChild?, if_neg hkey, hindex] at h
    cases h
  | _ => cases h

theorem differAt_removeChild? {j after : Json} (h : j.removeChild? key = some after) :
    DifferAt key j after := by
  cases j with
  | obj members =>
    simp only [removeChild?] at h
    split at h
    · cases h
      exact ⟨_, _, rfl, rfl, fun _ hother => Keyed.get?_erase_of_ne hother _⟩
    · cases h
  | arr items =>
    rw [removeChild?, hindex] at h
    cases h
  | _ => cases h

/-- A change below a key leaves the other members alone. -/
theorem differAt_changeAround? {change : Json → String → Option Json} {j after : Json}
    {more : Pointer} (hchange : ∀ {j after}, change j key = some after → DifferAt key j after)
    (h : j.changeAround? change (key :: more) = some after) : DifferAt key j after := by
  cases more with
  | nil => exact hchange h
  | cons token more =>
    obtain ⟨part, hpart, hrest⟩ := Option.bind_eq_some_iff.1 h
    obtain ⟨changed, -, rfl⟩ := Option.map_eq_some_iff.1 hrest
    obtain ⟨members, rfl⟩ := object_of_child? hindex hpart
    exact differAt_put members changed

end

end Json

/-! ## The patch -/

structure BesideFinalizers (before after : Keyed Json) : Prop where
  member : ∀ {key}, key ≠ "metadata" → Keyed.get? after key = Keyed.get? before key
  metadata : ∀ {key}, key ≠ "finalizers" →
    Metadata.shape.field? (orNull (Keyed.get? after "metadata")) key
      = Metadata.shape.field? (orNull (Keyed.get? before "metadata")) key

theorem besideFinalizers_refl (members : Keyed Json) : BesideFinalizers members members :=
  ⟨fun _ => rfl, fun _ => rfl⟩

theorem BesideFinalizers.trans {a b c : Keyed Json} (h : BesideFinalizers a b)
    (h' : BesideFinalizers b c) : BesideFinalizers a c where
  member hkey := (h'.member hkey).trans (h.member hkey)
  metadata hkey := (h'.metadata hkey).trans (h.metadata hkey)

namespace PatchOp

/-- An addition or a removal below the finalizers leaves the rest alone. -/
theorem besideFinalizers_changeAround? {change : Json → String → Option Json}
    {members : Keyed Json} {j : Json} {more : Pointer}
    (hchange : ∀ {j after}, change j "finalizers" = some after → DifferAt "finalizers" j after)
    (h : (Json.obj members).changeAround? change ("metadata" :: "finalizers" :: more) = some j) :
    ∃ after, j = .obj after ∧ BesideFinalizers members after := by
  obtain ⟨part, hpart, hrest⟩ := Option.bind_eq_some_iff.1 h
  obtain ⟨changed, hchanged, rfl⟩ := Option.map_eq_some_iff.1 hrest
  obtain ⟨earlier, later, rfl, rfl, hlater⟩ :=
    differAt_changeAround? (by decide) hchange hchanged
  have hbefore : Keyed.get? members "metadata" = some (.obj earlier) := hpart
  refine ⟨_, rfl, fun hkey => Keyed.get?_put_of_ne hkey _ _, fun hkey => ?_⟩
  rw [Keyed.get?_put_self, hbefore]
  exact hlater _ hkey

theorem OnFinalizers.applied? {op : PatchOp} (hop : op.OnFinalizers) {members : Keyed Json}
    {j : Json} (h : op.applied? (.obj members) = some j) :
    ∃ after, j = .obj after ∧ BesideFinalizers members after := by
  obtain ⟨more, hpath⟩ := hop
  have hindex : Pointer.index? "finalizers" = none := by decide
  rw [PatchOp.applied?, hpath, Option.bind_some] at h
  cases op with
  | test path value =>
    dsimp only at h
    split at h
    · cases h
      exact ⟨members, rfl, besideFinalizers_refl members⟩
    · cases h
  | add path value =>
    dsimp only at h
    rw [if_neg (List.cons_ne_nil _ _)] at h
    exact besideFinalizers_changeAround? (differAt_addChild? hindex (by decide)) h
  | remove path => exact besideFinalizers_changeAround? (differAt_removeChild? hindex) h

theorem besideFinalizers_applyAll {ops : List PatchOp} (hops : ∀ op ∈ ops, op.OnFinalizers)
    {members : Keyed Json} {j : Json} (h : applyAll (.obj members) ops = .ok j) :
    ∃ after, j = .obj after ∧ BesideFinalizers members after := by
  induction ops generalizing members with
  | nil =>
    cases h
    exact ⟨members, rfl, besideFinalizers_refl members⟩
  | cons op ops ih =>
    unfold applyAll at h
    split at h
    · rename_i first hfirst
      obtain ⟨mid, rfl, hmid⟩ := (hops op List.mem_cons_self).applied? hfirst
      obtain ⟨after, rfl, hafter⟩ := ih (fun op hop => hops op (List.mem_cons_of_mem _ hop)) h
      exact ⟨after, rfl, hmid.trans hafter⟩
    · cases h

end PatchOp

namespace Pattern

/-- A patch of the finalizers changes nothing else of a stored pattern. -/
theorem ofJson_finalizerPatch {ops : List PatchOp} (hops : ∀ op ∈ ops, op.OnFinalizers)
    {members : Keyed Json} {j : Json} (h : PatchOp.applyAll (.obj members) ops = .ok j) :
    ∃ finalizers, ofJson j = { ofJson (.obj members) with
      metadata := { (ofJson (.obj members)).metadata with finalizers } } := by
  obtain ⟨after, rfl, hbeside⟩ := PatchOp.besideFinalizers_applyAll hops h
  have hspec : shape.field? (.obj after) "spec" = shape.field? (.obj members) "spec" :=
    hbeside.member (by decide)
  have hstatus : shape.field? (.obj after) "status" = shape.field? (.obj members) "status" :=
    hbeside.member (by decide)
  have hmetadata : ∀ {key : String}, key ≠ "finalizers" →
      Metadata.shape.field? (orNull (shape.field? (.obj after) "metadata")) key
        = Metadata.shape.field? (orNull (shape.field? (.obj members) "metadata")) key :=
    hbeside.metadata
  refine ⟨(ofJson (.obj after)).metadata.finalizers, ?_⟩
  rw [ofJson, ofJson, hspec, hstatus]
  simp only [Metadata.ofJson, hmetadata (by decide : "name" ≠ "finalizers"),
    hmetadata (by decide : "generateName" ≠ "finalizers"),
    hmetadata (by decide : "namespace" ≠ "finalizers"),
    hmetadata (by decide : "labels" ≠ "finalizers"),
    hmetadata (by decide : "annotations" ≠ "finalizers"),
    hmetadata (by decide : "resourceVersion" ≠ "finalizers"),
    hmetadata (by decide : "uid" ≠ "finalizers"),
    hmetadata (by decide : "selfLink" ≠ "finalizers"),
    hmetadata (by decide : "generation" ≠ "finalizers"),
    hmetadata (by decide : "creationTimestamp" ≠ "finalizers"),
    hmetadata (by decide : "deletionTimestamp" ≠ "finalizers"),
    hmetadata (by decide : "deletionGracePeriodSeconds" ≠ "finalizers")]

end Pattern

end PatternSync
