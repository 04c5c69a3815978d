import PatternSync.Proofs.Settling

/-!
# Generated parameters

The parameters of the goal are the fixed ones, over which the user lays others. Whatever the user
adds, the fixed names come first and in their order, then the added ones in the order in which they
first appear, and none twice (`names_parameters`). Of several values for a name the last one counts,
and any value of the user counts more than the fixed one (`parameters_last_wins`).
-/

namespace PatternSync

namespace Pattern

open Parameter

/-- The names that only the user brings in, in the order in which they first appear. -/
def addedNames (p : Pattern) : List String :=
  ((p.spec.extraParameters.map (·.name)).filter (· ∉ fixedNames)).eraseDups

def lastAdded? (p : Pattern) (name : String) : Option ExtraParameter :=
  p.spec.extraParameters.findRev? fun e => e.name == name

theorem names_parameters (p : Pattern) (settings : Settings) :
    names (p.parameters settings) = fixedNames ++ p.addedNames := by
  have hadded : names (p.spec.extraParameters.map addedParameter)
      = p.spec.extraParameters.map (·.name) := List.map_map
  rw [parameters, names_foldl_upsert, names_fixedParameters, hadded, addedNames]

/-- Under a name stands what the user added last, or else the fixed parameter. -/
theorem firstNamed?_parameters (p : Pattern) (settings : Settings) (name : String) :
    firstNamed? (p.parameters settings) name
      = ((p.lastAdded? name).map addedParameter).or
        (firstNamed? (p.fixedParameters settings) name) := by
  have hadded : firstNamed? (p.spec.extraParameters.map addedParameter).reverse name
      = (p.lastAdded? name).map addedParameter := by
    rw [lastAdded?, List.findRev?_eq_find?_reverse, firstNamed?, ← List.map_reverse,
      List.find?_map]
    rfl
  rw [parameters, firstNamed?_foldl_upsert, hadded]

theorem forceString_fixedParameters (p : Pattern) (settings : Settings) :
    ∀ f ∈ p.fixedParameters settings, f.forceString = false := by
  simp [fixedParameters]

/-- The names of the generated parameters are distinct: the fixed ones in their order, then those
that the user brings in, in the order in which they first appear. The value is that of the last
parameter that the user adds under the name; where there is none, it is the one that the pattern,
the settings and the recorded facts give to the fixed name. None is forced to be a string. -/
theorem parameters_last_wins (p : Pattern) (settings : Settings) :
    let generated := p.parameters settings
    let fixed : List (String × String) :=
      [ ("global.pattern", p.displayName),
        ("global.namespace", settings.applicationNamespace),
        ("global.repoURL", p.spec.git.targetRepo),
        ("global.targetRevision", p.spec.git.targetRevision),
        ("global.hubClusterDomain", p.observed.appClusterDomain),
        ("global.localClusterDomain", p.observed.appClusterDomain),
        ("global.clusterDomain", p.observed.clusterDomain),
        ("global.clusterVersion", p.observed.clusterVersion),
        ("global.clusterPlatform", p.observed.clusterPlatform),
        ("global.localClusterName", p.observed.clusterName) ]
    (names generated).Nodup
      ∧ names generated = fixed.map Prod.fst ++ p.addedNames
      ∧ ∀ q ∈ generated, q.forceString = false
        ∧ match p.lastAdded? q.name with
          | some e => q.value = e.value
          | none => (q.name, q.value) ∈ fixed := by
  intro generated fixed
  have hpairs : fixed = (p.fixedParameters settings).map fun f => (f.name, f.value) := rfl
  have hnodup := p.nodup_parameters settings
  refine ⟨hnodup, p.names_parameters settings, fun q hq => ?_⟩
  have hfound := p.firstNamed?_parameters settings q.name
  rw [firstNamed?_of_mem hnodup hq] at hfound
  cases hlast : p.lastAdded? q.name with
  | some e =>
    rw [hlast] at hfound
    cases hfound
    exact ⟨rfl, rfl⟩
  | none =>
    rw [hlast, Option.map_none, Option.none_or] at hfound
    have hfixed : q ∈ p.fixedParameters settings := List.mem_of_find?_eq_some hfound.symm
    refine ⟨p.forceString_fixedParameters settings q hfixed, ?_⟩
    rw [hpairs]
    exact List.mem_map.2 ⟨q, hfixed, rfl⟩

/-- A pattern with recorded facts that adds one parameter twice and lays another over a fixed
one. -/
def addingHub : Pattern :=
  { hub with
    spec := { hub.spec with extraParameters :=
      [⟨"extra", "1"⟩, ⟨"global.targetRevision", "stable"⟩, ⟨"extra", "2"⟩] }
    status := some
      { clusterVersion := "4.14"
        clusterPlatform := "AWS"
        appClusterDomain := "apps.east.example.com"
        clusterDomain := "east.example.com"
        clusterName := "east" } }

theorem parameters_last_wins_adding :
    let generated := addingHub.parameters { applicationNamespace := "argo" }
    (names generated).Nodup
      ∧ (∀ q ∈ generated, q.forceString = false)
      ∧ generated.map (fun q => (q.name, q.value))
        = [ ("global.pattern", "mcg"), ("global.namespace", "argo"),
            ("global.repoURL", "https://example.com/mcg"), ("global.targetRevision", "stable"),
            ("global.hubClusterDomain", "apps.east.example.com"),
            ("global.localClusterDomain", "apps.east.example.com"),
            ("global.clusterDomain", "east.example.com"), ("global.clusterVersion", "4.14"),
            ("global.clusterPlatform", "AWS"), ("global.localClusterName", "east"),
            ("extra", "2") ] := by
  obtain ⟨hnodup, -, hvalues⟩ := parameters_last_wins addingHub { applicationNamespace := "argo" }
  exact ⟨hnodup, fun q hq => (hvalues q hq).1, by decide⟩

end Pattern

end PatternSync
