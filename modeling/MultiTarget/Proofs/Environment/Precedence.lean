import MultiTarget.Proofs.Environment
import MultiTarget.Proofs.ScopeChain
import MultiTarget.Proofs.Support.Entries

/-!
# `MultiTarget.Proofs.Environment.Precedence`: where the value of a variable comes from

An environment is put together by layers, each of which writes over the ones
before it, so a key that is an author's own may be the name of a group, a
property of several dependencies and a name that is reserved at the same
time. Here the value of a key is told without layers, by the first of six
sources that has one (`get?_ofModule`).

For each source one lemma says what its layer has under a key:

* `get?_groups`: the members that a group collects, in order. The invariant
  of the fold is that a list has the members so far (`get?_foldl_collect`).
* `get?_flattened`: the first dependency with the key.
* `get?_properties`, `lookup_deployment`, `get?_metadata`: the module itself.

Attributes and the records of groups are maps, and are told by look-ups too
(`get?_attributes`, `groupRecord_eq`).

An environment can also be written to one map in turn (`writeModule`). The
pass over the dependencies goes from the first one to the last, so the keys
that they set must be remembered for the first one to win, and the groups are
held back until the end, since their members are all over the list. That this
makes the two upper layers is `finish_foldl_addDependency`.
-/

set_option autoImplicit false

namespace MultiTarget

namespace Environment

open Outcome (bind_eq_ok pure_eq_ok)

variable {values : Placeholder.Values} {deployId : Option String} {descriptor : Descriptor}
  {m : Module} {services : List String} {env : Environment} {key : String}

/-! ### Sources of a value -/

/-- A group has the list of its members: for each dependency its record, as
often as it names the group. A dependency that names a group twice is in it
twice. -/
def fromGroups (m : Module) (key : String) : Option Json :=
  if ∃ dependency ∈ m.requires, key ∈ dependency.destinationGroups then
    some <| .arr <| m.requires.flatMap fun dependency =>
      List.replicate (dependency.destinationGroups.count key) (groupRecord dependency)
  else none

/-- A dependency without a group has its properties; the first one with the key
counts. One with a group adds nothing here, since its properties are in its
record. -/
def fromDependencies (m : Module) (key : String) : Option Json :=
  (m.requires.filter (·.destinationGroups.isEmpty)).findSome? (·.properties.get? key)

/-- The module has its properties, but for those named like attributes, which
are not taken over. -/
def fromProperties (m : Module) (key : String) : Option Json :=
  if key ∈ ParameterName.attributes then none else m.properties.get? key

/-- The identifier of the deployment, if the module asks for it in its own
parameters. The scope of the descriptor is not asked. -/
def identifier? (deployId : Option String) (m : Module) : Option String :=
  if (m.parameters.get? "check-deploy-id").bind Json.flag? = some true then deployId else none

/-- The identifier has a key of its own, and a property of the module with this
name hides it. -/
def fromIdentifier (deployId : Option String) (m : Module) (key : String) : Option Json :=
  if key = "DEPLOY_ID" then (identifier? deployId m).map .str else none

/-- The attributes of the module, if it has any. They stand under one key as a
map. -/
def fromAttributes (values : Placeholder.Values) (m : Module) (key : String) : Option Json :=
  if key = "DEPLOY_ATTRIBUTES" ∧
      ∃ name ∈ ParameterName.attributes, m.parameters.contains name = true then
    some (.ofMap (attributes values m))
  else none

/-- What the application and the module are, and the services. These keys are
always there, unless a source above takes them. -/
def fromMetadata (descriptor : Descriptor) (m : Module) (services : List String) (key : String) :
    Option Json :=
  Entries.lookup key (metadata descriptor m services)

/-! ### Groups -/

/-- The values that a list has under a key, in order and with repetitions. -/
def valuesUnder (key : String) (members : List (String × Json)) : List Json :=
  (members.filter fun e => e.1 = key).map (·.2)

/-- While members are collected, a list has those so far in order. A group
without members is no entry, so the two cases are told apart. -/
theorem get?_foldl_collect (members : List (String × Json)) (start : OrderedMap (List Json)) :
    (members.foldl (fun m e => m.insert e.1 ((m.get? e.1).getD [] ++ [e.2])) start).get? key
      = if valuesUnder key members = [] then start.get? key
        else some ((start.get? key).getD [] ++ valuesUnder key members) := by
  -- On the members, for all maps to start with. The first one is in the map when the rest is
  -- collected.
  induction members generalizing start with
  | nil => rfl
  | cons e rest ih =>
      obtain ⟨k, value⟩ := e
      rw [List.foldl_cons, ih, OrderedMap.get?_insert]
      by_cases hkey : key = k
      · subst hkey
        have hvalues : valuesUnder key ((key, value) :: rest) = value :: valuesUnder key rest := by
          simp [valuesUnder]
        rw [hvalues, if_pos rfl]
        by_cases hrest : valuesUnder key rest = [] <;> simp [hrest]
      · have hvalues : valuesUnder key ((k, value) :: rest) = valuesUnder key rest := by
          simp [valuesUnder, Ne.symm hkey]
        rw [hvalues, if_neg hkey]

/-- Members of a group are the records of the dependencies that name it, in the
order of the dependencies. -/
theorem valuesUnder_groupMembers (m : Module) (key : String) :
    valuesUnder key (groupMembers m) = m.requires.flatMap fun dependency =>
      List.replicate (dependency.destinationGroups.count key) (groupRecord dependency) := by
  unfold valuesUnder groupMembers
  rw [List.filter_flatMap, List.map_flatMap]
  refine congrArg (List.flatMap · m.requires) (funext fun dependency => ?_)
  rw [List.filter_map, List.map_map]
  show (dependency.destinationGroups.filter fun group => group = key).map
    (fun _ => groupRecord dependency) = _
  rw [List.map_const', List.count_eq_length_filter]
  rfl

/-- The last layer has the groups, and under any other key nothing. A group
without members is not there. -/
theorem get?_groups (m : Module) (key : String) : (groups m).get? key = fromGroups m key := by
  have hempty : (m.requires.flatMap fun dependency =>
      List.replicate (dependency.destinationGroups.count key) (groupRecord dependency)) = [] ↔
        ¬ ∃ dependency ∈ m.requires, key ∈ dependency.destinationGroups := by
    simp [List.flatMap_eq_nil_iff, List.replicate_eq_nil_iff, List.count_eq_zero]
  unfold groups collect fromGroups
  rw [OrderedMap.get?_map, get?_foldl_collect, valuesUnder_groupMembers]
  by_cases hgroup : ∃ dependency ∈ m.requires, key ∈ dependency.destinationGroups
  · rw [if_neg (mt hempty.1 (not_not_intro hgroup)), if_pos hgroup]
    rfl
  · rw [if_pos (hempty.2 hgroup), if_neg hgroup]
    rfl

/-- The record of a group has the name of its dependency, unless this is hidden
by a property. It is a map, so it is told by its look-ups. -/
theorem groupRecord_eq (dependency : RequiredDependency) :
    ∃ record, groupRecord dependency = .ofMap record ∧ ∀ key, record.get? key =
      (dependency.properties.get? key).or
        (if key = "name" then some (.str dependency.name) else none) := by
  refine ⟨_, rfl, fun key => ?_⟩
  rw [OrderedMap.get?_overlay, OrderedMap.get?_ofList_of_ascending (List.pairwise_singleton _ _)]
  rfl

/-! ### Dependencies and properties -/

/-- Of maps that are put one under the other the first with a key counts,
whatever the later ones have. -/
theorem get?_foldr_overlay (dependencies : List RequiredDependency) (key : String) :
    (dependencies.foldr (fun dependency later => OrderedMap.overlay later dependency.properties)
      ∅).get? key = dependencies.findSome? fun dependency => dependency.properties.get? key := by
  induction dependencies with
  | nil => rfl
  | cons dependency rest ih =>
      rw [List.foldr_cons, OrderedMap.get?_overlay, ih, List.findSome?_cons]
      cases dependency.properties.get? key <;> rfl

/-- The layer of dependencies has the value of the first one. The layer is
built from the last dependency on, so that earlier ones come on top. -/
theorem get?_flattened (m : Module) (key : String) :
    (flattened m).get? key = fromDependencies m key :=
  get?_foldr_overlay _ key

/-- The layer of the module has its properties, without those that are named
like attributes. -/
theorem get?_properties (m : Module) (key : String) :
    (properties m).get? key = fromProperties m key := by
  unfold properties fromProperties
  rw [OrderedMap.get?_filter fun key => !ParameterName.attributes.contains key]
  simp

/-! ### Attributes and the identifier -/

/-- A placeholder is replaced under the key that is asked for, and every other
entry stays. -/
theorem get?_resolveEntry (values : Placeholder.Values) (parameters : Parameters)
    (key name : String) : (resolveEntry values parameters key).get? name =
      if name = key then (parameters.get? name).map (resolveText values)
      else parameters.get? name := by
  unfold resolveEntry
  cases hvalue : parameters.get? key with
  | none => by_cases hname : name = key <;> simp [hname, hvalue]
  | some value =>
      rw [OrderedMap.get?_insert]
      by_cases hname : name = key <;> simp [hname, hvalue]

/-- The attributes are the parameters named so, with placeholders replaced in
the two that are addresses. Other attributes are taken over with their
placeholders. -/
theorem get?_attributes (values : Placeholder.Values) (m : Module) (name : String) :
    (attributes values m).get? name = if name ∈ ParameterName.attributes then
      (m.parameters.get? name).map
        (if name = "service-url" ∨ name = "service-broker-url" then resolveText values else id)
      else none := by
  unfold attributes
  rw [List.foldl_cons, List.foldl_cons, List.foldl_nil, get?_resolveEntry, get?_resolveEntry,
    OrderedMap.get?_filter fun key => ParameterName.attributes.contains key]
  by_cases hattribute : name ∈ ParameterName.attributes
  · -- A placeholder is replaced under each of two keys, which are not the same.
    simp only [List.contains_iff_mem, hattribute, if_true]
    by_cases hurl : name = "service-url"
    · simp [hurl]
    · by_cases hbroker : name = "service-broker-url" <;> simp [hurl, hbroker]
  · simp [hattribute]

/-- There are attributes exactly if a parameter is named like one. An entry
that is there with a null counts, for it is contained. -/
theorem isEmpty_attributes_iff (values : Placeholder.Values) (m : Module) :
    (attributes values m).isEmpty = true ↔
      ¬ ∃ name ∈ ParameterName.attributes, m.parameters.contains name = true := by
  rw [OrderedMap.isEmpty_iff]
  simp only [get?_attributes, OrderedMap.contains]
  constructor
  · rintro h ⟨name, hname, hparameter⟩
    have hnone := h name
    rw [if_pos hname, Option.map_eq_none_iff] at hnone
    rw [hnone] at hparameter
    cases hparameter
  · intro h name
    by_cases hname : name ∈ ParameterName.attributes
    · rw [if_pos hname, Option.map_eq_none_iff]
      exact Option.not_isSome_iff_eq_none.1 fun hparameter => h ⟨name, hname, hparameter⟩
    · rw [if_neg hname]

/-- The second layer can be made unless the switch for the identifier has a
value that is no flag. This is the only failure of an environment. -/
theorem deployment_eq_ok_iff {entries : List (String × Json)} :
    deployment values deployId m = .ok entries ↔
      (∀ value, m.parameters.get? "check-deploy-id" = some value →
          value = .null ∨ (Json.flag? value).isSome = true) ∧
        Json.mapEntry "DEPLOY_ATTRIBUTES" (attributes values m) ++
          Json.textEntry "DEPLOY_ID" (identifier? deployId m) = entries := by
  unfold deployment identifier?
  simp only [bind_eq_ok, pure_eq_ok, ScopeChain.flag_eq_ok_iff, ScopeChain.get?_oneScope]
  constructor
  · rintro ⟨checked, ⟨hflag, rfl⟩, rfl⟩
    refine ⟨hflag, ?_⟩
    cases (m.parameters.get? "check-deploy-id").bind Json.flag? <;> simp
  · rintro ⟨hflag, rfl⟩
    refine ⟨_, ⟨hflag, rfl⟩, ?_⟩
    cases (m.parameters.get? "check-deploy-id").bind Json.flag? <;> simp

/-- The entries of the second layer stand in ascending order, so that a look-up
in the map is one in the list. -/
theorem ascending_deployment {entries : List (String × Json)}
    (h : deployment values deployId m = .ok entries) : Ascending entries := by
  obtain ⟨-, rfl⟩ := deployment_eq_ok_iff.1 h
  have hwithin := (Record.within_mapEntry "DEPLOY_ATTRIBUTES" (attributes values m)).append
    (Record.within_textEntry "DEPLOY_ID" (identifier? deployId m))
  exact hwithin.ascending (by decide)

/-- The second layer has the identifier and the attributes, each under its own
key. -/
theorem lookup_deployment {entries : List (String × Json)}
    (h : deployment values deployId m = .ok entries) (key : String) :
    Entries.lookup key entries
      = (fromIdentifier deployId m key).or (fromAttributes values m key) := by
  have hattributes : (if key = "DEPLOY_ATTRIBUTES" then Json.mapped? (attributes values m)
      else none) = fromAttributes values m key := by
    unfold fromAttributes Json.mapped?
    by_cases hattribute : ∃ name ∈ ParameterName.attributes, m.parameters.contains name = true
    · simp only [isEmpty_attributes_iff, hattribute, not_true_eq_false, if_false, and_true]
    · simp only [isEmpty_attributes_iff, hattribute, not_false_eq_true, if_true, and_false,
        if_false, ite_self]
  -- The two entries have different keys, so it does not matter which one is asked first.
  have hkeys : fromIdentifier deployId m key = none ∨ fromAttributes values m key = none := by
    unfold fromIdentifier fromAttributes
    by_cases hkey : key = "DEPLOY_ID"
    · exact .inr (if_neg fun h => by simp [hkey] at h)
    · exact .inl (if_neg hkey)
  obtain ⟨-, rfl⟩ := deployment_eq_ok_iff.1 h
  rw [Entries.lookup_append, Entries.lookup_mapEntry, Entries.lookup_textEntry, hattributes]
  show (fromAttributes values m key).or (fromIdentifier deployId m key) = _
  rcases hkeys with hnone | hnone <;> simp [hnone]

/-- The first layer has its entries, which ascend by their keys. -/
theorem get?_metadata (descriptor : Descriptor) (m : Module) (services : List String)
    (key : String) : (OrderedMap.ofList (metadata descriptor m services)).get? key
      = fromMetadata descriptor m services key := by
  have hkeys : ((metadata descriptor m services).map (·.1)).Pairwise (· < ·) := by
    show ["MTA_METADATA", "MTA_MODULE_METADATA", "MTA_MODULE_PROVIDED_DEPENDENCIES",
      "MTA_SERVICES"].Pairwise (· < ·)
    decide
  exact OrderedMap.get?_ofList_of_ascending (List.pairwise_map.1 hkeys) key

/-! ### One pass over the dependencies -/

/-- An environment while the dependencies of a module are written to it. One
map does not tell which of its entries come from a dependency, so their keys
are kept besides. -/
structure Writing where
  env : Environment
  /-- The keys that a dependency has set, which stay as they are. -/
  taken : List String
  /-- The groups so far, which are written when all dependencies are. -/
  groups : OrderedMap (List Json)

namespace Writing

/-- Set a key unless it is taken. A property of the module is written over, as
it was not set by a dependency. -/
def setProperty (w : Writing) (e : String × Json) : Writing :=
  if e.1 ∈ w.taken then w
  else { w with env := w.env.insert e.1 e.2, taken := e.1 :: w.taken }

/-- Put a value into a group, behind those that it has. A group that is not
there yet begins with it. -/
def pushTo (groups : OrderedMap (List Json)) (member : String × Json) :
    OrderedMap (List Json) :=
  groups.insert member.1 ((groups.get? member.1).getD [] ++ [member.2])

/-- Write the properties of a dependency, or put its record into its groups. -/
def addDependency (w : Writing) (dependency : RequiredDependency) : Writing :=
  if dependency.destinationGroups.isEmpty then dependency.properties.entries.foldl setProperty w
  else
    let members := dependency.destinationGroups.map fun group => (group, groupRecord dependency)
    { w with groups := members.foldl pushTo w.groups }

/-- What has been written, with the groups. They come last, since they hide
everything else. -/
def finish (w : Writing) : Environment := w.env.overlay (w.groups.map .arr)

/-- Setting a property leaves the groups alone, so the two parts of the pass
can be told apart. -/
theorem groups_foldl_setProperty (entries : List (String × Json)) (w : Writing) :
    (entries.foldl setProperty w).groups = w.groups := by
  induction entries generalizing w with
  | nil => rfl
  | cons e rest ih =>
      rw [List.foldl_cons, ih]
      unfold setProperty
      split <;> rfl

/-- A taken key keeps its value; any other key is set to the first value that
it has. Both the value and what is taken are told, as the next dependency needs
the second. -/
theorem foldl_setProperty (entries : List (String × Json)) (w : Writing) (key : String) :
    (entries.foldl setProperty w).env.get? key = (if key ∈ w.taken then w.env.get? key
        else (Entries.lookup key entries).or (w.env.get? key)) ∧
      (key ∈ (entries.foldl setProperty w).taken ↔
        key ∈ w.taken ∨ (Entries.lookup key entries).isSome = true) := by
  induction entries generalizing w with
  | nil => simp [Entries.lookup]
  | cons e rest ih =>
      obtain ⟨k, value⟩ := e
      rw [List.foldl_cons, (ih _).1, (ih _).2]
      unfold setProperty
      -- The first entry is passed over or set. After it, its own key is taken in both cases.
      by_cases htaken : k ∈ w.taken
      · rw [if_pos htaken]
        by_cases hkey : key = k
        · subst hkey
          simp [htaken]
        · simp [Entries.lookup, hkey]
      · rw [if_neg htaken]
        by_cases hkey : key = k
        · subst hkey
          simp [Entries.lookup, htaken, OrderedMap.get?_insert]
        · simp [Entries.lookup, hkey, OrderedMap.get?_insert]

/-- A dependency extends the groups by its members; one without a group has
none, so one equation serves both. -/
theorem groups_addDependency (w : Writing) (dependency : RequiredDependency) :
    (w.addDependency dependency).groups = (dependency.destinationGroups.map fun group =>
      (group, groupRecord dependency)).foldl pushTo w.groups := by
  unfold addDependency
  by_cases hgroups : dependency.destinationGroups.isEmpty = true
  · rw [if_pos hgroups, groups_foldl_setProperty, List.isEmpty_iff.1 hgroups]
    rfl
  · rw [if_neg hgroups]

/-- After all dependencies the groups are those of the layer, which collects
the members of all of them at once. -/
theorem groups_foldl_addDependency (dependencies : List RequiredDependency) (w : Writing) :
    (dependencies.foldl addDependency w).groups = (dependencies.flatMap fun dependency =>
      dependency.destinationGroups.map fun group =>
        (group, groupRecord dependency)).foldl pushTo w.groups := by
  induction dependencies generalizing w with
  | nil => rfl
  | cons dependency rest ih =>
      rw [List.foldl_cons, ih, groups_addDependency, List.flatMap_cons, List.foldl_append]

/-- After all dependencies a key that was not taken has the value of the first
dependency without a group. -/
theorem env_foldl_addDependency (dependencies : List RequiredDependency) (w : Writing)
    (key : String) : (dependencies.foldl addDependency w).env.get? key =
      if key ∈ w.taken then w.env.get? key
      else ((dependencies.filter (·.destinationGroups.isEmpty)).findSome?
        (·.properties.get? key)).or (w.env.get? key) := by
  -- The invariant is the last lemma for one dependency: what is taken stays, and the rest is still
  -- open.
  induction dependencies generalizing w with
  | nil => simp
  | cons dependency rest ih =>
      rw [List.foldl_cons, ih, List.filter_cons]
      unfold addDependency
      by_cases hgroups : dependency.destinationGroups.isEmpty = true
      · -- What this dependency sets is taken when the others are asked.
        obtain ⟨henv, htaken⟩ := foldl_setProperty dependency.properties.entries w key
        have hvalue : Entries.lookup key dependency.properties.entries
          = dependency.properties.get? key := rfl
        rw [if_pos hgroups, if_pos hgroups, List.findSome?_cons]
        simp only [htaken, henv, hvalue]
        by_cases hkey : key ∈ w.taken
        · simp only [hkey, true_or, if_true]
        · cases dependency.properties.get? key <;> simp [hkey]
      · rw [if_neg hgroups, if_neg hgroups]

end Writing

/-- One pass over the dependencies, in which the first to set a key keeps it
and the groups are collected to be written last, makes the two upper layers. -/
theorem finish_foldl_addDependency (m : Module) (env : Environment) :
    (m.requires.foldl Writing.addDependency ⟨env, [], ∅⟩).finish
      = (env.overlay (flattened m)).overlay (groups m) := by
  refine OrderedMap.ext_get? fun key => ?_
  unfold Writing.finish
  rw [Writing.groups_foldl_addDependency, OrderedMap.get?_overlay, OrderedMap.get?_overlay,
    OrderedMap.get?_overlay, Writing.env_foldl_addDependency, get?_flattened]
  rfl

/-- The environment of a module, written to one map in turn: first the layers
below, then the dependencies. -/
def writeModule (values : Placeholder.Values) (deployId : Option String) (descriptor : Descriptor)
    (m : Module) (services : List String) : Except ContentError Environment := do
  let deployment ← deployment values deployId m
  let env := ((OrderedMap.ofList (metadata descriptor m services)).insertAll deployment).insertAll
    (properties m).entries
  return (m.requires.foldl Writing.addDependency ⟨env, [], ∅⟩).finish

/-- What is written in turn are the layers, one over the other, with the same
errors. -/
theorem writeModule_eq (values : Placeholder.Values) (deployId : Option String)
    (descriptor : Descriptor) (m : Module) (services : List String) :
    writeModule values deployId descriptor m services
      = ofModule values deployId descriptor m services := by
  unfold writeModule ofModule
  simp only [finish_foldl_addDependency]
  rfl

/-! ### All sources -/

/-- **Where the value of a variable comes from.** An environment can be made
unless the switch for the identifier of the deployment has a value that is no
flag. A key then has the value of the first source that has one: the groups of
that name, the first dependency without a group, the properties of the module,
the identifier, the attributes, and last what the application and the module
are and the services. A key that no source has is not set.

What stands in the attributes and in the record of a dependency is told by
look-ups as well. The environment is the same if it is written to one map in
turn. -/
theorem get?_ofModule (values : Placeholder.Values) (deployId : Option String)
    (descriptor : Descriptor) (m : Module) (services : List String) :
    ((∃ env, ofModule values deployId descriptor m services = .ok env) ↔
      ∀ value, m.parameters.get? "check-deploy-id" = some value →
        value = .null ∨ (Json.flag? value).isSome = true) ∧
    (∀ env, ofModule values deployId descriptor m services = .ok env → ∀ key, env.get? key =
      (fromGroups m key).or ((fromDependencies m key).or ((fromProperties m key).or
        ((fromIdentifier deployId m key).or ((fromAttributes values m key).or
          (fromMetadata descriptor m services key)))))) ∧
    (∀ name, (attributes values m).get? name = if name ∈ ParameterName.attributes then
      (m.parameters.get? name).map
        (if name = "service-url" ∨ name = "service-broker-url" then resolveText values else id)
      else none) ∧
    (∀ dependency ∈ m.requires, ∃ record, groupRecord dependency = .ofMap record ∧
      ∀ key, record.get? key = (dependency.properties.get? key).or
        (if key = "name" then some (.str dependency.name) else none)) ∧
    writeModule values deployId descriptor m services
      = ofModule values deployId descriptor m services := by
  refine ⟨?_, fun env h key => ?_, get?_attributes values m,
    fun dependency _ => groupRecord_eq dependency, writeModule_eq ..⟩
  · unfold ofModule
    simp only [bind_eq_ok, pure_eq_ok, deployment_eq_ok_iff]
    constructor
    · rintro ⟨_, _, ⟨hflag, -⟩, -⟩
      exact hflag
    · exact fun hflag => ⟨_, _, ⟨hflag, rfl⟩, rfl⟩
  · unfold ofModule at h
    simp only [bind_eq_ok, pure_eq_ok] at h
    obtain ⟨entries, hentries, rfl⟩ := h
    -- The upper layers hide those below, so the last one is asked first.
    rw [OrderedMap.get?_overlay, OrderedMap.get?_overlay, OrderedMap.get?_overlay,
      OrderedMap.get?_insertAll_of_ascending _ (ascending_deployment hentries), get?_groups,
      get?_flattened, get?_properties, lookup_deployment hentries, get?_metadata, Option.or_assoc]

/-- A module that has several values for most of its keys, each from another
source. -/
def crowdedModule : Module where
  name := "web"
  typeName := none
  path := none
  description := none
  parameters := .ofList [("check-deploy-id", .bool true), ("memory", .str "1G"),
    ("service-url", .str "https://web.\x7bxsa-placeholder-domain-default\x7d")]
  properties := .ofList [("DEPLOY_ID", .str "own"), ("port", .int 80), ("service-url", .str "own")]
  requires := [
    ⟨"accounts", [], none, ∅, .ofList [("MTA_SERVICES", .str "accounts"), ("port", .int 8080)]⟩,
    ⟨"database", [], none, ∅, .ofList [("port", .int 5432), ("user", .str "web")]⟩,
    ⟨"mail", ["peers", "user", "peers"], none, ∅, .ofList [("name", .str "relay")]⟩,
    ⟨"chat", ["user"], some "peers", ∅, ∅⟩]
  provides := []

/-- A group hides the property of a dependency, a dependency those of later
ones and of the module, and the module the identifier of the deployment. -/
theorem get?_ofModule_crowdedModule : ∃ env,
    ofModule ⟨some "example.com", none, none, none, none, none, none⟩ (some "42")
      ⟨"shop", "1.0.0", none, none, none, ∅, [crowdedModule], []⟩ crowdedModule ["accounts"]
        = .ok env ∧
    env.get? "peers" = some (.arr [.obj [("name", .str "relay")], .obj [("name", .str "relay")],
      .obj [("name", .str "chat")]]) ∧
    env.get? "user" = some (.arr [.obj [("name", .str "relay")]]) ∧
    env.get? "port" = some (.int 8080) ∧
    env.get? "DEPLOY_ID" = some (.str "own") ∧
    env.get? "DEPLOY_ATTRIBUTES" = some (.obj [("check-deploy-id", .bool true),
      ("service-url", .str "https://web.example.com")]) ∧
    env.get? "MTA_SERVICES" = some (.str "accounts") ∧
    env.get? "MTA_MODULE_METADATA" = some (.obj [("name", .str "web")]) ∧
    env.get? "service-url" = none := by
  obtain ⟨hmade, hvalue, -⟩ := get?_ofModule
    ⟨some "example.com", none, none, none, none, none, none⟩ (some "42")
    ⟨"shop", "1.0.0", none, none, none, ∅, [crowdedModule], []⟩ crowdedModule ["accounts"]
  obtain ⟨env, henv⟩ := hmade.2 fun value h => by
    have hflag : crowdedModule.parameters.get? "check-deploy-id" = some (.bool true) := by
      decide +kernel
    rw [hflag] at h
    cases h
    exact .inr rfl
  have hsource := hvalue env henv
  refine ⟨env, henv, ?_⟩
  simp only [hsource]
  decide +kernel

end Environment

end MultiTarget
