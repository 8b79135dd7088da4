import MultiTarget.Environment
import MultiTarget.Proofs.Agreement
import MultiTarget.Proofs.Support.Outcome

/-!
# `MultiTarget.Proofs.Environment`: what an environment depends on

The environment of a module is made of layers (`outcome_ofModule`). The
services that the module is bound to and the identifier of the deployment
enter it in the first two layers, under one key each. All later layers are
put on top of both and are made of the module alone. So two environments of
one module, with other services and another identifier, have the same
values of all other keys (`agreeOn_of_ofModule`), also where a later layer
has taken one of these two keys for itself.
-/

set_option autoImplicit false

namespace MultiTarget

namespace Environment

open Outcome (bind_eq_ok pure_eq_ok)

variable {values : Placeholder.Values} {deployId deployId' : Option String}
  {descriptor : Descriptor} {m : Module} {services services' : List String}
  {env env' : Environment}

/-- The layers of an environment. The identifier of the deployment is an entry
of its own behind the attributes, and there is none unless the author asks for
it. -/
theorem outcome_ofModule (h : ofModule values deployId descriptor m services = .ok env) :
    ∃ identifier, (∀ e ∈ identifier, e.1 = "DEPLOY_ID") ∧
      env = (((((OrderedMap.ofList (metadata descriptor m services)).insertAll
          (Json.mapEntry "DEPLOY_ATTRIBUTES" (attributes values m))).insertAll
        identifier).overlay (properties m)).overlay (flattened m)).overlay (groups m) := by
  unfold ofModule deployment at h
  simp only [bind_eq_ok, pure_eq_ok] at h
  obtain ⟨_, ⟨checked, -, rfl⟩, rfl⟩ := h
  refine ⟨Json.textEntry "DEPLOY_ID" (if checked then deployId else none), fun e he => ?_, ?_⟩
  · -- There is one entry or none, and the key of the one is fixed.
    cases hid : (if checked then deployId else none) with
    | none =>
        rw [hid] at he
        cases he
    | some id =>
        rw [hid] at he
        rw [List.mem_singleton.1 he]
  · rw [OrderedMap.insertAll_append]

/-- The services are the last entry of the first layer, so all entries before
it are made of the descriptor and the module alone. -/
theorem metadata_eq_append (descriptor : Descriptor) (m : Module) (services : List String) :
    metadata descriptor m services
      = (metadata descriptor m []).take 3 ++ [("MTA_SERVICES", .ofStrings services)] := rfl

/-- The services that a module is bound to are listed, perhaps under a key that
a later layer has taken. So the key is there in any case, whatever its
value. -/
theorem contains_services (h : ofModule values deployId descriptor m services = .ok env) :
    env.contains "MTA_SERVICES" = true := by
  obtain ⟨identifier, -, rfl⟩ := outcome_ofModule h
  have hlisted : (OrderedMap.ofList (metadata descriptor m services)).contains "MTA_SERVICES"
      = true := by
    unfold OrderedMap.ofList OrderedMap.contains
    rw [metadata_eq_append, OrderedMap.insertAll_append, OrderedMap.insertAll_cons]
    show ((OrderedMap.insert _ "MTA_SERVICES" _).get? "MTA_SERVICES").isSome = true
    rw [OrderedMap.get?_insert, if_pos rfl]
    rfl
  unfold OrderedMap.overlay
  exact OrderedMap.contains_insertAll (OrderedMap.contains_insertAll
    (OrderedMap.contains_insertAll (OrderedMap.contains_insertAll
      (OrderedMap.contains_insertAll hlisted _) _) _) _) _

/-- **What services and an identifier change.** Two environments of one module
have the same values of all keys but `MTA_SERVICES` and `DEPLOY_ID`, whatever
services and identifiers they are made with. -/
theorem agreeOn_of_ofModule
    (h : ofModule values deployId descriptor m services = .ok env)
    (h' : ofModule values deployId' descriptor m services' = .ok env') :
    env.AgreeOn (fun key => key ≠ "MTA_SERVICES" ∧ key ≠ "DEPLOY_ID") env' := by
  obtain ⟨identifier, hidentifier, rfl⟩ := outcome_ofModule h
  obtain ⟨identifier', hidentifier', rfl⟩ := outcome_ofModule h'
  have hmetadata : (OrderedMap.ofList (metadata descriptor m services)).AgreeOn
      (fun key => key ≠ "MTA_SERVICES" ∧ key ≠ "DEPLOY_ID")
      (OrderedMap.ofList (metadata descriptor m services')) := by
    unfold OrderedMap.ofList
    rw [metadata_eq_append descriptor m services, metadata_eq_append descriptor m services',
      OrderedMap.insertAll_append, OrderedMap.insertAll_append]
    exact (OrderedMap.AgreeOn.refl _ _).insertAll_of_notMem (by simp) (by simp)
  -- All that is put on top of the first two layers is the same on both sides.
  refine ((OrderedMap.AgreeOn.overlay ?_ (.refl _ _)).overlay (.refl _ _)).overlay (.refl _ _)
  refine (hmetadata.insertAll _).insertAll_of_notMem (fun e he => ?_) fun e he => ?_
  · exact fun hclass => hclass.2 (hidentifier e he)
  · exact fun hclass => hclass.2 (hidentifier' e he)

/-- Two environments of one module have the same keys but for `DEPLOY_ID`,
which one of them may lack. -/
theorem contains_eq_of_ofModule
    (h : ofModule values deployId descriptor m services = .ok env)
    (h' : ofModule values deployId' descriptor m services' = .ok env') {key : String}
    (hkey : key ≠ "DEPLOY_ID") : env.contains key = env'.contains key := by
  by_cases hservices : key = "MTA_SERVICES"
  · rw [hservices, contains_services h, contains_services h']
  · exact (agreeOn_of_ofModule h h').contains ⟨hservices, hkey⟩

/-- The texts of an environment have its keys, since every value is written as
a text. -/
theorem contains_texts (env : Environment) (pretty : Bool) (key : String) :
    (env.texts pretty).contains key = env.contains key := by
  unfold texts OrderedMap.contains
  rw [OrderedMap.get?_map, Option.isSome_map]

end Environment

end MultiTarget
