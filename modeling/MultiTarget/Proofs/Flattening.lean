import MultiTarget.Proofs.Agreement.Application
import MultiTarget.Proofs.ScopeChain

/-!
# `MultiTarget.Proofs.Flattening`: a chain of scopes as one scope

There are two ways through a chain. A look-up goes from the most specific
scope on and stops at the first value. `ScopeChain.merged` goes from the most
general scope on and lets every later one overwrite what was there.
`get?_merged` says that both find the same value, a null like any other.

So the chain that has this one scope (`ScopeChain.flattened`) has the same
values as the chain, and whoever reads a single parameter at a time reads the
same from both, complaints included: `flattened_agrees` has the readers and
three builders that go through them. A pair of a name and its plural is not
read in this way, since it matters there which scope has the two.

The unsupported keys are those of the merged scope that are not known. They
are told here without it, from the scopes of the chain (`ListsUnknown`).
-/

set_option autoImplicit false

namespace MultiTarget.ScopeChain

/-- The chain of one scope that has all parameters of a chain. It keeps the
owner, which complaints name. -/
def flattened (chain : ScopeChain) : ScopeChain := ⟨chain.owner, [chain.merged]⟩

/-! ### Values -/

/-- What is put on top of a map, scope after scope, is found from the last
scope on, and the map itself comes last. -/
theorem get?_foldl_overlay (scopes : List Parameters) (base : Parameters) (key : String) :
    (scopes.foldl OrderedMap.overlay base).get? key
      = (scopes.reverse.findSome? (·.get? key)).or (base.get? key) := by
  induction scopes generalizing base with
  | nil => rfl
  | cons scope rest ih =>
      -- The first scope goes onto the map at once, so it is found after all others and before it.
      rw [List.foldl_cons, ih, OrderedMap.get?_overlay, List.reverse_cons,
        List.findSome?_append, List.findSome?_singleton, Option.or_assoc]

/-- The merged scope has the value of the most specific scope with a key. The
two walks over the chain go in opposite directions and find the same. -/
theorem get?_merged (chain : ScopeChain) (key : String) :
    chain.merged.get? key = chain.get? key := by
  unfold merged ScopeChain.get?
  rw [get?_foldl_overlay]
  exact Option.or_none

/-- A chain and its flattened one have the same values of all keys. They do not
agree scope by scope, as they have different numbers of scopes. -/
theorem sameValues_flattened (chain : ScopeChain) (p : String → Prop) :
    chain.SameValuesOn p chain.flattened where
  owner := rfl
  get? {key} _ := by rw [flattened, get?_oneScope, get?_merged]

/-! ### Keys -/

/-- A list of keys has those of some scopes that are in no list of known ones,
in ascending order. The two fields determine the list. -/
structure ListsUnknown (scopes : List Parameters) (known : List (List String))
    (keys : List String) : Prop where
  ascending : keys.Pairwise (· < ·)
  mem_iff : ∀ key, key ∈ keys ↔
    (∃ scope ∈ scopes, scope.contains key = true) ∧ ¬ ∃ names ∈ known, key ∈ names

/-- The merged scope has the keys of all scopes. A key with a null in some
scope is among them. -/
theorem mem_keys_merged_iff {chain : ScopeChain} {key : String} :
    key ∈ chain.merged.keys ↔ ∃ scope ∈ chain.scopes, scope.contains key = true := by
  rw [OrderedMap.mem_keys_iff, OrderedMap.contains, get?_merged, ScopeChain.get?,
    List.findSome?_isSome_iff]
  simp only [List.mem_reverse, OrderedMap.contains]

/-- The unsupported keys of a chain are those of its scopes that are not known,
told without the merged scope. -/
theorem listsUnknown_unsupported (chain : ScopeChain) (known : List (List String)) :
    ListsUnknown chain.scopes known (chain.unsupported known) where
  ascending := chain.merged.pairwise_keys.filter _
  mem_iff key := by
    unfold unsupported
    rw [List.mem_filter, mem_keys_merged_iff]
    simp

/-! ### Readers -/

/-- **A chain reads as one scope.** A look-up finds what the merged scope has.
Every reader of a single parameter reads the same from a chain as from the
chain of its merged scope, value or complaint, and so do staging, the port type
and the triggers of restarts. The unsupported keys, whatever is known, are
those of the scopes that are not known, in ascending order. -/
theorem flattened_agrees (chain : ScopeChain) :
    (∀ key, chain.get? key = chain.merged.get? key) ∧
    (∀ key, chain.text? key = chain.flattened.text? key ∧
      chain.flag? key = chain.flattened.flag? key ∧
      (∀ absent, chain.flag key absent = chain.flattened.flag key absent) ∧
      chain.integer? key = chain.flattened.integer? key ∧
      chain.map? key = chain.flattened.map? key ∧
      chain.list? key = chain.flattened.list? key ∧
      chain.texts key = chain.flattened.texts key) ∧
    Staging.ofScopes chain = Staging.ofScopes chain.flattened ∧
    Routing.portType chain = Routing.portType chain.flattened ∧
    RestartTriggers.ofScopes chain = RestartTriggers.ofScopes chain.flattened ∧
    ∀ known, ListsUnknown chain.scopes known (chain.unsupported known) := by
  have hall : chain.SameValuesOn (fun _ => True) chain.flattened := chain.sameValues_flattened _
  -- One agreement on all keys serves the readers one by one and the builders.
  refine ⟨fun key => (chain.get?_merged key).symm, fun key => ?_, ?_, ?_, ?_,
    chain.listsUnknown_unsupported⟩
  · exact ⟨hall.text? trivial, hall.flag? trivial, fun absent => hall.flag trivial absent,
      hall.integer? trivial, hall.map? trivial, hall.list? trivial, hall.texts trivial⟩
  · exact Staging.ofScopes_congr (chain.sameValues_flattened _)
  · exact Routing.portType_congr hall trivial trivial
  · exact Application.restart_congr hall trivial

end MultiTarget.ScopeChain
