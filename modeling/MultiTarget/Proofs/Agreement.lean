import Mathlib.Data.List.Forall2
import MultiTarget.Proofs.Support.Maps
import MultiTarget.ScopeChain

/-!
# `MultiTarget.Proofs.Agreement`: maps and scopes that agree on some keys

Two maps agree on a class of keys if they have the same values of these
keys (`OrderedMap.AgreeOn`). Two chains do if they have one owner and their
scopes agree one by one (`ScopeChain.AgreeOn`). A class is a predicate, so
that it can be a list of keys or all keys but a few.

* Whatever is put on top of two maps that agree, they still agree
  (`AgreeOn.insertAll`, `AgreeOn.overlay`).
* A reader of a single key does not see which scope a value comes from, nor
  a null. So it reads the same from both chains if these are given the same
  values (`ScopeChain.ReadAlikeOn`): one lemma a reader, with its name. Chains
  with the same values are (`SameValuesOn.readAlike`). A reader of a pair of
  keys looks for the scope with either, and needs scopes that agree. A builder
  that goes through readers alone therefore builds the same from both, which
  its own lemma says by rewriting with these.
* Keys outside of the class are not even warned of where they are known
  (`AgreeOn.unsupported`).
* The scopes of modules and resources agree if all that differs in the
  descriptor is its own scope, and this agrees
  (`Descriptor.moduleScopes_withParameters`).
-/

set_option autoImplicit false

namespace MultiTarget

namespace OrderedMap

variable {α β : Type}

/-! ### Agreement of maps -/

variable {p q : String → Prop} {a b c d : OrderedMap α}

/-- Two maps have the same values of the keys of a class. Of the other keys
nothing is said: they may have other values, or stand in one of the maps
only. -/
def AgreeOn (p : String → Prop) (a b : OrderedMap α) : Prop :=
  ∀ key, p key → a.get? key = b.get? key

namespace AgreeOn

/-- A map agrees with itself on any class, as for the scope that two
descriptors share. -/
theorem refl (p : String → Prop) (a : OrderedMap α) : a.AgreeOn p a := fun _ _ => rfl

/-- Agreement has no direction, so that entries may be put into either map. -/
theorem symm (h : a.AgreeOn p b) : b.AgreeOn p a := fun key hkey => (h key hkey).symm

/-- Maps that agree on a class agree on every smaller one, so one agreement
serves every reader whose keys are among its own. -/
theorem mono (h : a.AgreeOn p b) (hqp : ∀ key, q key → p key) : a.AgreeOn q b :=
  fun key hkey => h key (hqp key hkey)

/-- Maps that agree contain the same keys of the class, since a key is
contained if it has a value. -/
theorem contains (h : a.AgreeOn p b) {key : String} (hkey : p key) :
    a.contains key = b.contains key := by
  unfold OrderedMap.contains
  rw [h key hkey]

/-- An entry outside of the class is not seen, whether it is new or replaces
another one. -/
theorem insert_right (h : a.AgreeOn p b) {key : String} (hkey : ¬ p key) (value : α) :
    a.AgreeOn p (b.insert key value) := by
  intro other hother
  have hne : other ≠ key := fun heq => hkey (heq ▸ hother)
  rw [get?_insert, if_neg hne, h other hother]

/-- The same entries put into both maps keep their agreement, even where they
replace values of the class. -/
theorem insertAll (h : a.AgreeOn p b) (added : List (String × α)) :
    (a.insertAll added).AgreeOn p (b.insertAll added) := by
  induction added generalizing a b with
  | nil => exact h
  | cons entry rest ih =>
      obtain ⟨k, value⟩ := entry
      have hfirst : (a.insert k value).AgreeOn p (b.insert k value) := by
        intro key hkey
        rw [get?_insert, get?_insert, h key hkey]
      -- The rest goes into two maps that agree, after the first entry has gone into both.
      exact ih hfirst

/-- Entries outside of a class are not seen. They go into one map only, which
is how what is injected into a descriptor is compared with the descriptor
itself. -/
theorem insertAll_right_of_notMem (h : a.AgreeOn p b) {added : List (String × α)}
    (hadded : ∀ e ∈ added, ¬ p e.1) : a.AgreeOn p (b.insertAll added) := by
  induction added generalizing b with
  | nil => exact h
  | cons entry rest ih =>
      obtain ⟨k, value⟩ := entry
      rw [insertAll_cons]
      exact ih (h.insert_right (hadded _ List.mem_cons_self) value) fun e he =>
        hadded e (List.mem_cons_of_mem _ he)

/-- Maps that agree on a class do so whatever is put in outside of it. The
lists need not have anything in common. -/
theorem insertAll_of_notMem (h : a.AgreeOn p b) {xs ys : List (String × α)}
    (hxs : ∀ e ∈ xs, ¬ p e.1) (hys : ∀ e ∈ ys, ¬ p e.1) :
    (a.insertAll xs).AgreeOn p (b.insertAll ys) := by
  have hright : a.AgreeOn p (b.insertAll ys) := h.insertAll_right_of_notMem hys
  exact (hright.symm.insertAll_right_of_notMem hxs).symm

/-- One map put on top of another agrees with a second such pair if both layers
agree, since a value comes from either of them. -/
theorem overlay (h : a.AgreeOn p b) (h' : c.AgreeOn p d) :
    (a.overlay c).AgreeOn p (b.overlay d) := by
  intro key hkey
  rw [get?_overlay, get?_overlay, h key hkey, h' key hkey]

/-- Replacing the values by a function keeps agreement, as the function sees
nothing but the value. -/
theorem map (h : a.AgreeOn p b) (f : α → β) : (a.map f).AgreeOn p (b.map f) := by
  intro key hkey
  rw [get?_map, get?_map, h key hkey]

/-- A map agrees with what is left of it on all keys that were not taken
out. -/
theorem without_right (a : OrderedMap α) (names : List String) :
    a.AgreeOn (· ∉ names) (a.without names) := by
  intro key hkey
  rw [get?_without, if_neg hkey]

/-- Maps that agree on all keys that pass a test are equal there. They are
compared as maps here, so nothing is left of a class. -/
theorem filter (h : a.AgreeOn p b) {test : String → Bool}
    (htest : ∀ key, test key = true → p key) :
    (a.filter fun key _ => test key) = b.filter fun key _ => test key := by
  refine ext_get? fun key => ?_
  rw [get?_filter, get?_filter]
  by_cases hkey : test key = true
  · rw [h key (htest key hkey)]
  · rw [if_neg hkey, if_neg hkey]

/-- Two such maps have the same keys among those that pass the test, in the
same order. Unsupported parameters are listed like this. -/
theorem keys_filter (h : a.AgreeOn p b) {test : String → Bool}
    (htest : ∀ key, test key = true → p key) : a.keys.filter test = b.keys.filter test := by
  rw [← OrderedMap.keys_filter, h.filter htest, OrderedMap.keys_filter]

end AgreeOn

end OrderedMap

namespace ScopeChain

variable {α : Type} {p q : String → Prop} {a b : ScopeChain} {key singular plural : String}

/-! ### Chains that are read alike -/

/-- The value of a key, where a null counts as none. It is what the typed
readers see of a chain, so it is the finest thing that they can tell apart. -/
def given? (chain : ScopeChain) (key : String) : Option Json :=
  (chain.get? key).filter (· ≠ .null)

/-- Readers see the value that is given, and nothing else. The owner is in the
message of an error, so it has to be the same as well. -/
theorem read?_eq_of_given?_eq (howner : a.owner = b.owner) (hgiven : a.given? key = b.given? key)
    (expected : String) (view : Json → Option α) :
    a.read? key expected view = b.read? key expected view := by
  -- A reader of a chain, written with the given value instead of the found one.
  have hread : ∀ chain : ScopeChain, chain.read? key expected view =
      match (chain.given? key).map view with
      | none => .ok none
      | some (some seen) => .ok (some seen)
      | some none => .error (chain.invalid key expected) := by
    intro chain
    unfold read? given?
    cases chain.get? key with
    | none => rfl
    | some value =>
        by_cases hnull : value = .null
        · subst hnull
          rfl
        · simp only [hnull, Option.filter_some, ne_eq, not_false_eq_true, decide_true, if_true,
            Option.map_some]
          cases view value <;> rfl
  rw [hread, hread, hgiven, invalid, invalid, howner]

/-- Two chains have one owner and are given the same values of the keys of a
class. They may have other values in fact, one of them a null where the other
one has none. -/
structure ReadAlikeOn (p : String → Prop) (a b : ScopeChain) : Prop where
  owner : a.owner = b.owner
  given? : ∀ {key}, p key → a.given? key = b.given? key

namespace ReadAlikeOn

/-- Chains that are read alike on a class are read alike on every smaller one,
by which a reader picks its own keys out of a larger class. -/
theorem mono (h : a.ReadAlikeOn p b) (hqp : ∀ key, q key → p key) : a.ReadAlikeOn q b :=
  ⟨h.owner, fun hkey => h.given? (hqp _ hkey)⟩

/-- The complaint about a value is the same, for it names the owner and not the
scopes. -/
theorem invalid (h : a.ReadAlikeOn p b) (key expected : String) :
    a.invalid key expected = b.invalid key expected := by
  unfold ScopeChain.invalid
  rw [h.owner]

/-- A reader of one key returns the same from both chains: the same value,
nothing in both, or the same error. The lemmas below are this one for the views
that readers use. -/
theorem read? (h : a.ReadAlikeOn p b) (hkey : p key) (expected : String)
    (view : Json → Option α) : a.read? key expected view = b.read? key expected view :=
  read?_eq_of_given?_eq h.owner (h.given? hkey) expected view

/-- A text is read alike. The readers that follow differ from it in nothing but
the view of a value. -/
theorem text? (h : a.ReadAlikeOn p b) (hkey : p key) : a.text? key = b.text? key :=
  h.read? hkey _ _

theorem flag? (h : a.ReadAlikeOn p b) (hkey : p key) : a.flag? key = b.flag? key :=
  h.read? hkey _ _

/-- A flag with a value for its absence is read alike, since it is absent in
both chains or in neither. -/
theorem flag (h : a.ReadAlikeOn p b) (hkey : p key) (absent : Bool) :
    a.flag key absent = b.flag key absent := by
  unfold ScopeChain.flag
  rw [h.flag? hkey]

theorem integer? (h : a.ReadAlikeOn p b) (hkey : p key) : a.integer? key = b.integer? key :=
  h.read? hkey _ _

theorem map? (h : a.ReadAlikeOn p b) (hkey : p key) : a.map? key = b.map? key :=
  h.read? hkey _ _

theorem list? (h : a.ReadAlikeOn p b) (hkey : p key) : a.list? key = b.list? key :=
  h.read? hkey _ _

/-- A list of texts is read alike, a single text included. -/
theorem texts (h : a.ReadAlikeOn p b) (hkey : p key) : a.texts key = b.texts key := by
  unfold ScopeChain.texts
  rw [h.read? hkey]

/-- Of the chain itself nothing but its owner is read inside a map, and that
only for the message. So no key of the class is needed. -/
theorem inner? (h : a.ReadAlikeOn p b) (key : String) (entries : List (String × Json))
    (name expected : String) (view : Json → Option α) :
    a.inner? key entries name expected view = b.inner? key entries name expected view := by
  unfold ScopeChain.inner?
  rw [h.invalid]

/-- A text inside of a map is read alike from entries that are the same. -/
theorem innerText? (h : a.ReadAlikeOn p b) (key : String) (entries : List (String × Json))
    (name : String) : a.innerText? key entries name = b.innerText? key entries name :=
  h.inner? key entries name _ _

/-- A flag inside of a map is read alike from entries that are the same. -/
theorem innerFlag (h : a.ReadAlikeOn p b) (key : String) (entries : List (String × Json))
    (name : String) (absent : Bool) :
    a.innerFlag key entries name absent = b.innerFlag key entries name absent := by
  unfold ScopeChain.innerFlag
  rw [h.inner?]

end ReadAlikeOn

/-! ### Chains with the same values -/

/-- Two chains have one owner and the same values of the keys of a class,
whichever scopes these stand in. A flattened chain has the values of the whole
one in this sense, without agreeing with it scope by scope. -/
structure SameValuesOn (p : String → Prop) (a b : ScopeChain) : Prop where
  owner : a.owner = b.owner
  get? : ∀ {key}, p key → a.get? key = b.get? key

namespace SameValuesOn

/-- Chains with the same values are read alike, so all lemmas about readers
carry over. What is added is that a null is told from an absent value, which
matters to the few that look for a key without reading it. -/
theorem readAlike (h : a.SameValuesOn p b) : a.ReadAlikeOn p b where
  owner := h.owner
  given? hkey := congrArg _ (h.get? hkey)

/-- Chains with the same values of a class have those of every smaller one. -/
theorem mono (h : a.SameValuesOn p b) (hqp : ∀ key, q key → p key) : a.SameValuesOn q b :=
  ⟨h.owner, fun hkey => h.get? (hqp _ hkey)⟩

/-- The same keys have a value, be it a null. This is the one test that chains
which are only read alike may answer differently. -/
theorem contains (h : a.SameValuesOn p b) (hkey : p key) : a.contains key = b.contains key := by
  unfold ScopeChain.contains
  rw [h.get? hkey]

/-- The complaint about a value is the same in chains with one owner. -/
theorem invalid (h : a.SameValuesOn p b) (key expected : String) :
    a.invalid key expected = b.invalid key expected := h.readAlike.invalid key expected

/-- A text is the same where the values are, by what is known of chains that
are read alike; so are the other views. -/
theorem text? (h : a.SameValuesOn p b) (hkey : p key) : a.text? key = b.text? key :=
  h.readAlike.text? hkey

theorem flag? (h : a.SameValuesOn p b) (hkey : p key) : a.flag? key = b.flag? key :=
  h.readAlike.flag? hkey

/-- A flag with a value for its absence is the same where the values are. -/
theorem flag (h : a.SameValuesOn p b) (hkey : p key) (absent : Bool) :
    a.flag key absent = b.flag key absent := h.readAlike.flag hkey absent

theorem integer? (h : a.SameValuesOn p b) (hkey : p key) : a.integer? key = b.integer? key :=
  h.readAlike.integer? hkey

theorem map? (h : a.SameValuesOn p b) (hkey : p key) : a.map? key = b.map? key :=
  h.readAlike.map? hkey

theorem list? (h : a.SameValuesOn p b) (hkey : p key) : a.list? key = b.list? key :=
  h.readAlike.list? hkey

/-- A list of texts is the same where the values are. -/
theorem texts (h : a.SameValuesOn p b) (hkey : p key) : a.texts key = b.texts key :=
  h.readAlike.texts hkey

/-- A flag inside of a map is the same in chains with one owner. -/
theorem innerFlag (h : a.SameValuesOn p b) (key : String) (entries : List (String × Json))
    (name : String) (absent : Bool) :
    a.innerFlag key entries name absent = b.innerFlag key entries name absent :=
  h.readAlike.innerFlag key entries name absent

end SameValuesOn

/-- The values of a pair are the same to every view. That the pairs are equal
is a hypothesis, since equal values of both keys do not give it: the scopes of
the two matter. -/
theorem pairOf_congr (howner : a.owner = b.owner)
    (hpair : a.pair singular plural = b.pair singular plural) (expected : String)
    (view : Json → Option α) :
    a.pairOf singular plural expected view = b.pairOf singular plural expected view := by
  unfold pairOf invalid
  rw [hpair, howner]

/-! ### Chains that agree scope by scope -/

/-- Two chains have one owner, and their scopes agree one by one. This is the
strongest of the three relations, and the one that readers of pairs need. -/
structure AgreeOn (p : String → Prop) (a b : ScopeChain) : Prop where
  owner : a.owner = b.owner
  scopes : List.Forall₂ (OrderedMap.AgreeOn p) a.scopes b.scopes

namespace AgreeOn

/-- Chains that agree on a class agree on every smaller one, so that one
agreement serves many readers. -/
theorem mono (h : a.AgreeOn p b) (hqp : ∀ key, q key → p key) : a.AgreeOn q b :=
  ⟨h.owner, h.scopes.imp fun _ _ hscope => hscope.mono hqp⟩

/-- Where scopes agree one by one, the same values are found: the most specific
scope with a key is at the same place in both chains. -/
theorem values (h : a.AgreeOn p b) : a.SameValuesOn p b := by
  refine ⟨h.owner, fun {key} hkey => ?_⟩
  -- Scopes are looked through from the most specific one, which is the last of the list.
  have hscopes := List.forall₂_reverse_iff.2 h.scopes
  unfold ScopeChain.get?
  generalize a.scopes.reverse = xs, b.scopes.reverse = ys at hscopes
  induction hscopes with
  | nil => rfl
  | cons hscope _ ih => rw [List.findSome?_cons, List.findSome?_cons, hscope key hkey, ih]

/-! ### Singular and plural -/

/-- The same scope is the most specific one with either name, and what is read
from it is the same. Both names must be in the class, for the search ends at
the first scope that has one of them. -/
theorem pair (h : a.AgreeOn p b) (hsingular : p singular) (hplural : p plural) :
    a.pair singular plural = b.pair singular plural := by
  have hscope : Option.Rel (OrderedMap.AgreeOn p) (a.pairScope? singular plural)
      (b.pairScope? singular plural) := by
    have hscopes := List.forall₂_reverse_iff.2 h.scopes
    unfold pairScope?
    generalize a.scopes.reverse = xs, b.scopes.reverse = ys at hscopes
    induction hscopes with
    | nil => exact .none
    | @cons s t _ _ hscope _ ih =>
        rw [List.find?_cons, List.find?_cons, hscope.contains hsingular,
          hscope.contains hplural]
        -- Both searches stop here or both go on.
        cases t.contains singular || t.contains plural with
        | true => exact .some hscope
        | false => exact ih
  unfold ScopeChain.pair
  generalize a.pairScope? singular plural = s?, b.pairScope? singular plural = t? at hscope
  cases hscope with
  | none => rfl
  | some hst => simp only [hst singular hsingular, hst plural hplural, h.values.invalid]

/-! ### All parameters -/

/-- All scopes put together as one map agree as the scopes do, so all that is
asked of the whole chain may be asked of the class. -/
theorem merged (h : a.AgreeOn p b) : a.merged.AgreeOn p b.merged := by
  -- The fold starts with two empty maps. It is stated for any two that agree, for the induction.
  have hfold : ∀ {xs ys : List Parameters}, List.Forall₂ (OrderedMap.AgreeOn p) xs ys →
      ∀ {m n : Parameters}, m.AgreeOn p n →
        (xs.foldl OrderedMap.overlay m).AgreeOn p (ys.foldl OrderedMap.overlay n) := by
    intro xs ys hxy
    induction hxy with
    | nil => exact fun hmn => hmn
    | cons hscope _ ih => exact fun hmn => ih (hmn.overlay hscope)
  exact hfold h.scopes (.refl p ∅)

/-- The same keys are unsupported if all keys outside of the class are known.
The class has to contain what is unknown, which is infinite; hence classes are
predicates and not lists. -/
theorem unsupported (h : a.AgreeOn p b) {known : List (List String)}
    (hknown : ∀ key, key ∉ known.flatten → p key) : a.unsupported known = b.unsupported known :=
  h.merged.keys_filter fun key hkey => hknown key (by simpa using hkey)

/-- The same warnings are raised about unsupported keys, for these name the
owner and the key. -/
theorem unsupportedWarnings (h : a.AgreeOn p b) {known : List (List String)}
    (hknown : ∀ key, key ∉ known.flatten → p key) :
    a.unsupportedWarnings known = b.unsupportedWarnings known := by
  unfold ScopeChain.unsupportedWarnings
  rw [h.unsupported hknown, h.owner]

/-- Warning of unsupported keys is the same build for both chains, by which the
first step of a module or a resource is rewritten. -/
theorem warnUnsupported (h : a.AgreeOn p b) {known : List (List String)}
    (hknown : ∀ key, key ∉ known.flatten → p key) :
    a.warnUnsupported known = b.warnUnsupported known :=
  congrArg Build.warn (h.unsupportedWarnings hknown)

end AgreeOn

end ScopeChain

/-! ### Parameters of a descriptor -/

namespace Descriptor

variable {p : String → Prop} {descriptor : Descriptor} {general : Parameters}

/-- A descriptor with other parameters in its own scope. What is injected
before a deployment, and what a redeployment changes, is only this scope. -/
def withParameters (descriptor : Descriptor) (general : Parameters) : Descriptor :=
  { descriptor with parameters := general }

/-- The scopes of a module agree if the descriptor's own scope does, since the
scope of the module is the same in both. -/
theorem moduleScopes_withParameters (h : descriptor.parameters.AgreeOn p general) (m : Module) :
    (descriptor.moduleScopes m).AgreeOn p ((descriptor.withParameters general).moduleScopes m) :=
  ⟨rfl, .cons h (.cons (.refl p _) .nil)⟩

/-- The scopes of a resource agree if the descriptor's own scope does. -/
theorem resourceScopes_withParameters (h : descriptor.parameters.AgreeOn p general)
    (resource : Resource) :
    (descriptor.resourceScopes resource).AgreeOn p
      ((descriptor.withParameters general).resourceScopes resource) :=
  ⟨rfl, .cons h (.cons (.refl p _) .nil)⟩

end Descriptor

end MultiTarget
