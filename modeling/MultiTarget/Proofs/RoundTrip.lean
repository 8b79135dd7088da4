import Mathlib.Data.List.Forall2
import MultiTarget.Descriptor.Read
import MultiTarget.Descriptor.Write
import MultiTarget.Proofs.Support.Entries
import MultiTarget.Proofs.Support.Maps

/-!
# `MultiTarget.Proofs.RoundTrip`: descriptors written and read again

A descriptor that is written as JSON and read again is the same descriptor
(`Descriptor.read?_toJson`). What is left out while it is empty comes back
through the value that the reader has for its absence, so each attribute
is written and read by rules that fit together.

Writing and reading meet at a description of what a value says, `WrittenAs`
for each part of a descriptor. It tells by look-ups what stands under each
name, and not in which order the names stand. So the proof has two halves:

* a reader takes from a value what the value says (`read?_of_writtenAs`), in
  whatever order it lists the attributes of a record;
* a part of a descriptor is written as a value that says it
  (`writtenAs_toJson`).

Each half is by parts: dependencies, modules and resources, descriptors. What
is said of single attributes is in the namespace `Record`.
-/

set_option autoImplicit false

namespace MultiTarget

/-- A traversal finds what stands for the items, if something stands for each
of them. -/
theorem mapM_eq_some {α β : Type} {f : α → Option β} {items : List α} {results : List β}
    (h : List.Forall₂ (fun x y => f x = some y) items results) :
    items.mapM f = some results := by
  -- On the items and what stands for them.
  induction h with
  | nil => rfl
  | cons hhead _ ih =>
      rw [List.mapM_cons, hhead, ih]
      rfl

open Json (mapped? listed?)

/-! ### Attributes -/

namespace Record

variable {fields : List FieldName} {entries : List (String × Json)} {name : String}

/-- Entries of a record, each under the name of a field and no two under one.
This is what makes a reader collect them all: it refuses other names and
repeated ones. -/
structure OfFields (fields : List FieldName) (entries : List (String × Json)) : Prop where
  distinct : (entries.map (·.1)).Nodup
  known : ∀ name ∈ entries.map (·.1), fieldOf? fields name = some name

/-- Entries of a record are all collected, in the order in which they stand. -/
theorem OfFields.collect? (h : OfFields fields entries) :
    Record.collect? fields entries = some entries := by
  -- On the entries. The reader looks for a second one with the same name behind each of them.
  induction entries with
  | nil => rfl
  | cons entry rest ih =>
      obtain ⟨name, value⟩ := entry
      obtain ⟨hnew, hdistinct⟩ := List.nodup_cons.1 h.distinct
      have hname : fieldOf? fields name = some name := h.known name List.mem_cons_self
      have hrest : Record.collect? fields rest = some rest :=
        ih ⟨hdistinct, fun other hmem => h.known other (List.mem_cons_of_mem _ hmem)⟩
      -- No later entry is under the same name, so this one is not refused.
      have hany : rest.any (·.1 == name) = false := by
        rw [List.any_eq_false]
        intro other hmem heq
        exact hnew (List.mem_map.2 ⟨other, hmem, eq_of_beq heq⟩)
      simp only [Record.collect?, hname, hrest, hany, Bool.false_eq_true, if_false]

/-- The record of a map is its entries. Later lemmas take them by name. -/
theorem OfFields.read? (h : OfFields fields entries) :
    Record.read? fields (Json.obj entries) = some entries := h.collect?

/-- A text that must be present. It is written in any case, so an empty one
comes back as it is. -/
theorem required_text {text : String} (h : Entries.lookup name entries = some (.str text)) :
    required entries name Source.text? = some text := by
  rw [required, h]
  rfl

/-- A text that may be absent. It is left out if there is none, and an empty
text is written. -/
theorem optional_text {text : Option String}
    (h : Entries.lookup name entries = text.map .str) :
    optional entries name Source.text? = some text := by
  rw [optional, h]
  cases text <;> rfl

/-- A flag that is always written, so that its default has no part in what is
read. -/
theorem orElse_flag {flag absent : Bool} (h : Entries.lookup name entries = some (.bool flag)) :
    orElse entries name Source.flag? absent = some flag := by
  rw [orElse, h]
  rfl

/-- The parameters of a map are the map. Its entries ascend, so that building a
map from them gives the same one. -/
theorem parameters?_ofMap (m : Parameters) : Source.parameters? (Json.ofMap m) = some m := by
  have hentries : m.entries.mapM Source.entryValue? = some m.entries :=
    mapM_eq_some (List.forall₂_same.2 fun _ _ => rfl)
  show (m.entries.mapM Source.entryValue?).map OrderedMap.ofList = some m
  rw [hentries, Option.map_some, OrderedMap.ofList_entries]

/-- A map that is left out if empty. This loses nothing, since an absent one is
read as empty. -/
theorem orElse_parameters {m : Parameters} (h : Entries.lookup name entries = mapped? m) :
    orElse entries name Source.parameters? ∅ = some m := by
  rw [orElse, h]
  unfold mapped?
  cases hempty : m.isEmpty with
  | true =>
      -- Nothing was written, and what is read in its absence is the empty map.
      have hm : m = ∅ := OrderedMap.ext_entries (List.isEmpty_iff.1 hempty)
      rw [hm]
      rfl
  | false => exact parameters?_ofMap m

/-- A list that is left out if empty. The reader of items must take an empty
list, which is what the second hypothesis asks for. -/
theorem orElse_list {α : Type} {read : Json → Option (List α)} {items : List Json}
    {results : List α} (h : Entries.lookup name entries = listed? items)
    (hnil : read (.arr []) = some []) (hread : read (.arr items) = some results) :
    orElse entries name read [] = some results := by
  rw [orElse, h]
  cases items with
  | nil => exact hnil.symm.trans hread
  | cons item rest => exact hread

/-- A list that is always written, also if it is empty. Its reader is left
open, for modules and resources. -/
theorem orElse_always {α : Type} {read : Json → Option α} {absent result : α} {value : Json}
    (h : Entries.lookup name entries = some value) (hread : read value = some result) :
    orElse entries name read absent = some result := by
  rw [orElse, h]
  exact hread

/-- Items are read one by one, in order, if each of them can be read. -/
theorem list?_arr {α : Type} {read : Json → Option α} {items : List Json} {results : List α}
    (h : List.Forall₂ (fun x item => read item = some x) results items) :
    Source.list? read (.arr items) = some results :=
  mapM_eq_some h.flip

/-- Items are written one by one, each as a value that says what it is. -/
theorem forall₂_map {α : Type} {stated : α → Json → Prop} {write : α → Json}
    (h : ∀ x, stated x (write x)) (items : List α) :
    List.Forall₂ stated items (items.map write) :=
  List.forall₂_map_right_iff.2 (List.forall₂_same.2 fun x _ => h x)

/-! ### Names of what is written -/

/-- Entries under names of fields, in their order, are entries of a record. A
writer leaves some out and never reorders, so its entries are such. -/
theorem Within.ofFields (h : Within (fields.map (·.name)) entries)
    (hdistinct : (fields.map (·.name)).Nodup)
    (hknown : ∀ name ∈ fields.map (·.name), fieldOf? fields name = some name) :
    OfFields fields entries :=
  ⟨hdistinct.sublist h, fun name hmem => hknown name (h.subset hmem)⟩

end Record

open Record (OfFields Within)

/-! ### Required dependencies -/

/-- What the entries of a record say of a required dependency, name by name.
The order of the entries is left open. -/
structure RequiredDependency.WrittenIn (d : RequiredDependency)
    (entries : List (String × Json)) : Prop where
  ofFields : OfFields RequiredDependency.fields entries
  name : Entries.lookup "name" entries = some (.str d.name)
  groups : Entries.lookup "group" entries = listed? (d.groups.map .str)
  list : Entries.lookup "list" entries = d.list.map .str
  parameters : Entries.lookup "parameters" entries = mapped? d.parameters
  properties : Entries.lookup "properties" entries = mapped? d.properties

/-- A value says what a required dependency is, if it is a record with such
entries. -/
def RequiredDependency.WrittenAs (d : RequiredDependency) (value : Json) : Prop :=
  ∃ entries, value = .obj entries ∧ d.WrittenIn entries

/-- Groups are read from the list of them. A single text would be read as one
group, but is never written. -/
theorem readGroups_arr (groups : List String) :
    readGroups (Json.arr (groups.map .str)) = some groups :=
  mapM_eq_some (List.forall₂_map_left_iff.2 (List.forall₂_same.2 fun _ _ => rfl))

/-- A required dependency is read from every value that says what it is,
attribute by attribute. -/
theorem RequiredDependency.read?_of_writtenAs {d : RequiredDependency} {value : Json}
    (h : d.WrittenAs value) : RequiredDependency.read? value = some d := by
  obtain ⟨entries, rfl, h⟩ := h
  unfold RequiredDependency.read?
  rw [h.ofFields.read?]
  simp only [Option.bind_eq_bind, Option.bind_some, Record.required_text h.name,
    Record.orElse_list h.groups rfl (readGroups_arr d.groups), Record.optional_text h.list,
    Record.orElse_parameters h.parameters, Record.orElse_parameters h.properties]
  rfl

/-- A required dependency is written as a value that says what it is. Its
entries are concatenated, so each look-up passes over the others. -/
theorem RequiredDependency.writtenAs_toJson (d : RequiredDependency) : d.WrittenAs d.toJson := by
  refine ⟨_, rfl, ?_⟩
  constructor
  case ofFields =>
    have hnames := Record.within_entry "name" (.str d.name)
      |>.append (Record.within_listEntry "group" (d.groups.map .str))
      |>.append (Record.within_textEntry "list" d.list)
      |>.append (Record.within_mapEntry "parameters" d.parameters)
      |>.append (Record.within_mapEntry "properties" d.properties)
    exact Within.ofFields hnames (by decide) (by decide)
  -- Every other entry is passed over, since it stands under another name.
  all_goals simp

/-! ### Provided dependencies -/

/-- What the entries of a record say of a provided dependency, name by name.
Whether it is public is always among them. -/
structure ProvidedDependency.WrittenIn (d : ProvidedDependency)
    (entries : List (String × Json)) : Prop where
  ofFields : OfFields ProvidedDependency.fields entries
  name : Entries.lookup "name" entries = some (.str d.name)
  isPublic : Entries.lookup "public" entries = some (.bool d.isPublic)
  parameters : Entries.lookup "parameters" entries = mapped? d.parameters
  properties : Entries.lookup "properties" entries = mapped? d.properties

/-- A value says what a provided dependency is, if it is a record with such
entries. -/
def ProvidedDependency.WrittenAs (d : ProvidedDependency) (value : Json) : Prop :=
  ∃ entries, value = .obj entries ∧ d.WrittenIn entries

theorem ProvidedDependency.read?_of_writtenAs {d : ProvidedDependency} {value : Json}
    (h : d.WrittenAs value) : ProvidedDependency.read? value = some d := by
  obtain ⟨entries, rfl, h⟩ := h
  unfold ProvidedDependency.read?
  rw [h.ofFields.read?]
  simp only [Option.bind_eq_bind, Option.bind_some, Record.required_text h.name,
    Record.orElse_flag h.isPublic, Record.orElse_parameters h.parameters,
    Record.orElse_parameters h.properties]
  rfl

theorem ProvidedDependency.writtenAs_toJson (d : ProvidedDependency) : d.WrittenAs d.toJson := by
  refine ⟨_, rfl, ?_⟩
  constructor
  case ofFields =>
    have hnames := Record.within_entry "name" (.str d.name)
      |>.append (Record.within_entry "public" (.bool d.isPublic))
      |>.append (Record.within_mapEntry "parameters" d.parameters)
      |>.append (Record.within_mapEntry "properties" d.properties)
    exact Within.ofFields hnames (by decide) (by decide)
  all_goals simp

/-! ### Modules -/

/-- What the entries of a record say of a module, name by name. Dependencies
are values in turn that say what they are, in order. -/
structure Module.WrittenIn (m : Module) (entries : List (String × Json)) : Prop where
  ofFields : OfFields Module.fields entries
  name : Entries.lookup "name" entries = some (.str m.name)
  typeName : Entries.lookup "type" entries = m.typeName.map .str
  path : Entries.lookup "path" entries = m.path.map .str
  description : Entries.lookup "description" entries = m.description.map .str
  parameters : Entries.lookup "parameters" entries = mapped? m.parameters
  properties : Entries.lookup "properties" entries = mapped? m.properties
  requires : ∃ items, List.Forall₂ RequiredDependency.WrittenAs m.requires items ∧
    Entries.lookup "requires" entries = listed? items
  provides : ∃ items, List.Forall₂ ProvidedDependency.WrittenAs m.provides items ∧
    Entries.lookup "provides" entries = listed? items

/-- A value says what a module is, if it is a record with such entries. -/
def Module.WrittenAs (m : Module) (value : Json) : Prop :=
  ∃ entries, value = .obj entries ∧ m.WrittenIn entries

/-- A module is read from every value that says what it is. Its dependencies
are read first. -/
theorem Module.read?_of_writtenAs {m : Module} {value : Json} (h : m.WrittenAs value) :
    Module.read? value = some m := by
  obtain ⟨entries, rfl, h⟩ := h
  obtain ⟨required, hrequired, hrequires⟩ := h.requires
  obtain ⟨provided, hprovided, hprovides⟩ := h.provides
  have hrequired : Source.list? RequiredDependency.read? (Json.arr required)
      = some m.requires :=
    Record.list?_arr (hrequired.imp fun _ _ => RequiredDependency.read?_of_writtenAs)
  have hprovided : Source.list? ProvidedDependency.read? (Json.arr provided)
      = some m.provides :=
    Record.list?_arr (hprovided.imp fun _ _ => ProvidedDependency.read?_of_writtenAs)
  unfold Module.read?
  rw [h.ofFields.read?]
  simp only [Option.bind_eq_bind, Option.bind_some, Record.required_text h.name,
    Record.optional_text h.typeName, Record.optional_text h.path,
    Record.optional_text h.description, Record.orElse_parameters h.parameters,
    Record.orElse_parameters h.properties, Record.orElse_list hrequires rfl hrequired,
    Record.orElse_list hprovides rfl hprovided]
  rfl

/-- A module is written as a value that says what it is, by what is known of
its dependencies. -/
theorem Module.writtenAs_toJson (m : Module) : m.WrittenAs m.toJson := by
  refine ⟨_, rfl, ?_⟩
  -- The names are those of the fields, in their order; the values are looked up one by one.
  constructor
  case ofFields =>
    have hnames := Record.within_entry "name" (.str m.name)
      |>.append (Record.within_textEntry "type" m.typeName)
      |>.append (Record.within_textEntry "path" m.path)
      |>.append (Record.within_textEntry "description" m.description)
      |>.append (Record.within_mapEntry "parameters" m.parameters)
      |>.append (Record.within_mapEntry "properties" m.properties)
      |>.append (Record.within_listEntry "requires" (m.requires.map RequiredDependency.toJson))
      |>.append (Record.within_listEntry "provides" (m.provides.map ProvidedDependency.toJson))
    exact Within.ofFields hnames (by decide) (by decide)
  case requires =>
    refine ⟨_, Record.forall₂_map RequiredDependency.writtenAs_toJson m.requires, ?_⟩
    simp
  case provides =>
    refine ⟨_, Record.forall₂_map ProvidedDependency.writtenAs_toJson m.provides, ?_⟩
    simp
  all_goals simp

/-! ### Resources -/

/-- What the entries of a record say of a resource, name by name. Both flags
are always written, whatever they are. -/
structure Resource.WrittenIn (r : Resource) (entries : List (String × Json)) : Prop where
  ofFields : OfFields Resource.fields entries
  name : Entries.lookup "name" entries = some (.str r.name)
  typeName : Entries.lookup "type" entries = r.typeName.map .str
  description : Entries.lookup "description" entries = r.description.map .str
  parameters : Entries.lookup "parameters" entries = mapped? r.parameters
  properties : Entries.lookup "properties" entries = mapped? r.properties
  isOptional : Entries.lookup "optional" entries = some (.bool r.isOptional)
  isActive : Entries.lookup "active" entries = some (.bool r.isActive)

/-- A value says what a resource is, if it is a record with such entries. -/
def Resource.WrittenAs (r : Resource) (value : Json) : Prop :=
  ∃ entries, value = .obj entries ∧ r.WrittenIn entries

theorem Resource.read?_of_writtenAs {r : Resource} {value : Json} (h : r.WrittenAs value) :
    Resource.read? value = some r := by
  obtain ⟨entries, rfl, h⟩ := h
  unfold Resource.read?
  rw [h.ofFields.read?]
  simp only [Option.bind_eq_bind, Option.bind_some, Record.required_text h.name,
    Record.optional_text h.typeName, Record.optional_text h.description,
    Record.orElse_parameters h.parameters, Record.orElse_parameters h.properties,
    Record.orElse_flag h.isOptional, Record.orElse_flag h.isActive]
  rfl

theorem Resource.writtenAs_toJson (r : Resource) : r.WrittenAs r.toJson := by
  refine ⟨_, rfl, ?_⟩
  constructor
  case ofFields =>
    have hnames := Record.within_entry "name" (.str r.name)
      |>.append (Record.within_textEntry "type" r.typeName)
      |>.append (Record.within_textEntry "description" r.description)
      |>.append (Record.within_mapEntry "parameters" r.parameters)
      |>.append (Record.within_mapEntry "properties" r.properties)
      |>.append (Record.within_entry "optional" (.bool r.isOptional))
      |>.append (Record.within_entry "active" (.bool r.isActive))
    exact Within.ofFields hnames (by decide) (by decide)
  all_goals simp

/-! ### Descriptors -/

/-- What the entries of a record say of a descriptor, name by name. Modules and
resources are always listed, also if there are none. -/
structure Descriptor.WrittenIn (d : Descriptor) (entries : List (String × Json)) : Prop where
  ofFields : OfFields Descriptor.fields entries
  id : Entries.lookup "ID" entries = some (.str d.id)
  version : Entries.lookup "version" entries = some (.str d.version)
  description : Entries.lookup "description" entries = d.description.map .str
  provider : Entries.lookup "provider" entries = d.provider.map .str
  copyright : Entries.lookup "copyright" entries = d.copyright.map .str
  parameters : Entries.lookup "parameters" entries = mapped? d.parameters
  modules : ∃ items, List.Forall₂ Module.WrittenAs d.modules items ∧
    Entries.lookup "modules" entries = some (.arr items)
  resources : ∃ items, List.Forall₂ Resource.WrittenAs d.resources items ∧
    Entries.lookup "resources" entries = some (.arr items)

/-- A value says what a descriptor is, if it is a record with such entries. -/
def Descriptor.WrittenAs (d : Descriptor) (value : Json) : Prop :=
  ∃ entries, value = .obj entries ∧ d.WrittenIn entries

/-- A value that says what a descriptor is is read as this descriptor, in
whatever order it lists the attributes of the records in it. -/
theorem Descriptor.read?_of_writtenAs {d : Descriptor} {value : Json} (h : d.WrittenAs value) :
    Descriptor.read? value = some d := by
  obtain ⟨entries, rfl, h⟩ := h
  obtain ⟨modules, hread, hmodules⟩ := h.modules
  obtain ⟨resources, hread', hresources⟩ := h.resources
  have hread : Source.list? Module.read? (Json.arr modules) = some d.modules :=
    Record.list?_arr (hread.imp fun _ _ => Module.read?_of_writtenAs)
  have hread' : Source.list? Resource.read? (Json.arr resources) = some d.resources :=
    Record.list?_arr (hread'.imp fun _ _ => Resource.read?_of_writtenAs)
  unfold Descriptor.read?
  rw [h.ofFields.read?]
  simp only [Option.bind_eq_bind, Option.bind_some, Record.required_text h.id,
    Record.required_text h.version, Record.optional_text h.description,
    Record.optional_text h.provider, Record.optional_text h.copyright,
    Record.orElse_parameters h.parameters, Record.orElse_always hmodules hread,
    Record.orElse_always hresources hread']
  rfl

/-- A descriptor is written as a value that says what it is, by what is known
of modules and resources. -/
theorem Descriptor.writtenAs_toJson (d : Descriptor) : d.WrittenAs d.toJson := by
  refine ⟨_, rfl, ?_⟩
  constructor
  case ofFields =>
    have hnames := Record.within_entry "ID" (.str d.id)
      |>.append (Record.within_entry "version" (.str d.version))
      |>.append (Record.within_textEntry "description" d.description)
      |>.append (Record.within_textEntry "provider" d.provider)
      |>.append (Record.within_textEntry "copyright" d.copyright)
      |>.append (Record.within_mapEntry "parameters" d.parameters)
      |>.append (Record.within_entry "modules" (.arr (d.modules.map Module.toJson)))
      |>.append (Record.within_entry "resources" (.arr (d.resources.map Resource.toJson)))
    exact Within.ofFields hnames (by decide) (by decide)
  case modules =>
    refine ⟨_, Record.forall₂_map Module.writtenAs_toJson d.modules, ?_⟩
    simp
  case resources =>
    refine ⟨_, Record.forall₂_map Resource.writtenAs_toJson d.resources, ?_⟩
    simp
  all_goals simp

/-- **Nothing is lost in writing.** A descriptor that is written as JSON and
read again is the same descriptor, with all texts, flags, parameters and
properties, and with its modules, resources and dependencies in order.

There is no hypothesis: what a reader refuses, such as a repeated attribute, is
never written. -/
theorem Descriptor.read?_toJson (d : Descriptor) : Descriptor.read? d.toJson = some d :=
  Descriptor.read?_of_writtenAs d.writtenAs_toJson

end MultiTarget
