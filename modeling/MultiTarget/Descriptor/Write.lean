import MultiTarget.Descriptor
import MultiTarget.Json.Entry

/-!
# `MultiTarget.Descriptor.Write`: descriptors as JSON

Attributes are written in the order of their declaration. Absent texts
and empty maps are left out, and so are the empty dependency lists of a
module; flags and the lists of a descriptor are always written.

Specification 3 and X.6.1 list the attributes that are written here and read
in `Descriptor.Read`.
-/

set_option autoImplicit false

namespace MultiTarget

/-- A required dependency as JSON. -/
def RequiredDependency.toJson (d : RequiredDependency) : Json := .obj <|
  Json.entry "name" (.str d.name) ++
  Json.listEntry "group" (d.groups.map .str) ++
  Json.textEntry "list" d.list ++
  Json.mapEntry "parameters" d.parameters ++
  Json.mapEntry "properties" d.properties

/-- A provided dependency as JSON. -/
def ProvidedDependency.toJson (d : ProvidedDependency) : Json := .obj <|
  Json.entry "name" (.str d.name) ++
  Json.entry "public" (.bool d.isPublic) ++
  Json.mapEntry "parameters" d.parameters ++
  Json.mapEntry "properties" d.properties

/-- A module as JSON. -/
def Module.toJson (m : Module) : Json := .obj <|
  Json.entry "name" (.str m.name) ++
  Json.textEntry "type" m.typeName ++
  Json.textEntry "path" m.path ++
  Json.textEntry "description" m.description ++
  Json.mapEntry "parameters" m.parameters ++
  Json.mapEntry "properties" m.properties ++
  Json.listEntry "requires" (m.requires.map RequiredDependency.toJson) ++
  Json.listEntry "provides" (m.provides.map ProvidedDependency.toJson)

/-- A resource as JSON. -/
def Resource.toJson (r : Resource) : Json := .obj <|
  Json.entry "name" (.str r.name) ++
  Json.textEntry "type" r.typeName ++
  Json.textEntry "description" r.description ++
  Json.mapEntry "parameters" r.parameters ++
  Json.mapEntry "properties" r.properties ++
  Json.entry "optional" (.bool r.isOptional) ++
  Json.entry "active" (.bool r.isActive)

/-- A descriptor as JSON. -/
def Descriptor.toJson (d : Descriptor) : Json := .obj <|
  Json.entry "ID" (.str d.id) ++
  Json.entry "version" (.str d.version) ++
  Json.textEntry "description" d.description ++
  Json.textEntry "provider" d.provider ++
  Json.textEntry "copyright" d.copyright ++
  Json.mapEntry "parameters" d.parameters ++
  Json.entry "modules" (.arr (d.modules.map Module.toJson)) ++
  Json.entry "resources" (.arr (d.resources.map Resource.toJson))

end MultiTarget
