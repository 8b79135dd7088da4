import MultiTarget.Descriptor.Read
import MultiTarget.Yaml.Tree

/-!
# `MultiTarget.Descriptor.Load`: descriptors from YAML text

A descriptor is read from the one document of a text. No two modules and
no two resources may have one name; a module and a resource may.

Specification X.6.1. `load` is `from_yaml_str`, and `checkNames` is
`check_unique_names`.
-/

set_option autoImplicit false

namespace MultiTarget

/-- Why a text is no descriptor. -/
inductive LoadError where
  /-- The text is malformed or its content has the wrong shape. -/
  | malformed
  /-- Two modules or two resources have one name. -/
  | duplicateName (kind name : String)
  deriving DecidableEq, Repr

/-- The error in words. -/
def LoadError.message : LoadError → String
  | malformed => "failed to parse descriptor"
  | duplicateName kind name => s!"duplicate {kind} name \"{name}\" in descriptor"

/-- The first item of a list that stands in it before. It is found where it is
repeated, not where it stands first. -/
def firstRepeated? (seen : List String) : List String → Option String
  | [] => none
  | name :: rest => if seen.contains name then some name else firstRepeated? (name :: seen) rest

namespace Descriptor

/-- Refuse a descriptor in which a name is used twice; modules are looked
at first. -/
def checkNames (descriptor : Descriptor) : Except LoadError Unit := do
  if let some name := firstRepeated? [] (descriptor.modules.map (·.name)) then
    throw (.duplicateName "module" name)
  if let some name := firstRepeated? [] (descriptor.resources.map (·.name)) then
    throw (.duplicateName "resource" name)

/-- The descriptor of a text. Names are checked only once all of it is read. -/
def load (text : String) : Except LoadError Descriptor :=
  match (Yaml.Tree.ofText? Descriptor.outline text).bind Descriptor.read? with
  | none => .error .malformed
  | some descriptor => do
    descriptor.checkNames
    return descriptor

end Descriptor

end MultiTarget
