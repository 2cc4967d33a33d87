import MountOwnership.Pattern.Basic

/-!
# The namespace filter

Which namespaces the controller works in. Without patterns that is every one;
with patterns those in which one of them matches. A text that is no pattern
matches nothing and still counts as a pattern, so a list of only such texts
selects no namespace.
-/

namespace MountOwnership

/-- A choice of namespaces. -/
structure NamespaceFilter where
  /-- The patterns that can match. -/
  patterns : List Pattern
  /-- The number of patterns that were given. -/
  configured : Nat

namespace NamespaceFilter

/-- The filter of the given texts. -/
def ofSources (sources : List String) : NamespaceFilter where
  patterns := sources.filterMap fun s => (Pattern.compile s).toOption
  configured := sources.length

/-- Whether every namespace is selected. -/
def isMatchAll (f : NamespaceFilter) : Bool := f.configured == 0

/-- Whether a namespace is selected. -/
def selects (f : NamespaceFilter) (ns : String) : Bool :=
  f.isMatchAll || f.patterns.any fun p => p.isMatch ns

/-- The texts that are no patterns, with their faults. -/
def faults (sources : List String) : List (String × Pattern.Fault) :=
  sources.filterMap fun s =>
    match Pattern.compile s with
    | .ok _ => none
    | .error fault => some (s, fault)

end NamespaceFilter

end MountOwnership
