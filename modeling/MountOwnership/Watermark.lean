import MountOwnership.Object.Metadata

/-!
# The watermark

Objects that were there when the controller started are left alone. Whether an
object is newer is decided by its creation time in written form, so fractions of
a second do not count, and a time whose year cannot be written in four digits
counts as none.
-/

namespace MountOwnership

/-- Whether a creation comes strictly after the start. -/
def isNewSince (creation start : Time.Instant) : Bool := start.before creation

namespace Metadata

/-- The creation time as its written form gives it. -/
def creationTime? (m : Metadata) : Option Time.Instant :=
  m.creationTimestamp.bind fun t => Time.Instant.parse? t.render

/-- Whether an object was created strictly after the start; without a creation time it was not. -/
def isCreatedAfter (m : Metadata) (start : Time.Instant) : Bool :=
  m.creationTime?.any fun created => isNewSince created start

end Metadata

end MountOwnership
