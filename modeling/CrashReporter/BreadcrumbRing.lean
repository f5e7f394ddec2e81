import CrashReporter.StateEvent

-- The recent breadcrumbs: at most so many, oldest first.

namespace CrashReporter

structure BreadcrumbRing where
  capacity : Nat
  entries : List Breadcrumb := []

namespace BreadcrumbRing

/-- Keeps a breadcrumb and lets go of the oldest ones beyond the capacity. -/
def push (r : BreadcrumbRing) (b : Breadcrumb) : BreadcrumbRing :=
  { r with entries := (r.entries ++ [b]).drop (r.entries.length + 1 - r.capacity) }

/-- Keeps a breadcrumb and tells of it. Without capacity nothing is recorded. -/
def add (r : BreadcrumbRing) (b : Breadcrumb) : BreadcrumbRing × List StateEvent :=
  if r.capacity = 0 then (r, []) else (r.push b, [.breadcrumbAdded b])

end BreadcrumbRing

end CrashReporter
