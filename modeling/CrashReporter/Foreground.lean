import CrashReporter.Time.Instant

-- The activities in the foreground. Two instances of one activity count on their
-- own; the app is in the background while there is none.

namespace CrashReporter

structure Foreground where
  /-- Oldest first. -/
  activities : List String := []
  /-- When the app last came to the foreground. -/
  entered : Option Instant := none
  /-- When an activity last stopped and none was left. -/
  exited : Option Instant := none
deriving Repr, Inhabited

namespace Foreground

def isActive (f : Foreground) : Bool := !f.activities.isEmpty

/-- The latest activity that is still in the foreground. -/
def activity? (f : Foreground) : Option String := f.activities.getLast?

def start (f : Foreground) (activity : String) (now : Instant) : Foreground :=
  { f with
    activities := f.activities ++ [activity]
    entered := if f.isActive then f.entered else some now }

/-- The earliest instance of the activity leaves. -/
def stop (f : Foreground) (activity : String) (now : Instant) : Foreground :=
  let left := f.activities.erase activity
  { f with activities := left, exited := if left.isEmpty then some now else f.exited }

/-- The app was never left, or left at least so many nanoseconds ago. -/
def wasAway (f : Foreground) (now : Instant) (limit : Nat) : Bool :=
  match f.exited with
  | none => true
  | some exited => limit ≤ now.elapsed exited

/-- The nanoseconds since the app came to the foreground, zero in the background. -/
def duration (f : Foreground) (now : Instant) : Nat :=
  if f.isActive then (f.entered.map now.elapsed).getD 0 else 0

end Foreground

end CrashReporter
