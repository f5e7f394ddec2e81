import CrashReporter.Application.Reports

-- Panic hooks. Each installed hook reports a panic to its client as an unhandled
-- error, the latest hook first. Panics raised meanwhile are not reported.

namespace CrashReporter.Application

/-- The class of errors that panics are reported as. -/
def panicClass : String := "panic"

/-- Reports a panic to the client at work. -/
def reportPanic (a : Application) (panic : Panic) : Application :=
  let error : ErrorInfo := ⟨panicClass, panic.payload.message, {}⟩
  let details := (panic.details a.thread).foldl (fun m e => m.add "panic" e.1 e.2) Metadata.empty
  a.reportUnhandled silent error (.ofReason .unhandledPanic) details

/-- Lets an earlier client work, on the disk as it is now. -/
def withEarlier (a : Application) (index : Nat) (f : Application → Application) : Application :=
  match a.earlier[index]? with
  | none => a
  | some earlier =>
    let pipeline := earlier.pipeline.onDisk a.client.pipeline.disk
    let after := f { a with client := { earlier with pipeline } }
    let disk := after.client.pipeline.disk
    { after with
      client := { a.client with pipeline := a.client.pipeline.onDisk disk }
      earlier := after.earlier.set index after.client }

/-- One hook reports a panic. -/
def callHook (a : Application) (panic : Panic) : Hook → Application
  | .current => a.reportPanic panic
  | .earlier index => a.withEarlier index fun a => a.reportPanic panic

/-- Every hook reports the panic. -/
def loud : Alarm := fun panic a => a.hooks.foldl (fun a hook => a.callHook panic hook) a

/-- Installs a hook for the client at work. -/
def installHook (a : Application) : Application := { a with hooks := .current :: a.hooks }

/-- The host itself panics. -/
def raise (a : Application) (panic : Panic) : Application := loud panic a

end CrashReporter.Application
