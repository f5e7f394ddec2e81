import CrashReporter.Application.Basic

-- Leaving breadcrumbs. Every breadcrumb goes through the callbacks, which may
-- change or discard it, before it is kept and told of.

namespace CrashReporter.Application

/-- Offers a breadcrumb to the callbacks and keeps it if they let it pass. -/
def addBreadcrumb (a : Application) (alarm : Alarm) (b : Breadcrumb) : Application :=
  let run := a.client.onBreadcrumb.run b
  let a := (a.changeClient fun c => { c with onBreadcrumb := run.chain }).heed alarm run.incidents
  if run.proceed then
    let (ring, events) := a.client.ring.add run.subject
    (a.changeClient fun c => { c with ring }).tellAll alarm events
  else a

/-- Leaves a breadcrumb of the present time. -/
def leaveBreadcrumb (a : Application) (alarm : Alarm) (name : String) (kind : BreadcrumbType)
    (metadata : Dict Json) : Application :=
  a.addBreadcrumb alarm (.new name kind metadata a.now)

/-- Leaves a breadcrumb by hand. -/
def leaveMessage (a : Application) (alarm : Alarm) (message : String) : Application :=
  a.addBreadcrumb alarm (.manual message a.now)

/-- The network came or went. With it, stored events are tried again. -/
def changeConnectivity (a : Application) (alarm : Alarm) (connected : Bool) : Application :=
  let a := a.leaveBreadcrumb alarm "Connectivity change" .state
    (Dict.empty.insert "hasConnection" (.bool connected))
  if connected then a.submit .flushEvents else a

end CrashReporter.Application
