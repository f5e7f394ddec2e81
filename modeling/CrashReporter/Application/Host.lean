import CrashReporter.Application.Basic

-- What the host registers with its client, and what it tells the client of itself.
-- None of this is reported by itself; it shows in later events.

namespace CrashReporter.Application

/-! ## Callbacks -/

def addErrorCallback (a : Application) (callback : Callback Event) : Application × CallbackId :=
  let (id, onError) := a.client.onError.add callback
  (a.changeClient fun c => { c with onError }, id)

def addBreadcrumbCallback (a : Application) (callback : Callback Breadcrumb) :
    Application × CallbackId :=
  let (id, onBreadcrumb) := a.client.onBreadcrumb.add callback
  (a.changeClient fun c => { c with onBreadcrumb }, id)

def addSessionCallback (a : Application) (callback : Callback SessionPayload) :
    Application × CallbackId :=
  let (id, onSession) := a.client.onSession.add callback
  (a.changeClient fun c => { c with onSession }, id)

/-- Removes an error callback; the flag says whether there was one. -/
def removeErrorCallback (a : Application) (id : CallbackId) : Application × Bool :=
  (a.changeClient fun c => { c with onError := c.onError.remove id }, a.client.onError.contains id)

/-- Removes a breadcrumb callback; the flag says whether there was one. -/
def removeBreadcrumbCallback (a : Application) (id : CallbackId) : Application × Bool :=
  (a.changeClient fun c => { c with onBreadcrumb := c.onBreadcrumb.remove id },
    a.client.onBreadcrumb.contains id)

/-- Removes a session callback; the flag says whether there was one. -/
def removeSessionCallback (a : Application) (id : CallbackId) : Application × Bool :=
  (a.changeClient fun c => { c with onSession := c.onSession.remove id },
    a.client.onSession.contains id)

/-! ## Observers -/

def registerObserver (a : Application) (observer : Observer) : Application × ObserverId :=
  let (id, bus) := a.client.bus.register observer
  (a.changeClient fun c => { c with bus }, id)

/-- Removes an observer; the flag says whether there was one. -/
def unregisterObserver (a : Application) (id : ObserverId) : Application × Bool :=
  (a.changeClient fun c => { c with bus := c.bus.unregister id }, a.client.bus.contains id)

/-- Opens a channel of state changes. -/
def subscribe (a : Application) : Application :=
  a.changeClient fun c => { c with bus := c.bus.subscribe }

/-- Empties a channel. -/
def collect (a : Application) (index : Nat) : Application × List Received :=
  let (received, bus) := a.client.bus.collect index
  (a.changeClient fun c => { c with bus }, received)

/-! ## User, context and metadata -/

def setUser (a : Application) (user : User) : Application :=
  a.changeTracker { a.client.tracker with user }

/-- Sets the context of later events. Without one the activity in the foreground is
their context. -/
def setContext (a : Application) (context : Option String) : Application :=
  a.changeClient fun c => { c with context }

def changeMetadata (a : Application) (f : Metadata → Metadata) : Application :=
  a.changeClient fun c => { c with metadata := f c.metadata }

end CrashReporter.Application
