import RefTree.Registry
import RefTree.Row.Build

namespace RefTree

/-!
# Hosts with several backends

A host may keep one registry of providers for several backends.  Each backend has a snapshot of its
own, and snapshots may have parts in common, so one change can be seen through several backends.  A
provider is asked each time its tree is shown, and it answers from the snapshots as they are then.
-/

/-- What provides a tree: a backend, or a function of the host that may look at all backends and
may fail in any way. -/
inductive TreeProvider (backend : Type) where
  | tree (origin : backend)
  | own (give : (backend -> Snapshot) -> Focus -> Except Fault (List Row))

/-- One thing that a host does with its registry and its backends. -/
inductive HostEvent (backend : Type) where
  | register (name : String) (provider : TreeProvider backend)
  | registerTree (name : String) (origin : backend)
  | change (edit : (backend -> Snapshot) -> backend -> Snapshot)
  | render (focus : Focus) (name : String)

/-- The state of a host: what its backends hold at the moment, and its registry. -/
structure Host (backend : Type) where
  snapshots : backend -> Snapshot
  registry : Registry (TreeProvider backend) := {}

variable {backend : Type}

def TreeProvider.rows (snapshots : backend -> Snapshot) (focus : Focus) :
    TreeProvider backend -> Except Fault (List Row)
  | .tree origin => focusRows (snapshots origin) focus
  | .own give => give snapshots focus

namespace Host

def render (host : Host backend) (focus : Focus) (name : String) : Except Fault (List Row) := do
  let provider <- host.registry.find name
  provider.rows host.snapshots focus

/-- The state after an event, and the rows or the fault if the event is answered. -/
def perform (host : Host backend) :
    HostEvent backend -> Host backend × Option (Except Fault (List Row))
  | .register name provider =>
      ({ host with registry := host.registry.register name provider }, none)
  | .registerTree name origin =>
      ({ host with registry := host.registry.register name (.tree origin) }, none)
  | .change edit => ({ host with snapshots := edit host.snapshots }, none)
  | .render focus name => (host, some (host.render focus name))

def run (host : Host backend) :
    List (HostEvent backend) -> Host backend × List (Option (Except Fault (List Row)))
  | [] => (host, [])
  | event :: rest =>
      let (next, answer) := host.perform event
      let (final, answers) := next.run rest
      (final, answer :: answers)

end Host
end RefTree
