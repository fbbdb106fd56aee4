import Mathlib.Data.List.Induction
import Mathlib.Data.List.Nodup
import RefTree.Host
import RefTree.Proofs.Row.Partition
import RefTree.Proofs.Snapshot.Infinity
import RefTree.Session

namespace RefTree

open Document

/-!
# What a registry keeps of its history

A registry is the outcome of registrations, one after another.  Of each name it keeps the last
provider and the first position.  Whatever else happens to a host leaves the registry as it is, so
what a name shows depends on the last registration under this name and on the current snapshots.

A missing key is how a registry says that it knows no provider.  The trees of backends never fail in
this way.  A function of the host might, and is then the only other source of such a fault.

The sessions that run are the hosts with one backend: each action of a session is an event of such a
host or no event at all.
-/

/-! ## One registration after another -/

namespace Registry

variable {provider : Type}

def registerAll (registry : Registry provider) (registrations : List (String × provider)) :
    Registry provider :=
  registrations.foldl (fun registry entry => registry.register entry.1 entry.2) registry

/-- The provider that is registered last under a name. -/
def lastUnder? (name : String) (registrations : List (String × provider)) : Option provider :=
  (registrations.reverse.find? fun entry => entry.1 == name).map Prod.snd

theorem registerAll_append (registry : Registry provider)
    (first second : List (String × provider)) :
    registry.registerAll (first ++ second) = (registry.registerAll first).registerAll second :=
  List.foldl_append

theorem lastUnder?_concat (name : String) (registrations : List (String × provider))
    (entry : String × provider) :
    lastUnder? name (registrations ++ [entry]) =
      if entry.1 = name then some entry.2 else lastUnder? name registrations := by
  unfold lastUnder?
  rw [List.reverse_append, List.reverse_singleton, List.singleton_append, List.find?_cons]
  by_cases same : entry.1 = name
  · simp [same]
  · simp [beq_eq_false_iff_ne.mpr same, same]

theorem lastUnder?_eq_none_iff {name : String} {registrations : List (String × provider)} :
    lastUnder? name registrations = none ↔ name ∉ registrations.map Prod.fst := by
  rw [lastUnder?, Option.map_eq_none_iff, List.find?_eq_none]
  constructor
  · intro others listed
    rcases List.mem_map.mp listed with ⟨entry, member, same⟩
    exact others entry (List.mem_reverse.mpr member) (beq_iff_eq.mpr same)
  · intro unlisted entry member same
    exact unlisted (List.mem_map.mpr ⟨entry, List.mem_reverse.mp member, beq_iff_eq.mp same⟩)

/-- A registry finds what was registered last under a name. -/
theorem find_registerAll (registrations : List (String × provider)) (name : String) :
    (registerAll {} registrations).find name =
      match lastUnder? name registrations with
      | some last => .ok last
      | none => .error (.unknownProvider name) := by
  -- The last registration decides, so the list is taken apart from its end.
  induction registrations using List.reverseRecOn with
  | nil => rfl
  | append_singleton earlier entry inductionHypothesis =>
      rw [registerAll_append, lastUnder?_concat]
      change ((registerAll {} earlier).register entry.1 entry.2).find name = _
      by_cases same : entry.1 = name
      · rw [if_pos same, same, find_register_self]
      · rw [if_neg same, find_register_of_ne _ _ _ _ (Ne.symm same), inductionHypothesis]

/-- A registry lists the registered names once each, in order of first registration. -/
theorem names_registerAll (registrations : List (String × provider)) :
    (registerAll {} registrations).names = (registrations.map Prod.fst).eraseDups := by
  induction registrations using List.reverseRecOn with
  | nil => rfl
  | append_singleton earlier entry inductionHypothesis =>
      rw [registerAll_append, List.map_append, List.map_singleton, eraseDups_concat]
      change ((registerAll {} earlier).register entry.1 entry.2).names = _
      rw [names_register, inductionHypothesis]
      simp only [List.mem_eraseDups]

theorem nodup_names_register {registry : Registry provider} (distinct : registry.names.Nodup)
    (name : String) (new : provider) : (registry.register name new).names.Nodup := by
  rw [names_register]
  split
  · exact distinct
  · rename_i fresh
    exact List.concat_eq_append ▸ distinct.concat fresh

theorem nodup_names_registerAll {registry : Registry provider} (distinct : registry.names.Nodup)
    (registrations : List (String × provider)) :
    (registry.registerAll registrations).names.Nodup := by
  induction registrations generalizing registry with
  | nil => exact distinct
  | cons entry rest inductionHypothesis =>
      exact inductionHypothesis (nodup_names_register distinct entry.1 entry.2)

/-- No name loses its position by later registrations. -/
theorem names_isPrefix_registerAll (registry : Registry provider)
    (registrations : List (String × provider)) :
    registry.names <+: (registry.registerAll registrations).names := by
  induction registrations generalizing registry with
  | nil => exact List.prefix_rfl
  | cons entry rest inductionHypothesis =>
      refine List.IsPrefix.trans ?_ (inductionHypothesis (registry.register entry.1 entry.2))
      rw [names_register]
      split
      · exact List.prefix_rfl
      · exact List.prefix_append _ _

end Registry

/-! ## Trees never fail by a missing key -/

theorem TypedUnless.kind_ne_missingKey {result : Type} {condition : Prop}
    {outcome : Except Fault result} (holds : TypedUnless condition outcome) {fault : Fault}
    (failed : outcome = .error fault) : fault.kind ≠ .missingKey := by
  intro missing
  rcases holds.typed fault failed with typed | rfl
  · rw [missing] at typed
    rcases typed with impossible | impossible | impossible <;> cases impossible
  · cases missing

theorem kind_ne_missingKey_of_focusRows {snapshot : Snapshot} {focus : Focus} {fault : Fault}
    (failed : focusRows snapshot focus = .error fault) : fault.kind ≠ .missingKey := by
  cases focus with
  | symbol symbol =>
      have typed := (snapshot.properties_typed symbol.id).after fun properties =>
        (snapshot.categories_typed (.text symbol.id)).bind_pure fun categories =>
          properties.map (propertyRow symbol) ++
            (categories.map Category.ofEntry).map fun category =>
              categoryRow symbol.id category (.category (.symbol symbol) category)
      exact typed.kind_ne_missingKey failed
  | file file =>
      have typed := (snapshot.fileCategories_typed (.text file.id)).bind_pure fun categories =>
        (categories.map Category.ofEntry).map fun category =>
          categoryRow file.id category (.fileCategory (.file file) category)
      exact typed.kind_ne_missingKey failed
  | other value =>
      cases failed
      intro impossible
      cases impossible

variable {backend : Type}

/-- Only a function of the host can fail by a missing key. -/
theorem TreeProvider.missingKey_iff (provider : TreeProvider backend)
    (snapshots : backend -> Snapshot) (focus : Focus) :
    (∃ fault, provider.rows snapshots focus = .error fault ∧ fault.kind = .missingKey) ↔
      ∃ give fault, provider = .own give ∧ give snapshots focus = .error fault ∧
        fault.kind = .missingKey := by
  cases provider with
  | tree origin =>
      constructor
      · rintro ⟨fault, failed, missing⟩
        exact absurd missing (kind_ne_missingKey_of_focusRows failed)
      · rintro ⟨give, fault, impossible, _⟩
        cases impossible
  | own give =>
      constructor
      · rintro ⟨fault, failed, missing⟩
        exact ⟨give, fault, rfl, failed, missing⟩
      · rintro ⟨same, fault, equal, failed, missing⟩
        cases equal
        exact ⟨fault, failed, missing⟩

/-! ## Runs of a host -/

/-- What an event registers, if it registers anything. -/
def HostEvent.registration? : HostEvent backend -> Option (String × TreeProvider backend)
  | .register name provider => some (name, provider)
  | .registerTree name origin => some (name, .tree origin)
  | .change _ => none
  | .render _ _ => none

/-- The registrations among events. -/
def registrations (events : List (HostEvent backend)) : List (String × TreeProvider backend) :=
  events.filterMap HostEvent.registration?

/-- What an event leaves of the snapshots. -/
def HostEvent.edited (snapshots : backend -> Snapshot) : HostEvent backend -> backend -> Snapshot
  | .change edit => edit snapshots
  | .register _ _ => snapshots
  | .registerTree _ _ => snapshots
  | .render _ _ => snapshots

namespace Host

theorem run_append (host : Host backend) (first second : List (HostEvent backend)) :
    (host.run (first ++ second)).1 = ((host.run first).1.run second).1 ∧
      (host.run (first ++ second)).2 =
        (host.run first).2 ++ ((host.run first).1.run second).2 := by
  induction first generalizing host with
  | nil => exact ⟨rfl, rfl⟩
  | cons event rest inductionHypothesis =>
      rcases inductionHypothesis (host.perform event).1 with ⟨state, answers⟩
      exact ⟨state, congrArg _ answers⟩

theorem length_run (host : Host backend) (events : List (HostEvent backend)) :
    (host.run events).2.length = events.length := by
  induction events generalizing host with
  | nil => rfl
  | cons event rest inductionHypothesis => exact congrArg (· + 1) (inductionHypothesis _)

/-- An event in a run is answered from the state that the events before it lead to. -/
theorem run_getElem? (host : Host backend) (before after : List (HostEvent backend))
    (event : HostEvent backend) :
    (host.run (before ++ event :: after)).2[before.length]? =
      some ((host.run before).1.perform event).2 := by
  have length := host.length_run before
  rw [(host.run_append before _).2, List.getElem?_append_right (Nat.le_of_eq length), length,
    Nat.sub_self]
  rfl

/-- An event changes the registry by what it registers, and not otherwise. -/
theorem registry_perform (host : Host backend) (event : HostEvent backend) :
    (host.perform event).1.registry = host.registry.registerAll event.registration?.toList := by
  cases event <;> rfl

theorem registry_run (host : Host backend) (events : List (HostEvent backend)) :
    (host.run events).1.registry = host.registry.registerAll (registrations events) := by
  induction events generalizing host with
  | nil => rfl
  | cons event rest inductionHypothesis =>
      have later : (host.run (event :: rest)).1.registry =
          (host.perform event).1.registry.registerAll (registrations rest) :=
        inductionHypothesis _
      have split : registrations (event :: rest) =
          event.registration?.toList ++ registrations rest := by
        cases event <;> rfl
      rw [later, registry_perform, split, Registry.registerAll_append]

/-- Only changes are seen in the snapshots. -/
theorem snapshots_run (host : Host backend) (events : List (HostEvent backend)) :
    (host.run events).1.snapshots = events.foldl HostEvent.edited host.snapshots := by
  induction events generalizing host with
  | nil => rfl
  | cons event rest inductionHypothesis =>
      have step : (host.perform event).1.snapshots = event.edited host.snapshots := by
        cases event <;> rfl
      rw [List.foldl_cons, ← step]
      exact inductionHypothesis _

/-- What a name shows depends on the last registration under it and on the snapshots. -/
theorem render_of_registry {host : Host backend}
    {registered : List (String × TreeProvider backend)}
    (registry : host.registry = Registry.registerAll {} registered) (focus : Focus)
    (name : String) :
    host.render focus name =
      match Registry.lastUnder? name registered with
      | some provider => provider.rows host.snapshots focus
      | none => .error (.unknownProvider name) := by
  unfold render
  rw [registry, Registry.find_registerAll]
  cases Registry.lastUnder? name registered with
  | some provider => rfl
  | none => rfl

/-- A name is not found in the registry exactly if nothing was ever registered under it. -/
theorem find_eq_unknownProvider_iff {host : Host backend}
    {registered : List (String × TreeProvider backend)}
    (registry : host.registry = Registry.registerAll {} registered) (name : String) :
    host.registry.find name = .error (.unknownProvider name) ↔
      name ∉ registered.map Prod.fst := by
  rw [registry, Registry.find_registerAll, ← Registry.lastUnder?_eq_none_iff]
  cases Registry.lastUnder? name registered with
  | some provider => simp
  | none => simp

/-- Showing a name fails by a missing key if nothing was ever registered under it, and else only if
the provider is a function of the host that fails so by itself. -/
theorem missingKey_iff {host : Host backend} {registered : List (String × TreeProvider backend)}
    (registry : host.registry = Registry.registerAll {} registered) (focus : Focus)
    (name : String) :
    (∃ fault, host.render focus name = .error fault ∧ fault.kind = .missingKey) ↔
      name ∉ registered.map Prod.fst ∨
        ∃ give fault, Registry.lastUnder? name registered = some (.own give) ∧
          give host.snapshots focus = .error fault ∧ fault.kind = .missingKey := by
  rw [render_of_registry registry, ← Registry.lastUnder?_eq_none_iff]
  cases Registry.lastUnder? name registered with
  | some provider => simp [provider.missingKey_iff]
  | none => simp [Fault.kind]

/-- Every run of a host and every time that a name is shown in it: the answer is what the provider
registered last under the name gives for the snapshots of the moment; the name is not found exactly
if it was never registered, and only then is the answer a missing key, unless a function of the host
fails so by itself; the names are listed once each, in order of first registration, and keep their
positions to the end; and the run ends in the same state as without this event.  What this means for
the sessions that run is said by `Session.registry_of_run`. -/
theorem registry_over_runs (snapshots : backend -> Snapshot)
    (before after : List (HostEvent backend)) (focus : Focus) (name : String) :
    ∃ host answer,
      (Host.run { snapshots } before).1 = host ∧
      (Host.run { snapshots } (before ++ .render focus name :: after)).2[before.length]? =
        some (some answer) ∧
      host.snapshots = before.foldl HostEvent.edited snapshots ∧
      (answer =
        match Registry.lastUnder? name (registrations before) with
        | some provider => provider.rows host.snapshots focus
        | none => .error (.unknownProvider name)) ∧
      (host.registry.find name = .error (.unknownProvider name) ↔
        name ∉ (registrations before).map Prod.fst) ∧
      ((∃ fault, answer = .error fault ∧ fault.kind = .missingKey) ↔
        name ∉ (registrations before).map Prod.fst ∨
          ∃ give fault, Registry.lastUnder? name (registrations before) = some (.own give) ∧
            give host.snapshots focus = .error fault ∧ fault.kind = .missingKey) ∧
      host.registry.names = ((registrations before).map Prod.fst).eraseDups ∧
      host.registry.names.Nodup ∧
      host.registry.names <+:
        (Host.run { snapshots } (before ++ .render focus name :: after)).1.registry.names ∧
      (Host.run { snapshots } (before ++ .render focus name :: after)).1 =
        (Host.run { snapshots } (before ++ after)).1 := by
  have registry : (Host.run { snapshots } before).1.registry =
      Registry.registerAll {} (registrations before) := registry_run _ _
  refine ⟨_, (Host.run { snapshots } before).1.render focus name, rfl, run_getElem? _ _ _ _,
    snapshots_run _ _, render_of_registry registry focus name,
    find_eq_unknownProvider_iff registry name, missingKey_iff registry focus name, ?_, ?_, ?_, ?_⟩
  · rw [registry, Registry.names_registerAll]
  · have empty : (@Registry.names (TreeProvider backend) {}).Nodup := List.nodup_nil
    rw [registry]
    exact Registry.nodup_names_registerAll empty _
  · have later := registry_run (Host.run { snapshots } before).1 (.render focus name :: after)
    rw [(run_append _ _ _).1, later]
    exact Registry.names_isPrefix_registerAll _ _
  · rw [(run_append _ _ _).1, (run_append _ _ _).1]
    rfl

end Host

/-! ## Sessions are hosts with one backend -/

namespace Registry

variable {provider other : Type}

/-- The same names with other providers. -/
def map (convert : provider -> other) (registry : Registry provider) : Registry other :=
  ⟨registry.entries.map fun entry => (entry.1, convert entry.2)⟩

theorem names_map (convert : provider -> other) (registry : Registry provider) :
    (registry.map convert).names = registry.names := by
  simp [names, map]

theorem map_register (convert : provider -> other) (registry : Registry provider) (name : String)
    (new : provider) :
    (registry.register name new).map convert =
      (registry.map convert).register name (convert new) := by
  obtain ⟨entries⟩ := registry
  simp only [map, register, mk.injEq]
  induction entries with
  | nil => rfl
  | cons head rest inductionHypothesis =>
      by_cases same : head.1 = name
      · simp [insertEntry, same]
      · simp [insertEntry, same, inductionHypothesis]

theorem find_map (convert : provider -> other) (registry : Registry provider) (name : String) :
    (registry.map convert).find name = (registry.find name).map convert := by
  have found : (registry.map convert).entries.find? (fun entry => entry.1 == name) =
      (registry.entries.find? fun entry => entry.1 == name).map
        fun entry => (entry.1, convert entry.2) := by
    rw [map, List.find?_map]
    rfl
  unfold find
  rw [found]
  cases registry.entries.find? fun entry => entry.1 == name with
  | some entry => rfl
  | none => rfl

end Registry

/-- A provider of a session, as a provider of a host with one backend. -/
def Provider.toHost : Provider -> TreeProvider Unit
  | .snapshot => .tree ()
  | .rows given => .own fun _ _ => .ok given

namespace Session

def host (session : Session) : Host Unit where
  snapshots := fun _ => session.snapshot
  registry := session.registry.map Provider.toHost

/-- A change of a session, as an event of its host. -/
def changeEvent (edit : Value -> Value) : HostEvent Unit :=
  .change fun snapshots _ => (change { snapshot := snapshots () } edit).snapshot

/-- What an action is to the host, if anything. -/
def hostEvent? (session : Session) : Action -> Option (HostEvent Unit)
  | .opening (.provider name focus) =>
      match focus.resolve session.snapshot with
      | .ok focus => some (.render focus name)
      | .error _ => none
  | .set path value => some (changeEvent (Value.setAt path value))
  | .erase path => some (changeEvent (Value.eraseAt path))
  | .registerTree name => some (.registerTree name ())
  | .registerRows name numbers =>
      some (.register name (Provider.rows (session.pick numbers)).toHost)
  | _ => none

/-- The events of a session, as its actions meet them. -/
def hostEvents (session : Session) : List Action -> List (HostEvent Unit)
  | [] => []
  | action :: rest =>
      (session.hostEvent? action).toList ++ (session.perform action).1.hostEvents rest

theorem host_change (session : Session) (edit : Value -> Value) :
    (session.change edit).host = (session.host.perform (changeEvent edit)).1 := by
  simp only [host, change, Host.perform, changeEvent]
  split <;> rfl

theorem host_registerProvider (session : Session) (name : String) (provider : Provider) :
    (session.registerProvider name provider).host =
      (session.host.perform (.register name provider.toHost)).1 := by
  simp only [host, registerProvider, Host.perform, Registry.map_register]

/-- Keeping rows is not seen by the host. -/
theorem host_keep (session : Session) (outcome : Except Fault (List Row)) :
    (session.keep outcome).1.host = session.host := by
  cases outcome <;> rfl

/-- A provider is asked through the host. -/
theorem opened_provider (session : Session) (name : String) (spec : FocusSpec) :
    session.opened (.provider name spec) =
      spec.resolve session.snapshot >>= fun focus => session.host.render focus name := by
  have provided (focus : Focus) :
      (session.registry.find name >>= session.provided focus) = session.host.render focus name := by
    simp only [Host.render, host, Registry.find_map]
    cases session.registry.find name with
    | error fault => rfl
    | ok provider => cases provider <;> rfl
  simp only [← provided]
  rfl

/-- An action does to the host of a session what its event does. -/
theorem host_perform (session : Session) (action : Action) :
    (session.perform action).1.host = (session.host.run (session.hostEvent? action).toList).1 := by
  cases action with
  | opening opening =>
      have same : session.host =
          (session.host.run (session.hostEvent? (.opening opening)).toList).1 := by
        cases opening with
        | provider name spec =>
            simp only [hostEvent?]
            split <;> rfl
        | _ => rfl
      exact (session.host_keep _).trans same
  | expand number =>
      simp only [perform]
      split
      · exact session.host_keep _
      · rfl
  | rowText number theme style =>
      simp only [perform]
      split <;> rfl
  | set path value => exact session.host_change _
  | erase path => exact session.host_change _
  | registerTree name => exact session.host_registerProvider name .snapshot
  | registerRows name numbers => exact session.host_registerProvider name _
  | _ => rfl

/-- A session does to its host what its events do. -/
theorem host_run (session : Session) (actions : List Action) :
    (session.run actions).1.host = (session.host.run (session.hostEvents actions)).1 := by
  induction actions generalizing session with
  | nil => rfl
  | cons action rest inductionHypothesis =>
      have later : (session.run (action :: rest)).1.host =
          ((session.perform action).1.host.run ((session.perform action).1.hostEvents rest)).1 :=
        inductionHypothesis _
      rw [later, host_perform, ← (Host.run_append _ _ _).1]
      rfl

/-- After any actions of a session, the names are listed in order of first registration, and each
shows what was registered last under it.  Nothing that is shown changes the registry. -/
theorem registry_of_run (snapshot : Snapshot) (actions : List Action) {session : Session}
    (reached : (run { snapshot } actions).1 = session)
    {registered : List (String × TreeProvider Unit)}
    (history : registrations (hostEvents { snapshot } actions) = registered) :
    session.registry.names = (registered.map Prod.fst).eraseDups ∧
      (∀ name spec, session.opened (.provider name spec) =
        spec.resolve session.snapshot >>= fun focus =>
          match Registry.lastUnder? name registered with
          | some provider => provider.rows (fun _ => session.snapshot) focus
          | none => .error (.unknownProvider name)) ∧
      ∀ opening, (session.perform (.opening opening)).1.registry = session.registry := by
  have registry : session.host.registry = Registry.registerAll {} registered := by
    rw [← reached, ← history, host_run]
    exact Host.registry_run _ _
  have current : session.host.snapshots = fun _ => session.snapshot := rfl
  refine ⟨?_, ?_, ?_⟩
  · rw [← Registry.names_registerAll, ← registry]
    exact (Registry.names_map _ _).symm
  · intro name spec
    simp only [opened_provider, Host.render_of_registry registry, current]
    cases Registry.lastUnder? name registered with
    | some provider => rfl
    | none => rfl
  · intro opening
    change (session.keep (session.opened opening)).1.registry = session.registry
    cases session.opened opening <;> rfl

end Session

end RefTree
