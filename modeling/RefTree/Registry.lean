import RefTree.Fault

namespace RefTree

/-!
# Registries of tree providers

A host finds the provider of a tree by name.  Registering a name again replaces its provider and
keeps its place in the list of names.  What a provider is does not matter here.
-/

/-- Providers by name, in the order in which the names were first registered. -/
structure Registry (provider : Type) where
  entries : List (String × provider) := []

namespace Registry

variable {provider : Type}

/-- The name of a provider that is registered without one. -/
def defaultName : String := "cpp"

/-- Set the provider of a name in a list of entries. -/
def insertEntry (name : String) (new : provider) :
    List (String × provider) -> List (String × provider)
  | [] => [(name, new)]
  | (other, old) :: rest =>
      if other = name then (name, new) :: rest else (other, old) :: insertEntry name new rest

def register (registry : Registry provider) (name : String) (new : provider) :
    Registry provider :=
  ⟨insertEntry name new registry.entries⟩

/-- The registered names, each once, in order of first registration. -/
def names (registry : Registry provider) : List String :=
  registry.entries.map Prod.fst

def find (registry : Registry provider) (name : String) : Except Fault provider :=
  match registry.entries.find? fun entry => entry.1 == name with
  | some entry => .ok entry.2
  | none => .error (.unknownProvider name)

/-- The provider of a name is the one that was registered last. -/
@[simp]
theorem find_register_self (registry : Registry provider) (name : String) (new : provider) :
    (registry.register name new).find name = .ok new := by
  obtain ⟨entries⟩ := registry
  have found : (insertEntry name new entries).find? (fun entry => entry.1 == name) =
      some (name, new) := by
    induction entries with
    | nil => simp [insertEntry]
    | cons head rest inductionHypothesis =>
        by_cases same : head.1 = name
        · simp [insertEntry, same]
        · simp [insertEntry, same, inductionHypothesis]
  simp [find, register, found]

/-- Registering a name leaves the providers of all other names alone. -/
theorem find_register_of_ne (registry : Registry provider) (name other : String)
    (new : provider) (different : other ≠ name) :
    (registry.register name new).find other = registry.find other := by
  obtain ⟨entries⟩ := registry
  have found : (insertEntry name new entries).find? (fun entry => entry.1 == other) =
      entries.find? (fun entry => entry.1 == other) := by
    induction entries with
    | nil => simp [insertEntry, different.symm]
    | cons head rest inductionHypothesis =>
        by_cases same : head.1 = name
        · simp [insertEntry, same, different.symm]
        · simp [insertEntry, same, List.find?_cons, inductionHypothesis]
  simp [find, register, found]

/-- A name that is registered again keeps its place, and a new one comes last. -/
theorem names_register (registry : Registry provider) (name : String) (new : provider) :
    (registry.register name new).names =
      if name ∈ registry.names then registry.names else registry.names ++ [name] := by
  obtain ⟨entries⟩ := registry
  simp only [names, register]
  induction entries with
  | nil => simp [insertEntry]
  | cons head rest inductionHypothesis =>
      by_cases same : head.1 = name
      · simp [insertEntry, same]
      · by_cases member : name ∈ rest.map Prod.fst
        · simp only [insertEntry, same, if_false, List.map_cons, inductionHypothesis, member,
            if_true, List.mem_cons, or_true]
        · simp only [insertEntry, same, if_false, List.map_cons, inductionHypothesis, member,
            List.mem_cons, Ne.symm same, or_self, List.cons_append]

end Registry
end RefTree
