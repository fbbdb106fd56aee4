import Mathlib.Data.List.Forall2

namespace RefTree
namespace Outcome

/-!
# Results and faults of sequences

Queries and expansions are sequences of steps, each of which may fail.  A sequence gives a result
exactly when every step does, and it fails with the fault of the first step that fails.  These
facts are stated once, so that no later proof has to open a sequence by hand.
-/

variable {fault input middle output : Type}

/-- A sequence of two steps gives a result exactly when both do. -/
theorem bind_eq_ok_iff {first : Except fault middle} {next : middle -> Except fault output}
    {result : output} :
    (first >>= next) = .ok result ↔ ∃ value, first = .ok value ∧ next value = .ok result := by
  cases first with
  | error cause => simp [bind, Except.bind]
  | ok value => simp [bind, Except.bind]

/-- A sequence of two steps fails by its first step, or by its second after the first. -/
theorem bind_eq_error_iff {first : Except fault middle} {next : middle -> Except fault output}
    {cause : fault} :
    (first >>= next) = .error cause ↔
      first = .error cause ∨ ∃ value, first = .ok value ∧ next value = .error cause := by
  cases first with
  | error other => simp [bind, Except.bind]
  | ok value => simp [bind, Except.bind]

@[simp]
theorem ok_bind (value : middle) (next : middle -> Except fault output) :
    (Except.ok value >>= next) = next value :=
  rfl

@[simp]
theorem error_bind (cause : fault) (next : middle -> Except fault output) :
    (Except.error cause >>= next) = .error cause :=
  rfl

@[simp]
theorem pure_eq_ok (value : output) : (pure value : Except fault output) = .ok value :=
  rfl

/-- A step whose result is only rearranged gives a result exactly when it does. -/
theorem bind_pure_eq_ok_iff {first : Except fault middle} {arrange : middle -> output}
    {result : output} :
    (first >>= fun value => pure (arrange value)) = .ok result ↔
      ∃ value, first = .ok value ∧ result = arrange value := by
  simp only [bind_eq_ok_iff, pure_eq_ok, Except.ok.injEq, @eq_comm _ result]

theorem map_eq_ok_iff {first : Except fault middle} {arrange : middle -> output}
    {result : output} :
    first.map arrange = .ok result ↔ ∃ value, first = .ok value ∧ result = arrange value := by
  cases first with
  | error cause => simp [Except.map]
  | ok value => simp [Except.map, eq_comm]

/-- Rearranging a result does not change a fault. -/
theorem map_eq_error_iff {first : Except fault middle} {arrange : middle -> output}
    {cause : fault} : first.map arrange = .error cause ↔ first = .error cause := by
  cases first with
  | error other => simp [Except.map]
  | ok value => simp [Except.map]

/-! ## One step for every element of a list -/

/-- A step for every element gives a list of results, element by element. -/
theorem mapM_eq_ok_iff {step : input -> Except fault output} {inputs : List input}
    {outputs : List output} :
    inputs.mapM step = .ok outputs ↔
      List.Forall₂ (fun element result => step element = .ok result) inputs outputs := by
  induction inputs generalizing outputs with
  | nil => simp [eq_comm]
  | cons element rest inductionHypothesis =>
      rw [List.mapM_cons, List.forall₂_cons_left_iff]
      simp only [bind_eq_ok_iff, inductionHypothesis, pure_eq_ok, Except.ok.injEq]
      constructor
      · rintro ⟨result, found, results, later, rfl⟩
        exact ⟨result, results, found, later, rfl⟩
      · rintro ⟨result, results, found, later, rfl⟩
        exact ⟨result, found, results, later, rfl⟩

/-- If the step gives a result for every element, so does the whole list. -/
theorem exists_mapM_eq_ok {step : input -> Except fault output} {inputs : List input}
    (succeeds : ∀ element ∈ inputs, ∃ result, step element = .ok result) :
    ∃ outputs, inputs.mapM step = .ok outputs := by
  induction inputs with
  | nil => exact ⟨[], rfl⟩
  | cons element rest inductionHypothesis =>
      rcases succeeds element List.mem_cons_self with ⟨result, found⟩
      have restSucceeds : ∀ other ∈ rest, ∃ result, step other = .ok result :=
        fun other member => succeeds other (List.mem_cons_of_mem _ member)
      rcases inductionHypothesis restSucceeds with ⟨results, later⟩
      refine ⟨result :: results, ?_⟩
      rw [List.mapM_cons, found, ok_bind, later, ok_bind, pure_eq_ok]

/-- If the results are known for every element, so is the list of results. -/
theorem mapM_eq_ok_map {step : input -> Except fault output} {inputs : List input}
    {result : input -> output}
    (gives : ∀ element ∈ inputs, step element = .ok (result element)) :
    inputs.mapM step = .ok (inputs.map result) := by
  apply mapM_eq_ok_iff.mpr
  rw [List.forall₂_map_right_iff]
  exact List.forall₂_same.mpr gives

/-- In lists that are related element by element, everything on the right has a partner. -/
theorem exists_of_mem_right {related : input -> output -> Prop} {inputs : List input}
    {outputs : List output} (made : List.Forall₂ related inputs outputs) {result : output}
    (member : result ∈ outputs) : ∃ element ∈ inputs, related element result := by
  induction made with
  | nil => cases member
  | cons found _ inductionHypothesis =>
      rcases List.mem_cons.mp member with rfl | later
      · exact ⟨_, List.mem_cons_self, found⟩
      · rcases inductionHypothesis later with ⟨element, earlier, reached⟩
        exact ⟨element, List.mem_cons_of_mem _ earlier, reached⟩

/-- In lists that are related element by element, everything on the left has a partner. -/
theorem exists_of_mem_left {related : input -> output -> Prop} {inputs : List input}
    {outputs : List output} (made : List.Forall₂ related inputs outputs) {element : input}
    (member : element ∈ inputs) : ∃ result ∈ outputs, related element result :=
  exists_of_mem_right made.flip member

/-- Every result belongs to an element. -/
theorem exists_of_mem_mapM {step : input -> Except fault output} {inputs : List input}
    {outputs : List output} (run : inputs.mapM step = .ok outputs) {result : output}
    (member : result ∈ outputs) : ∃ element ∈ inputs, step element = .ok result :=
  exists_of_mem_right (mapM_eq_ok_iff.mp run) member

/-- Results may be rearranged one by one or all together. -/
theorem mapM_map_eq (step : input -> Except fault middle) (arrange : middle -> output)
    (inputs : List input) :
    (inputs.mapM fun element => (step element).map arrange) =
      (inputs.mapM step).map (List.map arrange) := by
  induction inputs with
  | nil => rfl
  | cons element rest inductionHypothesis =>
      rw [List.mapM_cons, List.mapM_cons, inductionHypothesis]
      cases step element with
      | error cause => rfl
      | ok value =>
          cases rest.mapM step with
          | error cause => rfl
          | ok values => rfl

/-- A list fails by one of its elements. -/
theorem exists_of_mapM_eq_error {step : input -> Except fault output} {inputs : List input}
    {cause : fault} (failed : inputs.mapM step = .error cause) :
    ∃ element ∈ inputs, step element = .error cause := by
  induction inputs with
  | nil => cases failed
  | cons element rest inductionHypothesis =>
      rw [List.mapM_cons] at failed
      rcases bind_eq_error_iff.mp failed with early | ⟨result, _, late⟩
      · exact ⟨element, List.mem_cons_self, early⟩
      · rcases bind_eq_error_iff.mp late with later | ⟨_, _, impossible⟩
        · rcases inductionHypothesis later with ⟨other, member, found⟩
          exact ⟨other, List.mem_cons_of_mem _ member, found⟩
        · cases impossible

/-! ## Two outcomes side by side -/

/-- Two outcomes agree if both give results and these are related, or both fail in the same way. -/
inductive Agree {left right : Type} (related : left -> right -> Prop) :
    Except fault left -> Except fault right -> Prop
  | ok {first : left} {second : right} (same : related first second) :
      Agree related (.ok first) (.ok second)
  | error (cause : fault) : Agree related (.error cause) (.error cause)

namespace Agree

variable {left right : Type} {related : left -> right -> Prop}

/-- An outcome agrees with itself if its result is related to itself. -/
theorem refl_of {outcome : Except fault output} {same : output -> output -> Prop}
    (ofResult : ∀ result, outcome = .ok result -> same result result) :
    Agree same outcome outcome := by
  cases outcome with
  | error cause => exact .error cause
  | ok result => exact .ok (ofResult result rfl)

/-- An outcome agrees with itself on its result. -/
theorem refl (outcome : Except fault output) :
    Agree (fun result other => result = other ∧ outcome = .ok result) outcome outcome :=
  refl_of fun _ found => ⟨rfl, found⟩

theorem bind {next nextRight : Type} {later : next -> nextRight -> Prop}
    {first : Except fault left} {second : Except fault right}
    {after : left -> Except fault next} {afterRight : right -> Except fault nextRight}
    (agree : Agree related first second)
    (following : ∀ value other, related value other ->
      Agree later (after value) (afterRight other)) :
    Agree later (first >>= after) (second >>= afterRight) := by
  cases agree with
  | error cause => exact .error cause
  | ok same => exact following _ _ same

/-- Outcomes that agree are followed by the same if related results are. -/
theorem bind_eq {first : Except fault left} {second : Except fault right}
    {after : left -> Except fault output} {afterRight : right -> Except fault output}
    (agree : Agree related first second)
    (following : ∀ value other, related value other -> after value = afterRight other) :
    (first >>= after) = (second >>= afterRight) := by
  cases agree with
  | error cause => rfl
  | ok same => exact following _ _ same

/-- Steps that agree on related elements agree on lists of them. -/
theorem mapM {results resultsRight : Type} {gives : results -> resultsRight -> Prop}
    {step : left -> Except fault results} {stepRight : right -> Except fault resultsRight}
    {inputs : List left} {others : List right} (inputsRelated : List.Forall₂ related inputs others)
    (agree : ∀ element other, related element other ->
      Agree gives (step element) (stepRight other)) :
    Agree (List.Forall₂ gives) (inputs.mapM step) (others.mapM stepRight) := by
  induction inputsRelated with
  | nil => exact .ok .nil
  | cons same _ inductionHypothesis =>
      rw [List.mapM_cons, List.mapM_cons]
      apply (agree _ _ same).bind
      intro result other alike
      apply inductionHypothesis.bind
      intro results resultsRight allAlike
      exact .ok (.cons alike allAlike)

theorem mono {weaker : left -> right -> Prop} {first : Except fault left}
    {second : Except fault right} (agree : Agree related first second)
    (implies : ∀ value other, related value other -> weaker value other) :
    Agree weaker first second := by
  cases agree with
  | error cause => exact .error cause
  | ok same => exact .ok (implies _ _ same)

end Agree

end Outcome
end RefTree
