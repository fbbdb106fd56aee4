import RefTree.Proofs.Document.Reading
import RefTree.Proofs.Document.WrittenScalar
import RefTree.Proofs.Number.DoubleSize

namespace RefTree
namespace Document

/-!
# What a document can hold

Some documents can be written but not read back as they were: those that repeat a member name, hold
an integer of too many digits, or hold a double, of which more than one may have the same text.  The
first two never come from reading.  This is an invariant of the reader: it holds of every value that
is complete, and of everything collected in the containers that are still open.
-/

namespace Value

/-- The values directly inside a value. -/
def parts : Value -> List Value
  | .list elements => elements
  | .object members => members.map Prod.snd
  | _ => []

/-- A property holds of a value and of everything inside it, at any depth. -/
inductive Everywhere (holds : Value -> Prop) : Value -> Prop
  | intro {value : Value} (here : holds value)
      (inside : ∀ part ∈ value.parts, Everywhere holds part) : Everywhere holds value

/-- Taken by itself, the value can come from reading: no integer and no integer part of a double is
too long, and no member name is repeated. -/
def IsProper : Value -> Prop
  | .int n => digitCount n ≤ Number.maxDigits
  | .double value => ∀ n ∈ value.truncate?, digitCount n ≤ Number.maxDigits
  | .object members => (members.map Prod.fst).Nodup
  | _ => True

/-- Taken by itself, the value has a text of its own: it is no double. -/
def IsExact : Value -> Prop
  | .double _ => False
  | _ => True

/-- A value that can be stored: it is proper and exact in all its parts. -/
def IsStorable (value : Value) : Prop :=
  value.Everywhere fun part => part.IsProper ∧ part.IsExact

instance decidableIsProper : DecidablePred IsProper
  | .int n => inferInstanceAs (Decidable (digitCount n ≤ Number.maxDigits))
  | .double value =>
      inferInstanceAs (Decidable (∀ n ∈ value.truncate?, digitCount n ≤ Number.maxDigits))
  | .object members => inferInstanceAs (Decidable (members.map Prod.fst).Nodup)
  | .null | .bool _ | .text _ | .list _ => .isTrue trivial

instance decidableIsExact : DecidablePred IsExact
  | .double _ => .isFalse not_false
  | .null | .bool _ | .int _ | .text _ | .list _ | .object _ => .isTrue trivial

namespace Everywhere

variable {first second : Value -> Prop} {value : Value}

theorem here (holds : value.Everywhere first) : first value := by
  cases holds with
  | intro here _ => exact here

theorem inside (holds : value.Everywhere first) : ∀ part ∈ value.parts, part.Everywhere first := by
  cases holds with
  | intro _ inside => exact inside

/-- A value without parts has a property everywhere if it has it at all. -/
theorem of_scalar (holds : first value) (scalar : value.parts = []) : value.Everywhere first := by
  refine .intro holds ?_
  rw [scalar]
  intro part member
  cases member

theorem iff_of_scalar (scalar : value.parts = []) : value.Everywhere first ↔ first value :=
  ⟨here, fun holds => of_scalar holds scalar⟩

theorem and (left : value.Everywhere first) (right : value.Everywhere second) :
    value.Everywhere fun part => first part ∧ second part := by
  induction left with
  | intro here _ inductionHypothesis =>
      exact .intro ⟨here, right.here⟩
        (fun part member => inductionHypothesis part member (right.inside part member))

theorem mono (holds : value.Everywhere first) (weaker : ∀ {part}, first part -> second part) :
    value.Everywhere second := by
  induction holds with
  | intro here _ inductionHypothesis => exact .intro (weaker here) inductionHypothesis

/-- A member that is found has what all members have. -/
theorem of_mem {members : Members} (holds : (Value.object members).Everywhere first)
    {member : String × Value} (belongs : member ∈ members) : member.2.Everywhere first :=
  holds.inside _ (List.mem_map.mpr ⟨member, belongs, rfl⟩)

theorem iff_parts : value.Everywhere first ↔
    first value ∧ ∀ part ∈ value.parts, part.Everywhere first :=
  ⟨fun holds => ⟨holds.here, holds.inside⟩, fun holds => .intro holds.1 holds.2⟩

end Everywhere

mutual

/-- What holds everywhere in a value is decided part by part. -/
instance decidableEverywhere (holds : Value -> Prop) [DecidablePred holds] :
    (value : Value) -> Decidable (value.Everywhere holds)
  | .list elements =>
      have : Decidable (∀ part ∈ (Value.list elements).parts, part.Everywhere holds) :=
        decidableElements holds elements
      decidable_of_iff _ Everywhere.iff_parts.symm
  | .object members =>
      have : Decidable (∀ part ∈ (Value.object members).parts, part.Everywhere holds) :=
        decidableMembers holds members
      decidable_of_iff _ Everywhere.iff_parts.symm
  | .null | .bool _ | .int _ | .double _ | .text _ =>
      decidable_of_iff _ (Everywhere.iff_of_scalar rfl).symm

def decidableElements (holds : Value -> Prop) [DecidablePred holds] :
    (elements : List Value) -> Decidable (∀ element ∈ elements, element.Everywhere holds)
  | [] => .isTrue (by simp)
  | first :: rest =>
      have := decidableEverywhere holds first
      have := decidableElements holds rest
      decidable_of_iff _ List.forall_mem_cons.symm

def decidableMembers (holds : Value -> Prop) [DecidablePred holds] :
    (members : List (String × Value)) ->
      Decidable (∀ part ∈ members.map Prod.snd, part.Everywhere holds)
  | [] => .isTrue (by simp)
  | (_, first) :: rest =>
      have := decidableEverywhere holds first
      have := decidableMembers holds rest
      decidable_of_iff _ List.forall_mem_cons.symm

end

instance : DecidablePred IsStorable :=
  fun value => decidableEverywhere (fun part => part.IsProper ∧ part.IsExact) value

end Value

/-! ## Inserting a member -/

namespace Members

/-- The names of the members, in order. -/
def names (members : Members) : List String :=
  members.map Prod.fst

/-- A member that exists keeps its place, and a new one comes last. -/
theorem names_insert (name : String) (value : Value) (members : Members) :
    (insert name value members).names =
      if name ∈ members.names then members.names else members.names ++ [name] := by
  induction members with
  | nil => simp [insert, names]
  | cons head rest inductionHypothesis =>
      unfold names at inductionHypothesis ⊢
      by_cases same : head.1 = name
      · simp [insert, same]
      · by_cases member : name ∈ rest.map Prod.fst
        · simp only [insert, same, if_false, List.map_cons, inductionHypothesis, member, if_true,
            List.mem_cons, or_true]
        · simp only [insert, same, if_false, List.map_cons, inductionHypothesis, member,
            List.mem_cons, Ne.symm same, or_self, List.cons_append]

theorem mem_insert {name : String} {value : Value} {members : Members} {member : String × Value}
    (belongs : member ∈ insert name value members) : member = (name, value) ∨ member ∈ members := by
  induction members with
  | nil => exact Or.inl (List.mem_singleton.mp belongs)
  | cons head rest inductionHypothesis =>
      unfold insert at belongs
      split at belongs
      · rcases List.mem_cons.mp belongs with new | old
        · exact Or.inl new
        · exact Or.inr (List.mem_cons_of_mem _ old)
      · rcases List.mem_cons.mp belongs with first | later
        · exact Or.inr (first ▸ List.mem_cons_self)
        · rcases inductionHypothesis later with new | old
          · exact Or.inl new
          · exact Or.inr (List.mem_cons_of_mem _ old)

/-- A member of a new name comes after all others. -/
theorem insert_of_not_mem {name : String} (value : Value) {members : Members}
    (new : name ∉ members.names) : insert name value members = members ++ [(name, value)] := by
  induction members with
  | nil => rfl
  | cons head rest inductionHypothesis =>
      have different : head.1 ≠ name := fun same => new (same ▸ List.mem_cons_self)
      have later := inductionHypothesis (fun member => new (List.mem_cons_of_mem _ member))
      rw [insert, if_neg different, later, List.cons_append]

/-- Among members of distinct names, each comes after those before it. -/
theorem insert_of_nodup {name : String} {value : Value} {members rest : Members}
    (distinct : (names (members ++ (name, value) :: rest)).Nodup) :
    insert name value members = members ++ [(name, value)] := by
  apply insert_of_not_mem
  intro member
  unfold names at distinct member
  rw [List.map_append, List.map_cons, List.nodup_append] at distinct
  exact distinct.2.2 name member name List.mem_cons_self rfl

theorem nodup_insert {name : String} {value : Value} {members : Members}
    (distinct : members.names.Nodup) : (insert name value members).names.Nodup := by
  rw [names_insert]
  split
  · exact distinct
  · rename_i new
    rw [List.nodup_append]
    refine ⟨distinct, by simp, ?_⟩
    intro other member last lastMember same
    rw [List.mem_singleton] at lastMember
    exact new (lastMember ▸ same ▸ member)

end Members

namespace Value.Everywhere

/-- Inserting a member keeps what holds everywhere in an object, except of the object itself. -/
theorem insert {holds : Value -> Prop} {members : Members} {name : String} {value : Value}
    (object : (Value.object members).Everywhere holds) (member : value.Everywhere holds)
    (here : holds (.object (Members.insert name value members))) :
    (Value.object (Members.insert name value members)).Everywhere holds := by
  refine .intro here ?_
  intro part belongs
  rcases List.mem_map.mp belongs with ⟨found, foundMember, rfl⟩
  rcases Members.mem_insert foundMember with rfl | old
  · exact member
  · exact object.of_mem old

theorem list_cons {elements : List Value} {value : Value}
    (list : (Value.list elements).Everywhere IsProper) (first : value.Everywhere IsProper) :
    (Value.list (value :: elements)).Everywhere IsProper := by
  refine .intro trivial ?_
  intro part member
  rcases List.mem_cons.mp member with rfl | later
  · exact first
  · exact list.inside part later

theorem list_reverse {elements : List Value} (list : (Value.list elements).Everywhere IsProper) :
    (Value.list elements.reverse).Everywhere IsProper :=
  .intro trivial (fun part member => list.inside part (List.mem_reverse.mp member))

end Value.Everywhere

/-! ## Tokens -/

/-- A token stands for a proper value, if it stands for a value by itself. -/
def Token.IsProper : Token -> Prop
  | .scalar value => value.Everywhere Value.IsProper
  | _ => True

theorem isDigit_of_mem_scanWhole {chars : List Char} {c : Char} (member : c ∈ scanWhole chars) :
    isDigit c = true := by
  unfold scanWhole at member
  split at member
  · rw [List.mem_singleton.mp member]
    decide
  · exact List.all_eq_true.mp List.all_takeWhile c member

theorem isDigit_of_mem_whole {chars : List Char} {scan : NumberScan}
    (scanned : scanNumber? chars = some scan) {c : Char} (member : c ∈ scan.whole) :
    isDigit c = true := by
  have taken : ∃ unsigned, scan.whole = scanWhole unsigned := by
    simp only [scanNumber?, Option.ite_none_left_eq_some, Option.some.injEq] at scanned
    rcases scanned with ⟨_, rfl⟩
    exact ⟨_, rfl⟩
  rcases taken with ⟨unsigned, whole⟩
  rw [whole] at member
  exact isDigit_of_mem_scanWhole member

/-- Digits give a number below the power of ten that has one more. -/
theorem digitsNumber_lt {digits : List Char} (all : ∀ c ∈ digits, isDigit c = true) :
    digitsNumber digits < 10 ^ digits.length := by
  induction digits with
  | nil => decide
  | cons c rest inductionHypothesis =>
      have later := inductionHypothesis
        (fun other member => all other (List.mem_cons_of_mem _ member))
      have digit : c.toNat - '0'.toNat ≤ 9 := by
        have range := all c List.mem_cons_self
        simp only [isDigit, Bool.and_eq_true, decide_eq_true_eq] at range
        have high : c.toNat ≤ '9'.toNat := range.2
        have nine : '9'.toNat = 57 := rfl
        have zero : '0'.toNat = 48 := rfl
        omega
      unfold digitsNumber at later ⊢
      rw [Nat.ofDigitChars_cons, Nat.ofDigitChars_eq_ofDigitChars_zero, List.length_cons,
        Nat.pow_succ, Nat.mul_zero, Nat.zero_add]
      calc 10 ^ rest.length * (c.toNat - '0'.toNat) + Nat.ofDigitChars 10 rest 0
          < 10 ^ rest.length * (c.toNat - '0'.toNat) + 10 ^ rest.length := by omega
        _ = 10 ^ rest.length * (c.toNat - '0'.toNat + 1) := by rw [Nat.mul_succ]
        _ ≤ 10 ^ rest.length * 10 := Nat.mul_le_mul_left _ (by omega)

theorem digitCount_le_iff {n : Int} :
    digitCount n ≤ Number.maxDigits ↔ n.natAbs < 10 ^ Number.maxDigits :=
  Nat.length_toDigits_le_iff (by decide) (by decide)

theorem NumberScan.token_isProper {chars : List Char} {scan : NumberScan}
    (scanned : scanNumber? chars = some scan) : scan.token.IsProper := by
  unfold token
  split
  · split
    · trivial
    · rename_i short
      have bounded : digitsNumber scan.whole < 10 ^ Number.maxDigits :=
        calc digitsNumber scan.whole
            < 10 ^ scan.whole.length := digitsNumber_lt fun c => isDigit_of_mem_whole scanned
          _ ≤ 10 ^ Number.maxDigits := Nat.pow_le_pow_right (by decide) (Nat.not_lt.mp short)
      have size : (if scan.negative then -(digitsNumber scan.whole : Int)
          else digitsNumber scan.whole).natAbs = digitsNumber scan.whole := by
        split
        · omega
        · omega
      refine .of_scalar ?_ rfl
      show digitCount _ ≤ Number.maxDigits
      rw [digitCount_le_iff, size]
      exact bounded
  · refine .of_scalar ?_ rfl
    intro n whole
    exact digitCount_le_iff.mpr (Number.Double.natAbs_lt_of_ofDecimal whole)

theorem scanToken_isProper (position : Nat) (first : Char) (rest : List Char) :
    (scanToken position first rest).1.IsProper := by
  unfold scanToken
  split
  · rename_i found
    unfold punctuation? at found
    split at found <;> cases found <;> trivial
  split
  · split
    · trivial
    · trivial
  split
  · rename_i name value found
    have member := List.mem_of_find?_eq_some found
    simp only [namedScalars, List.mem_cons, List.not_mem_nil, or_false, Prod.mk.injEq] at member
    rcases member with ⟨_, rfl⟩ | ⟨_, rfl⟩ | ⟨_, rfl⟩ | ⟨_, rfl⟩ | ⟨_, rfl⟩ | ⟨_, rfl⟩
    all_goals exact .of_scalar (by decide) rfl
  split
  · rename_i scan scanned
    exact NumberScan.token_isProper scanned
  · trivial

theorem isProper_of_mem_tokens {position : Nat} {chars : List Char} {located : Located}
    (member : located ∈ tokens position chars) : located.token.IsProper := by
  rcases exists_scanToken_of_mem_tokens member with ⟨_, first, rest, _, _, scanned⟩
  rw [scanned]
  exact scanToken_isProper located.position first rest

/-! ## Steps and runs -/

/-- What an open container holds so far. -/
def Frame.content : Frame -> Value
  | .list elements => .list elements
  | .object members _ => .object members

/-- Everything that a state holds: a complete value, or members that wait for the next one, and the
contents of the open containers. -/
def State.contents : State -> List Value
  | .needValue stack | .listStart stack | .objectStart stack => stack.map Frame.content
  | .needName members stack | .needColon members _ stack =>
      .object members :: stack.map Frame.content
  | .complete value stack => value :: stack.map Frame.content

/-- A state holds nothing but proper values. -/
def State.IsProper (state : State) : Prop :=
  ∀ value ∈ state.contents, value.Everywhere Value.IsProper

theorem isProper_of_stepValue {stack : List Frame} {located : Located} {next : State}
    (proper : ∀ value ∈ stack.map Frame.content, value.Everywhere Value.IsProper)
    (token : located.token.IsProper) (step : stepValue stack located = .ok next) :
    next.IsProper := by
  unfold stepValue at step
  split at step
  · rename_i value scalar
    rw [scalar] at token
    cases step
    exact List.forall_mem_cons.mpr ⟨token, proper⟩
  · cases step
    exact List.forall_mem_cons.mpr ⟨.of_scalar trivial rfl, proper⟩
  · cases step
    exact proper
  · cases step
    exact proper
  · cases step
  · cases step
  · cases step

theorem isProper_of_stepName {members : Members} {stack : List Frame} {located : Located}
    {next : State}
    (proper : ∀ value ∈ .object members :: stack.map Frame.content,
      value.Everywhere Value.IsProper)
    (step : stepName members stack located = .ok next) : next.IsProper := by
  unfold stepName at step
  split at step
  · cases step
    exact proper
  · cases step
  · cases step

theorem isProper_of_stepComplete {value : Value} {stack : List Frame} {located : Located}
    {next : State} (proper : (State.complete value stack).IsProper)
    (step : stepComplete value stack located = .ok next) : next.IsProper := by
  unfold stepComplete at step
  rcases List.forall_mem_cons.mp proper with ⟨valueProper, stackProper⟩
  split at step
  · cases step
  · rename_i elements outer
    rcases List.forall_mem_cons.mp stackProper with ⟨listProper, outerProper⟩
    have longer := Value.Everywhere.list_cons listProper valueProper
    split at step
    · cases step
      exact List.forall_mem_cons.mpr ⟨longer, outerProper⟩
    · cases step
      exact List.forall_mem_cons.mpr ⟨longer.list_reverse, outerProper⟩
    · cases step
  · rename_i members name outer
    rcases List.forall_mem_cons.mp stackProper with ⟨objectProper, outerProper⟩
    have distinct : (Members.insert name value members).names.Nodup :=
      Members.nodup_insert objectProper.here
    have longer := Value.Everywhere.insert objectProper valueProper distinct
    split at step
    · cases step
      exact List.forall_mem_cons.mpr ⟨longer, outerProper⟩
    · cases step
      exact List.forall_mem_cons.mpr ⟨longer, outerProper⟩
    · cases step

theorem State.IsProper.step {state next : State} {located : Located} (proper : state.IsProper)
    (token : located.token.IsProper) (step : state.step located = .ok next) : next.IsProper := by
  have emptyObject : (Value.object []).Everywhere Value.IsProper :=
    .of_scalar List.nodup_nil rfl
  have emptyList : (Value.list []).Everywhere Value.IsProper := .of_scalar trivial rfl
  cases state with
  | needValue stack => exact isProper_of_stepValue proper token step
  | listStart stack =>
      unfold State.step at step
      simp only at step
      split at step
      · cases step
        exact List.forall_mem_cons.mpr ⟨emptyList, proper⟩
      · have opened : ∀ value ∈ (Frame.list [] :: stack).map Frame.content,
            value.Everywhere Value.IsProper := List.forall_mem_cons.mpr ⟨emptyList, proper⟩
        exact isProper_of_stepValue opened token step
  | objectStart stack =>
      unfold State.step at step
      simp only at step
      split at step
      · cases step
        exact List.forall_mem_cons.mpr ⟨emptyObject, proper⟩
      · exact isProper_of_stepName (List.forall_mem_cons.mpr ⟨emptyObject, proper⟩) step
  | needName members stack => exact isProper_of_stepName proper step
  | needColon members name stack =>
      unfold State.step at step
      simp only at step
      split at step
      · cases step
        exact proper
      · cases step
  | complete value stack => exact isProper_of_stepComplete proper step

theorem State.IsProper.run {ending : Nat} {state : State} {passed : List Located} {value : Value}
    (proper : state.IsProper) (tokens : ∀ located ∈ passed, located.token.IsProper)
    (run : state.run ending passed = .ok value) : value.Everywhere Value.IsProper := by
  induction passed generalizing state with
  | nil =>
      unfold State.run finish at run
      split at run
      · cases run
        exact proper _ List.mem_cons_self
      all_goals cases run
  | cons located rest inductionHypothesis =>
      rcases List.forall_mem_cons.mp tokens with ⟨first, later⟩
      unfold State.run at run
      split at run
      · rename_i next stepped
        exact inductionHypothesis (proper.step first stepped) later run
      · cases run

/-- A document that was read repeats no member name and holds no integer that is too long. -/
theorem isProper_of_parse {chars : List Char} {value : Value} (read : parse chars = .ok value) :
    value.Everywhere Value.IsProper := by
  unfold parse at read
  split at read
  · cases read
  · have start : (State.needValue []).IsProper := by
      intro held member
      cases member
    exact start.run (fun located => isProper_of_mem_tokens) read

end Document
end RefTree
