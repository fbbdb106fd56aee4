import RefTree.Document.Reader
import RefTree.Proofs.Outcome

namespace RefTree
namespace Document

/-!
# Where reading stops

Reading stops at the first token that does not fit, and the state that the tokens before it have
led to determines the report.  Nearly every report is of a malformation at a position.  The one
exception is an integer of too many digits, which is reported as such if a value may stand where it
stands, and like any other piece that does not fit elsewhere.  It is characterised here by the text
alone: by the tokens up to it, the state they lead to, and its digits.
-/

/-- A fault that is a malformation at some position. -/
def ReadFault.IsMalformation (fault : ReadFault) : Prop :=
  ∃ what position, fault = .malformed what position

/-- The states in which a value may come next. -/
def State.AwaitsValue : State -> Prop
  | .needValue _ | .listStart _ => True
  | _ => False

/-- The state that tokens lead to, if all of them fit. -/
def State.after (state : State) (passed : List Located) : Except ReadFault State :=
  passed.foldlM State.step state

/-- A written number that is an integer of too many digits. -/
def NumberScan.IsLongInteger (scan : NumberScan) : Prop :=
  scan.fraction = [] ∧ scan.exponent = none ∧ Number.maxDigits < scan.whole.length

/-- Reading a text stops at an integer of too many digits: the tokens before it can be read, they
lead to where a value may stand, and it comes next. -/
def StopsAtLongInteger (chars : List Char) : Prop :=
  chars.head? ≠ some (Char.ofNat 0xFEFF) ∧
    ∃ before position scan rest state,
      tokens 0 chars = before ++ ⟨position, scan.token⟩ :: rest ∧
      scanNumber? (chars.drop position) = some scan ∧ scan.IsLongInteger ∧
      (State.needValue []).after before = .ok state ∧ state.AwaitsValue

/-! ## Tokens -/

theorem NumberScan.IsLongInteger.token_eq {scan : NumberScan} (long : scan.IsLongInteger) :
    scan.token = .brokenNumber (.integerTooLong scan.whole.length) := by
  rcases long with ⟨noFraction, noExponent, tooMany⟩
  simp [token, noFraction, noExponent, tooMany]

theorem NumberScan.isLongInteger_of_token {scan : NumberScan} {fault : ReadFault}
    (broken : scan.token = .brokenNumber fault) : scan.IsLongInteger := by
  unfold token at broken
  split at broken
  · rename_i whole
    rcases Bool.and_eq_true_iff.mp whole with ⟨noFraction, noExponent⟩
    split at broken
    · rename_i tooMany
      exact ⟨List.isEmpty_iff.mp noFraction, Option.isNone_iff_eq_none.mp noExponent, tooMany⟩
    · cases broken
  · cases broken

theorem NumberScan.token_ne_brokenText (scan : NumberScan) (fault : ReadFault) :
    scan.token ≠ .brokenText fault := by
  intro broken
  unfold token at broken
  split at broken
  · split at broken
    · cases broken
    · cases broken
  · cases broken

/-- A text that cannot be scanned is malformed, whatever is wrong with it. -/
theorem isMalformation_of_scanText {start position : Nat} {chars : List Char} {fault : ReadFault}
    (failed : scanText start position chars = .error fault) : fault.IsMalformation := by
  fun_induction scanText start position chars
  -- The closing mark ends the text.  Six cases go on scanning and pass a later fault on, and all
  -- others report a malformation themselves.
  case case2 => cases failed
  case case6 inductionHypothesis | case7 inductionHypothesis | case8 inductionHypothesis |
      case9 inductionHypothesis | case11 inductionHypothesis | case14 inductionHypothesis =>
    exact inductionHypothesis (Outcome.map_eq_error_iff.mp failed)
  all_goals
    cases failed
    exact ⟨_, _, rfl⟩

theorem isWhole_of_punctuation? {c : Char} {token : Token} (found : punctuation? c = some token) :
    token.isWhole = true := by
  unfold punctuation? at found
  split at found <;> cases found <;> rfl

/-- Everything that scanning can give at a place: a whole token, a piece that is none, a text that
is malformed, or the number that is written there. -/
theorem scanToken_cases (position : Nat) (first : Char) (rest : List Char) :
    (scanToken position first rest).1.isWhole = true ∨
      (scanToken position first rest).1 = .other ∨
      (∃ fault, (scanToken position first rest).1 = .brokenText fault ∧ fault.IsMalformation) ∨
      ∃ scan, scanNumber? (first :: rest) = some scan ∧
        (scanToken position first rest).1 = scan.token := by
  unfold scanToken
  split
  · rename_i found
    exact Or.inl (isWhole_of_punctuation? found)
  · split
    · split
      · exact Or.inl rfl
      · rename_i failed
        exact Or.inr (Or.inr (Or.inl ⟨_, rfl, isMalformation_of_scanText failed⟩))
    · split
      · exact Or.inl rfl
      · split
        · rename_i scan scanned
          exact Or.inr (Or.inr (Or.inr ⟨scan, scanned, rfl⟩))
        · exact Or.inr (Or.inl rfl)

/-- Every token of a text was scanned at its position. -/
theorem exists_scanToken_of_mem_tokens {position : Nat} {chars : List Char} {located : Located}
    (member : located ∈ tokens position chars) :
    ∃ offset first rest, located.position = position + offset ∧
      chars.drop offset = first :: rest ∧
      located.token = (scanToken located.position first rest).1 := by
  fun_induction tokens position chars with
  | case1 => cases member
  | case2 position c rest spacing inductionHypothesis =>
      rcases inductionHypothesis member with ⟨offset, first, later, place, found, scanned⟩
      exact ⟨offset + 1, first, later, by omega, found, scanned⟩
  | case3 position c rest _ token width scanned inductionHypothesis =>
      rcases List.mem_cons.mp member with rfl | later
      · exact ⟨0, c, rest, rfl, rfl, by rw [scanned]⟩
      · split at later
        · rcases inductionHypothesis later with ⟨offset, first, tail, place, found, scanned⟩
          refine ⟨width + offset + 1, first, tail, by omega, ?_, scanned⟩
          rw [List.drop_succ_cons, ← List.drop_drop, found]
        · cases later

/-- Everything that can stand among the tokens of a text. -/
theorem tokens_cases {chars : List Char} {located : Located} (member : located ∈ tokens 0 chars) :
    located.token.isWhole = true ∨ located.token = .other ∨
      (∃ fault, located.token = .brokenText fault ∧ fault.IsMalformation) ∨
      ∃ scan, scanNumber? (chars.drop located.position) = some scan ∧
        located.token = scan.token := by
  rcases exists_scanToken_of_mem_tokens member with ⟨offset, first, rest, place, found, scanned⟩
  rw [Nat.zero_add] at place
  rw [place, found, scanned]
  exact scanToken_cases located.position first rest

theorem isMalformation_of_mem_tokens {chars : List Char} {located : Located}
    (member : located ∈ tokens 0 chars) (fault : ReadFault)
    (broken : located.token = .brokenText fault) : fault.IsMalformation := by
  rcases tokens_cases member with whole | other | ⟨cause, same, malformed⟩ | ⟨scan, _, same⟩
  · rw [broken] at whole
    cases whole
  · rw [broken] at other
    cases other
  · rw [broken] at same
    cases same
    exact malformed
  · exact absurd (same.symm.trans broken) (scan.token_ne_brokenText fault)

theorem exists_longInteger_of_mem_tokens {chars : List Char} {located : Located}
    (member : located ∈ tokens 0 chars) {fault : ReadFault}
    (broken : located.token = .brokenNumber fault) :
    ∃ scan, scanNumber? (chars.drop located.position) = some scan ∧ scan.IsLongInteger ∧
      located.token = scan.token := by
  rcases tokens_cases member with whole | other | ⟨cause, same, _⟩ | ⟨scan, scanned, same⟩
  · rw [broken] at whole
    cases whole
  · rw [broken] at other
    cases other
  · rw [broken] at same
    cases same
  · exact ⟨scan, scanned, NumberScan.isLongInteger_of_token (same.symm.trans broken), same⟩

/-! ## Steps and runs -/

theorem stepValue_eq_tooLong_iff {stack : List Frame} {located : Located} {digits : Nat}
    (texts : ∀ fault, located.token = .brokenText fault -> fault.IsMalformation) :
    stepValue stack located = .error (.integerTooLong digits) ↔
      located.token = .brokenNumber (.integerTooLong digits) := by
  unfold stepValue
  cases token : located.token with
  | brokenText fault =>
      rcases texts fault token with ⟨what, position, rfl⟩
      simp
  | _ => simp

theorem stepName_ne_tooLong {members : Members} {stack : List Frame} {located : Located}
    {digits : Nat}
    (texts : ∀ fault, located.token = .brokenText fault -> fault.IsMalformation) :
    stepName members stack located ≠ .error (.integerTooLong digits) := by
  unfold stepName
  cases token : located.token with
  | brokenText fault =>
      rcases texts fault token with ⟨what, position, rfl⟩
      simp
  | _ => simp

theorem stepComplete_ne_tooLong {value : Value} {stack : List Frame} {located : Located}
    {digits : Nat} : stepComplete value stack located ≠ .error (.integerTooLong digits) := by
  unfold stepComplete
  intro failed
  split at failed
  · cases failed
  · split at failed <;> cases failed
  · split at failed <;> cases failed

/-- A step reports an integer of too many digits exactly if one stands where a value may stand. -/
theorem State.step_eq_tooLong_iff {state : State} {located : Located} {digits : Nat}
    (texts : ∀ fault, located.token = .brokenText fault -> fault.IsMalformation) :
    state.step located = .error (.integerTooLong digits) ↔
      state.AwaitsValue ∧ located.token = .brokenNumber (.integerTooLong digits) := by
  cases state with
  | needValue stack =>
      simp only [step, AwaitsValue, true_and]
      exact stepValue_eq_tooLong_iff texts
  | listStart stack =>
      simp only [step, AwaitsValue, true_and]
      split
      · rename_i closed
        simp [closed]
      · exact stepValue_eq_tooLong_iff texts
  | objectStart stack =>
      simp only [step, AwaitsValue, false_and, iff_false]
      split
      · simp
      · exact stepName_ne_tooLong texts
  | needName members stack =>
      simp only [step, AwaitsValue, false_and, iff_false]
      exact stepName_ne_tooLong texts
  | needColon members name stack =>
      simp only [step, AwaitsValue, false_and, iff_false]
      split <;> simp
  | complete value stack =>
      simp only [step, AwaitsValue, false_and, iff_false]
      exact stepComplete_ne_tooLong

theorem State.finish_ne_tooLong {state : State} {ending digits : Nat} :
    state.finish ending ≠ .error (.integerTooLong digits) := by
  unfold finish
  split <;> simp

/-- A run reports an integer of too many digits exactly if the step at some token does, after all
the tokens before it have been passed. -/
theorem State.run_eq_tooLong_iff {ending digits : Nat} {state : State} {passed : List Located} :
    state.run ending passed = .error (.integerTooLong digits) ↔
      ∃ before located rest next, passed = before ++ located :: rest ∧
        state.after before = .ok next ∧ next.step located = .error (.integerTooLong digits) := by
  induction passed generalizing state with
  | nil => simp [run, finish_ne_tooLong]
  | cons head tail inductionHypothesis =>
      rw [run]
      constructor
      · intro failed
        split at failed
        · rename_i next stepped
          rcases inductionHypothesis.mp failed with
            ⟨before, located, rest, last, rfl, reached, stopped⟩
          refine ⟨head :: before, located, rest, last, rfl, ?_, stopped⟩
          rw [after, List.foldlM_cons, stepped, Outcome.ok_bind]
          exact reached
        · rename_i fault stepped
          cases failed
          exact ⟨[], head, tail, state, rfl, rfl, stepped⟩
      · rintro ⟨before, located, rest, last, split, reached, stopped⟩
        cases before with
        | nil =>
            rcases List.cons.inj split with ⟨rfl, rfl⟩
            cases reached
            rw [stopped]
        | cons first before =>
            rcases List.cons.inj split with ⟨rfl, rfl⟩
            rw [after, List.foldlM_cons, Outcome.bind_eq_ok_iff] at reached
            rcases reached with ⟨next, stepped, reached⟩
            rw [stepped]
            exact inductionHypothesis.mpr ⟨before, located, rest, last, rfl, reached, stopped⟩

/-- Reading reports an integer of too many digits exactly if it stops at one. -/
theorem parse_tooLong_iff {chars : List Char} :
    (∃ digits, parse chars = .error (.integerTooLong digits)) ↔ StopsAtLongInteger chars := by
  unfold parse StopsAtLongInteger
  by_cases marked : chars.head? = some (Char.ofNat 0xFEFF)
  · simp [marked]
  · rw [if_neg marked]
    simp only [State.run_eq_tooLong_iff]
    constructor
    · rintro ⟨digits, before, located, rest, state, split, reached, stopped⟩
      have member : located ∈ tokens 0 chars := by simp [split]
      have texts := isMalformation_of_mem_tokens member
      rcases (State.step_eq_tooLong_iff texts).mp stopped with ⟨awaits, broken⟩
      rcases exists_longInteger_of_mem_tokens member broken with ⟨scan, scanned, long, same⟩
      refine ⟨marked, before, located.position, scan, rest, state, ?_, scanned, long, reached,
        awaits⟩
      rw [split, ← same]
    · rintro ⟨_, before, position, scan, rest, state, split, scanned, long, reached, awaits⟩
      have member : ⟨position, scan.token⟩ ∈ tokens 0 chars := by simp [split]
      refine ⟨scan.whole.length, before, _, rest, state, split, reached, ?_⟩
      apply (State.step_eq_tooLong_iff (isMalformation_of_mem_tokens member)).mpr
      exact ⟨awaits, long.token_eq⟩

end Document
end RefTree
