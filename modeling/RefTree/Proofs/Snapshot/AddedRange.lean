import RefTree.Proofs.Reference.Spelling
import RefTree.Session

namespace RefTree

open Document

/-!
# A range changes nothing else in a symbol

A record with a range is read like the payload of a reference, and a record without one is read on
its own.  Both readings are described here by the same parts of the record: the tags, the display
value and the hash.  Where these can be read, a range that can be read is all that tells the two
symbols apart; where they cannot, both readings fail.

The readings name different owners in their faults, so failures are not compared any further.
-/

/-! ## Changing one member of a record -/

namespace Document.Members

/-- A change of one member is seen where this member is looked up. -/
theorem find?_modify_self (name : String) (change : Value -> Value) (members : Members) :
    find? name (modify name change members) = (find? name members).map change := by
  induction members with
  | nil => rfl
  | cons head rest inductionHypothesis =>
      rw [modify] at inductionHypothesis
      by_cases same : head.1 = name
      · simp [modify, find?, same]
      · simp [modify, find?, same, inductionHypothesis]

end Document.Members

namespace Snapshot

theorem symbolRecord_eq_ok_iff {snapshot : Snapshot} {id : String} {record : Members} :
    snapshot.symbolRecord id = .ok record ↔
      ∃ symbols, Members.find? "symbols" snapshot.members = some (.object symbols) ∧
        Members.find? id symbols = some (.object record) := by
  unfold symbolRecord table
  constructor
  · intro recorded
    split at recorded
    · rename_i members found
      cases recorded
      split at found
      · rename_i symbols listed
        exact ⟨symbols, listed, found⟩
      · cases found
    · cases recorded
  · rintro ⟨symbols, listed, found⟩
    simp only [listed, found]

/-- The snapshot after a host has given the record of a symbol a range. -/
def withRange (snapshot : Snapshot) (id : String) (range : Value) : Snapshot :=
  (Session.change { snapshot }
    (Value.setAt [.member "symbols", .member id, .member "range"] range)).snapshot

theorem symbolRecord_withRange {snapshot : Snapshot} {id : String} {record : Members}
    (recorded : snapshot.symbolRecord id = .ok record) (range : Value) :
    (snapshot.withRange id range).symbolRecord id = .ok (Members.insert "range" range record) := by
  rcases symbolRecord_eq_ok_iff.mp recorded with ⟨symbols, listed, found⟩
  let change : Value -> Value := Value.modify (Value.setStep (.member "range") range) [.member id]
  have changed : (snapshot.withRange id range).members =
      Members.modify "symbols" change snapshot.members := rfl
  apply symbolRecord_eq_ok_iff.mpr
  refine ⟨Members.modify id (Value.setStep (.member "range") range) symbols, ?_, ?_⟩
  · rw [changed, Members.find?_modify_self, listed]
    rfl
  · rw [Members.find?_modify_self, found]
    rfl

end Snapshot

/-! ## What can be a range -/

namespace Reference

/-- A value is taken as a range if a payload with nothing but an id and this range can be read. -/
def IsRange (range : Value) : Prop :=
  ∃ id reference, decode (.object [("id", id), ("range", range)]) = .ok reference

/-- The position that the members of a range give. -/
structure GivesPosition (range : Members) (position : SourceRange) : Prop where
  file : fileField? range = some position.file
  line : ((Members.find? "line" (startPosition range)).getD (.int 0)).StandsFor position.line
  column : ((Members.find? "column" (startPosition range)).getD (.int 0)).StandsFor position.column

theorem exists_standsFor_getD {field : Option Value}
    (held : ∀ value, field = some value -> ∃ n, value.StandsFor n) :
    ∃ n, (field.getD (.int 0)).StandsFor n := by
  cases field with
  | none => exact ⟨0, .int 0⟩
  | some value => exact held value rfl

/-- A range is an object with a file that is neither null nor empty.  If it has a line or a column,
these stand for integers. -/
theorem isRange_iff {range : Value} :
    IsRange range ↔ ∃ members, range = .object members ∧
      (∃ file, Members.find? "file" members = some file ∧ file ≠ .null ∧ file ≠ .text "") ∧
      ∀ name ∈ ["line", "column"], ∀ value,
        Members.find? name (startPosition members) = some value -> ∃ n, value.StandsFor n := by
  constructor
  · rintro ⟨id, reference, read⟩
    change ofMembers [("id", id), ("range", range)] = .ok reference at read
    rcases isReadable_and_describes_of_ofMembers read with ⟨members, readable, _⟩
    have integers := readable.hasIntegers
    simp only [payloadIntegers, List.forall_mem_cons] at integers
    refine ⟨members, by simpa [Members.find?] using readable.hasRange, readable.hasFile, ?_⟩
    intro name known value found
    rcases List.mem_pair.mp known with rfl | rfl
    · simpa [found] using integers.1
    · simpa [found] using integers.2.1
  · rintro ⟨members, rfl, hasFile, held⟩
    have line := exists_standsFor_getD (held "line" (by simp))
    have column := exists_standsFor_getD (held "column" (by simp))
    have readable : IsReadable [("id", .null), ("range", .object members)] members :=
      { hasId := ⟨.null, rfl⟩
        hasRange := rfl
        hasFile
        hasTags := by simp [HoldsTags, Members.find?]
        hasIntegers := by
          simp only [payloadIntegers, List.forall_mem_cons]
          exact ⟨line, column, ⟨0, .int 0⟩, List.forall_mem_nil _⟩ }
    exact ⟨.null, readable.exists_ofMembers⟩

theorem IsRange.exists_givesPosition {range : Value} (isRange : IsRange range) :
    ∃ members position, range = .object members ∧ GivesPosition members position := by
  rcases isRange_iff.mp isRange with ⟨members, rfl, ⟨file, found, notNull, notEmpty⟩, held⟩
  rcases exists_standsFor_getD (held "line" (by simp)) with ⟨line, lineHeld⟩
  rcases exists_standsFor_getD (held "column" (by simp)) with ⟨column, columnHeld⟩
  have named := fileField?_eq_some_iff.mpr ⟨file, found, notNull, notEmpty, rfl⟩
  exact ⟨members, ⟨file.plain, line, column⟩, rfl, named, lineHeld, columnHeld⟩

end Reference

/-! ## Both readings of a record -/

namespace Snapshot

/-- The tags of a record can be read, and its hash stands for an integer. -/
def HoldsHash (record : Members) (nameHash : Int) : Prop :=
  HoldsTags (Members.find? "tags" record) ∧
    ((Members.find? "mangled_name_hash" record).getD (.int 0)).StandsFor nameHash

/-- The symbol that a record describes with a range and a hash. -/
def describedSymbol (id : Value) (record : Members) (range : Option SourceRange)
    (nameHash : Int) : Symbol where
  id := id.plain
  range
  displayValue := plainField (Members.find? "display_value" record)
  tags := tagSet ((tagElements (Members.find? "tags" record)).map Value.plain)
  nameHash

theorem symbol_eq_ok_iff_of_unranged {snapshot : Snapshot} {id : Value} {record : Members}
    (recorded : snapshot.symbolRecord id.plain = .ok record)
    (unranged : Members.find? "range" record = none) {symbol : Symbol} :
    snapshot.symbol id = .ok symbol ↔
      ∃ nameHash, HoldsHash record nameHash ∧ symbol = describedSymbol id record none nameHash := by
  simp only [Snapshot.symbol, recorded, unranged, Outcome.ok_bind, Outcome.bind_eq_ok_iff,
    Outcome.pure_eq_ok, Except.ok.injEq, tagsField_eq_ok_iff, integerMember_eq_ok_iff]
  constructor
  · rintro ⟨_, ⟨holdsTags, rfl⟩, nameHash, held, rfl⟩
    exact ⟨nameHash, ⟨holdsTags, held⟩, rfl⟩
  · rintro ⟨nameHash, ⟨holdsTags, held⟩, rfl⟩
    exact ⟨_, ⟨holdsTags, rfl⟩, nameHash, held, rfl⟩

theorem find?_symbolPayload {name : String} (other : name ≠ "id") (id : Value)
    (record : Members) :
    Members.find? name (symbolPayload id record) = Members.find? name record := by
  rw [symbolPayload, Members.find?, if_neg (Ne.symm other), Members.find?_erase_of_ne other]

theorem symbol_eq_ok_iff_of_ranged {snapshot : Snapshot} {id : Value} {record range : Members}
    (recorded : snapshot.symbolRecord id.plain = .ok record)
    (ranged : Members.find? "range" record = some (.object range))
    (unnamed : Members.find? "id" record = none) {symbol : Symbol} :
    snapshot.symbol id = .ok symbol ↔
      ∃ position nameHash, Reference.GivesPosition range position ∧ HoldsHash record nameHash ∧
        symbol = describedSymbol id record (some position) nameHash := by
  have named : Members.find? "id" (symbolPayload id record) = some id := by
    rw [symbolPayload, Members.find?, if_pos rfl, unnamed]
    rfl
  have rangeFound : Members.find? "range" (symbolPayload id record) = some (.object range) := by
    rw [find?_symbolPayload (by decide), ranged]
  have tagsFound := find?_symbolPayload (show "tags" ≠ "id" by decide) id record
  have shownFound := find?_symbolPayload (show "display_value" ≠ "id" by decide) id record
  have hashFound := find?_symbolPayload (show "mangled_name_hash" ≠ "id" by decide) id record
  simp only [Snapshot.symbol, recorded, ranged, Outcome.ok_bind, Outcome.bind_pure_eq_ok_iff,
    Reference.ofMembers_eq_ok_iff, tagsField_eq_ok_iff, integerMember_eq_ok_iff, tagsFound,
    shownFound, hashFound]
  constructor
  · rintro ⟨_, ⟨idValue, members, file, _, line, column, nameHash, idFound, found, fileRead,
      ⟨holdsTags, rfl⟩, lineHeld, columnHeld, hashHeld, rfl⟩, rfl⟩
    cases named.symm.trans idFound
    cases rangeFound.symm.trans found
    exact ⟨⟨file, line, column⟩, nameHash, ⟨fileRead, lineHeld, columnHeld⟩,
      ⟨holdsTags, hashHeld⟩, rfl⟩
  · rintro ⟨position, nameHash, gives, ⟨holdsTags, hashHeld⟩, rfl⟩
    exact ⟨_, ⟨id, range, position.file, _, position.line, position.column, nameHash, named,
      rangeFound, gives.file, ⟨holdsTags, rfl⟩, gives.line, gives.column, hashHeld, rfl⟩, rfl⟩

/-! ## With and without a range -/

/-- A new range is seen by no look-up but its own. -/
theorem holdsHash_insert_range {record : Members} {range : Value} {nameHash : Int} :
    HoldsHash (Members.insert "range" range record) nameHash ↔ HoldsHash record nameHash := by
  unfold HoldsHash
  rw [Members.find?_insert_of_ne _ _ _ _ (show "tags" ≠ "range" by decide),
    Members.find?_insert_of_ne _ _ _ _ (show "mangled_name_hash" ≠ "range" by decide)]

theorem describedSymbol_insert_range (id : Value) (record : Members) (range : Value)
    (position : Option SourceRange) (nameHash : Int) :
    describedSymbol id (Members.insert "range" range record) position nameHash =
      { describedSymbol id record none nameHash with range := position } := by
  unfold describedSymbol
  rw [Members.find?_insert_of_ne _ _ _ _ (show "tags" ≠ "range" by decide),
    Members.find?_insert_of_ne _ _ _ _ (show "display_value" ≠ "range" by decide)]

/-- If a record has neither a range nor an id of its own, its symbol is found exactly if it is found
after the record was given a range that can be read.  The symbol then has this range and is the same
in all other respects. -/
theorem added_range_changes_nothing_else {snapshot : Snapshot} {id : Value} {record : Members}
    {range : Value} (recorded : snapshot.symbolRecord id.plain = .ok record)
    (unranged : Members.find? "range" record = none)
    (unnamed : Members.find? "id" record = none) (isRange : Reference.IsRange range) :
    ((∃ symbol, snapshot.symbol id = .ok symbol) ↔
      ∃ symbol, (snapshot.withRange id.plain range).symbol id = .ok symbol) ∧
    ∀ symbol other, snapshot.symbol id = .ok symbol ->
      (snapshot.withRange id.plain range).symbol id = .ok other ->
      symbol.range = none ∧ ∃ members position, range = .object members ∧
        Reference.GivesPosition members position ∧
        other = { symbol with range := some position } := by
  rcases isRange.exists_givesPosition with ⟨members, somePosition, rfl, someGiven⟩
  have changed := symbolRecord_withRange recorded (.object members)
  have ranged := Members.find?_insert_self "range" (.object members) record
  have stillUnnamed : Members.find? "id" (Members.insert "range" (.object members) record) = none :=
    (Members.find?_insert_of_ne _ _ _ _ (by decide)).trans unnamed
  simp only [symbol_eq_ok_iff_of_unranged recorded unranged,
    symbol_eq_ok_iff_of_ranged changed ranged stillUnnamed, holdsHash_insert_range,
    describedSymbol_insert_range]
  refine ⟨⟨?_, ?_⟩, ?_⟩
  · rintro ⟨_, nameHash, held, _⟩
    exact ⟨_, somePosition, nameHash, someGiven, held, rfl⟩
  · rintro ⟨_, _, nameHash, _, held, _⟩
    exact ⟨_, nameHash, held, rfl⟩
  · rintro _ _ ⟨nameHash, held, rfl⟩ ⟨position, otherHash, gives, otherHeld, rfl⟩
    have sameHash : otherHash = nameHash :=
      Except.ok.inj ((Value.integer_eq_ok_iff.mpr otherHeld.2).symm.trans
        (Value.integer_eq_ok_iff.mpr held.2))
    exact ⟨rfl, members, position, rfl, gives, by rw [sameHash]⟩

namespace RangelessRecord

/-- The symbol `5` has an empty object for its tags, null for its display value and a numeral for
its hash. -/
def record : Members :=
  [("tags", .object []), ("display_value", .null), ("mangled_name_hash", .text " -7 ")]

def snapshot : Snapshot where
  members := [("symbols", .object [("5", .object record)])]

def symbol : Symbol where
  id := "5"
  range := none
  displayValue := "None"
  tags := []
  nameHash := -7

/-- The members of a range with a number for its file and no line. -/
def range : Members :=
  [("file", .int 0), ("startpos", .object [("column", .text "+4")])]

/-- With the range the same symbol is found at column four of the file `0`. -/
theorem added_range_changes_nothing_else_in_five :
    snapshot.symbolRecord (Value.int 5).plain = .ok record ∧ Reference.IsRange (.object range) ∧
    snapshot.symbol (.int 5) = .ok symbol ∧
    (snapshot.withRange "5" (.object range)).symbol (.int 5) =
      .ok { symbol with range := some ⟨"0", 0, 4⟩ } ∧
    ∃ members position, Value.object range = .object members ∧
      Reference.GivesPosition members position ∧
      { symbol with range := some ⟨"0", 0, 4⟩ } = { symbol with range := some position } := by
  have recorded : snapshot.symbolRecord (Value.int 5).plain = .ok record := rfl
  have isRange : Reference.IsRange (.object range) := ⟨.null, _, rfl⟩
  have found : snapshot.symbol (.int 5) = .ok symbol := rfl
  have ranged : (snapshot.withRange "5" (.object range)).symbol (.int 5) =
      .ok { symbol with range := some ⟨"0", 0, 4⟩ } := rfl
  have same := added_range_changes_nothing_else recorded rfl rfl isRange
  exact ⟨recorded, isRange, found, ranged, (same.2 _ _ found ranged).2⟩

end RangelessRecord

end Snapshot
end RefTree
