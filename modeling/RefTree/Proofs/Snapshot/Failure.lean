import RefTree.Proofs.Document.Reading
import RefTree.Proofs.Snapshot.Infinity
import RefTree.Proofs.Snapshot.ShortIntegers
import RefTree.Snapshot.Load

namespace RefTree

open Document

/-!
# How loading and queries fail

Loading a snapshot is meant to fail in one way, as a snapshot that cannot be used, whatever is wrong
with the file.  The one fault outside of this is an integer of too many digits, and it is
characterised by what the file holds.  Together with the infinite numbers that a query can meet,
this says exactly when every failure is of a kind that is meant.
-/

/-- A file holds text that stops the reader at an integer of too many digits. -/
def Entry.StopsAtLongInteger : Entry -> Prop
  | .file octets =>
      ∃ chars, Text.Utf8.decode octets = .ok chars ∧
        Document.StopsAtLongInteger (Text.unifyLineEnds chars)
  | _ => False

/-! ## Loading -/

/-- Octets hold an integer of too many digits exactly if their text stops the reader at one. -/
theorem Document.ofOctets_tooLong_iff {octets : List UInt8} :
    (∃ digits, ofOctets octets = .error (.integerTooLong digits)) ↔
      (Entry.file octets).StopsAtLongInteger := by
  unfold ofOctets
  simp only [Entry.StopsAtLongInteger]
  cases Text.Utf8.decode octets with
  | error defect => simp
  | ok chars =>
      simp only [Except.ok.injEq, exists_eq_left', ← parse_tooLong_iff]
      cases parse (Text.unifyLineEnds chars) with
      | ok value => simp
      | error fault => cases fault <;> simp

namespace Snapshot

theorem kind_of_ofValue {value : Value} {fault : Fault} (failed : ofValue value = .error fault) :
    fault.kind = .unavailable := by
  unfold ofValue at failed
  split at failed
  · cases failed
  · cases failed
    rfl

/-- Loading fails with a snapshot that cannot be used, unless its file stops the reader at an
integer of too many digits. -/
theorem load_unavailable_iff (path : Path) (entry : Entry) :
    (∀ fault, load path entry = .error fault -> fault.kind = .unavailable) ↔
      ¬entry.StopsAtLongInteger := by
  cases entry with
  | file octets =>
      rw [← ofOctets_tooLong_iff]
      simp only [load, documentAt]
      cases ofOctets octets with
      | ok value =>
          simp only [Outcome.ok_bind, reduceCtorEq, exists_false, not_false_eq_true, iff_true]
          intro fault failed
          exact kind_of_ofValue failed
      | error fault => cases fault <;> simp [Fault.kind]
  | _ => simp [load, documentAt, Entry.StopsAtLongInteger, Fault.kind]

end Snapshot

/-! ## Exactly when all failures are of the kinds that are meant -/

/-- No document fails to become a snapshot except as one that cannot be used.  The same holds of a
file exactly if it does not stop the reader at an integer of too many digits, and a query fails only
in the ways that are meant exactly if it meets no infinite number.

The answers of a query are texts and integers, and the texts of integers are meant for those of at
most `maxDigits` digits.  A snapshot that was loaded holds no others and answers with no others. -/
theorem failures_typed_iff (value : Value) (path : Path) (entry : Entry) (snapshot : Snapshot)
    (query : Query) :
    (∀ fault, Snapshot.ofValue value = .error fault -> fault.kind = .unavailable) ∧
      ((∀ fault, Snapshot.load path entry = .error fault -> fault.kind = .unavailable) ↔
        ¬entry.StopsAtLongInteger) ∧
      ((∀ fault, query.answer snapshot = .fault fault -> fault.kind.IsTyped) ↔
        ¬query.MeetsInfinity snapshot) ∧
      ∀ loaded, Snapshot.load path entry = .ok loaded ->
        loaded.document.Everywhere Value.IsProper ∧ (query.answer loaded).IsShort :=
  ⟨fun _ => Snapshot.kind_of_ofValue, Snapshot.load_unavailable_iff path entry,
    query.forall_isTyped_iff snapshot,
    fun _ found => ⟨Snapshot.isProper_of_load found, query.isShort_answer_of_load found⟩⟩

namespace UntypedFailures

/-- A file that holds nothing but an integer, of some ones. -/
def ones (count : Nat) : List UInt8 :=
  List.replicate count 0x31

/-- A snapshot with one symbol, whose name hash is infinite. -/
def infiniteHash : Value :=
  .object [("symbols", .object [("s", .object [("mangled_name_hash", .double (.infinite false))])])]

theorem decodeFrom_ones (position count : Nat) :
    Text.Utf8.decodeFrom position (ones count) = .ok (List.replicate count '1') := by
  induction count generalizing position with
  | zero => rfl
  | succ count inductionHypothesis =>
      have rest := inductionHypothesis (position + 1)
      unfold ones at rest ⊢
      rw [List.replicate_succ, Text.Utf8.decodeFrom.eq_def]
      simp only [rest]
      rfl

theorem unifyLineEnds_ones (count : Nat) :
    Text.unifyLineEnds (List.replicate count '1') = List.replicate count '1' := by
  induction count with
  | zero => rfl
  | succ count inductionHypothesis =>
      rw [List.replicate_succ, Text.unifyLineEnds]
      · rw [inductionHypothesis]
        rfl
      · simp

theorem scanNumber?_ones (count : Nat) :
    scanNumber? (List.replicate (count + 1) '1') =
      some ⟨false, List.replicate (count + 1) '1', [], none, count + 1⟩ := by
  have whole : scanWhole ('1' :: List.replicate count '1') = '1' :: List.replicate count '1' := by
    rw [scanWhole]
    · rw [← List.replicate_succ, List.takeWhile_replicate]
      rfl
    · simp
  rw [List.replicate_succ]
  unfold scanNumber?
  simp [whole, scanFraction, scanExponent]

/-- The integer is the only token of its file. -/
theorem tokens_ones {count : Nat} {scan : NumberScan} (long : scan.IsLongInteger)
    (scanned : scanNumber? ('1' :: List.replicate count '1') = some scan) :
    tokens 0 ('1' :: List.replicate count '1') = [⟨0, scan.token⟩] := by
  have unnamed : (namedScalars.find? fun named =>
      named.1.isPrefixOf ('1' :: List.replicate count '1')) = none := by
    simp [namedScalars]
  have first : scanToken 0 '1' (List.replicate count '1') = (scan.token, scan.width - 1) := by
    simp [scanToken, punctuation?, unnamed, scanned]
  rw [tokens]
  simp [isSpacing, first, long.token_eq, Token.isWhole]

theorem stopsAtLongInteger_ones {count : Nat} (long : Number.maxDigits < count + 1) :
    (Entry.file (ones (count + 1))).StopsAtLongInteger := by
  refine ⟨_, decodeFrom_ones 0 (count + 1), ?_⟩
  rw [unifyLineEnds_ones]
  have scanned := scanNumber?_ones count
  have isLong : NumberScan.IsLongInteger
      ⟨false, List.replicate (count + 1) '1', [], none, count + 1⟩ := by
    refine ⟨rfl, rfl, ?_⟩
    rw [List.length_replicate]
    exact long
  have unmarked : (List.replicate (count + 1) '1').head? ≠ some (Char.ofNat 0xFEFF) := by
    rw [List.replicate_succ, List.head?_cons]
    decide
  exact ⟨unmarked, [], 0, _, [], .needValue [], tokens_ones isLong scanned, scanned, isLong, rfl,
    trivial⟩

/-- Neither loading nor queries keep to the kinds that are meant: an integer with one digit too
many, and a symbol whose name hash is infinite. -/
theorem failures_not_typed :
    ¬(∀ fault, Snapshot.load (Path.ofText "snapshot.json") (.file (ones 4301)) = .error fault ->
        fault.kind = .unavailable) ∧
      ∃ snapshot, Snapshot.ofValue infiniteHash = .ok snapshot ∧
        (Query.symbol (.text "s")).answer snapshot = .fault .infiniteInteger ∧
        ¬Fault.infiniteInteger.kind.IsTyped := by
  refine ⟨?_, _, rfl, rfl, FaultKind.not_isTyped_overflow⟩
  rw [Snapshot.load_unavailable_iff]
  intro stopsNot
  exact stopsNot (stopsAtLongInteger_ones (by decide))

end UntypedFailures

end RefTree
