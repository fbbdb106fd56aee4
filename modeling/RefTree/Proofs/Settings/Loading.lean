import RefTree.Proofs.Settings.LastSave
import RefTree.Proofs.Snapshot.Failure

namespace RefTree

open Document

/-!
# When settings are loaded

Whatever the file of the settings holds, loading a setting is meant to give a usable value and never
to fail.  Two contents break this.  An integer of too many digits keeps the whole file from being
read, and with it every setting.  A snapshot path that begins in a home directory which the system
does not know keeps this one setting from being loaded.  For all other contents every setting is
loaded, and its value has the form that the rest of the program counts on.
-/

namespace Homes

/-- The system knows the home directory of a user: the name can be looked up, and what is found for
it does not begin with a tilde again. -/
def Knows (homes : Homes) (user : String) : Prop :=
  Char.ofNat 0 ∉ user.toList ∧
    ∃ directory, homes.directory? user = some directory ∧ directory.toList.head? ≠ some '~'

theorem exists_find_iff (homes : Homes) (user : String) :
    (∃ home, homes.find user = .ok home) ↔ homes.Knows user := by
  unfold find Knows
  by_cases null : Char.ofNat 0 ∈ user.toList
  · simp [null]
  · cases homes.directory? user with
    | none => simp [null]
    | some directory =>
        by_cases root : directory.toList.all (· == '/') = true
        · have apart : directory.toList.head? ≠ some '~' := by
            intro first
            have separator := List.all_eq_true.mp root '~' (List.mem_of_head? first)
            revert separator
            decide
          simp [null, root, apart]
        · by_cases tilde : directory.toList.head? = some '~'
          · simp [null, root, tilde]
          · simp [null, root, tilde]

end Homes

namespace Path

theorem user?_eq_some_iff {path : Path} {user : String} :
    path.user? = some user ↔
      path.root = .none ∧ ∃ rest, path.parts = ("~" ++ user) :: rest := by
  rcases path with ⟨root, parts⟩
  constructor
  · intro found
    unfold user? at found
    split at found
    · rename_i first rest rootless named
      split at found
      · rename_i name written
        cases found
        refine ⟨rootless, rest, ?_⟩
        rw [named, ← String.ofList_toList (s := first), written]
        simp
      · cases found
    · cases found
  · rintro ⟨rootless, rest, named⟩
    cases rootless
    cases named
    simp [user?]

/-- A path that begins in the home directory of a user, or in one's own, which the system does not
know. -/
def NamesUnknownHome (homes : Homes) (path : Path) : Prop :=
  path.root = .none ∧ ∃ user rest, path.parts = ("~" ++ user) :: rest ∧ ¬homes.Knows user

theorem namesUnknownHome_iff {homes : Homes} {path : Path} :
    path.NamesUnknownHome homes ↔ ∃ user, path.user? = some user ∧ ¬homes.Knows user := by
  simp only [NamesUnknownHome, user?_eq_some_iff]
  constructor
  · rintro ⟨rootless, user, rest, named, unknown⟩
    exact ⟨user, ⟨rootless, rest, named⟩, unknown⟩
  · rintro ⟨user, ⟨rootless, rest, named⟩, unknown⟩
    exact ⟨rootless, user, rest, named, unknown⟩

/-- A home directory is filled in unless it is one that the system does not know. -/
theorem exists_expandHome_iff (path : Path) (homes : Homes) :
    (∃ expanded, path.expandHome homes = .ok expanded) ↔ ¬path.NamesUnknownHome homes := by
  rw [namesUnknownHome_iff]
  cases begins : path.user? with
  | none => simp [expandHome, begins]
  | some user =>
      have known := homes.exists_find_iff user
      constructor
      · rintro ⟨expanded, filled⟩ ⟨named, same, unknown⟩
        cases same
        simp only [expandHome, begins] at filled
        rcases Outcome.bind_pure_eq_ok_iff.mp filled with ⟨home, found, _⟩
        exact unknown (known.mp ⟨home, found⟩)
      · intro usable
        have knows : homes.Knows user := by
          by_contra unknown
          exact usable ⟨user, rfl, unknown⟩
        rcases known.mpr knows with ⟨home, found⟩
        simp only [expandHome, begins]
        exact ⟨_, Outcome.bind_pure_eq_ok_iff.mpr ⟨home, found, rfl⟩⟩

end Path

namespace Settings

/-- The file of the settings stops the reader at an integer of too many digits. -/
def Store.StopsAtLongInteger (store : Store) : Prop :=
  ∃ octets, store.octets? = some octets ∧ (Entry.file octets).StopsAtLongInteger

/-- The snapshot that is set begins in a home directory which the system does not know. -/
def Store.SnapshotNamesUnknownHome (homes : Homes) (store : Store) : Prop :=
  ∃ text, loadText "snapshot" store = .ok (some text) ∧ (Path.ofText text).NamesUnknownHome homes

/-- A text that is not blank and has no blanks around it. -/
def IsStripped (text : String) : Prop :=
  Text.trim text = text ∧ text ≠ ""

theorem isStripped_of_nonBlank? {value text : String} (found : nonBlank? value = some text) :
    IsStripped text := by
  have again := nonBlank?_of_nonBlank? found
  unfold nonBlank? at again
  rw [Option.ite_none_left_eq_some] at again
  rcases again with ⟨inhabited, same⟩
  have trimmed := Option.some.inj same
  rw [trimmed] at inhabited
  exact ⟨trimmed, inhabited⟩

theorem isStripped_of_textIn? {stored : Option Value} {text : String}
    (found : textIn? stored = some text) : IsStripped text := by
  unfold textIn? at found
  split at found
  · exact isStripped_of_nonBlank? found
  · cases found

theorem one_le_levelsIn (stored : Option Value) : 1 ≤ levelsIn stored := by
  unfold levelsIn
  split
  · split
    · decide
    · omega
  · decide

/-! ## One setting at a time -/

/-- The members of the file are loaded unless it holds an integer of too many digits. -/
theorem exists_load_iff (store : Store) :
    (∃ members, load store = .ok members) ↔ ¬store.StopsAtLongInteger := by
  simp only [Store.StopsAtLongInteger, ← Document.ofOctets_tooLong_iff, load]
  cases store.octets? with
  | none => simp
  | some octets =>
      simp only [Option.some.injEq, exists_eq_left']
      cases ofOctets octets with
      | ok value => cases value <;> simp
      | error fault => cases fault <;> simp

/-- What is read from the members of the file is found only if they can be loaded. -/
theorem not_stops_of_load {result : Type} {store : Store} {next : Members -> Except Fault result}
    {value : result} (found : (load store >>= next) = .ok value) :
    ¬store.StopsAtLongInteger := by
  rcases Outcome.bind_eq_ok_iff.mp found with ⟨members, loaded, _⟩
  exact (exists_load_iff store).mp ⟨members, loaded⟩

/-- A text is loaded unless the file cannot be read, and it is stripped of blanks. -/
theorem exists_loadText_iff (name : String) (store : Store) :
    (∃ found, loadText name store = .ok found ∧ ∀ text ∈ found, IsStripped text) ↔
      ¬store.StopsAtLongInteger := by
  constructor
  · rintro ⟨found, loaded, _⟩
    exact not_stops_of_load loaded
  · intro readable
    rcases (exists_load_iff store).mpr readable with ⟨members, loaded⟩
    exact ⟨_, loadText_eq loaded name, fun text => isStripped_of_textIn?⟩

theorem exists_loadStyle_iff (store : Store) :
    (∃ style, loadStyle store = .ok style ∧ IsStripped style) ↔ ¬store.StopsAtLongInteger := by
  constructor
  · rintro ⟨style, loaded, _⟩
    rcases Outcome.bind_eq_ok_iff.mp loaded with ⟨found, textLoaded, _⟩
    exact not_stops_of_load textLoaded
  · intro readable
    rcases (exists_loadText_iff "style" store).mpr readable with ⟨found, loaded, stripped⟩
    refine ⟨found.getD defaultStyle, Outcome.bind_pure_eq_ok_iff.mpr ⟨found, loaded, rfl⟩, ?_⟩
    cases found with
    | none => exact ⟨by decide, by decide⟩
    | some text => exact stripped text rfl

theorem exists_loadDepth_iff (store : Store) :
    (∃ depth, loadDepth store = .ok depth ∧ 1 ≤ depth) ↔ ¬store.StopsAtLongInteger := by
  constructor
  · rintro ⟨depth, loaded, _⟩
    exact not_stops_of_load loaded
  · intro readable
    rcases (exists_load_iff store).mpr readable with ⟨members, loaded⟩
    exact ⟨_, loadDepth_eq loaded, one_le_levelsIn _⟩

theorem exists_loadSnapshotPath_iff (homes : Homes) (store : Store) :
    (∃ path, loadSnapshotPath homes store = .ok path) ↔
      ¬store.StopsAtLongInteger ∧ ¬store.SnapshotNamesUnknownHome homes := by
  constructor
  · rintro ⟨path, loaded⟩
    rcases Outcome.bind_eq_ok_iff.mp loaded with ⟨found, textLoaded, filled⟩
    refine ⟨not_stops_of_load textLoaded, ?_⟩
    rintro ⟨text, again, names⟩
    rw [textLoaded] at again
    cases again
    rcases Outcome.bind_pure_eq_ok_iff.mp filled with ⟨expanded, expandedHome, _⟩
    exact (Path.exists_expandHome_iff _ homes).mp ⟨expanded, expandedHome⟩ names
  · rintro ⟨readable, known⟩
    rcases (exists_loadText_iff "snapshot" store).mpr readable with ⟨found, loaded, _⟩
    cases found with
    | none => exact ⟨none, Outcome.bind_eq_ok_iff.mpr ⟨none, loaded, rfl⟩⟩
    | some text =>
        have usable : ¬(Path.ofText text).NamesUnknownHome homes :=
          fun names => known ⟨text, loaded, names⟩
        rcases (Path.exists_expandHome_iff _ homes).mpr usable with ⟨expanded, expandedHome⟩
        refine ⟨some expanded, Outcome.bind_eq_ok_iff.mpr ⟨some text, loaded, ?_⟩⟩
        exact Outcome.bind_pure_eq_ok_iff.mpr ⟨expanded, expandedHome, rfl⟩

/-! ## All settings -/

/-- Loading the file, the theme, the style and the number of levels succeeds exactly if the file
does not stop the reader at an integer of too many digits; texts are then stripped of blanks, and
there is at least one level.  The path of the snapshot is loaded exactly if, besides, it does not
begin in a home directory that the system does not know. -/
theorem settings_are_loaded_iff (homes : Homes) (store : Store) :
    ((∃ members, load store = .ok members) ↔ ¬store.StopsAtLongInteger) ∧
    ((∃ theme, loadTheme store = .ok theme ∧ ∀ name ∈ theme, IsStripped name) ↔
      ¬store.StopsAtLongInteger) ∧
    ((∃ style, loadStyle store = .ok style ∧ IsStripped style) ↔ ¬store.StopsAtLongInteger) ∧
    ((∃ depth, loadDepth store = .ok depth ∧ 1 ≤ depth) ↔ ¬store.StopsAtLongInteger) ∧
    ((∃ path, loadSnapshotPath homes store = .ok path) ↔
      ¬store.StopsAtLongInteger ∧ ¬store.SnapshotNamesUnknownHome homes) :=
  ⟨exists_load_iff store, exists_loadText_iff "theme" store, exists_loadStyle_iff store,
    exists_loadDepth_iff store, exists_loadSnapshotPath_iff homes store⟩

namespace BreakingSettings

/-- A file that holds nothing but an integer with one digit too many. -/
def longInteger : Store :=
  .file (UntypedFailures.ones 4301)

def members (snapshot : String) : Members :=
  [("snapshot", .text snapshot)]

/-- A file that sets nothing but a snapshot. -/
def snapshotSet (snapshot : String) : Store :=
  save (.object (members snapshot)) .missing

/-- A system that knows the home directory of one user besides one's own. -/
def homes : Homes :=
  { own := some "/home/me"
    ofUser := fun name => if name = "root" then some "/root" else none }

theorem load_snapshotSet (snapshot : String) :
    load (snapshotSet snapshot) = .ok (members snapshot) := by
  have storable : (Value.object (members snapshot)).IsStorable := by
    refine .intro ⟨List.pairwise_singleton _ "snapshot", trivial⟩ ?_
    intro part member
    cases List.mem_singleton.mp member
    exact .of_scalar ⟨trivial, trivial⟩ rfl
  have missing : Store.missing.IsWritable := trivial
  exact load_save storable missing

/-- Neither file falls back to anything: the one gives no settings at all, the other no path.  For a
user that the system knows the path is found. -/
theorem settings_are_not_loaded :
    (¬∃ members, load longInteger = .ok members) ∧ (¬∃ theme, loadTheme longInteger = .ok theme) ∧
      (¬∃ style, loadStyle longInteger = .ok style) ∧
      (¬∃ depth, loadDepth longInteger = .ok depth) ∧
      load (snapshotSet "~nosuchuser_zz/index.json") =
        .ok (members "~nosuchuser_zz/index.json") ∧
      loadSnapshotPath homes (snapshotSet "~nosuchuser_zz/index.json") = .error .noHomeDirectory ∧
      loadSnapshotPath homes (snapshotSet "~root/index.json") =
        .ok (some (Path.ofText "/root/index.json")) := by
  have long : (Entry.file (UntypedFailures.ones 4301)).StopsAtLongInteger :=
    UntypedFailures.stopsAtLongInteger_ones (by decide)
  have stops : longInteger.StopsAtLongInteger := ⟨_, rfl, long⟩
  refine ⟨?_, ?_, ?_, ?_, load_snapshotSet _, ?_, ?_⟩
  · rw [exists_load_iff]
    exact not_not_intro stops
  · rintro ⟨theme, found⟩
    exact not_stops_of_load found stops
  · rintro ⟨style, found⟩
    rcases Outcome.bind_eq_ok_iff.mp found with ⟨text, textLoaded, _⟩
    exact not_stops_of_load textLoaded stops
  · rintro ⟨depth, found⟩
    exact not_stops_of_load found stops
  · unfold loadSnapshotPath
    rw [loadText_eq (load_snapshotSet _)]
    rfl
  · unfold loadSnapshotPath
    rw [loadText_eq (load_snapshotSet _)]
    rfl

end BreakingSettings

end Settings
end RefTree
