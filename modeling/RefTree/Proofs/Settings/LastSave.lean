import Mathlib.Data.List.DropRight
import RefTree.Proofs.Settings.RoundTrip

namespace RefTree

open Document

/-!
# The last save of a setting is the one that counts

Saving a setting reads the whole file, replaces one member and writes the whole file again.  So
that nothing is lost on the way, each save has to leave a file which is read back as it was meant.
This is the invariant of a sequence of saves.  Given it, what is loaded in the end can be read off
the saves: for each setting the last one that had an effect, and the initial value if none had.
-/

namespace Text

theorem trimChars_trimChars (drop : Char -> Bool) (chars : List Char) :
    trimChars drop (trimChars drop chars) = trimChars drop chars := by
  have kept : (trimChars drop chars).dropWhile drop = trimChars drop chars := by
    rw [List.dropWhile_eq_self_iff]
    intro inhabited
    have start : trimChars drop chars <+: chars.dropWhile drop := List.rdropWhile_prefix drop _
    rw [start.getElem inhabited]
    exact List.dropWhile_eq_self_iff.mp (List.dropWhile_idempotent drop chars) _
  have trimmed :
      trimChars drop (trimChars drop chars) = (trimChars drop chars).rdropWhile drop := by
    rw [List.rdropWhile, trimChars, kept]
  rw [trimmed]
  exact List.rdropWhile_idempotent drop (chars.dropWhile drop)

theorem trim_trim (text : String) : trim (trim text) = trim text := by
  unfold trim
  rw [String.toList_ofList, trimChars_trimChars]

end Text

namespace Settings

/-! ## Changes -/

/-- One request to save a setting. -/
inductive Change where
  | theme (value : String)
  | style (value : String)
  | snapshot (path : Path)
  | depth (levels : Int)

/-- A text without the blanks around it, unless nothing is left. -/
def nonBlank? (value : String) : Option String :=
  if Text.trim value = "" then none else some (Text.trim value)

theorem nonBlank?_of_nonBlank? {value text : String} (found : nonBlank? value = some text) :
    nonBlank? text = some text := by
  unfold nonBlank? at found ⊢
  split at found
  · cases found
  · rename_i inhabited
    cases found
    rw [Text.trim_trim, if_neg inhabited]

/-- The members of a file under other names than the given ones, in order. -/
def others (saved : List String) (members : Members) : Members :=
  members.filter fun member => member.1 ∉ saved

theorem others_insert {saved : List String} {name : String} (known : name ∈ saved) (value : Value)
    (members : Members) :
    others saved (Members.insert name value members) = others saved members := by
  unfold others
  induction members with
  | nil => simp [Members.insert, known]
  | cons head rest inductionHypothesis =>
      rcases head with ⟨other, old⟩
      by_cases same : other = name
      · simp [Members.insert, same, known]
      · rw [Members.insert, if_neg same, List.filter_cons, List.filter_cons, inductionHypothesis]

namespace Change

def perform : Change -> Store -> Except Fault Store
  | .theme value => saveTheme (.text value)
  | .style value => saveStyle (.text value)
  | .snapshot path => saveSnapshotPath path
  | .depth levels => saveDepth (.int levels)

def performAll (changes : List Change) (store : Store) : Except Fault Store :=
  changes.foldlM (fun current change => change.perform current) store

/-- There is nothing to save: the text is blank, or there is no level. -/
def IsVoid : Change -> Prop
  | .theme value | .style value => Text.trim value = ""
  | .snapshot path => Text.trim path.text = ""
  | .depth levels => levels < 1

/-- The number of levels, if the change gives one, is short enough to be read back. -/
def IsShort : Change -> Prop
  | .depth levels => digitCount levels ≤ Number.maxDigits
  | _ => True

instance : DecidablePred IsShort
  | .depth levels => inferInstanceAs (Decidable (digitCount levels ≤ Number.maxDigits))
  | .theme _ | .style _ | .snapshot _ => .isTrue trivial

/-- The theme that a change sets, if it has an effect. -/
def theme? : Change -> Option String
  | .theme value => nonBlank? value
  | _ => none

def style? : Change -> Option String
  | .style value => nonBlank? value
  | _ => none

/-- The text of the snapshot path that a change sets, if it has an effect. -/
def snapshot? : Change -> Option String
  | .snapshot path => nonBlank? path.text
  | _ => none

def depth? : Change -> Option Int
  | .depth levels => if levels < 1 then none else some levels
  | _ => none

/-- The last thing of some kind that is set by changes. -/
def last? {setting : Type} (select : Change -> Option setting) (changes : List Change) :
    Option setting :=
  (changes.filterMap select).getLast?

theorem last?_cons {setting : Type} (select : Change -> Option setting) (change : Change)
    (rest : List Change) :
    last? select (change :: rest) = (last? select rest).or (select change) := by
  unfold last?
  cases chosen : select change with
  | none => rw [List.filterMap_cons_none chosen, Option.or_none]
  | some value =>
      rw [List.filterMap_cons_some chosen, List.getLast?_cons]
      cases (rest.filterMap select).getLast? <;> rfl

/-! ## The member that a change stores -/

/-- The member that a change stores, if it has an effect. -/
def member? : Change -> Option (String × Value)
  | .theme value => (nonBlank? value).map fun text => ("theme", .text text)
  | .style value => (nonBlank? value).map fun text => ("style", .text text)
  | .snapshot path => (nonBlank? path.text).map fun text => ("snapshot", .text text)
  | .depth levels => if levels < 1 then none else some ("depth", .int levels)

/-- The names under which changes store something. -/
def savedNames (changes : List Change) : List String :=
  changes.filterMap fun change => change.member?.map Prod.fst

/-- What a change makes of the members of the file. -/
def edit (change : Change) (members : Members) : Members :=
  match change.member? with
  | some (name, value) => Members.insert name value members
  | none => members

def edited (changes : List Change) (members : Members) : Members :=
  changes.foldl (fun current change => change.edit current) members

theorem isVoid_iff {change : Change} : change.IsVoid ↔ change.member? = none := by
  cases change <;> simp [IsVoid, member?, nonBlank?]

/-- A change stores a trimmed text or a number of levels. -/
theorem cases_of_member? {change : Change} {name : String} {value : Value}
    (stored : change.member? = some (name, value)) :
    (∃ text, nonBlank? text = some text ∧ value = .text text) ∨
      ∃ levels, change = .depth levels ∧ value = .int levels := by
  have trimmed : ∀ setting given : String,
      ((nonBlank? given).map fun text => (setting, Value.text text)) = some (name, value) ->
      ∃ text, nonBlank? text = some text ∧ value = .text text := by
    intro setting given mapped
    rcases Option.map_eq_some_iff.mp mapped with ⟨text, found, same⟩
    cases same
    exact ⟨text, nonBlank?_of_nonBlank? found, rfl⟩
  cases change with
  | theme given => exact Or.inl (trimmed "theme" given stored)
  | style given => exact Or.inl (trimmed "style" given stored)
  | snapshot path => exact Or.inl (trimmed "snapshot" path.text stored)
  | depth levels =>
      rw [member?, Option.ite_none_left_eq_some] at stored
      rcases stored with ⟨_, same⟩
      cases same
      exact Or.inr ⟨levels, rfl, rfl⟩

theorem isStorable_of_member? {change : Change} {name : String} {value : Value}
    (short : change.IsShort) (stored : change.member? = some (name, value)) :
    value.IsStorable := by
  rcases cases_of_member? stored with ⟨text, _, rfl⟩ | ⟨levels, rfl, rfl⟩
  · exact .of_scalar ⟨trivial, trivial⟩ rfl
  · exact .of_scalar ⟨short, trivial⟩ rfl

end Change

/-! ## Loading and saving, by what the file holds -/

theorem isProper_of_load {store : Store} {members : Members} (loaded : load store = .ok members) :
    (Value.object members).Everywhere Value.IsProper := by
  have empty : (Value.object []).Everywhere Value.IsProper := .of_scalar List.nodup_nil rfl
  unfold load at loaded
  split at loaded
  · split at loaded
    · rename_i found read
      cases loaded
      exact isProper_of_ofOctets read
    · cases loaded
    · cases loaded
      exact empty
  · cases loaded
    exact empty

theorem saveText_eq (name value : String) (store : Store) :
    saveText name value store =
      match nonBlank? value with
      | none => .ok store
      | some text => load store >>= fun members =>
          .ok (save (.object (Members.insert name (.text text) members)) store) := by
  unfold saveText nonBlank?
  by_cases blank : Text.trim value = ""
  · simp [blank]
  · simp [blank]

namespace Change

/-- A change reads the file, edits its members and writes them, or does not touch it at all. -/
theorem perform_eq (change : Change) (store : Store) :
    change.perform store =
      match change.member? with
      | none => .ok store
      | some (name, value) => load store >>= fun members =>
          .ok (save (.object (Members.insert name value members)) store) := by
  have text : ∀ name value, saveText name value store =
      match (nonBlank? value).map fun text => (name, Value.text text) with
      | none => .ok store
      | some (name, value) => load store >>= fun members =>
          .ok (save (.object (Members.insert name value members)) store) := by
    intro name value
    rw [saveText_eq]
    cases nonBlank? value <;> rfl
  cases change with
  | theme value => simp only [perform, saveTheme, Value.plain, member?, text]
  | style value => simp only [perform, saveStyle, Value.plain, member?, text]
  | snapshot path => simp only [perform, saveSnapshotPath, member?, text]
  | depth levels =>
      by_cases few : levels < 1
      · simp [perform, saveDepth, isBelowOne, member?, few]
      · simp [perform, saveDepth, isBelowOne, depthOf, member?, few]

/-- A void change does not touch the file. -/
theorem perform_of_isVoid {change : Change} (void : change.IsVoid) (store : Store) :
    change.perform store = .ok store := by
  rw [perform_eq, isVoid_iff.mp void]

/-! ## One member after many changes -/

/-- A selection of settings is what changes store under a name. -/
def Reads {setting : Type} (name : String) (asValue : setting -> Value)
    (select : Change -> Option setting) : Prop :=
  ∀ change value, change.member? = some (name, value) ↔
    ∃ chosen, select change = some chosen ∧ asValue chosen = value

theorem reads_theme : Reads "theme" .text theme? := by
  intro change value
  cases change <;> simp [member?, theme?]

theorem reads_style : Reads "style" .text style? := by
  intro change value
  cases change <;> simp [member?, style?]

theorem reads_snapshot : Reads "snapshot" .text snapshot? := by
  intro change value
  cases change <;> simp [member?, snapshot?]

theorem reads_depth : Reads "depth" .int depth? := by
  intro change value
  cases change <;> simp [member?, depth?]

section Reads

variable {setting : Type} {name : String} {asValue : setting -> Value}
  {select : Change -> Option setting}

theorem find?_edit (reads : Reads name asValue select) (change : Change) (members : Members) :
    Members.find? name (change.edit members) =
      ((select change).map asValue).or (Members.find? name members) := by
  unfold edit
  cases stored : change.member? with
  | none =>
      cases chosen : select change with
      | none => rfl
      | some value =>
          rw [(reads change (asValue value)).mpr ⟨value, chosen, rfl⟩] at stored
          cases stored
  | some member =>
      rcases member with ⟨other, value⟩
      by_cases same : other = name
      · subst same
        rcases (reads change value).mp stored with ⟨choice, chosen, rfl⟩
        simp [chosen]
      · have unchosen : select change = none := by
          rw [Option.eq_none_iff_forall_not_mem]
          intro choice chosen
          have found := (reads change (asValue choice)).mpr ⟨choice, chosen, rfl⟩
          rw [stored] at found
          exact same (congrArg Prod.fst (Option.some.inj found))
        simp [unchosen, Members.find?_insert_of_ne _ _ _ _ (Ne.symm same)]

/-- Under each name stands what was last stored there, or what stood there at first. -/
theorem find?_edited (reads : Reads name asValue select) (changes : List Change)
    (members : Members) :
    Members.find? name (edited changes members) =
      ((last? select changes).map asValue).or (Members.find? name members) := by
  induction changes generalizing members with
  | nil => rfl
  | cons change rest inductionHypothesis =>
      calc Members.find? name (edited (change :: rest) members)
          = Members.find? name (edited rest (change.edit members)) := rfl
        _ = ((last? select rest).map asValue).or
              (((select change).map asValue).or (Members.find? name members)) := by
            rw [inductionHypothesis, find?_edit reads]
        _ = ((last? select (change :: rest)).map asValue).or (Members.find? name members) := by
            rw [last?_cons, Option.map_or, Option.or_assoc]

end Reads

/-! ## All other members -/

theorem others_edit {saved : List String} {change : Change} (members : Members)
    (known : ∀ name ∈ change.member?.map Prod.fst, name ∈ saved) :
    others saved (change.edit members) = others saved members := by
  unfold edit
  cases stored : change.member? with
  | none => rfl
  | some member =>
      rw [stored] at known
      exact others_insert (known member.1 rfl) member.2 members

/-- Members under names that are not saved stay as they are. -/
theorem others_edited {saved : List String} (changes : List Change) (members : Members)
    (known : ∀ name ∈ savedNames changes, name ∈ saved) :
    others saved (edited changes members) = others saved members := by
  induction changes generalizing members with
  | nil => rfl
  | cons change rest inductionHypothesis =>
      have first : ∀ name ∈ change.member?.map Prod.fst, name ∈ saved := by
        intro name member
        exact known name (List.mem_filterMap.mpr ⟨change, List.mem_cons_self, member⟩)
      have later : ∀ name ∈ savedNames rest, name ∈ saved := by
        intro name member
        rcases List.mem_filterMap.mp member with ⟨other, belongs, stored⟩
        exact known name (List.mem_filterMap.mpr ⟨other, List.mem_cons_of_mem _ belongs, stored⟩)
      calc others saved (edited (change :: rest) members)
          = others saved (edited rest (change.edit members)) := rfl
        _ = others saved (change.edit members) := inductionHypothesis _ later
        _ = others saved members := others_edit members first

theorem isPrefix_names_edit (change : Change) (members : Members) :
    members.names <+: (change.edit members).names := by
  unfold edit
  split
  · rename_i name value stored
    rw [Members.names_insert]
    split
    · exact List.prefix_rfl
    · exact List.prefix_append _ _
  · exact List.prefix_rfl

/-- The members that were there keep their places. -/
theorem isPrefix_names_edited (changes : List Change) (members : Members) :
    members.names <+: (edited changes members).names := by
  induction changes generalizing members with
  | nil => exact List.prefix_rfl
  | cons change rest inductionHypothesis =>
      exact (isPrefix_names_edit change members).trans (inductionHypothesis (change.edit members))

end Change

/-! ## Files along a sequence of changes -/

/-- A file from which members are loaded and where they can be saved. -/
structure Store.Holds (store : Store) (members : Members) : Prop where
  writable : store.IsWritable
  loaded : load store = .ok members
  storable : (Value.object members).IsStorable

namespace Store.Holds

variable {store : Store} {members : Members}

theorem of_save (writable : store.IsWritable) (storable : (Value.object members).IsStorable) :
    (save (.object members) store).Holds members where
  writable := by
    rw [save_of_isWritable writable]
    trivial
  loaded := load_save storable writable
  storable := storable

/-- What is loaded at first can be saved again if it holds no doubles. -/
theorem of_load (writable : store.IsWritable) (loaded : load store = .ok members)
    (exact : (Value.object members).Everywhere Value.IsExact) : store.Holds members where
  writable := writable
  loaded := loaded
  storable := (isProper_of_load loaded).and exact

theorem step (holds : store.Holds members) {change : Change} (short : change.IsShort) :
    ∃ next, change.perform store = .ok next ∧ next.Holds (change.edit members) := by
  unfold Change.edit
  rw [Change.perform_eq]
  cases stored : change.member? with
  | none => exact ⟨store, rfl, holds⟩
  | some member =>
      rcases member with ⟨name, value⟩
      have inserted : (Value.object (Members.insert name value members)).IsStorable :=
        holds.storable.insert (change.isStorable_of_member? short stored)
          ⟨Members.nodup_insert holds.storable.here.1, trivial⟩
      refine ⟨save (.object (Members.insert name value members)) store, ?_, ?_⟩
      · simp only [holds.loaded, Outcome.ok_bind]
      · exact of_save holds.writable inserted

theorem run (holds : store.Holds members) {changes : List Change}
    (short : ∀ change ∈ changes, change.IsShort) :
    ∃ final, Change.performAll changes store = .ok final ∧
      final.Holds (Change.edited changes members) := by
  induction changes generalizing store members with
  | nil => exact ⟨store, rfl, holds⟩
  | cons change rest inductionHypothesis =>
      rcases List.forall_mem_cons.mp short with ⟨first, later⟩
      rcases holds.step first with ⟨next, performed, nextHolds⟩
      rcases inductionHypothesis nextHolds later with ⟨final, finished, finalHolds⟩
      refine ⟨final, ?_, finalHolds⟩
      unfold Change.performAll at finished ⊢
      rw [List.foldlM_cons, performed, Outcome.ok_bind, finished]

end Store.Holds

/-! ## What is loaded in the end -/

/-- The text of a setting, by what is stored under its name. -/
def textIn? : Option Value -> Option String
  | some (.text value) => nonBlank? value
  | _ => none

/-- The number of levels, by what is stored under its name. -/
def levelsIn : Option Value -> Int
  | some (.int levels) => if levels < 1 then defaultDepth else levels
  | _ => defaultDepth

theorem loadText_eq {store : Store} {members : Members} (loaded : load store = .ok members)
    (name : String) : loadText name store = .ok (textIn? (Members.find? name members)) := by
  unfold loadText
  rw [loaded, Outcome.ok_bind]
  cases Members.find? name members with
  | none => rfl
  | some value => cases value <;> rfl

theorem loadDepth_eq {store : Store} {members : Members} (loaded : load store = .ok members) :
    loadDepth store = .ok (levelsIn (Members.find? "depth" members)) := by
  unfold loadDepth
  rw [loaded, Outcome.ok_bind]
  cases Members.find? "depth" members with
  | none => rfl
  | some value => cases value <;> rfl

section Run

variable {store final : Store} {members : Members} {changes : List Change}

open Change

theorem loadText_edited {name : String} {select : Change -> Option String}
    (reads : Reads name Value.text select) (initial : load store = .ok members)
    (finished : load final = .ok (edited changes members)) :
    loadText name final =
      match last? select changes with
      | some text => .ok (some text)
      | none => loadText name store := by
  rw [loadText_eq finished, loadText_eq initial, find?_edited reads]
  cases chosen : last? select changes with
  | none => rfl
  | some text =>
      -- The text was trimmed when it was saved, so trimming it again when it is loaded is harmless.
      rcases List.mem_filterMap.mp (List.mem_of_getLast? chosen) with ⟨change, _, saved⟩
      have stored := (reads change (.text text)).mpr ⟨text, saved, rfl⟩
      rcases cases_of_member? stored with ⟨same, trimmed, equal⟩ | ⟨levels, _, impossible⟩
      · cases equal
        simp [textIn?, trimmed]
      · cases impossible

theorem loadDepth_edited (initial : load store = .ok members)
    (finished : load final = .ok (edited changes members)) :
    loadDepth final =
      match last? depth? changes with
      | some levels => .ok levels
      | none => loadDepth store := by
  rw [loadDepth_eq finished, loadDepth_eq initial, find?_edited reads_depth]
  cases chosen : last? depth? changes with
  | none => rfl
  | some levels =>
      rcases List.mem_filterMap.mp (List.mem_of_getLast? chosen) with ⟨change, _, saved⟩
      have enough : ¬levels < 1 := by
        cases change with
        | depth given =>
            rw [depth?, Option.ite_none_left_eq_some] at saved
            rcases saved with ⟨enough, same⟩
            cases same
            exact enough
        | _ => cases saved
      simp [levelsIn, enough]

end Run

/-- After any sequence of changes, each setting is loaded as it was last saved with an effect, or
else as it was loaded at first.  All members of the file under other names stay as they were, in
their order, and no member that was there at first moves.  A void change never touches the file. -/
theorem last_save_is_loaded {store : Store} {members : Members} {changes : List Change}
    (writable : store.IsWritable) (initial : load store = .ok members)
    (exact : (Value.object members).Everywhere Value.IsExact)
    (short : ∀ change ∈ changes, change.IsShort) :
    (∃ final kept, Change.performAll changes store = .ok final ∧ load final = .ok kept ∧
      (loadTheme final =
        match Change.last? Change.theme? changes with
        | some text => .ok (some text)
        | none => loadTheme store) ∧
      (loadStyle final =
        match Change.last? Change.style? changes with
        | some text => .ok text
        | none => loadStyle store) ∧
      (∀ homes, loadSnapshotPath homes final =
        match Change.last? Change.snapshot? changes with
        | some text => ((Path.ofText text).expandHome homes).map some
        | none => loadSnapshotPath homes store) ∧
      (loadDepth final =
        match Change.last? Change.depth? changes with
        | some levels => .ok levels
        | none => loadDepth store) ∧
      others (Change.savedNames changes) kept = others (Change.savedNames changes) members ∧
      members.names <+: kept.names) ∧
    ∀ change : Change, change.IsVoid -> ∀ current, change.perform current = .ok current := by
  refine ⟨?_, fun change void current => Change.perform_of_isVoid void current⟩
  rcases (Store.Holds.of_load writable initial exact).run short with ⟨final, performed, holds⟩
  have finished := holds.loaded
  refine ⟨final, Change.edited changes members, performed, finished, ?_, ?_, ?_, ?_, ?_, ?_⟩
  · exact loadText_edited Change.reads_theme initial finished
  · unfold loadStyle
    rw [loadText_edited Change.reads_style initial finished]
    split <;> rfl
  · intro homes
    unfold loadSnapshotPath
    rw [loadText_edited Change.reads_snapshot initial finished]
    split <;> rfl
  · exact loadDepth_edited initial finished
  · exact Change.others_edited changes members (fun name member => member)
  · exact Change.isPrefix_names_edited changes members

namespace ManySaves

/-- At first the file holds a theme, a style that is no text, and two members that are no
settings. -/
def members : Members :=
  [("window", .list [.int 80, .int 24]), ("theme", .text " ocean "), ("style", .bool true),
   ("recent", .object [("a", .null)])]

def store : Store :=
  save (.object members) .missing

/-- Changes with and without an effect. -/
def changes : List Change :=
  [.theme " dark\n", .depth 7, .style "\t ", .snapshot (Path.ofText "~/index.json"), .depth 0,
   .theme "light", .theme "", .depth (-3)]

theorem last_save_is_loaded_after_many :
    load store = .ok members ∧ (∀ change ∈ changes, change.IsShort) ∧
      ∃ final kept, Change.performAll changes store = .ok final ∧ load final = .ok kept ∧
        loadTheme final = .ok (some "light") ∧ loadStyle final = loadStyle store ∧
        (∀ homes, loadSnapshotPath homes final =
          ((Path.ofText "~/index.json").expandHome homes).map some) ∧
        loadDepth final = .ok 7 ∧
        others ["theme", "depth", "snapshot", "theme"] kept =
          [("window", .list [.int 80, .int 24]), ("style", .bool true),
            ("recent", .object [("a", .null)])] ∧
        ["window", "theme", "style", "recent"] <+: kept.names := by
  have storable : (Value.object members).IsStorable := by decide
  have missing : Store.missing.IsWritable := trivial
  have loaded : load store = .ok members := load_save storable missing
  have short : ∀ change ∈ changes, change.IsShort := by decide
  have writable : store.IsWritable := trivial
  rcases last_save_is_loaded writable loaded (storable.mono And.right) short with
    ⟨⟨final, kept, performed, finished, theme, style, path, depth, same, order⟩, _⟩
  exact ⟨loaded, short, final, kept, performed, finished, theme, style, path, depth, same, order⟩

end ManySaves

end Settings
end RefTree
