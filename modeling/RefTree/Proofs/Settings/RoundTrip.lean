import RefTree.Proofs.Document.RoundTrip
import RefTree.Session
import RefTree.Settings

namespace RefTree

open Document

/-!
# Saved settings are read back

Where settings can be written at all, what is saved is what is loaded next: every value at every
depth, and the members in the order they had.  The file is also a snapshot file like any other, so
a snapshot that was saved this way answers as the document that was saved.
-/

/-- A file that a storable document was written to is opened as that document. -/
theorem Snapshot.load_writeBlock {document : Value} (storable : document.IsStorable)
    (path : Path) :
    load path (.file (Text.Utf8.encode (writeBlock document))) = ofValue document := by
  rw [load, documentAt, ofOctets_writeBlock storable, Outcome.ok_bind]

namespace Settings

/-- Something can be written where the settings are kept, and then read. -/
def Store.IsWritable : Store -> Prop
  | .missing | .file _ => True
  | .readOnly _ | .unreadable | .directory | .blocked => False

theorem save_of_isWritable {store : Store} (writable : store.IsWritable) (document : Value) :
    save document store = .file (Text.Utf8.encode (writeBlock document)) := by
  cases store with
  | missing => rfl
  | file octets => rfl
  | readOnly octets => exact False.elim writable
  | unreadable => exact False.elim writable
  | directory => exact False.elim writable
  | blocked => exact False.elim writable

/-- What is saved is loaded. -/
theorem load_save {members : Members} (storable : (Value.object members).IsStorable)
    {store : Store} (writable : store.IsWritable) :
    load (save (.object members) store) = .ok members := by
  rw [save_of_isWritable writable]
  simp only [load, Store.octets?, ofOctets_writeBlock storable]

/-- A storable document of settings is written as one text, which is loaded as that document and is
written once more when the loaded settings are saved.  A snapshot opened from the text gives the
answers of a snapshot made of the document itself. -/
theorem saved_settings_are_kept {members : Members}
    (storable : (Value.object members).IsStorable) {store : Store} (writable : store.IsWritable) :
    ∃ octets, save (.object members) store = .file octets ∧
      (∃ loaded, load (.file octets) = .ok loaded ∧ loaded = members ∧
        save (.object loaded) (.file octets) = .file octets) ∧
      ∀ path : Path, ∃ opened given : Snapshot,
        Snapshot.load path (.file octets) = .ok opened ∧
        Snapshot.ofValue (.object members) = .ok given ∧
        ∀ query : Query, query.answer opened = query.answer given := by
  have saved := save_of_isWritable writable (.object members)
  have loaded := load_save storable writable
  rw [saved] at loaded
  refine ⟨Text.Utf8.encode (writeBlock (.object members)), saved, ⟨members, loaded, rfl, rfl⟩, ?_⟩
  intro path
  exact ⟨⟨members⟩, ⟨members⟩, Snapshot.load_writeBlock storable path, rfl, fun query => rfl⟩

namespace NestedSettings

/-- Settings with every kind of member, nested, and with characters of every way of writing: marks,
control characters, line ends, and characters of one unit and of two. -/
def members : Members :=
  [("theme", .text "a \"quoted\" \\ text\r\n\t\x08\x0c\x7f"),
   ("naïve 😀", .list [.null, .bool true, .list [], .object [], .int (-120), .int 0]),
   ("symbols", .object [("b", .object [("tags", .list [.text "", .text "\x00"])]),
     ("a", .object [("z", .int 1), ("a", .int 2)])]),
   ("", .bool false)]

/-- They replace a file that holds an opening bracket and no document. -/
def store : Store :=
  .file [0x5B]

theorem saved_settings_are_kept_over_old_ones :
    (Value.object members).IsStorable ∧ store.IsWritable ∧
      ∃ octets, save (.object members) store = .file octets ∧
        (∃ loaded, load (.file octets) = .ok loaded ∧ loaded = members ∧
          save (.object loaded) (.file octets) = .file octets) ∧
        ∀ path : Path, ∃ opened given : Snapshot,
          Snapshot.load path (.file octets) = .ok opened ∧
          Snapshot.ofValue (.object members) = .ok given ∧
          ∀ query : Query, query.answer opened = query.answer given := by
  have storable : (Value.object members).IsStorable := by decide
  have writable : store.IsWritable := trivial
  exact ⟨storable, writable, saved_settings_are_kept storable writable⟩

end NestedSettings

end Settings
end RefTree
