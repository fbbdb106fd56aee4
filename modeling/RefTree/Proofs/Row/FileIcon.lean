import RefTree.Proofs.Row.Opening

namespace RefTree

/-!
# The icon of a file

The icon of a group is chosen by the path of its file.  The suffix is looked for in the whole path:
it is what follows the last dot, and it counts only if there is no separator in it.  The last dot
may therefore stand in the name of a folder.  What follows it then begins in the folder and is
refused because of the separator after it.

A reader would take the last component of the path first and look for a dot only there.  Both ways
lead to the same icon, so the folders that a file lies in never matter.
-/

/-! ## Where a mark stands for the last time -/

/-- The last of the parts that a mark divides a text into.  Where the mark is missing, this is the
whole text. -/
def lastPart (mark : Char) (text : String) : String :=
  String.ofList ((text.toList.splitOn mark).getLast (List.splitOn_ne_nil mark text.toList))

theorem lastPart_of_not_mem {mark : Char} {text : String} (missing : mark ∉ text.toList) :
    lastPart mark text = text := by
  simp [lastPart, List.splitOn_eq_singleton missing]

/-- A text ends with the mark and the part, and the mark does not stand in the part again. -/
structure EndsAfterMark (mark : Char) (text part : String) : Prop where
  split : ∃ front, text.toList = front ++ mark :: part.toList
  last : mark ∉ part.toList

namespace EndsAfterMark

variable {mark : Char} {text part : String}

theorem exists_of_mem (member : mark ∈ text.toList) : ∃ part, EndsAfterMark mark text part := by
  -- The last occurrence is the first one in the reversed text.
  rcases List.eq_append_cons_of_mem (List.mem_reverse.mpr member) with ⟨back, front, cut, first⟩
  refine ⟨String.ofList back.reverse, ⟨front.reverse, ?_⟩, ?_⟩
  · rw [← List.reverse_reverse text.toList, cut]
    simp
  · simpa using first

theorem lastPart_eq (ends : EndsAfterMark mark text part) : lastPart mark text = part := by
  rcases ends.split with ⟨front, cut⟩
  apply String.toList_inj.mp
  simp [lastPart, cut, List.splitOn_append_cons_self, List.splitOn_eq_singleton ends.last]

theorem afterLast?_eq (ends : EndsAfterMark mark text part) :
    afterLast? mark text.toList = some part.toList := by
  rcases ends.split with ⟨front, cut⟩
  have kept : ∀ c ∈ part.toList.reverse, (c != mark) = true := by
    intro c member
    rw [bne_iff_ne]
    rintro rfl
    exact ends.last (List.mem_reverse.mp member)
  rw [afterLast?, if_pos (by simp [cut]), cut, List.reverse_append, List.reverse_cons,
    List.append_assoc, List.takeWhile_append_of_pos kept]
  simp

/-- Text in front changes nothing. -/
theorem append_left (ends : EndsAfterMark mark text part) (front : String) :
    EndsAfterMark mark (front ++ text) part := by
  rcases ends.split with ⟨before, cut⟩
  exact ⟨⟨front.toList ++ before, by simp [cut]⟩, ends.last⟩

/-- Text behind that does not hold the mark only makes the part longer. -/
theorem append_right (ends : EndsAfterMark mark text part) {rest : String}
    (missing : mark ∉ rest.toList) : EndsAfterMark mark (text ++ rest) (part ++ rest) := by
  rcases ends.split with ⟨before, cut⟩
  exact ⟨⟨before, by simp [cut]⟩, by simp [ends.last, missing]⟩

/-- The mark is the last character exactly if no text follows it. -/
theorem getLast?_eq_iff (ends : EndsAfterMark mark text part) :
    text.toList.getLast? = some mark ↔ part = "" := by
  rcases ends.split with ⟨front, cut⟩
  rw [cut, List.getLast?_append_cons, ← String.toList_eq_nil_iff]
  cases rest : part.toList with
  | nil => simp
  | cons first others =>
      have missing := ends.last
      rw [rest] at missing
      constructor
      · intro ending
        rw [List.getLast?_cons_cons] at ending
        exact absurd (List.mem_of_getLast? ending) missing
      · intro empty
        cases empty

end EndsAfterMark

theorem not_mem_lastPart (mark : Char) (text : String) : mark ∉ (lastPart mark text).toList := by
  by_cases member : mark ∈ text.toList
  · rcases EndsAfterMark.exists_of_mem member with ⟨part, ends⟩
    rw [ends.lastPart_eq]
    exact ends.last
  · rw [lastPart_of_not_mem member]
    exact member

/-! ## Folders in front of a name -/

theorem fileIconClass_of_no_dot {path : String} (missing : '.' ∉ path.toList) :
    fileIconClass path = "icon icon-file" := by
  simp [fileIconClass, afterLast?, missing]

theorem fileIconClass_of_dot {path suffix : String} (ends : EndsAfterMark '.' path suffix) :
    fileIconClass path =
      if '/' ∈ suffix.toList ∨ suffix = "" then "icon icon-file"
      else "icon icon-file icon-" ++ Text.lowerCase suffix := by
  simp [fileIconClass, ends.afterLast?_eq]

/-- The icon of a file stays the same if it is put into a folder.  What is put there may itself be a
path. -/
theorem fileIconClass_in_folder (folder name : String) :
    fileIconClass (folder ++ "/" ++ name) = fileIconClass name := by
  by_cases inName : '.' ∈ name.toList
  · rcases EndsAfterMark.exists_of_mem inName with ⟨suffix, ends⟩
    rw [fileIconClass_of_dot ends, fileIconClass_of_dot (ends.append_left (folder ++ "/"))]
  · rw [fileIconClass_of_no_dot inName]
    by_cases inFolder : '.' ∈ folder.toList
    · -- The last dot is in the folder, so the separator after the folder stands behind it.
      rcases EndsAfterMark.exists_of_mem inFolder with ⟨rest, ends⟩
      have inRest : '.' ∉ ("/" ++ name).toList := by simp [inName]
      rw [String.append_assoc, fileIconClass_of_dot (ends.append_right inRest), if_pos]
      simp
    · apply fileIconClass_of_no_dot
      simp [inFolder, inName]

theorem fileIconClass_lastPart (path : String) :
    fileIconClass (lastPart '/' path) = fileIconClass path := by
  by_cases divided : '/' ∈ path.toList
  · rcases EndsAfterMark.exists_of_mem divided with ⟨name, ends⟩
    rcases ends.split with ⟨folder, cut⟩
    have joined : path = String.ofList folder ++ "/" ++ name := by
      apply String.toList_inj.mp
      simp [cut]
    rw [ends.lastPart_eq, joined, fileIconClass_in_folder]
  · rw [lastPart_of_not_mem divided]

/-! ## The suffix of a name -/

theorem suffixed_ne_plain (suffix : String) :
    "icon icon-file icon-" ++ suffix ≠ "icon icon-file" := by
  intro equal
  have sizes := congrArg String.length equal
  rw [String.length_append] at sizes
  have shorter : "icon icon-file".length < "icon icon-file icon-".length := by decide
  omega

theorem fileIconClass_of_name {name : String} (undivided : '/' ∉ name.toList) :
    fileIconClass name =
      if '.' ∉ name.toList ∨ name.toList.getLast? = some '.' then "icon icon-file"
      else "icon icon-file icon-" ++ Text.lowerCase (lastPart '.' name) := by
  by_cases dotted : '.' ∈ name.toList
  · rcases EndsAfterMark.exists_of_mem dotted with ⟨suffix, ends⟩
    have inSuffix : '/' ∉ suffix.toList := by
      rcases ends.split with ⟨stem, cut⟩
      intro member
      exact undivided (by simp [cut, member])
    rw [fileIconClass_of_dot ends, ends.lastPart_eq]
    simp [dotted, inSuffix, ends.getLast?_eq_iff]
  · rw [fileIconClass_of_no_dot dotted, if_pos (Or.inl dotted)]

/-- The row of a group has the icon that the name of its file has by itself. -/
theorem fileGroupRow_style {snapshot : Snapshot} {symbol : Symbol} {category : Category}
    {group : FileGroup} {row : Row}
    (made : fileGroupRow snapshot (.symbol symbol) category group = .ok row) :
    ∃ file, snapshot.file group.file = .ok file ∧
      row.style = some (fileIconClass (lastPart '/' file.path)) := by
  rcases fileGroupRow_eq_ok_iff.mp made with ⟨file, found, rfl⟩
  exact ⟨file, found, by rw [fileIconClass_lastPart]⟩

/-- A file has the same icon in every folder.  The icon is the plain one exactly if the last
component of the path has no dot or ends with one, and otherwise it names what follows the last dot
of that component, in small letters.  The row of a group shows the icon of the last component of
the path of its file. -/
theorem icon_depends_on_name_alone :
    (∀ folder name, fileIconClass (folder ++ "/" ++ name) = fileIconClass name) ∧
    (∀ path,
      (fileIconClass path = "icon icon-file" ↔
        '.' ∉ (lastPart '/' path).toList ∨ (lastPart '/' path).toList.getLast? = some '.') ∧
      ('.' ∈ (lastPart '/' path).toList -> (lastPart '/' path).toList.getLast? ≠ some '.' ->
        fileIconClass path =
          "icon icon-file icon-" ++ Text.lowerCase (lastPart '.' (lastPart '/' path)))) ∧
    ∀ snapshot symbol category group row,
      fileGroupRow snapshot (.symbol symbol) category group = .ok row ->
        ∃ file, snapshot.file group.file = .ok file ∧
          row.style = some (fileIconClass (lastPart '/' file.path)) := by
  refine ⟨fileIconClass_in_folder, ?_, fun _ _ _ _ _ => fileGroupRow_style⟩
  intro path
  have icon := fileIconClass_of_name (not_mem_lastPart '/' path)
  rw [fileIconClass_lastPart] at icon
  constructor
  · rw [icon, ite_eq_left_iff]
    simp only [suffixed_ne_plain, imp_false, not_not]
  · intro dotted goesOn
    rw [icon, if_neg (not_or.mpr ⟨not_not.mpr dotted, goesOn⟩)]

namespace DottedFolder

/-- A hidden file below a folder with dots in its name. -/
def path : String := "lib.d/v1.2/.Tree.HPP"

def snapshot : Snapshot where
  members := [("files", .object [("f", .object [("path", .text path)])])]

def symbol : Symbol where
  id := "s"
  range := none
  displayValue := ""
  tags := []
  nameHash := 0

def usages : Category where
  name := usageName
  id := .int 0

def group : FileGroup where
  file := "f"
  members := [{
    id := "u"
    range := some { file := "f", line := 0, column := 0 }
    displayValue := ""
    tags := []
    nameHash := 0 }]

/-- The last of many dots is in the name of the hidden file, and for the other file it is in a
folder. -/
theorem icon_of_hidden_file :
    '.' ∈ (lastPart '/' path).toList ∧ (lastPart '/' path).toList.getLast? ≠ some '.' ∧
    fileIconClass path = "icon icon-file icon-hpp" ∧
    fileIconClass "lib.d/v1.2/Makefile" = "icon icon-file" ∧
    ∃ row, fileGroupRow snapshot (.symbol symbol) usages group = .ok row ∧
      row.style = some (fileIconClass ".Tree.HPP") := by
  have name : lastPart '/' path = ".Tree.HPP" := by decide
  have dotted : '.' ∈ (lastPart '/' path).toList := by decide
  have goesOn : (lastPart '/' path).toList.getLast? ≠ some '.' := by decide
  obtain ⟨_, named, grouped⟩ := icon_depends_on_name_alone
  obtain ⟨row, made⟩ : ∃ row, fileGroupRow snapshot (.symbol symbol) usages group = .ok row :=
    ⟨_, rfl⟩
  refine ⟨dotted, goesOn, (named path).2 dotted goesOn, (named _).1.mpr (Or.inl (by decide)), row,
    made, ?_⟩
  rcases grouped _ _ _ _ _ made with ⟨file, found, style⟩
  cases found
  rw [← name]
  exact style

end DottedFolder

end RefTree
