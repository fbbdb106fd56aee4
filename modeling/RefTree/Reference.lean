namespace RefTree

/-!
# References, symbols and files

A reference is one located occurrence of a symbol.  A symbol carries the same data; it is what a
tree is opened on, and any reference can be taken as one.  Tags are a set of texts, held as a
sorted list without repetitions, so that equal sets are equal lists.
-/

def insertTag (tag : String) : List String -> List String
  | [] => [tag]
  | other :: rest =>
      if tag = other then other :: rest
      else if tag < other then tag :: other :: rest
      else other :: insertTag tag rest

/-- The set of some tags. -/
def tagSet (tags : List String) : List String :=
  tags.foldr insertTag []

/-- Inserting a tag adds it to the members and nothing else. -/
@[simp]
theorem mem_insertTag (tag other : String) (tags : List String) :
    other ∈ insertTag tag tags ↔ other = tag ∨ other ∈ tags := by
  induction tags with
  | nil => simp [insertTag]
  | cons head rest inductionHypothesis =>
      by_cases same : tag = head
      · subst same
        simp [insertTag]
      · by_cases before : tag < head
        · simp [insertTag, same, before]
        · simp only [insertTag, same, before, if_false, List.mem_cons, inductionHypothesis]
          exact or_left_comm

/-- The set of some tags has exactly those tags as members. -/
@[simp]
theorem mem_tagSet (tag : String) (tags : List String) : tag ∈ tagSet tags ↔ tag ∈ tags := by
  induction tags with
  | nil => simp [tagSet]
  | cons head rest inductionHypothesis =>
      have step : tagSet (head :: rest) = insertTag head (tagSet rest) := rfl
      rw [step, mem_insertTag, inductionHypothesis, List.mem_cons]

/-- Where a reference starts: a file id, a line and a column. -/
structure SourceRange where
  file : String
  line : Int
  column : Int
  deriving DecidableEq, Repr

/-- One located occurrence.  References read from a snapshot always have a range with a file; a
host may supply one without. -/
structure Reference where
  id : String
  range : Option SourceRange
  displayValue : String
  tags : List String
  nameHash : Int
  deriving DecidableEq, Repr

/-- A named entity that a tree is opened on.  Its properties are not stored here but read from
the snapshot whenever the tree is built. -/
structure Symbol extends Reference where
  deriving DecidableEq, Repr

/-- Take a reference, for example a caller, as a symbol. -/
def Symbol.ofReference (reference : Reference) : Symbol :=
  { toReference := reference }

structure FileHandle where
  id : String
  name : String
  path : String
  deriving DecidableEq, Repr

end RefTree
