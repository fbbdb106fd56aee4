import RefTree.Proofs.Document.Contents
import RefTree.Snapshot.Load

namespace RefTree
namespace Document

open Text (IsInk InInk)

/-!
# Writing a document and reading it again

A storable document is read back from its written form exactly as it was, in any layout that puts
only blanks and line feeds between tokens.  The reader is followed along the written text: a piece
of text takes it from one state to another, and pieces are put together as they are written.  Only
an integer cares for what comes after it, and in a document that is always a comma, a closing
bracket or a blank.

One induction over the parts of a value then covers all nesting.  The elements of a list and the
members of an object are followed one by one, and distinct names make every member the last one at
the moment it is inserted, which is why the order is kept.
-/

/-! ## Pieces of text -/

/-- Read on from a state, at a position of a text. -/
def State.runText (ending : Nat) (state : State) (position : Nat) (chars : List Char) :
    Except ReadFault Value :=
  state.run ending (tokens position chars)

/-- A piece of text takes the reader from one state to another, whatever comes after it. -/
def Passes (before : State) (piece : List Char) (after : State) : Prop :=
  ∀ ending position rest,
    before.runText ending position (piece ++ rest) =
      after.runText ending (position + piece.length) rest

/-- The same, if what comes after the piece does not continue a number. -/
def PassesBefore (before : State) (piece : List Char) (after : State) : Prop :=
  ∀ ending position rest, EndsNumber rest ->
    before.runText ending position (piece ++ rest) =
      after.runText ending (position + piece.length) rest

/-- A piece of text takes the reader from one state to another and ends a number before it. -/
structure Closes (before : State) (piece : List Char) (after : State) : Prop where
  passes : Passes before piece after
  ends : ∀ rest, EndsNumber (piece ++ rest)

section Pieces

variable {before between after : State} {first second : List Char}

theorem Passes.toBefore (passes : Passes before first after) : PassesBefore before first after :=
  fun ending position rest _ => passes ending position rest

theorem Passes.append (left : Passes before first between) (right : Passes between second after) :
    Passes before (first ++ second) after := by
  intro ending position rest
  rw [List.append_assoc, left, right, List.length_append, Nat.add_assoc]

theorem Passes.append_before (left : Passes before first between)
    (right : PassesBefore between second after) : PassesBefore before (first ++ second) after := by
  intro ending position rest ends
  rw [List.append_assoc, left, right _ _ _ ends, List.length_append, Nat.add_assoc]

/-- A piece that ends a number completes the one before it. -/
theorem PassesBefore.append (left : PassesBefore before first between)
    (right : Closes between second after) : Passes before (first ++ second) after := by
  intro ending position rest
  rw [List.append_assoc, left _ _ _ (right.ends rest), right.passes, List.length_append,
    Nat.add_assoc]

theorem Closes.append (left : Closes before first between) (right : Passes between second after) :
    Closes before (first ++ second) after where
  passes := left.passes.append right
  ends := by
    intro rest
    rw [List.append_assoc]
    exact left.ends (second ++ rest)

/-- Blanks between tokens leave the state alone. -/
theorem passes_spacing (state : State) {blanks : List Char}
    (spacing : ∀ c ∈ blanks, isSpacing c = true) : Passes state blanks state := by
  intro ending position rest
  induction blanks generalizing position with
  | nil => rfl
  | cons c blanks inductionHypothesis =>
      have first : state.runText ending position (c :: (blanks ++ rest)) =
          state.runText ending (position + 1) (blanks ++ rest) := by
        unfold State.runText
        rw [tokens, if_pos (spacing c List.mem_cons_self)]
      have later := inductionHypothesis
        (fun other member => spacing other (List.mem_cons_of_mem _ member)) (position + 1)
      rw [List.cons_append, first, later, List.length_cons, Nat.add_assoc, Nat.add_comm 1]

/-- A token that was scanned as a whole makes one step. -/
theorem runText_token {first : Char} {body rest : List Char} {token : Token} {position : Nat}
    (ending : Nat) (visible : isSpacing first = false)
    (scanned : scanToken position first (body ++ rest) = (token, body.length))
    (whole : token.isWhole = true) (stepped : before.step ⟨position, token⟩ = .ok after) :
    before.runText ending position (first :: body ++ rest) =
      after.runText ending (position + (first :: body).length) rest := by
  have next : position + (first :: body).length = position + 1 + body.length := by
    rw [List.length_cons]
    omega
  unfold State.runText
  rw [List.cons_append, tokens, next]
  simp only [visible, Bool.false_eq_true, if_false, scanned, whole, if_true,
    List.drop_left, State.run, stepped]

/-- Punctuation is no blank, and it does not continue a number. -/
theorem separates_of_punctuation? {c : Char} {token : Token}
    (found : punctuation? c = some token) :
    isSpacing c = false ∧ isDigit c = false ∧ c ≠ '.' ∧ c ≠ 'e' ∧ c ≠ 'E' := by
  unfold punctuation? at found
  split at found
  case h_7 => cases found
  all_goals decide

theorem passes_punctuation {c : Char} {token : Token} (found : punctuation? c = some token)
    (stepped : ∀ position, before.step ⟨position, token⟩ = .ok after) :
    Passes before [c] after := by
  have visible := (separates_of_punctuation? found).1
  intro ending position rest
  refine runText_token ending visible ?_ (isWhole_of_punctuation? found) (stepped position)
  simp only [scanToken, found, List.length_nil]

/-- Punctuation ends a number. -/
theorem closes_punctuation {c : Char} {token : Token} (found : punctuation? c = some token)
    (stepped : ∀ position, before.step ⟨position, token⟩ = .ok after) :
    Closes before [c] after where
  passes := passes_punctuation found stepped
  ends := by
    intro rest other head
    cases head
    exact (separates_of_punctuation? found).2

theorem passes_text {text : String}
    (stepped : ∀ position, before.step ⟨position, .text text⟩ = .ok after) :
    Passes before (writtenText text) after := by
  intro ending position rest
  have scanned : scanToken position '"'
      ((text.toList.flatMap writtenChar ++ ['"']) ++ rest) =
        (.text text, (text.toList.flatMap writtenChar ++ ['"']).length) := by
    have noPunctuation : punctuation? '"' = none := rfl
    rw [List.append_assoc, List.singleton_append]
    simp only [scanToken, noPunctuation, if_true, scanText_written, String.ofList_toList,
      List.length_append, List.length_singleton]
  exact runText_token ending rfl scanned rfl (stepped position)

/-- A named scalar is the only one that starts as its name does. -/
theorem passes_named {name : List Char} {value : Value} (named : (name, value) ∈ namedScalars)
    (stepped : ∀ position, before.step ⟨position, .scalar value⟩ = .ok after) :
    Passes before name after := by
  intro ending position rest
  simp only [namedScalars, List.mem_cons, List.not_mem_nil, or_false, Prod.mk.injEq] at named
  rcases named with ⟨rfl, rfl⟩ | ⟨rfl, rfl⟩ | ⟨rfl, rfl⟩ | ⟨rfl, rfl⟩ | ⟨rfl, rfl⟩ | ⟨rfl, rfl⟩
  all_goals exact runText_token ending rfl rfl rfl (stepped position)

theorem passesBefore_integer {n : Int} (short : digitCount n ≤ Number.maxDigits)
    (stepped : ∀ position, before.step ⟨position, .scalar (.int n)⟩ = .ok after) :
    PassesBefore before (Number.integerText n).toList after := by
  intro ending position rest ends
  rcases exists_head_integerText n with ⟨first, body, written, visible, _⟩
  rw [written]
  exact runText_token ending visible (scanToken_integer short ends position written) rfl
    (stepped position)

end Pieces

/-! ## States in which a value or a name may start -/

/-- A state in which a value may start, to be put into the containers of a stack. -/
def State.Awaits (state : State) (stack : List Frame) : Prop :=
  ∀ located : Located, located.token ≠ .closeList -> state.step located = stepValue stack located

/-- A state in which the name of a further member may start. -/
def State.AwaitsName (state : State) (members : Members) (stack : List Frame) : Prop :=
  ∀ located : Located, located.token ≠ .closeObject ->
    state.step located = stepName members stack located

theorem awaits_needValue (stack : List Frame) : (State.needValue stack).Awaits stack :=
  fun _ _ => rfl

theorem awaits_listStart (stack : List Frame) :
    (State.listStart stack).Awaits (.list [] :: stack) := by
  intro located other
  simp only [State.step]

theorem awaitsName_needName (members : Members) (stack : List Frame) :
    (State.needName members stack).AwaitsName members stack :=
  fun _ _ => rfl

theorem awaitsName_objectStart (stack : List Frame) :
    (State.objectStart stack).AwaitsName [] stack := by
  intro located other
  simp only [State.step]

/-! ## Layouts -/

/-- A layout puts nothing but blanks and line feeds between tokens. -/
def Layout.IsBlank (layout : Layout) : Prop :=
  ∀ depth, ∀ c ∈ layout.edge depth ++ layout.gap depth, c = ' ' ∨ c = '\n'

namespace Layout.IsBlank

variable {layout : Layout}

theorem edge (blank : layout.IsBlank) (depth : Nat) :
    ∀ c ∈ layout.edge depth, c = ' ' ∨ c = '\n' :=
  fun c member => blank depth c (List.mem_append.mpr (Or.inl member))

theorem gap (blank : layout.IsBlank) (depth : Nat) :
    ∀ c ∈ layout.gap depth, c = ' ' ∨ c = '\n' :=
  fun c member => blank depth c (List.mem_append.mpr (Or.inr member))

end Layout.IsBlank

theorem isSpacing_of_blank {blanks : List Char} (blank : ∀ c ∈ blanks, c = ' ' ∨ c = '\n') :
    ∀ c ∈ blanks, isSpacing c = true := by
  intro c member
  rcases blank c member with rfl | rfl
  · rfl
  · rfl

/-- Blanks before a piece that ends a number end it already. -/
theorem Closes.after_blanks {before after : State} {blanks piece : List Char}
    (closes : Closes before piece after) (blank : ∀ c ∈ blanks, c = ' ' ∨ c = '\n') :
    Closes before (blanks ++ piece) after where
  passes := (passes_spacing before (isSpacing_of_blank blank)).append closes.passes
  ends := by
    intro rest
    rw [List.append_assoc]
    cases blanks with
    | nil => exact closes.ends rest
    | cons first others =>
        intro c head
        cases head
        rcases blank first List.mem_cons_self with rfl | rfl
        · decide
        · decide

/-! ## Values -/

/-- A value is read back from its written form, wherever a value may start. -/
def IsReadBack (layout : Layout) (value : Value) : Prop :=
  ∀ depth stack state, State.Awaits state stack ->
    PassesBefore state (written layout depth value) (.complete value stack)

/-- The rest of a list is read back: the elements after the last complete one, each with its comma,
and the closing bracket. -/
theorem closes_elements {layout : Layout} (blank : layout.IsBlank) {rest : List Value}
    (readBack : ∀ element ∈ rest, IsReadBack layout element) (value : Value)
    (elements : List Value) (stack : List Frame) (depth outer : Nat) :
    Closes (.complete value (.list elements :: stack))
      (writtenElements layout depth rest ++ (layout.edge outer ++ [']']))
      (.complete (.list (elements.reverse ++ value :: rest)) stack) := by
  induction rest generalizing value elements with
  | nil =>
      have close : Closes (.complete value (.list elements :: stack)) [']']
          (.complete (.list (value :: elements).reverse) stack) :=
        closes_punctuation rfl (fun _ => rfl)
      rw [List.reverse_cons] at close
      exact close.after_blanks (blank.edge outer)
  | cons next rest inductionHypothesis =>
      have comma : Closes (.complete value (.list elements :: stack)) [',']
          (.needValue (.list (value :: elements) :: stack)) :=
        closes_punctuation rfl (fun _ => rfl)
      have gap : Passes (.needValue (.list (value :: elements) :: stack)) (layout.gap depth)
          (.needValue (.list (value :: elements) :: stack)) :=
        passes_spacing _ (isSpacing_of_blank (blank.gap depth))
      have element := readBack next List.mem_cons_self depth (.list (value :: elements) :: stack)
        _ (awaits_needValue _)
      have later := inductionHypothesis
        (fun element member => readBack element (List.mem_cons_of_mem _ member)) next
        (value :: elements)
      have whole := (comma.append gap).append (element.append later)
      simpa [writtenElements] using whole

/-- A member is read back: its name, the colon, and its value. -/
theorem passesBefore_member {layout : Layout} {value : Value}
    (readBack : IsReadBack layout value) {state : State} {members : Members} {stack : List Frame}
    (awaits : state.AwaitsName members stack) (name : String) (depth : Nat) :
    PassesBefore state (writtenText name ++ ':' :: ' ' :: written layout depth value)
      (.complete value (.object members name :: stack)) := by
  have text : Passes state (writtenText name) (.needColon members name stack) :=
    passes_text (fun position => awaits ⟨position, .text name⟩ (by simp))
  have colon : Passes (.needColon members name stack) [':']
      (.needValue (.object members name :: stack)) :=
    passes_punctuation rfl (fun _ => rfl)
  have gap : Passes (.needValue (.object members name :: stack)) [' ']
      (.needValue (.object members name :: stack)) :=
    passes_spacing _ (List.forall_mem_singleton.mpr rfl)
  have inside := readBack depth (.object members name :: stack) _ (awaits_needValue _)
  have whole := (text.append (colon.append gap)).append_before inside
  simpa using whole

/-- The rest of an object is read back: the members after the last complete one, each with its
comma, and the closing brace. -/
theorem closes_members {layout : Layout} (blank : layout.IsBlank)
    {rest : List (String × Value)} (readBack : ∀ member ∈ rest, IsReadBack layout member.2)
    (name : String) (value : Value) (members : Members) (stack : List Frame) (depth outer : Nat)
    (distinct : (Members.names (members ++ (name, value) :: rest)).Nodup) :
    Closes (.complete value (.object members name :: stack))
      (writtenMembers layout depth rest ++ (layout.edge outer ++ ['}']))
      (.complete (.object (members ++ (name, value) :: rest)) stack) := by
  induction rest generalizing name value members with
  | nil =>
      have close : Closes (.complete value (.object members name :: stack)) ['}']
          (.complete (.object (Members.insert name value members)) stack) :=
        closes_punctuation rfl (fun _ => rfl)
      rw [Members.insert_of_nodup distinct] at close
      exact close.after_blanks (blank.edge outer)
  | cons next rest inductionHypothesis =>
      have comma : Closes (.complete value (.object members name :: stack)) [',']
          (.needName (Members.insert name value members) stack) :=
        closes_punctuation rfl (fun _ => rfl)
      rw [Members.insert_of_nodup distinct] at comma
      have gap : Passes (.needName (members ++ [(name, value)]) stack) (layout.gap depth)
          (.needName (members ++ [(name, value)]) stack) :=
        passes_spacing _ (isSpacing_of_blank (blank.gap depth))
      have member := passesBefore_member (readBack next List.mem_cons_self)
        (awaitsName_needName (members ++ [(name, value)]) stack) next.1 depth
      have together : members ++ (name, value) :: next :: rest =
          (members ++ [(name, value)]) ++ next :: rest := by simp
      rw [together] at distinct ⊢
      have later := inductionHypothesis
        (fun other belongs => readBack other (List.mem_cons_of_mem _ belongs)) next.1 next.2
        (members ++ [(name, value)]) distinct
      have whole := (comma.append gap).append (member.append later)
      simpa [writtenMembers] using whole

theorem isReadBack_list {layout : Layout} (blank : layout.IsBlank) {elements : List Value}
    (readBack : ∀ element ∈ elements, IsReadBack layout element) :
    IsReadBack layout (.list elements) := by
  intro depth stack state awaits
  have opened : Passes state ['['] (.listStart stack) :=
    passes_punctuation rfl (fun position => awaits ⟨position, .openList⟩ (by simp))
  cases elements with
  | nil =>
      have close : Passes (.listStart stack) [']'] (.complete (.list []) stack) :=
        passes_punctuation rfl (fun _ => rfl)
      exact (opened.append close).toBefore
  | cons first rest =>
      have edge : Passes (.listStart stack) (layout.edge (depth + 1)) (.listStart stack) :=
        passes_spacing _ (isSpacing_of_blank (blank.edge (depth + 1)))
      have element := readBack first List.mem_cons_self (depth + 1) _ _ (awaits_listStart stack)
      have later := closes_elements blank
        (fun element member => readBack element (List.mem_cons_of_mem _ member))
        first [] stack (depth + 1) depth
      have whole := (opened.append edge).append (element.append later)
      simpa [written] using whole.toBefore

theorem isReadBack_object {layout : Layout} (blank : layout.IsBlank) {members : Members}
    (distinct : members.names.Nodup) (readBack : ∀ member ∈ members, IsReadBack layout member.2) :
    IsReadBack layout (.object members) := by
  intro depth stack state awaits
  have opened : Passes state ['{'] (.objectStart stack) :=
    passes_punctuation rfl (fun position => awaits ⟨position, .openObject⟩ (by simp))
  cases members with
  | nil =>
      have close : Passes (.objectStart stack) ['}'] (.complete (.object []) stack) :=
        passes_punctuation rfl (fun _ => rfl)
      exact (opened.append close).toBefore
  | cons first rest =>
      have edge : Passes (.objectStart stack) (layout.edge (depth + 1)) (.objectStart stack) :=
        passes_spacing _ (isSpacing_of_blank (blank.edge (depth + 1)))
      have member := passesBefore_member (readBack first List.mem_cons_self)
        (awaitsName_objectStart stack) first.1 (depth + 1)
      have later := closes_members blank
        (fun other belongs => readBack other (List.mem_cons_of_mem _ belongs))
        first.1 first.2 [] stack (depth + 1) depth distinct
      have whole := (opened.append edge).append (member.append later)
      simpa [written] using whole.toBefore

/-- Whatever can be stored is read back from its written form. -/
theorem isReadBack_of_isStorable {layout : Layout} (blank : layout.IsBlank) {value : Value}
    (storable : value.IsStorable) : IsReadBack layout value := by
  induction storable with
  | @intro value here inside inductionHypothesis =>
      cases value with
      | null =>
          intro depth stack state awaits
          have named : ("null".toList, .null) ∈ namedScalars := by simp [namedScalars]
          exact (passes_named named fun position => awaits ⟨position, _⟩ (by simp)).toBefore
      | bool value =>
          intro depth stack state awaits
          have named : (written layout depth (.bool value), .bool value) ∈ namedScalars := by
            cases value <;> simp [namedScalars, written]
          exact (passes_named named fun position => awaits ⟨position, _⟩ (by simp)).toBefore
      | int n =>
          intro depth stack state awaits
          exact passesBefore_integer here.1 (fun position => awaits ⟨position, _⟩ (by simp))
      | double value => exact False.elim here.2
      | text value =>
          intro depth stack state awaits
          exact (passes_text fun position => awaits ⟨position, _⟩ (by simp)).toBefore
      | list elements => exact isReadBack_list blank inductionHypothesis
      | object members =>
          apply isReadBack_object blank here.1
          intro member belongs
          exact inductionHypothesis member.2 (List.mem_map.mpr ⟨member, belongs, rfl⟩)

/-! ## Written documents are ink -/

theorem inInk_of_blank {blanks : List Char} (blank : ∀ c ∈ blanks, c = ' ' ∨ c = '\n') :
    InInk blanks := by
  intro c member
  rcases blank c member with rfl | rfl
  · decide
  · decide

theorem inInk_integerText (n : Int) : InInk (Number.integerText n).toList := by
  have sign : IsInk '-' := by decide
  have digits : InInk (Nat.toDigits 10 n.natAbs) := by
    intro c member
    have range := isDigit_of_mem_toDigits member
    simp only [isDigit, Bool.and_eq_true, decide_eq_true_eq] at range
    have low : '0'.toNat ≤ c.toNat := range.1
    have high : c.toNat ≤ '9'.toNat := range.2
    exact Or.inr ⟨Nat.le_trans (by decide) low, Nat.lt_of_le_of_lt high (by decide)⟩
  rw [Number.toList_integerText]
  split
  · simp [sign, digits]
  · exact digits

theorem inInk_writtenElements {layout : Layout} (blank : layout.IsBlank) {elements : List Value}
    (ink : ∀ element ∈ elements, ∀ depth, InInk (written layout depth element)) (depth : Nat) :
    InInk (writtenElements layout depth elements) := by
  have comma : IsInk ',' := by decide
  have gap := inInk_of_blank (blank.gap depth)
  induction elements with
  | nil => exact Text.inInk_nil
  | cons first rest inductionHypothesis =>
      have later := inductionHypothesis
        (fun element belongs => ink element (List.mem_cons_of_mem _ belongs))
      simp [writtenElements, comma, gap, later, ink]

theorem inInk_writtenMembers {layout : Layout} (blank : layout.IsBlank)
    {members : List (String × Value)}
    (ink : ∀ member ∈ members, ∀ depth, InInk (written layout depth member.2)) (depth : Nat) :
    InInk (writtenMembers layout depth members) := by
  have comma : IsInk ',' := by decide
  have colon : IsInk ':' := by decide
  have space : IsInk ' ' := by decide
  have gap := inInk_of_blank (blank.gap depth)
  induction members with
  | nil => exact Text.inInk_nil
  | cons first rest inductionHypothesis =>
      have later := inductionHypothesis
        (fun member belongs => ink member (List.mem_cons_of_mem _ belongs))
      have inside := ink first List.mem_cons_self depth
      simp [writtenMembers, comma, colon, space, gap, later, inside]

/-- Without doubles, a document is written in ink. -/
theorem inInk_written {layout : Layout} (blank : layout.IsBlank) {value : Value}
    (exact : value.Everywhere Value.IsExact) (depth : Nat) :
    InInk (written layout depth value) := by
  have edge : ∀ depth, InInk (layout.edge depth) := fun depth => inInk_of_blank (blank.edge depth)
  induction exact generalizing depth with
  | @intro value here inside inductionHypothesis =>
      cases value with
      | null =>
          rw [written]
          decide
      | bool value =>
          cases value with
          | true =>
              rw [written]
              decide
          | false =>
              rw [written]
              decide
      | int n => exact inInk_integerText n
      | double value => exact False.elim here
      | text value => exact inInk_writtenText value
      | list elements =>
          have brackets : IsInk '[' ∧ IsInk ']' := by decide
          cases elements with
          | nil => simp [written, brackets]
          | cons first rest =>
              have element := inductionHypothesis first List.mem_cons_self (depth + 1)
              have later := inInk_writtenElements blank
                (fun element member => inductionHypothesis element (List.mem_cons_of_mem _ member))
                (depth + 1)
              simp [written, brackets, edge, element, later]
      | object members =>
          have braces : IsInk '{' ∧ IsInk '}' := by decide
          have separators : IsInk ':' ∧ IsInk ' ' := by decide
          cases members with
          | nil => simp [written, braces]
          | cons first rest =>
              have member := inductionHypothesis first.2 List.mem_cons_self (depth + 1)
              have later := inInk_writtenMembers blank
                (fun member belongs => inductionHypothesis member.2
                  (List.mem_cons_of_mem _ (List.mem_map.mpr ⟨member, belongs, rfl⟩)))
                (depth + 1)
              simp [written, braces, separators, edge, member, later]

/-! ## Whole documents -/

theorem isBlank_block : Layout.block.IsBlank := by
  intro depth c member
  simp only [Layout.block, List.mem_append, List.mem_cons, List.mem_replicate, or_self] at member
  rcases member with rfl | ⟨_, rfl⟩
  · exact Or.inr rfl
  · exact Or.inl rfl

theorem inInk_writeBlock {value : Value} (exact : value.Everywhere Value.IsExact) :
    InInk (writeBlock value) := by
  have ending : IsInk '\n' := by decide
  have inside := inInk_written isBlank_block exact 0
  simp [writeBlock, inside, ending]

/-- A storable document is read back from its block form. -/
theorem parse_writeBlock {value : Value} (storable : value.IsStorable) :
    parse (writeBlock value) = .ok value := by
  have unmarked : (writeBlock value).head? ≠ some (Char.ofNat 0xFEFF) := by
    intro marked
    have member : Char.ofNat 0xFEFF ∈ writeBlock value := List.mem_of_head? marked
    have ink := inInk_writeBlock (storable.mono And.right) _ member
    exact absurd ink (by decide)
  have passes := isReadBack_of_isStorable isBlank_block storable 0 [] _ (awaits_needValue [])
  have ends : EndsNumber ['\n'] := by
    intro c head
    cases head
    decide
  have read := passes (writeBlock value).length 0 ['\n'] ends
  rw [parse, if_neg unmarked]
  unfold State.runText at read
  rw [writeBlock] at read ⊢
  rw [read]
  simp [tokens, isSpacing, State.run, State.finish]

end Document

/-! ## Octets -/

namespace Text

theorem unifyLineEnds_of_ink {chars : List Char} (ink : InInk chars) :
    unifyLineEnds chars = chars := by
  induction chars with
  | nil => rfl
  | cons c rest inductionHypothesis =>
      rw [inInk_cons] at ink
      have other := ink.1.ne_carriageReturn
      rw [unifyLineEnds, if_neg other, inductionHypothesis ink.2]
      intro _ same
      exact absurd same other

namespace Utf8

theorem decodeFrom_encode_of_ink {chars : List Char} (ink : InInk chars) (position : Nat) :
    decodeFrom position (encode chars) = .ok chars := by
  induction chars generalizing position with
  | nil => rfl
  | cons c rest inductionHypothesis =>
      rw [inInk_cons] at ink
      have small := ink.1.toNat_lt
      have single : encode (c :: rest) = c.toNat.toUInt8 :: encode rest := by
        simp [encode, encodeChar, small]
      have code : c.toNat.toUInt8.toNat = c.toNat := by
        rw [Nat.toUInt8_eq, UInt8.toNat_ofNat', Nat.mod_eq_of_lt (by omega)]
      have low : c.toNat.toUInt8 < 0x80 := by
        rw [UInt8.lt_iff_toNat_lt, code]
        exact small
      rw [single, decodeFrom.eq_def]
      simp [low, code, inductionHypothesis ink.2, Except.map]

end Utf8
end Text

/-- A storable document is read back from the octets of its block form. -/
theorem Document.ofOctets_writeBlock {value : Document.Value} (storable : value.IsStorable) :
    ofOctets (Text.Utf8.encode (writeBlock value)) = .ok value := by
  have ink := inInk_writeBlock (storable.mono And.right)
  unfold ofOctets Text.Utf8.decode
  rw [Text.Utf8.decodeFrom_encode_of_ink ink]
  simp only [Text.unifyLineEnds_of_ink ink, parse_writeBlock storable]

/-- A document that was read from octets is proper, as any that was read. -/
theorem Document.isProper_of_ofOctets {octets : List UInt8} {value : Document.Value}
    (read : ofOctets octets = .ok value) : value.Everywhere Document.Value.IsProper := by
  unfold ofOctets at read
  split at read
  · cases read
  · simp only at read
    split at read
    · rename_i found parsed
      cases read
      exact isProper_of_parse parsed
    · cases read
    · cases read

end RefTree
