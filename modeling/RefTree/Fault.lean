import RefTree.Text.Quoted

namespace RefTree

/-!
# Faults

Everything that can go wrong is a cause with the data that its message shows.  Causes fall into
kinds.  The first four kinds are the faults of the tree itself: an unknown id, a snapshot that
cannot be used, a malformed reference, and a fault that a host reports in general terms.  A row
whose expansion meets one of these is printed with the fault in place of its children.  All other
kinds stop the run.
-/

inductive FaultKind where
  | notFound
  | unavailable
  | malformed
  | general
  | wrongType
  | missingKey
  | badValue
  | overflow
  | environment
  | fileSystem
  | missingPart
  deriving DecidableEq, Repr

/-- Decide whether faults of the kind belong to the tree, and so can be shown in place. -/
def FaultKind.isTreeFault : FaultKind -> Bool
  | .notFound | .unavailable | .malformed | .general => true
  | _ => false

/-- A field that has to hold an integer.  The owner is given as messages show it. -/
inductive IntegerField where
  | line (reference : String)
  | column (reference : String)
  | nameHash (owner : String)
  | categoryId (category : String)
  deriving DecidableEq, Repr

def IntegerField.message : IntegerField -> String
  | .line reference => "line of reference " ++ reference
  | .column reference => "column of reference " ++ reference
  | .nameHash owner => "mangled name hash of " ++ owner
  | .categoryId category => "id of category " ++ category

inductive Fault where
  | unknownSymbol (id : String)
  | unknownFile (id : String)
  | unknownCategory (id owner : String)
  | categoryNotInteger (shown : String)
  | notAnObject
  | cannotLoad (path detail : String)
  | payloadNotObject (typeWord : String)
  | payloadWithoutId
  | withoutRange (id : String)
  | withoutFile (id : String)
  | withoutSourceFile (id : String)
  | tagsNotList (owner : String)
  | notInteger (field : IntegerField) (shown : String)
  | referencesNotList (category owner : String)
  | infiniteInteger
  | undefinedInteger
  | integerTooLong (digits : Nat)
  | unsupportedFocus (typeWord : String)
  | notComparable (left right : String)
  | unknownProvider (name : String)
  | noHomeDirectory
  | nullInPath
  | pathTooLong (path : String)
  | withoutPart (typeWord part : String)
  | hosted (kind : FaultKind) (message : String)
  deriving DecidableEq, Repr

namespace Fault

def kind : Fault -> FaultKind
  | .unknownSymbol _ | .unknownFile _ | .unknownCategory _ _ | .categoryNotInteger _ => .notFound
  | .notAnObject | .cannotLoad _ _ => .unavailable
  | .payloadNotObject _ | .payloadWithoutId | .withoutRange _ | .withoutFile _
  | .withoutSourceFile _ | .tagsNotList _ | .notInteger _ _ | .referencesNotList _ _ =>
      .malformed
  | .unsupportedFocus _ | .notComparable _ _ => .wrongType
  | .unknownProvider _ => .missingKey
  | .undefinedInteger | .integerTooLong _ | .nullInPath => .badValue
  | .infiniteInteger => .overflow
  | .noHomeDirectory => .environment
  | .pathTooLong _ => .fileSystem
  | .withoutPart _ _ => .missingPart
  | .hosted kind _ => kind

/-- Decide whether a fault is shown in place of the children of a row. -/
def isTreeFault (fault : Fault) : Bool :=
  fault.kind.isTreeFault

/-- The text of a fault.  A missing key is reported as the key itself, in quotes. -/
def message : Fault -> String
  | .unknownSymbol id => "unknown symbol id: " ++ id
  | .unknownFile id => "unknown file id: " ++ id
  | .unknownCategory id owner => "unknown category id " ++ id ++ " for " ++ owner
  | .categoryNotInteger shown => "category id must be an integer, got " ++ shown
  | .notAnObject => "snapshot must decode to a JSON object"
  | .cannotLoad path detail => "cannot load snapshot " ++ path ++ ": " ++ detail
  | .payloadNotObject typeWord => "reference payload must be an object, got " ++ typeWord
  | .payloadWithoutId => "reference payload has no id"
  | .withoutRange id => "reference " ++ Text.quoted id ++ " has no range"
  | .withoutFile id => "reference " ++ Text.quoted id ++ " has no file"
  | .withoutSourceFile id => "reference " ++ Text.quoted id ++ " has no source file"
  | .tagsNotList owner => owner ++ " has non-list tags"
  | .notInteger field shown => field.message ++ " must be an integer, got " ++ shown
  | .referencesNotList category owner =>
      "references of category " ++ category ++ " for " ++ owner ++ " are not a list"
  | .infiniteInteger => "cannot convert float infinity to integer"
  | .undefinedInteger => "cannot convert float NaN to integer"
  | .integerTooLong digits =>
      "Exceeds the limit (4300 digits) for integer string conversion: value has " ++
        digits.repr ++ " digits; use sys.set_int_max_str_digits() to increase the limit"
  | .unsupportedFocus typeWord => "unsupported info-tree focus: " ++ typeWord
  | .notComparable left right =>
      "'<' not supported between instances of '" ++ left ++ "' and '" ++ right ++ "'"
  | .unknownProvider name => Text.quoted name
  | .noHomeDirectory => "Could not determine home directory."
  | .nullInPath => "embedded null byte"
  | .pathTooLong path => "[Errno 36] File name too long: " ++ Text.quoted path
  | .withoutPart typeWord part => "'" ++ typeWord ++ "' object has no attribute '" ++ part ++ "'"
  | .hosted .missingKey message => Text.quoted message
  | .hosted _ message => message

end Fault
end RefTree
