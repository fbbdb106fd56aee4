import RefTree.Fault

namespace RefTree

/-!
# Diagnostic notes

When asked to, a run reports what it does.  A note belongs to the part of the program that makes
it and is one line of text.
-/

/-- The part of the program that makes a note. -/
inductive Channel where
  | loading
  | building
  | grouping
  | callChain
  | printing
  deriving DecidableEq, Repr

/-- The name under which a part of the program reports. -/
def Channel.name : Channel -> String
  | .loading => "infotree.backend.snapshot"
  | .building => "infotree.tree_model.build"
  | .grouping => "infotree.tree_model.grouping"
  | .callChain => "infotree.tree_model.call_chain"
  | .printing => "infotree.render"

structure Note where
  channel : Channel
  text : String
  deriving DecidableEq, Repr

/-- The line of a note, after a stamp that says when it was made. -/
def Note.line (stamp : String) (note : Note) : String :=
  stamp ++ " - " ++ note.channel.name ++ " - DEBUG - " ++ note.text ++ "\n"

end RefTree
