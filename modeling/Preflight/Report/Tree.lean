import Preflight.Report.Layout
import Preflight.Report.Markup

/-!
# Trees of labels

A tree is drawn with its children below it, one after another, joined to it by lines. A label may
have several lines; each is cut to the width that is left beside the joins.
-/

namespace Preflight.Report

open Text

/-- What a node of a configuration's tree shows. -/
inductive NodeKind
  | service
  | attribute
  | hosts
  | extra
  | endpoints
  | endpoint
  | backend
  deriving DecidableEq, Repr

/-- A tree whose nodes have labels with markup. -/
inductive LabelTree
  | node (kind : NodeKind) (label : String) (children : List LabelTree)

namespace LabelTree

def kind : LabelTree → NodeKind
  | .node kind _ _ => kind

def label : LabelTree → String
  | .node _ label _ => label

def children : LabelTree → List LabelTree
  | .node _ _ children => children

def leaf (kind : NodeKind) (label : String) : LabelTree := .node kind label []

end LabelTree

def labelLines (screen : Screen) (width : Nat) (label : String) :
    Except (Failure MarkupFault) (List (List Char)) := do
  let shown ← showMarkup screen label.toList
  pure ((shownLines shown).map (crop width))

def firstJoin (isLast : Bool) : List Char := (if isLast then "└── " else "├── ").toList

/-- The join before the other lines of a child and before what is below it. -/
def otherJoin (isLast : Bool) : List Char := (if isLast then "    " else "│   ").toList

def joined (first other : List Char) : List (List Char) → List (List Char)
  | [] => []
  | line :: lines => (first ++ line) :: lines.map (other ++ ·)

mutual

/-- The lines of a tree: `first` stands before the first line of its label, `other` before all
others. -/
def LabelTree.lines (screen : Screen) (first other : List Char) :
    LabelTree → Except (Failure MarkupFault) (List (List Char))
  | .node _ label children => do
    let own ← labelLines screen (screen.width - cells other) label
    let below ← childLines screen other children
    pure (joined first other own ++ below)

def childLines (screen : Screen) (above : List Char) :
    List LabelTree → Except (Failure MarkupFault) (List (List Char))
  | [] => .ok []
  | child :: children => do
    let isLast := children.isEmpty
    let own ← child.lines screen (above ++ firstJoin isLast) (above ++ otherJoin isLast)
    let rest ← childLines screen above children
    pure (own ++ rest)

end

def LabelTree.printed (screen : Screen) (tree : LabelTree) : Except (Failure MarkupFault) String := do
  let lines ← tree.lines screen [] []
  pure (String.ofList (lines.flatMap (· ++ ['\n'])))

end Preflight.Report
