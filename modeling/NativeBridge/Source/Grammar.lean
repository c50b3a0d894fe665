import NativeBridge.Source.Grammar.Item
import NativeBridge.Source.Token

/-!
# Reading source text

`Grammar.ofDepth` is the grammar of what is nested so many levels deep, and `Grammar.of` that of a
sequence of trees: each level of nesting takes a tree, so there are never more levels than trees. The
readers of types, attributes, signatures and items take a sequence as a whole.
-/

namespace NativeBridge.Source

namespace Grammar

/-- The grammar with one more level of nesting. -/
def next (g : Grammar) : Grammar where
  type := g.typeExpr
  bound := g.boundForm
  expr := g.exprForm
  operand := g.operandForm
  standing := g.standingForm
  pattern := g.patternForm
  statements := g.statementList

/-- The grammar of what is nested at most so many levels deep. -/
def ofDepth : Nat → Grammar
  | 0 => empty
  | n + 1 => (ofDepth n).next

/-- The grammar that a sequence of trees needs. -/
def of (ts : Trees) : Grammar := ofDepth (2 * Tree.sizeAll ts + 2)

/-- What a part of the grammar makes of a whole sequence. -/
def readAll? {α : Type} (part : Grammar → Reader α) (ts : Trees) : Option α :=
  (Reader.readAll? (part (of ts)) ts).map (·.1)

end Grammar

/-- The type that a sequence of trees is. -/
def TypeExpr.ofTrees? (ts : Trees) : Option TypeExpr := Grammar.readAll? (·.type true) ts

/-- Attributes in front of an item. -/
def Attribute.ofTrees? (ts : Trees) : Option (List Attribute) :=
  Grammar.readAll? Grammar.outerAttributes ts

def Signature.ofTrees? (ts : Trees) : Option Signature := Grammar.readAll? Grammar.signature ts

def FnItem.ofTrees? (ts : Trees) : Option FnItem := Grammar.readAll? Grammar.functionItem ts

def ImplBlock.ofTrees? (ts : Trees) : Option ImplBlock := Grammar.readAll? Grammar.implBlock ts

def DataItem.ofTrees? (ts : Trees) : Option DataItem := Grammar.readAll? Grammar.dataItem ts

end NativeBridge.Source
