import NativeBridge.Text.Quoted

/-!
# Token trees

Rust source text as a tree of tokens: identifiers, punctuation characters, literals, and groups in
matching delimiters. A punctuation character knows whether it is joined to the next one; a lifetime is
a joined apostrophe and an identifier. `Tree.textAll` is the text of a sequence: tokens are separated
by one space, except behind a joined character and just inside parentheses and brackets.

`Tree.replaceSelfAll` puts the tokens of a type in the place of every identifier `Self`, at any depth.
-/

namespace NativeBridge.Source

/-- What encloses a group. -/
inductive Delimiter
  | parenthesis
  | brace
  | bracket
  /-- Holds together what a macro has put in. No text has it. -/
  | invisible
  deriving DecidableEq

namespace Delimiter

def opening : Delimiter → String
  | parenthesis => "("
  | brace => "\x7b "
  | bracket => "["
  | invisible => ""

def closing : Delimiter → String
  | parenthesis => ")"
  | brace => "\x7d"
  | bracket => "]"
  | invisible => ""

end Delimiter

/-- A token or a delimited group of them. -/
inductive Tree
  | ident (name : String)
  | punct (mark : Char) (joint : Bool)
  /-- A literal as it is spelled. -/
  | literal (spelling : String)
  | group (d : Delimiter) (trees : List Tree)

/-- A sequence of token trees. -/
abbrev Trees := List Tree

namespace Tree

/-- The token is joined to the next one. -/
def isJoint : Tree → Bool
  | punct _ joint => joint
  | _ => false

mutual

/-- Text of a tree. -/
def text : Tree → String
  | ident name => name
  | punct mark _ => mark.toString
  | literal spelling => spelling
  | group d trees =>
    d.opening ++ textAll trees ++ (if d = .brace && !trees.isEmpty then " " else "") ++ d.closing

/-- Text of a sequence of trees. -/
def textAll : List Tree → String
  | [] => ""
  | [t] => t.text
  | t :: rest => t.text ++ (if t.isJoint then "" else " ") ++ textAll rest

end

mutual

/-- Number of tokens and groups in a tree. -/
def size : Tree → Nat
  | group _ trees => sizeAll trees + 1
  | _ => 1

def sizeAll : List Tree → Nat
  | [] => 0
  | t :: rest => t.size + sizeAll rest

end

mutual

/-- The tree with the type's tokens for `Self`. -/
def replaceSelf (type : Trees) : Tree → Trees
  | ident name => if name = "Self" then type else [ident name]
  | group d trees => [group d (replaceSelfAll type trees)]
  | t => [t]

/-- The sequence with the type's tokens for every `Self`. -/
def replaceSelfAll (type : Trees) : List Tree → Trees
  | [] => []
  | t :: rest => t.replaceSelf type ++ replaceSelfAll type rest

end

end Tree

end NativeBridge.Source
