import NativeBridge.Source.Literal
import NativeBridge.Source.Reader

/-!
# Writing code

Short ways to write sequences of trees: `code` takes words separated by blanks, each a name, an
operator or a lifetime; groups, texts and lists are made of sequences.
-/

namespace NativeBridge.Source.Trees

/-- The words of a text, separated by blanks. `word` holds the characters of the current one, last
first. -/
def wordsFrom (word : List Char) : List Char → List (List Char)
  | [] => if word.isEmpty then [] else [word.reverse]
  | c :: rest =>
    if c ≠ ' ' then wordsFrom (c :: word) rest
    else if word.isEmpty then wordsFrom [] rest
    else word.reverse :: wordsFrom [] rest

/-- The trees of one word. -/
def ofWord : List Char → Trees
  | '\'' :: name => [.punct '\'' true, .ident (String.ofList name)]
  | c :: rest =>
    if c.isAlphanum || c = '_' then [.ident (String.ofList (c :: rest))] else ofMarks (c :: rest)
  | [] => []

/-- The trees of words separated by blanks. -/
def code (s : String) : Trees := (wordsFrom [] s.toList).flatMap ofWord

def ident (name : String) : Trees := [.ident name]

/-- A literal with the given text. -/
def quoted (text : String) : Trees := [.literal (Literal.ofText text)]

def parens (ts : Trees) : Trees := [.group .parenthesis ts]

def brackets (ts : Trees) : Trees := [.group .bracket ts]

def braces (ts : Trees) : Trees := [.group .brace ts]

/-- Sequences with commas between them. -/
def listed : List Trees → Trees
  | [] => []
  | [ts] => ts
  | ts :: rest => ts ++ ofMarks [','] ++ listed rest

/-- A vector of the given items. -/
def vector (items : List Trees) : Trees := code ":: std :: vec !" ++ brackets (listed items)

/-- A name of the library that generated code is linked with. -/
def library (name : String) : Trees := code ":: hostbind_core ::" ++ code name

end NativeBridge.Source.Trees
