import NativeBridge.Source.Token

/-!
# Trees as sequences of tokens

`Tree.flattenAll` writes a sequence of trees as the tokens it is made of, in their order and at any
depth, each group between its delimiters. Nothing is lost by this : putting the tokens together gives
the trees back (`Trees.ofTokens?_flattenAll`), so trees with the same tokens are the same
(`Tree.flattenAll_injective`).
-/

namespace NativeBridge.Source

namespace Tree

mutual

/-- The tokens of a tree. -/
def flatten : Tree → List Token
  | group d trees => .opening d :: (flattenAll trees ++ [.closing d])
  | t => [.leaf t]

/-- The tokens of a sequence of trees. -/
def flattenAll : List Tree → List Token
  | [] => []
  | t :: rest => t.flatten ++ flattenAll rest

end

theorem flattenAll_append (ts us : Trees) :
    flattenAll (ts ++ us) = flattenAll ts ++ flattenAll us := by
  induction ts with
  | nil => rfl
  | cons t rest ih => rw [List.cons_append, flattenAll, flattenAll, ih, List.append_assoc]

end Tree

namespace Trees

open NativeBridge.Source.Tree

mutual

/-- The tokens of a tree are put together to the tree again, whatever follows them. By induction on
the tree. -/
theorem assemble_flatten : (t : Tree) → (rest : List Token) → (trees : List Tree) →
    (outer : Open) → assemble (t.flatten ++ rest) trees outer = assemble rest (t :: trees) outer
  | .group d inner, rest, trees, outer => by
    have inside := assemble_flattenAll inner (.closing d :: rest) [] ((trees, d) :: outer)
    rw [flatten, List.cons_append, List.append_assoc, List.singleton_append, assemble, inside,
      assemble, if_pos rfl, List.append_nil, List.reverse_reverse]
  | .ident _, _, _, _ => rfl
  | .punct _ _, _, _, _ => rfl
  | .literal _, _, _, _ => rfl

/-- The tokens of a sequence add it to the innermost open group. -/
theorem assemble_flattenAll : (ts : Trees) → (rest : List Token) → (trees : List Tree) →
    (outer : Open) →
    assemble (flattenAll ts ++ rest) trees outer = assemble rest (ts.reverse ++ trees) outer
  | [], _, _, _ => rfl
  | t :: ts, rest, trees, outer => by
    rw [flattenAll, List.append_assoc, assemble_flatten t, assemble_flattenAll ts,
      List.reverse_cons, List.append_assoc, List.singleton_append]

end

/-- Trees are read back from their tokens. -/
theorem ofTokens?_flattenAll (ts : Trees) : ofTokens? (flattenAll ts) = some ts := by
  have whole := assemble_flattenAll ts [] [] []
  rwa [List.append_nil, List.append_nil, assemble, List.reverse_reverse] at whole

end Trees

/-- Different trees have different tokens. -/
theorem Tree.flattenAll_injective {ts us : Trees} (same : flattenAll ts = flattenAll us) :
    ts = us := by
  have read := Trees.ofTokens?_flattenAll ts
  rw [same, Trees.ofTokens?_flattenAll] at read
  exact (Option.some.inj read).symm

end NativeBridge.Source
