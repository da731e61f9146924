import AccessPolicy.Expr

/-!
The expressions that an expression is made of.
-/

namespace AccessPolicy

mutual

/-- An expression and all expressions in it, at any depth. -/
def Expr.subexpressions : Expr → List Expr
  | .literal c => [.literal c]
  | .name n => [.name n]
  | .attribute base attr => .attribute base attr :: base.subexpressions
  | .subscript base index => .subscript base index :: (base.subexpressions ++ index.subexpressions)
  | .slice lower upper step => .slice lower upper step ::
      (subexpressionsMaybe lower ++ subexpressionsMaybe upper ++ subexpressionsMaybe step)
  | .call callee args keywords => .call callee args keywords ::
      (callee.subexpressions ++ subexpressionsAll args ++ subexpressionsKeywords keywords)
  | .unary op e => .unary op e :: e.subexpressions
  | .binary op a b => .binary op a b :: (a.subexpressions ++ b.subexpressions)
  | .connected op es => .connected op es :: subexpressionsAll es
  | .compared e rest => .compared e rest :: (e.subexpressions ++ subexpressionsCompared rest)
  | .conditional test body orelse => .conditional test body orelse ::
      (test.subexpressions ++ body.subexpressions ++ orelse.subexpressions)
  | .list es => .list es :: subexpressionsAll es
  | .tuple es => .tuple es :: subexpressionsAll es
  | .set es => .set es :: subexpressionsAll es
  | .dict items => .dict items :: subexpressionsItems items
  | .starred e => .starred e :: e.subexpressions
  | .comprehension kind e clauses => .comprehension kind e clauses ::
      (e.subexpressions ++ subexpressionsClauses clauses)
  | .dictComprehension k v clauses => .dictComprehension k v clauses ::
      (k.subexpressions ++ v.subexpressions ++ subexpressionsClauses clauses)
  | .interpolated pieces => .interpolated pieces :: subexpressionsPieces pieces
  | .lambda parameters defaults body => .lambda parameters defaults body ::
      (subexpressionsAll defaults ++ body.subexpressions)
  | .await e => .await e :: e.subexpressions
  | .yield e => .yield e :: subexpressionsMaybe e
  | .yieldFrom e => .yieldFrom e :: e.subexpressions
  | .assignment n e => .assignment n e :: e.subexpressions
termination_by structural e => e

def subexpressionsMaybe : Option Expr → List Expr
  | none => []
  | some e => e.subexpressions
termination_by structural e => e

def subexpressionsAll : List Expr → List Expr
  | [] => []
  | e :: es => e.subexpressions ++ subexpressionsAll es
termination_by structural es => es

def subexpressionsKeywords : List Keyword → List Expr
  | [] => []
  | .mk _ e :: ks => e.subexpressions ++ subexpressionsKeywords ks
termination_by structural ks => ks

def subexpressionsCompared : List Comparison → List Expr
  | [] => []
  | .mk _ e :: cs => e.subexpressions ++ subexpressionsCompared cs
termination_by structural cs => cs

def subexpressionsItems : List DictItem → List Expr
  | [] => []
  | .entry k v :: items => k.subexpressions ++ v.subexpressions ++ subexpressionsItems items
  | .spread e :: items => e.subexpressions ++ subexpressionsItems items
termination_by structural items => items

def subexpressionsClauses : List Generator → List Expr
  | [] => []
  | .mk target iterable conditions :: gs =>
    target.subexpressions ++ iterable.subexpressions ++ subexpressionsAll conditions ++
      subexpressionsClauses gs
termination_by structural gs => gs

def subexpressionsPieces : List Piece → List Expr
  | [] => []
  | .text _ :: ps => subexpressionsPieces ps
  | .field e layout :: ps => e.subexpressions ++ subexpressionsLayout layout ++ subexpressionsPieces ps
termination_by structural ps => ps

def subexpressionsLayout : Option (List Piece) → List Expr
  | none => []
  | some ps => subexpressionsPieces ps
termination_by structural ps => ps

end

/-- The parameters of an expression that is a function. -/
def Expr.parameters : Expr → List String
  | .lambda parameters _ _ => parameters
  | _ => []

end AccessPolicy
