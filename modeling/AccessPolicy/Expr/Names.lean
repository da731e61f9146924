import AccessPolicy.Expr
import AccessPolicy.Text.Sorted

/-!
What an expression mentions: the names it reads and binds, and its calls with literal arguments.
-/

namespace AccessPolicy

/-- An occurrence of a name: read, or bound by a `for` clause or an assignment. -/
inductive Mention where
  | read (name : String)
  | bound (name : String)
  deriving DecidableEq, Repr

mutual

def Expr.mentions : Expr → List Mention
  | .literal _ => []
  | .name n => [.read n]
  | .attribute base _ => base.mentions
  | .subscript base index => base.mentions ++ index.mentions
  | .slice lower upper step => mentionsMaybe lower ++ mentionsMaybe upper ++ mentionsMaybe step
  | .call callee args keywords => callee.mentions ++ mentionsAll args ++ mentionsKeywords keywords
  | .unary _ e => e.mentions
  | .binary _ a b => a.mentions ++ b.mentions
  | .connected _ es => mentionsAll es
  | .compared e rest => e.mentions ++ mentionsCompared rest
  | .conditional test body orelse => test.mentions ++ body.mentions ++ orelse.mentions
  | .list es => mentionsAll es
  | .tuple es => mentionsAll es
  | .set es => mentionsAll es
  | .dict items => mentionsItems items
  | .starred e => e.mentions
  | .comprehension _ e clauses => e.mentions ++ mentionsClauses clauses
  | .dictComprehension k v clauses => k.mentions ++ v.mentions ++ mentionsClauses clauses
  | .interpolated pieces => mentionsPieces pieces
  | .lambda _ defaults body => mentionsAll defaults ++ body.mentions
  | .await e => e.mentions
  | .yield e => mentionsMaybe e
  | .yieldFrom e => e.mentions
  | .assignment n e => .bound n :: e.mentions
termination_by structural e => e

/-- The names that the target of a `for` clause mentions. -/
def Expr.targetMentions : Expr → List Mention
  | .name n => [.bound n]
  | .tuple es => targetMentionsAll es
  | .list es => targetMentionsAll es
  | .starred e => e.targetMentions
  | .attribute base _ => base.mentions
  | .subscript base index => base.mentions ++ index.mentions
  | _ => []
termination_by structural e => e

def targetMentionsAll : List Expr → List Mention
  | [] => []
  | e :: es => e.targetMentions ++ targetMentionsAll es
termination_by structural es => es

def mentionsAll : List Expr → List Mention
  | [] => []
  | e :: es => e.mentions ++ mentionsAll es
termination_by structural es => es

def mentionsMaybe : Option Expr → List Mention
  | none => []
  | some e => e.mentions
termination_by structural e => e

def mentionsKeywords : List Keyword → List Mention
  | [] => []
  | .mk _ e :: ks => e.mentions ++ mentionsKeywords ks
termination_by structural ks => ks

def mentionsCompared : List Comparison → List Mention
  | [] => []
  | .mk _ e :: cs => e.mentions ++ mentionsCompared cs
termination_by structural cs => cs

def mentionsItems : List DictItem → List Mention
  | [] => []
  | .entry k v :: items => k.mentions ++ v.mentions ++ mentionsItems items
  | .spread e :: items => e.mentions ++ mentionsItems items
termination_by structural items => items

def mentionsClauses : List Generator → List Mention
  | [] => []
  | .mk target iterable conditions :: gs =>
    target.targetMentions ++ iterable.mentions ++ mentionsAll conditions ++ mentionsClauses gs
termination_by structural gs => gs

def mentionsPieces : List Piece → List Mention
  | [] => []
  | .text _ :: ps => mentionsPieces ps
  | .field e layout :: ps => e.mentions ++ mentionsLayout layout ++ mentionsPieces ps
termination_by structural ps => ps

def mentionsLayout : Option (List Piece) → List Mention
  | none => []
  | some ps => mentionsPieces ps
termination_by structural ps => ps

end

/-- The names that an expression reads and never binds, sorted. A name that is bound anywhere in the
expression counts as bound in all of it. -/
def Expr.freeNames (e : Expr) : List String :=
  let ms := e.mentions
  Text.sortedSet (ms.filterMap fun
    | .read n => if ms.contains (.bound n) then none else some n
    | .bound _ => none)

theorem Expr.mem_freeNames {e : Expr} {n : String} :
    n ∈ e.freeNames ↔ .read n ∈ e.mentions ∧ .bound n ∉ e.mentions := by
  simp only [freeNames, Text.mem_sortedSet, List.mem_filterMap]
  constructor
  · rintro ⟨m, hm, h⟩
    cases m with
    | read k =>
      simp only [List.contains_iff_mem] at h
      split at h
      · cases h
      · cases h
        exact ⟨hm, by assumption⟩
    | bound k => cases h
  · rintro ⟨h, hb⟩
    exact ⟨.read n, h, by simp [hb]⟩

/-- A call of a name with literals for its arguments by position. -/
structure LiteralCall where
  callee : String
  args : List Literal

namespace LiteralCall

/-- The literals among expressions, if all are literals. -/
def literals? : List Expr → Option (List Literal)
  | [] => some []
  | .literal c :: es => (literals? es).map (c :: ·)
  | _ :: _ => none

def here (callee : Expr) (args : List Expr) : List LiteralCall :=
  match callee, literals? args with
  | .name f, some cs => [⟨f, cs⟩]
  | _, _ => []

/-- Joins what two parts of a syntax tree hold at each depth. -/
def beside : List (List LiteralCall) → List (List LiteralCall) → List (List LiteralCall)
  | [], bs => bs
  | as, [] => as
  | a :: as, b :: bs => (a ++ b) :: beside as bs

mutual

/-- The literal calls in an expression by their depth in the syntax tree. -/
def levels : Expr → List (List LiteralCall)
  | .literal _ => [[]]
  | .name _ => [[]]
  | .attribute base _ => [] :: levels base
  | .subscript base index => [] :: beside (levels base) (levels index)
  | .slice lower upper step =>
    [] :: beside (levelsMaybe lower) (beside (levelsMaybe upper) (levelsMaybe step))
  | .call callee args keywords =>
    here callee args :: beside (levels callee) (beside (levelsAll args) (levelsKeywords keywords))
  | .unary _ e => [] :: levels e
  | .binary _ a b => [] :: beside (levels a) (levels b)
  | .connected _ es => [] :: levelsAll es
  | .compared e rest => [] :: beside (levels e) (levelsCompared rest)
  | .conditional test body orelse => [] :: beside (levels test) (beside (levels body) (levels orelse))
  | .list es => [] :: levelsAll es
  | .tuple es => [] :: levelsAll es
  | .set es => [] :: levelsAll es
  | .dict items => [] :: beside (levelsKeys items) (levelsValues items)
  | .starred e => [] :: levels e
  | .comprehension _ e clauses => [] :: beside (levels e) (levelsClauses clauses)
  | .dictComprehension k v clauses => [] :: beside (levels k) (beside (levels v) (levelsClauses clauses))
  | .interpolated pieces => [] :: levelsPieces pieces
  | .lambda _ defaults body => [] :: beside ([] :: levelsAll defaults) (levels body)
  | .await e => [] :: levels e
  | .yield e => [] :: levelsMaybe e
  | .yieldFrom e => [] :: levels e
  | .assignment _ e => [] :: levels e
termination_by structural e => e

def levelsAll : List Expr → List (List LiteralCall)
  | [] => []
  | e :: es => beside (levels e) (levelsAll es)
termination_by structural es => es

def levelsMaybe : Option Expr → List (List LiteralCall)
  | none => []
  | some e => levels e
termination_by structural e => e

def levelsKeywords : List Keyword → List (List LiteralCall)
  | [] => []
  | .mk _ e :: ks => beside ([] :: levels e) (levelsKeywords ks)
termination_by structural ks => ks

def levelsCompared : List Comparison → List (List LiteralCall)
  | [] => []
  | .mk _ e :: cs => beside (levels e) (levelsCompared cs)
termination_by structural cs => cs

def levelsKeys : List DictItem → List (List LiteralCall)
  | [] => []
  | .entry k _ :: items => beside (levels k) (levelsKeys items)
  | .spread _ :: items => levelsKeys items
termination_by structural items => items

def levelsValues : List DictItem → List (List LiteralCall)
  | [] => []
  | .entry _ v :: items => beside (levels v) (levelsValues items)
  | .spread e :: items => beside (levels e) (levelsValues items)
termination_by structural items => items

def levelsClauses : List Generator → List (List LiteralCall)
  | [] => []
  | .mk target iterable conditions :: gs =>
    beside ([] :: beside (levels target) (beside (levels iterable) (levelsAll conditions))) (levelsClauses gs)
termination_by structural gs => gs

/-- A field is a node of its own, and so is its layout. -/
def levelsPieces : List Piece → List (List LiteralCall)
  | [] => []
  | .text _ :: ps => levelsPieces ps
  | .field e layout :: ps => beside ([] :: beside (levels e) (levelsLayout layout)) (levelsPieces ps)
termination_by structural ps => ps

def levelsLayout : Option (List Piece) → List (List LiteralCall)
  | none => []
  | some ps => [] :: levelsPieces ps
termination_by structural ps => ps

end

end LiteralCall

/-- The calls of names with literals only, from the outside in, and from left to right at each depth. -/
def Expr.literalCalls (e : Expr) : List LiteralCall := (LiteralCall.levels e).flatten

end AccessPolicy
