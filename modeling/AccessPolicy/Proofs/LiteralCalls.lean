import AccessPolicy.Expr.Names
import AccessPolicy.Proofs.Subexpressions

/-!
The calls with literal arguments. They are gathered from a syntax tree level by level; here they are found to be
those of all the expressions that an expression is made of, wherever these stand.
-/

namespace AccessPolicy

/-- The literal call that an expression itself is, if it is one. -/
def Expr.callHere : Expr → List LiteralCall
  | .call callee args _ => LiteralCall.here callee args
  | _ => []

namespace LiteralCall

theorem mem_beside {c : LiteralCall} {as bs : List (List LiteralCall)} :
    c ∈ (beside as bs).flatten ↔ c ∈ as.flatten ∨ c ∈ bs.flatten := by
  induction as generalizing bs with
  | nil => simp [beside]
  | cons a as ih =>
    cases bs with
    | nil => simp [beside]
    | cons b bs =>
      simp only [beside, List.flatten_cons, List.mem_append, ih]
      exact or_or_or_comm

/-- Whether the levels of a part of a syntax tree hold the literal calls of its subexpressions. -/
structure Gathers (levels : List (List LiteralCall)) (subs : List Expr) : Prop where
  mem_iff : ∀ c, c ∈ levels.flatten ↔ c ∈ subs.flatMap Expr.callHere

namespace Gathers

variable {as bs : List (List LiteralCall)} {es fs : List Expr}

theorem none : Gathers [] [] := ⟨fun _ => Iff.rfl⟩

theorem beside (ha : Gathers as es) (hb : Gathers bs fs) : Gathers (beside as bs) (es ++ fs) where
  mem_iff c := by rw [mem_beside, List.flatMap_append, List.mem_append, ha.mem_iff, hb.mem_iff]

theorem beside_beside {cs : List (List LiteralCall)} {gs : List Expr} (ha : Gathers as es) (hb : Gathers bs fs)
    (hc : Gathers cs gs) : Gathers (LiteralCall.beside as (LiteralCall.beside bs cs)) (es ++ fs ++ gs) := by
  rw [List.append_assoc]
  exact ha.beside (hb.beside hc)

theorem above (ha : Gathers as es) (e : Expr) : Gathers (e.callHere :: as) (e :: es) where
  mem_iff c := by rw [List.flatten_cons, List.flatMap_cons, List.mem_append, List.mem_append, ha.mem_iff]

theorem deeper (ha : Gathers as es) : Gathers ([] :: as) es where
  mem_iff := ha.mem_iff

/-- An entry of a mapping has its key among the keys and its value among the values. -/
theorem entry {ks vs keys values : List (List LiteralCall)} {kes ves items : List Expr} (hk : Gathers ks kes)
    (hv : Gathers vs ves) (hitems : Gathers (LiteralCall.beside keys values) items) :
    Gathers (LiteralCall.beside (LiteralCall.beside ks keys) (LiteralCall.beside vs values))
      (kes ++ ves ++ items) where
  mem_iff c := by
    have h := hitems.mem_iff c
    rw [mem_beside] at h
    simp only [mem_beside, List.flatMap_append, List.mem_append, hk.mem_iff, hv.mem_iff, ← h]
    exact or_or_or_comm

theorem spread {vs keys values : List (List LiteralCall)} {ves items : List Expr} (hv : Gathers vs ves)
    (hitems : Gathers (LiteralCall.beside keys values) items) :
    Gathers (LiteralCall.beside keys (LiteralCall.beside vs values)) (ves ++ items) where
  mem_iff c := by
    have h := hitems.mem_iff c
    rw [mem_beside] at h
    simp only [mem_beside, List.flatMap_append, List.mem_append, hv.mem_iff, ← h]
    exact or_left_comm

end Gathers

mutual

theorem gathers : ∀ e : Expr, Gathers (levels e) e.subexpressions
  | .literal c => Gathers.none.above (.literal c)
  | .name n => Gathers.none.above (.name n)
  | .attribute base attr => (gathers base).above (.attribute base attr)
  | .subscript base index => ((gathers base).beside (gathers index)).above (.subscript base index)
  | .slice lower upper step =>
    ((gathersMaybe lower).beside_beside (gathersMaybe upper) (gathersMaybe step)).above (.slice lower upper step)
  | .call callee args keywords =>
    ((gathers callee).beside_beside (gathersAll args) (gathersKeywords keywords)).above (.call callee args keywords)
  | .unary op e => (gathers e).above (.unary op e)
  | .binary op a b => ((gathers a).beside (gathers b)).above (.binary op a b)
  | .connected op es => (gathersAll es).above (.connected op es)
  | .compared e rest => ((gathers e).beside (gathersCompared rest)).above (.compared e rest)
  | .conditional test body orelse =>
    ((gathers test).beside_beside (gathers body) (gathers orelse)).above (.conditional test body orelse)
  | .list es => (gathersAll es).above (.list es)
  | .tuple es => (gathersAll es).above (.tuple es)
  | .set es => (gathersAll es).above (.set es)
  | .dict items => (gathersItems items).above (.dict items)
  | .starred e => (gathers e).above (.starred e)
  | .comprehension kind e clauses =>
    ((gathers e).beside (gathersClauses clauses)).above (.comprehension kind e clauses)
  | .dictComprehension k v clauses =>
    ((gathers k).beside_beside (gathers v) (gathersClauses clauses)).above (.dictComprehension k v clauses)
  | .interpolated pieces => (gathersPieces pieces).above (.interpolated pieces)
  | .lambda ps defaults body => ((gathersAll defaults).deeper.beside (gathers body)).above (.lambda ps defaults body)
  | .await e => (gathers e).above (.await e)
  | .yield e => (gathersMaybe e).above (.yield e)
  | .yieldFrom e => (gathers e).above (.yieldFrom e)
  | .assignment n e => (gathers e).above (.assignment n e)
termination_by structural e => e

theorem gathersAll : ∀ es : List Expr, Gathers (levelsAll es) (subexpressionsAll es)
  | [] => .none
  | e :: es => (gathers e).beside (gathersAll es)
termination_by structural es => es

theorem gathersMaybe : ∀ e : Option Expr, Gathers (levelsMaybe e) (subexpressionsMaybe e)
  | none => .none
  | some e => gathers e
termination_by structural e => e

theorem gathersKeywords : ∀ ks : List Keyword, Gathers (levelsKeywords ks) (subexpressionsKeywords ks)
  | [] => .none
  | .mk _ e :: ks => (gathers e).deeper.beside (gathersKeywords ks)
termination_by structural ks => ks

theorem gathersCompared : ∀ cs : List Comparison, Gathers (levelsCompared cs) (subexpressionsCompared cs)
  | [] => .none
  | .mk _ e :: cs => (gathers e).beside (gathersCompared cs)
termination_by structural cs => cs

theorem gathersItems : ∀ items : List DictItem,
    Gathers (beside (levelsKeys items) (levelsValues items)) (subexpressionsItems items)
  | [] => .none
  | .entry k v :: items => (gathers k).entry (gathers v) (gathersItems items)
  | .spread e :: items => (gathers e).spread (gathersItems items)
termination_by structural items => items

theorem gathersClauses : ∀ gs : List Generator, Gathers (levelsClauses gs) (subexpressionsClauses gs)
  | [] => .none
  | .mk target iterable conditions :: gs =>
    ((gathers target).beside_beside (gathers iterable) (gathersAll conditions)).deeper.beside (gathersClauses gs)
termination_by structural gs => gs

theorem gathersPieces : ∀ ps : List Piece, Gathers (levelsPieces ps) (subexpressionsPieces ps)
  | [] => .none
  | .text _ :: ps => gathersPieces ps
  | .field e layout :: ps => ((gathers e).beside (gathersLayout layout)).deeper.beside (gathersPieces ps)
termination_by structural ps => ps

theorem gathersLayout : ∀ layout : Option (List Piece), Gathers (levelsLayout layout) (subexpressionsLayout layout)
  | none => .none
  | some ps => (gathersPieces ps).deeper
termination_by structural layout => layout

end

theorem literals?_map (cs : List Literal) : literals? (cs.map .literal) = some cs := by
  induction cs with
  | nil => rfl
  | cons c cs ih => rw [List.map_cons, literals?, ih, Option.map_some]

theorem literals?_eq_some {es : List Expr} {cs : List Literal} (h : literals? es = some cs) :
    es = cs.map .literal := by
  induction es generalizing cs with
  | nil =>
    cases h
    rfl
  | cons e es ih =>
    cases e with
    | literal c =>
      obtain ⟨ds, hds, rfl⟩ := Option.map_eq_some_iff.mp h
      rw [ih hds, List.map_cons]
    | _ => cases h

theorem mem_callHere {e : Expr} {c : LiteralCall} :
    c ∈ e.callHere ↔ ∃ keywords, e = .call (.name c.callee) (c.args.map .literal) keywords := by
  constructor
  · intro h
    cases e with
    | call callee args keywords =>
      change c ∈ here callee args at h
      unfold here at h
      split at h
      next f cs hcs =>
        obtain rfl := List.mem_singleton.mp h
        exact ⟨keywords, by rw [literals?_eq_some hcs]⟩
      next => cases h
    | _ => cases h
  · rintro ⟨keywords, rfl⟩
    change c ∈ here (.name c.callee) (c.args.map .literal)
    unfold here
    rw [literals?_map]
    exact List.mem_singleton_self c

end LiteralCall

/-- The literal calls of an expression are the calls of names, with literals by position, among all that it is
made of. -/
theorem Expr.mem_literalCalls {e : Expr} {c : LiteralCall} :
    c ∈ e.literalCalls ↔ ∃ keywords, .call (.name c.callee) (c.args.map .literal) keywords ∈ e.subexpressions := by
  unfold literalCalls
  rw [(LiteralCall.gathers e).mem_iff, List.mem_flatMap]
  simp only [LiteralCall.mem_callHere]
  constructor
  · rintro ⟨sub, hsub, keywords, rfl⟩
    exact ⟨keywords, hsub⟩
  · rintro ⟨keywords, hsub⟩
    exact ⟨_, hsub, keywords, rfl⟩

end AccessPolicy
