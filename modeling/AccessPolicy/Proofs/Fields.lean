import AccessPolicy.Proofs.Covering
import AccessPolicy.Expr.TextLiteral

/-!
The fields of interpolated texts. A field is shorter than its text by its braces at least, so that a reader of
fields is only asked for what is shorter.
-/

namespace AccessPolicy

namespace TextToken

theorem takePlain?_length {raw nested : Bool} {cs text rest : List Char}
    (h : takePlain? raw nested cs = some (text, rest)) : rest.length ≤ cs.length := by
  fun_induction takePlain? raw nested cs generalizing text rest with
  | case1 => simp_all
  | case2 => simp_all; grind
  | case3 => simp_all; grind
  | case4 => simp_all; grind
  | case5 => simp_all
  | case6 => simp_all; grind
  | case7 => simp_all
  | case8 => simp_all
  | case9 => simp_all; grind

/-- What is kept of a text, and what is found behind it, come from that text. -/
theorem kept_length {opened : List Char} {quotes : Option (List Char)} {fuel : Nat} {taken cs more source rest : List Char}
    (ih : ∀ opened quotes more {source rest}, takeSource? opened quotes fuel more = some (source, rest) →
      source.length + rest.length ≤ more.length ∧ rest ≠ [])
    (hlength : taken.length + more.length ≤ cs.length)
    (h : (takeSource? opened quotes fuel more).map (fun x => (taken ++ x.1, x.2)) = some (source, rest)) :
    source.length + rest.length ≤ cs.length ∧ rest ≠ [] := by
  obtain ⟨⟨found, after⟩, hfound, heq⟩ := Option.map_eq_some_iff.mp h
  cases heq
  obtain ⟨hle, hne⟩ := ih _ _ _ hfound
  simp only [List.length_append]
  exact ⟨by omega, hne⟩

theorem stopped_length {c : Char} {cs source rest : List Char} (h : some ([], c :: cs) = some (source, rest)) :
    source.length + rest.length ≤ (c :: cs).length ∧ rest ≠ [] := by
  cases h
  exact ⟨Nat.le_of_eq (Nat.zero_add _), List.cons_ne_nil c cs⟩

theorem takeSource?_length {opened : List Char} {quotes : Option (List Char)} {fuel : Nat} {cs source rest : List Char}
    (h : takeSource? opened quotes fuel cs = some (source, rest)) :
    source.length + rest.length ≤ cs.length ∧ rest ≠ [] := by
  fun_induction takeSource? opened quotes fuel cs generalizing source rest with
  | case1 | case2 | case3 | case9 | case15 | case16 => cases h
  | case10 | case13 => exact stopped_length h
  -- a closing quote and an opening one of three characters are kept as a whole
  | case4 =>
    rename_i hprefix ih
    have hlength := (List.isPrefixOf_iff_prefix.mp hprefix).length_le
    exact kept_length ih (by rw [List.length_drop]; omega) h
  | case6 =>
    rename_i hprefix ih
    have hlength := (List.isPrefixOf_iff_prefix.mp hprefix).length_le
    rw [List.length_replicate, List.length_cons] at hlength
    exact kept_length ih (by rw [List.length_replicate, List.length_drop, List.length_cons]; omega) h
  | case11 =>
    rename_i ih
    exact kept_length ih (by simp only [List.length_cons, List.length_nil]; omega) h
  | case5 | case7 | case8 | case12 | case14 | case17 =>
    rename_i ih
    exact kept_length ih (by simp [Nat.add_comm]) h

/-- That one way to read characters finds what another finds, and leaves at most `n` of them. -/
def Extends {α : Type} (n : Nat) (x y : Option (α × List Char)) : Prop :=
  ∀ a rest, x = some (a, rest) → y = some (a, rest) ∧ rest.length ≤ n

namespace Extends

variable {α β : Type} {m n : Nat} {x y : Option (α × List Char)}

theorem mono (h : Extends m x y) (hle : m ≤ n) : Extends n x y := fun a rest ha =>
  ⟨(h a rest ha).1, Nat.le_trans (h a rest ha).2 hle⟩

theorem none : Extends n .none y := by
  intro a rest h
  cases h

theorem some {a : α} {rest : List Char} (h : rest.length ≤ n) : Extends n (.some (a, rest)) (.some (a, rest)) := by
  intro b more heq
  cases heq
  exact ⟨rfl, h⟩

theorem bind {f f' : β → Option (α × List Char)} {z z' : Option β} (hz : ∀ b, z = .some b → z' = .some b)
    (hf : ∀ b, z = .some b → Extends n (f b) (f' b)) : Extends n (z >>= f) (z' >>= f') := by
  intro a rest h
  obtain ⟨b, hb, h⟩ := Option.bind_eq_some_iff.mp h
  obtain ⟨h', hlength⟩ := hf b hb a rest h
  exact ⟨Option.bind_eq_some_iff.mpr ⟨b, hz b hb, h'⟩, hlength⟩

theorem same {f f' : β → Option (α × List Char)} {z : Option β} (hf : ∀ b, z = .some b → Extends n (f b) (f' b)) :
    Extends n (z >>= f) (z >>= f') := bind (fun _ => id) hf

theorem andThen {y : Option (α × List Char)} {f f' : α × List Char → Option (β × List Char)} (hxy : Extends m x y)
    (hf : ∀ a rest, rest.length ≤ m → Extends n (f (a, rest)) (f' (a, rest))) : Extends n (x >>= f) (y >>= f') := by
  intro b more h
  obtain ⟨⟨a, rest⟩, ha, h⟩ := Option.bind_eq_some_iff.mp h
  obtain ⟨ha', hlength⟩ := hxy a rest ha
  obtain ⟨h', hlength'⟩ := hf a rest hlength b more h
  exact ⟨Option.bind_eq_some_iff.mpr ⟨(a, rest), ha', h'⟩, hlength'⟩

theorem map (f : α → β) (hxy : Extends n x y) :
    Extends n (x.map fun a => (f a.1, a.2)) (y.map fun a => (f a.1, a.2)) := by
  intro b more h
  obtain ⟨⟨a, rest⟩, ha, heq⟩ := Option.map_eq_some_iff.mp h
  cases heq
  obtain ⟨ha', hlength⟩ := hxy a rest ha
  exact ⟨Option.map_eq_some_iff.mpr ⟨(a, rest), ha', rfl⟩, hlength⟩

end Extends

variable {read? wider? : List Char → Option Expr} {t : TextToken}

theorem echo_length (source rest : List Char) : (echo source rest).2.length ≤ rest.length := by
  unfold echo
  split
  next r =>
    simp only [List.length_drop, List.length_cons]
    omega
  next => exact Nat.le_refl _

theorem conversion?_length {cs rest : List Char} (h : conversion? cs = some rest) : rest.length ≤ cs.length := by
  unfold conversion? at h
  split at h
  next c r =>
    split at h
    next =>
      cases h
      simp only [List.length_cons]
      omega
    next => cases h
  next => cases h
  next =>
    cases h
    exact Nat.le_refl _

theorem pieces?_extends {n : Nat}
    (hread : ∀ source e, source.length + 2 ≤ n → read? source = some e → wider? source = some e) (fuel : Nat) :
    ∀ {depth : Nat} {cs : List Char}, cs.length ≤ n →
      Extends cs.length (pieces? read? t depth fuel cs) (pieces? wider? t depth fuel cs) := by
  induction fuel with
  | zero => exact fun _ => Extends.none
  | succ fuel ih =>
    intro depth cs hcs
    unfold pieces?
    refine Extends.same fun (before, after) hplain => Extends.same fun text htext => ?_
    have hafter := takePlain?_length hplain
    dsimp only
    split
    next _ inner =>
      split
      next => exact Extends.none
      next =>
        refine Extends.same fun (source, rest) hsource => ?_
        obtain ⟨hlength, hrest⟩ := takeSource?_length hsource
        have hpos := List.length_pos_iff.mpr hrest
        rw [List.length_cons] at hafter
        dsimp only
        split
        next => exact Extends.none
        next =>
          refine Extends.bind (hread source · (by omega)) fun e _ => ?_
          refine Extends.same fun after' hconversion => ?_
          have hafter' := conversion?_length hconversion
          have hecho := echo_length source rest
          refine Extends.andThen (m := after'.length) ?_ fun layout more hmore => ?_
          · split
            next r =>
              rw [List.length_cons] at hafter' ⊢
              exact ((ih (by omega)).mono (Nat.le_succ _)).map some
            next => exact Extends.some (Nat.le_refl _)
          · dsimp only
            split
            next closed =>
              rw [List.length_cons] at hmore
              exact Extends.andThen (ih (by omega)) fun _ last hlast =>
                Extends.some (Nat.le_trans hlast (by omega))
            next => exact Extends.none
    next => exact Extends.some hafter

theorem allPieces?_covers
    (hread : ∀ source e, source.length + 2 ≤ t.body.length → read? source = some e → wider? source = some e)
    {pieces : List Piece} (h : allPieces? read? t = some pieces) : allPieces? wider? t = some pieces := by
  unfold allPieces? at h ⊢
  split at h
  next hinterpolated =>
    rw [if_pos hinterpolated]
    obtain ⟨⟨found, rest⟩, hfound, h⟩ := Option.bind_eq_some_iff.mp h
    have hfound' := (pieces?_extends hread (t.body.length + 1) (Nat.le_refl _) found rest hfound).1
    exact Option.bind_eq_some_iff.mpr ⟨(found, rest), hfound', h⟩
  next hplain =>
    rw [if_neg hplain]
    exact h

theorem mapM_covers {α β : Type} {f f' : α → Option β} {as : List α} {bs : List β}
    (hf : ∀ a ∈ as, ∀ b, f a = some b → f' a = some b) (h : as.mapM f = some bs) : as.mapM f' = some bs := by
  induction as generalizing bs with
  | nil => exact h
  | cons a as ih =>
    rw [List.mapM_cons] at h ⊢
    obtain ⟨b, hb, h⟩ := Option.bind_eq_some_iff.mp h
    obtain ⟨cs, hcs, h⟩ := Option.bind_eq_some_iff.mp h
    rw [hf a List.mem_cons_self b hb]
    refine Option.bind_eq_some_iff.mpr ⟨b, rfl, Option.bind_eq_some_iff.mpr ⟨cs, ?_, h⟩⟩
    exact ih (fun a ha => hf a (List.mem_cons_of_mem _ ha)) hcs

/-- Texts are read as before if their fields are. -/
theorem expression?_covers {ts : List TextToken} {e : Expr}
    (hread : ∀ t ∈ ts, ∀ source e, source.length + 2 ≤ t.body.length → read? source = some e → wider? source = some e)
    (h : expression? read? ts = some e) : expression? wider? ts = some e := by
  unfold expression? at h ⊢
  by_cases hbytes : ts.all (·.isBytes)
  · rw [if_pos hbytes] at h ⊢
    exact h
  · rw [if_neg hbytes] at h ⊢
    by_cases hmixed : ts.any (·.isBytes)
    · simp only [hmixed, ↓reduceIte] at h
      cases h
    · simp only [hmixed] at h ⊢
      obtain ⟨pieces, hpieces, h⟩ := Option.bind_eq_some_iff.mp h
      refine Option.bind_eq_some_iff.mpr ⟨pieces, mapM_covers (fun t ht pieces => ?_) hpieces, h⟩
      exact allPieces?_covers (hread t ht)

end TextToken

end AccessPolicy
