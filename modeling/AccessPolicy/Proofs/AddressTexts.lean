import AccessPolicy.Proofs.AddressParts

/-!
How addresses are written: as four bytes with dots between them, or as eight groups of hexadecimal digits with
colons between them, of which one run of zeros can be left out and the last two can be written as four bytes. An
address of the second kind can name a zone.
-/

namespace AccessPolicy

namespace Address

/-- An address with colons, and the number that it makes. -/
inductive Coloned : Nat → List Char → Prop
  | full {gs : List Nat} {ps : List (List Char)} :
      Groups gs ps → gs.length = 8 → Coloned (ofGroups gs) ([':'].intercalate ps)
  | shortened {high low : List Nat} {hs ls : List (List Char)} :
      List.Forall₂ Group high hs → Groups low ls → high.length + low.length < 8 →
        Coloned (ofGroups (high ++ List.replicate (8 - high.length - low.length) 0 ++ low))
          ([':'].intercalate hs ++ ':' :: ':' :: [':'].intercalate ls)

theorem mapM_group? {gs : List Nat} {qs : List (List Char)} :
    qs.mapM group? = some gs ↔ List.Forall₂ Group gs qs := by
  rw [option_mapM_eq_some_iff]
  constructor
  · exact fun h => (h.imp fun _ _ => group?_eq_some_iff.mp).flip
  · exact fun h => h.flip.imp fun _ _ => group?_eq_some_iff.mpr

/-- The parts at an end of an address: an end without groups has one that is empty. -/
def ended (ps : List (List Char)) : List (List Char) :=
  if ps = [] then [[]] else ps

theorem ended_of_ne_nil {ps : List (List Char)} (h : ps ≠ []) : ended ps = ps := if_neg h

theorem ended_ne_nil (ps : List (List Char)) : ended ps ≠ [] := by
  unfold ended
  split
  next => exact List.cons_ne_nil _ _
  next h => exact h

theorem intercalate_ended (c : Char) (ps : List (List Char)) : [c].intercalate (ended ps) = [c].intercalate ps := by
  unfold ended
  split
  next h => rw [h]; rfl
  next => rfl

theorem length_ended (ps : List (List Char)) : (ended ps).length = max 1 ps.length := by
  cases ps with
  | nil => rfl
  | cons p ps =>
    rw [ended_of_ne_nil (List.cons_ne_nil _ _), List.length_cons]
    omega

theorem mem_tail_ended {q : List Char} {ps : List (List Char)} (h : q ∈ (ended ps).tail) : q ∈ ps := by
  cases ps with
  | nil => cases h
  | cons p ps => exact List.mem_cons_of_mem _ h

theorem mem_dropLast_ended {q : List Char} {ps : List (List Char)} (h : q ∈ (ended ps).dropLast) : q ∈ ps := by
  cases ps with
  | nil => cases h
  | cons p ps => exact List.dropLast_subset _ h

theorem expandDotted?_ended {ps qs : List (List Char)} (h : expandDotted? ps = some qs) :
    expandDotted? (ended ps) = some (ended qs) := by
  rcases List.eq_nil_or_concat ps with rfl | ⟨init, last, rfl⟩
  · cases h
    rfl
  · rw [List.concat_eq_append] at h ⊢
    have hexpanded := h
    rw [expandDotted?_append (List.cons_ne_nil _ _)] at hexpanded
    obtain ⟨zs, hzs, rfl⟩ := Option.map_eq_some_iff.mp hexpanded
    have hne : init ++ zs ≠ [] := by
      rcases expandDotted?_last hzs with rfl | ⟨a, b, rfl, _⟩ <;> simp
    rw [ended_of_ne_nil (by simp), ended_of_ne_nil hne, h]

theorem groups?_eq_some_iff {qs : List (List Char)} {gs : List Nat} (hne : qs ≠ []) :
    groups? qs = some gs ↔ ∃ ps, qs = ended ps ∧ List.Forall₂ Group gs ps := by
  constructor
  · intro h
    unfold groups? at h
    split at h
    next =>
      cases h
      exact ⟨[], rfl, .nil⟩
    next => exact ⟨qs, (ended_of_ne_nil hne).symm, mapM_group?.mp h⟩
  · rintro ⟨ps, rfl, hps⟩
    cases hps with
    | nil => rfl
    | @cons g p gs ps hp hps =>
      rw [ended_of_ne_nil (List.cons_ne_nil _ _)]
      unfold groups?
      split
      next heq => exact absurd (List.cons.inj heq).1 hp.nonempty
      next => exact mapM_group?.mpr (.cons hp hps)

theorem intercalate_shortened (hs ls : List (List Char)) :
    [':'].intercalate (ended hs ++ [] :: ended ls) =
      [':'].intercalate hs ++ ':' :: ':' :: [':'].intercalate ls := by
  rw [Text.intercalate_append (ended_ne_nil hs) (List.cons_ne_nil _ _), intercalate_ended]
  change _ ++ ':' :: [':'].intercalate ([[]] ++ ended ls) = _
  rw [Text.intercalate_append (List.cons_ne_nil _ _) (ended_ne_nil ls), intercalate_ended]
  rfl

theorem parts_shortened {hs ls : List (List Char)} (hhs : ∀ p ∈ hs, ':' ∉ p) (hls : ∀ p ∈ ls, ':' ∉ p) :
    Text.Parts ':' ([':'].intercalate hs ++ ':' :: ':' :: [':'].intercalate ls) (ended hs ++ [] :: ended ls) where
  joined := intercalate_shortened hs ls
  nonempty := by simp
  whole := by
    have hended {ps : List (List Char)} (h : ∀ p ∈ ps, ':' ∉ p) : ∀ p ∈ ended ps, ':' ∉ p := by
      unfold ended
      split
      next => simp
      next => exact h
    rw [List.forall_mem_append, List.forall_mem_cons]
    exact ⟨hended hhs, List.not_mem_nil, hended hls⟩

/-- The number that the parts of an address make, once none of them has dots. -/
def assembled? (qs : List (List Char)) : Option Nat :=
  let inner := qs.tail.dropLast
  match inner.filter List.isEmpty with
  | [] => (qs.mapM group?).bind fun gs => if gs.length == 8 then some (ofGroups gs) else none
  | [_] =>
    (groups? (qs.take (1 + inner.findIdx List.isEmpty))).bind fun high =>
      (groups? (qs.drop (1 + inner.findIdx List.isEmpty + 1))).bind fun low =>
        if high.length + low.length < 8 then
          some (ofGroups (high ++ List.replicate (8 - high.length - low.length) 0 ++ low))
        else none
  | _ => none

theorem coloned?_eq {cs : List Char} {parts : List (List Char)} (h : Text.Parts ':' cs parts) :
    coloned? cs =
      if parts.length < 3 then none
      else (expandDotted? parts).bind fun qs => if 9 < qs.length then none else assembled? qs := by
  unfold coloned?
  rw [Text.splitAt_eq_iff.mpr h]
  rfl

theorem filter_isEmpty {qs : List (List Char)} (h : ∀ q ∈ qs, q ≠ []) : qs.filter List.isEmpty = [] := by
  rw [List.filter_eq_nil_iff]
  intro q hq
  simpa using h q hq

theorem assembled?_full {qs : List (List Char)} (h : ∀ q ∈ qs.tail.dropLast, q ≠ []) {n : Nat} :
    assembled? qs = some n ↔ ∃ gs, List.Forall₂ Group gs qs ∧ gs.length = 8 ∧ ofGroups gs = n := by
  unfold assembled?
  dsimp only
  rw [filter_isEmpty h]
  simp only [Option.bind_eq_some_iff, mapM_group?, Option.ite_none_right_eq_some, beq_iff_eq, Option.some.injEq]

theorem assembled?_shortened {highs lows : List (List Char)} (hhighs : highs ≠ []) (hlows : lows ≠ [])
    (hhigh : ∀ q ∈ highs.tail, q ≠ []) (hlow : ∀ q ∈ lows.dropLast, q ≠ []) :
    assembled? (highs ++ [] :: lows) = (groups? highs).bind fun high => (groups? lows).bind fun low =>
      if high.length + low.length < 8 then
        some (ofGroups (high ++ List.replicate (8 - high.length - low.length) 0 ++ low))
      else none := by
  obtain ⟨a, pre, rfl⟩ := List.exists_cons_of_ne_nil hhighs
  rw [List.tail_cons] at hhigh
  have hinner : (a :: pre ++ [] :: lows).tail.dropLast = pre ++ [] :: lows.dropLast := by
    rw [List.cons_append, List.tail_cons, List.dropLast_append_of_ne_nil (List.cons_ne_nil _ _),
      List.dropLast_cons_of_ne_nil hlows]
  have hone : (pre ++ [] :: lows.dropLast).filter List.isEmpty = [[]] := by
    rw [List.filter_append, filter_isEmpty hhigh, List.filter_cons_of_pos rfl, filter_isEmpty hlow, List.nil_append]
  have hindex : (pre ++ [] :: lows.dropLast).findIdx List.isEmpty = pre.length := by
    have hnot : ¬ pre.findIdx List.isEmpty < pre.length := by
      rw [List.findIdx_lt_length]
      rintro ⟨q, hq, hempty⟩
      exact hhigh q hq (List.isEmpty_iff.mp hempty)
    rw [List.findIdx_append, if_neg hnot, List.findIdx_cons]
    exact Nat.zero_add _
  unfold assembled?
  dsimp only
  rw [hinner, hone, hindex]
  dsimp only
  have htake : (a :: pre ++ [] :: lows).take (1 + pre.length) = a :: pre := by
    rw [Nat.add_comm, ← List.length_cons, List.take_left]
  have hdrop : (a :: pre ++ [] :: lows).drop (1 + pre.length + 1) = lows := by
    rw [Nat.add_comm 1, ← List.length_cons, ← List.drop_drop, List.drop_left]
    rfl
  rw [htake, hdrop]

theorem assembled?_many {qs : List (List Char)} (h : 1 < (qs.tail.dropLast.filter List.isEmpty).length) :
    assembled? qs = none := by
  unfold assembled?
  dsimp only
  split
  next heq => simp [heq] at h
  next heq => simp [heq] at h
  next => rfl

theorem coloned?_full {gs : List Nat} {ps : List (List Char)} (hps : Groups gs ps) (hgs : gs.length = 8) :
    coloned? ([':'].intercalate ps) = some (ofGroups gs) := by
  have hlength := hps.length_le
  have hne : ps ≠ [] := by
    rintro rfl
    simp at hlength
    omega
  have hparts : Text.Parts ':' ([':'].intercalate ps) ps := ⟨rfl, hne, hps.not_mem (by decide) (by decide)⟩
  obtain ⟨qs, hqs, hgroups⟩ := groups_iff.mp hps
  have hqslength : qs.length = 8 := hgroups.length_eq ▸ hgs
  have hwritten : ∀ q ∈ qs.tail.dropLast, q ≠ [] := by
    intro q hq
    obtain ⟨g, _, hg⟩ := forall₂_mem_left hgroups.flip (List.mem_of_mem_tail (List.dropLast_subset _ hq))
    exact hg.nonempty
  rw [coloned?_eq hparts, if_neg (by omega), hqs, Option.bind_some, if_neg (by omega), assembled?_full hwritten]
  exact ⟨gs, hgroups, hgs, rfl⟩

theorem coloned?_shortened {high low : List Nat} {hs ls : List (List Char)} (hhs : List.Forall₂ Group high hs)
    (hls : Groups low ls) (hlt : high.length + low.length < 8) :
    coloned? ([':'].intercalate hs ++ ':' :: ':' :: [':'].intercalate ls) =
      some (ofGroups (high ++ List.replicate (8 - high.length - low.length) 0 ++ low)) := by
  have hparts := parts_shortened ((Groups.of_plain hhs).not_mem (by decide) (by decide))
    (hls.not_mem (by decide) (by decide))
  obtain ⟨qs, hqs, hgroups⟩ := groups_iff.mp hls
  have hexpanded : expandDotted? (ended hs ++ [] :: ended ls) = some (ended hs ++ [] :: ended qs) := by
    change expandDotted? (ended hs ++ ([[]] ++ ended ls)) = _
    rw [expandDotted?_append (by simp), expandDotted?_append (ended_ne_nil ls), expandDotted?_ended hqs]
    rfl
  have hhigh : ∀ q ∈ (ended hs).tail, q ≠ [] := by
    intro q hq
    obtain ⟨g, _, hg⟩ := forall₂_mem_left hhs.flip (mem_tail_ended hq)
    exact hg.nonempty
  have hlow : ∀ q ∈ (ended qs).dropLast, q ≠ [] := by
    intro q hq
    obtain ⟨g, _, hg⟩ := forall₂_mem_left hgroups.flip (mem_dropLast_ended hq)
    exact hg.nonempty
  have hhslength := hhs.length_eq
  have hqslength := hgroups.length_eq
  rw [coloned?_eq hparts, if_neg, hexpanded, Option.bind_some, if_neg,
    assembled?_shortened (ended_ne_nil _) (ended_ne_nil _) hhigh hlow,
    (groups?_eq_some_iff (ended_ne_nil _)).mpr ⟨hs, rfl, hhs⟩,
    (groups?_eq_some_iff (ended_ne_nil _)).mpr ⟨qs, rfl, hgroups⟩, Option.bind_some, Option.bind_some, if_pos hlt]
  · rw [List.length_append, List.length_cons, length_ended, length_ended]
    omega
  · rw [List.length_append, List.length_cons, length_ended, length_ended]
    omega

theorem groups_of_expanded {ps qs : List (List Char)} {gs : List Nat} (hne : ps ≠ [])
    (h : expandDotted? ps = some qs) (hqs : groups? qs = some gs) : ∃ ls, ps = ended ls ∧ Groups gs ls := by
  obtain ⟨init, z, rfl⟩ := (List.eq_nil_or_concat ps).resolve_left hne
  rw [List.concat_eq_append] at h ⊢
  have hexpanded := h
  rw [expandDotted?_append (List.cons_ne_nil _ _)] at hexpanded
  obtain ⟨zs, hzs, rfl⟩ := Option.map_eq_some_iff.mp hexpanded
  have hlast := expandDotted?_last hzs
  have hzsne : init ++ zs ≠ [] := by
    rcases hlast with rfl | ⟨x, y, rfl, _⟩ <;> simp
  obtain ⟨rs, hrs, hgroups⟩ := (groups?_eq_some_iff hzsne).mp hqs
  by_cases hempty : rs = []
  · subst hempty
    cases hgroups
    refine ⟨[], ?_, .nil⟩
    rcases hlast with rfl | ⟨x, y, rfl, _⟩
    · exact hrs
    · have hlength := congrArg List.length hrs
      simp [ended] at hlength
  · rw [ended_of_ne_nil hempty] at hrs
    exact ⟨init ++ [z], (ended_of_ne_nil (by simp)).symm, groups_iff.mpr ⟨_, h, hrs ▸ hgroups⟩⟩

/-- Which of the parts inside are empty decides how an address is assembled. -/
theorem empties_cases (mid : List (List Char)) :
    (∀ q ∈ mid, q ≠ []) ∨ (∃ pre post, mid = pre ++ [] :: post ∧ (∀ q ∈ pre, q ≠ []) ∧ ∀ q ∈ post, q ≠ []) ∨
      1 < (mid.filter List.isEmpty).length := by
  cases h : mid.filter List.isEmpty with
  | nil =>
    refine .inl fun q hq hempty => ?_
    exact List.filter_eq_nil_iff.mp h q hq (List.isEmpty_iff.mpr hempty)
  | cons e es =>
    obtain ⟨pre, post, rfl, hpre, he, hpost⟩ := List.filter_eq_cons_iff.mp h
    cases es with
    | nil =>
      obtain rfl : e = [] := List.isEmpty_iff.mp he
      refine .inr (.inl ⟨pre, post, rfl, fun q hq hempty => ?_, fun q hq hempty => ?_⟩)
      · exact hpre q hq (List.isEmpty_iff.mpr hempty)
      · exact List.filter_eq_nil_iff.mp hpost q hq (List.isEmpty_iff.mpr hempty)
    | cons => exact .inr (.inr (by simp))

theorem coloned_of_coloned? {cs : List Char} {n : Nat} (h : coloned? cs = some n) : Coloned n cs := by
  generalize hsplit : Text.splitAt [':'] cs.length cs = parts
  have hparts := Text.splitAt_eq_iff.mp hsplit
  rw [coloned?_eq hparts] at h
  simp only [Option.ite_none_left_eq_some, Option.bind_eq_some_iff, Nat.not_lt] at h
  obtain ⟨hthree, qs, hqs, _, h⟩ := h
  obtain ⟨a, mid, z, rfl⟩ : ∃ a mid z, parts = a :: (mid ++ [z]) := by
    obtain ⟨a, rest, rfl⟩ := List.exists_cons_of_ne_nil hparts.nonempty
    rcases List.eq_nil_or_concat rest with rfl | ⟨mid, z, rfl⟩
    · exact absurd hthree (by simp)
    · exact ⟨a, mid, z, by rw [List.concat_eq_append]⟩
  have hexpanded := hqs
  rw [← List.cons_append, expandDotted?_append (List.cons_ne_nil _ _)] at hexpanded
  obtain ⟨zs, hzs, rfl⟩ := Option.map_eq_some_iff.mp hexpanded
  have hlast : zs ≠ [] ∧ ∀ q ∈ zs.dropLast, q ≠ [] := by
    rcases expandDotted?_last hzs with rfl | ⟨x, y, rfl, hx, _⟩
    · simp
    · simpa using hx
  rcases empties_cases mid with hmid | ⟨pre, post, rfl, hpre, hpost⟩ | hmany
  · have hinner : ∀ q ∈ (a :: mid ++ zs).tail.dropLast, q ≠ [] := by
      rw [List.cons_append, List.tail_cons, List.dropLast_append_of_ne_nil hlast.1, List.forall_mem_append]
      exact ⟨hmid, hlast.2⟩
    obtain ⟨gs, hgroups, hgs, rfl⟩ := (assembled?_full hinner).mp h
    rw [← hparts.joined]
    exact .full (groups_iff.mpr ⟨_, hqs, hgroups⟩) hgs
  · have hlow : ∀ q ∈ (post ++ zs).dropLast, q ≠ [] := by
      rw [List.dropLast_append_of_ne_nil hlast.1, List.forall_mem_append]
      exact ⟨hpost, hlast.2⟩
    rw [show a :: (pre ++ [] :: post) ++ zs = (a :: pre) ++ [] :: (post ++ zs) by simp,
      assembled?_shortened (List.cons_ne_nil _ _) (by simp [hlast.1]) hpre hlow] at h
    simp only [Option.bind_eq_some_iff, Option.ite_none_right_eq_some, Option.some.injEq] at h
    obtain ⟨high, hhigh, low, hlow, hlt, rfl⟩ := h
    obtain ⟨hs, hheq, hhs⟩ := (groups?_eq_some_iff (List.cons_ne_nil _ _)).mp hhigh
    have hpost : expandDotted? (post ++ [z]) = some (post ++ zs) := by
      rw [expandDotted?_append (List.cons_ne_nil _ _), hzs]
      rfl
    obtain ⟨ls, hleq, hls⟩ := groups_of_expanded (by simp) hpost hlow
    rw [← hparts.joined, show a :: (pre ++ [] :: post ++ [z]) = (a :: pre) ++ [] :: (post ++ [z]) by simp, hheq,
      hleq, intercalate_shortened]
    exact .shortened hhs hls hlt
  · have hinner : 1 < ((a :: mid ++ zs).tail.dropLast.filter List.isEmpty).length := by
      rw [List.cons_append, List.tail_cons, List.dropLast_append_of_ne_nil hlast.1, List.filter_append,
        List.length_append]
      omega
    rw [assembled?_many hinner] at h
    cases h

theorem coloned?_eq_some_iff {cs : List Char} {n : Nat} : coloned? cs = some n ↔ Coloned n cs := by
  constructor
  · exact coloned_of_coloned?
  · rintro (⟨hps, hgs⟩ | ⟨hhs, hls, hlt⟩)
    · exact coloned?_full hps hgs
    · exact coloned?_shortened hhs hls hlt

theorem ofGroups_lt {gs : List Nat} (h : ∀ g ∈ gs, g < 65536) (hlength : gs.length = 8) : ofGroups gs < 2 ^ 128 := by
  have hlt : Number.ofDigits 65536 gs < 65536 ^ gs.length := Number.ofDigits_lt h
  rw [hlength] at hlt
  exact hlt

theorem Coloned.lt {n : Nat} {cs : List Char} (h : Coloned n cs) : n < 2 ^ 128 := by
  cases h with
  | full hps hgs => exact ofGroups_lt hps.small hgs
  | @shortened high low _ _ hhs hls hlt =>
    refine ofGroups_lt ?_ ?_
    · rw [List.forall_mem_append, List.forall_mem_append]
      refine ⟨⟨(Groups.of_plain hhs).small, fun g hg => ?_⟩, hls.small⟩
      rw [List.eq_of_mem_replicate hg]
      decide
    · rw [List.length_append, List.length_append, List.length_replicate]
      omega

theorem Coloned.colon {n : Nat} {cs : List Char} (h : Coloned n cs) : ':' ∈ cs := by
  cases h with
  | @full gs ps hps hgs =>
    have hlength := hps.length_le
    match ps with
    | [] | [_] => simp at hlength; omega
    | p :: q :: ps => simp [List.intercalate_cons_cons]
  | shortened => simp

theorem Coloned.not_mem {n : Nat} {cs : List Char} (h : Coloned n cs) {c : Char} (hc : Number.hexDigit? c = none)
    (hdot : c ≠ '.') (hcolon : c ≠ ':') : c ∉ cs := by
  have hend {gs : List Nat} {ps : List (List Char)} (hps : Groups gs ps) : c ∉ [':'].intercalate ps := by
    intro hmem
    rcases Text.mem_intercalate hmem with heq | ⟨p, hp, hcp⟩
    · exact hcolon heq
    · exact hps.not_mem hc hdot p hp hcp
  cases h with
  | full hps => exact hend hps
  | shortened hhs hls =>
    simp only [List.mem_append, List.mem_cons, not_or]
    exact ⟨hend (.of_plain hhs), hcolon, hcolon, hend hls⟩

/-- An address and how it is written. -/
inductive Written : Address → List Char → Prop
  | dotted {n : Nat} {cs : List Char} : Dotted n cs → Written ⟨.v4, n⟩ cs
  | coloned {n : Nat} {cs : List Char} : Coloned n cs → Written ⟨.v6, n⟩ cs
  | zoned {n : Nat} {cs zone : List Char} :
      Coloned n cs → zone ≠ [] → '%' ∉ zone → '/' ∉ zone → Written ⟨.v6, n⟩ (cs ++ '%' :: zone)

theorem zoned?_eq_some_iff {cs : List Char} {n : Nat} :
    zoned? cs = some n ↔ Coloned n cs ∨
      ∃ address zone, cs = address ++ '%' :: zone ∧ Coloned n address ∧ zone ≠ [] ∧ '%' ∉ zone := by
  unfold zoned?
  constructor
  · intro h
    split at h
    next => exact .inl (coloned?_eq_some_iff.mp h)
    next c zone hdrop =>
      simp only [Option.ite_none_left_eq_some, Bool.or_eq_true, List.isEmpty_iff, List.contains_iff_mem, not_or] at h
      obtain ⟨⟨hne, hzone⟩, h⟩ := h
      obtain rfl : c = '%' := by
        have hnot := List.head?_dropWhile_not (· != '%') cs
        rw [hdrop] at hnot
        simpa using hnot
      refine .inr ⟨cs.takeWhile (· != '%'), zone, ?_, coloned?_eq_some_iff.mp h, hne, hzone⟩
      rw [← hdrop, List.takeWhile_append_dropWhile]
  · rintro (h | ⟨address, zone, rfl, h, hne, hzone⟩)
    · have hdrop : cs.dropWhile (· != '%') = [] := by
        rw [List.dropWhile_eq_nil_iff]
        intro c hc
        rw [bne_iff_ne]
        rintro rfl
        exact h.not_mem (by decide) (by decide) (by decide) hc
      rw [hdrop]
      exact coloned?_eq_some_iff.mpr h
    · have haddress : ∀ c ∈ address, (c != '%') = true := by
        intro c hc
        rw [bne_iff_ne]
        rintro rfl
        exact h.not_mem (by decide) (by decide) (by decide) hc
      rw [List.dropWhile_append_of_pos haddress, List.dropWhile_cons_of_neg (by simp),
        List.takeWhile_append_of_pos haddress, List.takeWhile_cons_of_neg (by simp), List.append_nil]
      simpa [hne, hzone] using coloned?_eq_some_iff.mpr h

theorem ofText?_eq_some_iff {family : Family} {cs : List Char} {a : Address} :
    ofText? family cs = some a ↔ a.family = family ∧ a.Written cs := by
  unfold ofText?
  rw [Option.ite_none_left_eq_some, List.contains_iff_mem]
  constructor
  · rintro ⟨hslash, h⟩
    cases family with
    | v4 =>
      obtain ⟨n, hn, rfl⟩ := Option.map_eq_some_iff.mp h
      exact ⟨rfl, .dotted (dotted?_eq_some_iff.mp hn)⟩
    | v6 =>
      obtain ⟨n, hn, rfl⟩ := Option.map_eq_some_iff.mp h
      refine ⟨rfl, ?_⟩
      rcases zoned?_eq_some_iff.mp hn with hn | ⟨address, zone, rfl, hn, hne, hzone⟩
      · exact .coloned hn
      · refine .zoned hn hne hzone fun hmem => hslash ?_
        exact List.mem_append_right _ (List.mem_cons_of_mem _ hmem)
  · rintro ⟨rfl, h⟩
    cases h with
    | dotted hn =>
      exact ⟨hn.not_mem (by decide) (by decide), by simp [dotted?_eq_some_iff.mpr hn]⟩
    | coloned hn =>
      exact ⟨hn.not_mem (by decide) (by decide) (by decide), by simp [zoned?_eq_some_iff.mpr (.inl hn)]⟩
    | zoned hn hne hzone hslash =>
      refine ⟨?_, by simp [zoned?_eq_some_iff.mpr (.inr ⟨_, _, rfl, hn, hne, hzone⟩)]⟩
      rw [List.mem_append, List.mem_cons, not_or, not_or]
      exact ⟨hn.not_mem (by decide) (by decide) (by decide), by decide, hslash⟩

theorem Written.slashless {a : Address} {cs : List Char} (h : a.Written cs) : '/' ∉ cs := by
  have hread : ofText? a.family cs = some a := ofText?_eq_some_iff.mpr ⟨rfl, h⟩
  unfold ofText? at hread
  rw [Option.ite_none_left_eq_some, List.contains_iff_mem] at hread
  exact hread.1

theorem Written.colon_iff {a : Address} {cs : List Char} (h : a.Written cs) : ':' ∈ cs ↔ a.family = .v6 := by
  cases h with
  | dotted hn => simpa using hn.not_mem (by decide) (by decide)
  | coloned hn => simpa using hn.colon
  | zoned hn => simpa using .inl hn.colon

theorem Written.unique {a b : Address} {cs : List Char} (ha : a.Written cs) (hb : b.Written cs) : a = b := by
  have hfamily : a.family = b.family := by
    have hiff := ha.colon_iff.symm.trans hb.colon_iff
    cases hfa : a.family <;> cases hfb : b.family <;> simp [hfa, hfb] at hiff ⊢
  exact Option.some.inj ((ofText?_eq_some_iff.mpr ⟨hfamily, ha⟩).symm.trans (ofText?_eq_some_iff.mpr ⟨rfl, hb⟩))

theorem Written.bits_lt {a : Address} {cs : List Char} (h : a.Written cs) : a.bits < 2 ^ a.family.width := by
  cases h with
  | dotted hn => exact hn.lt
  | coloned hn | zoned hn => exact hn.lt

theorem ofValue?_text {family : Family} {s : String} {a : Address} :
    ofValue? family (.text s) = some a ↔ a.family = family ∧ a.Written s.toList :=
  ofText?_eq_some_iff

theorem ofValue?_ofList (family : Family) (cs : List Char) :
    ofValue? family (.text (String.ofList cs)) = ofText? family cs := by
  change ofText? family (String.ofList cs).toList = _
  rw [String.toList_ofList]

/-- An address is read off a text if it is written there. -/
theorem read?_text {s : String} {a : Address} : read? (.text s) = some a ↔ a.Written s.toList := by
  unfold read?
  cases h4 : ofValue? .v4 (.text s) with
  | some b =>
    have hb := (ofValue?_text.mp h4).2
    constructor
    · intro h
      cases h
      exact hb
    · intro h
      rw [h.unique hb]
      rfl
  | none =>
    have hread : (none : Option Address).orElse (fun _ => ofValue? .v6 (.text s)) = ofValue? .v6 (.text s) := rfl
    rw [hread, ofValue?_text, and_iff_right_iff_imp]
    intro h
    cases hf : a.family with
    | v6 => rfl
    | v4 =>
      rw [ofValue?_text.mpr ⟨hf, h⟩] at h4
      cases h4

end Address

end AccessPolicy
