import Mathlib.Data.List.Forall2
import AccessPolicy.Address
import AccessPolicy.Proofs.Decimals

/-!
The parts of written addresses: the parts of a text between separators, bytes in decimal digits, groups of two
bytes in hexadecimal digits, and the end of an address, at which two groups can be written as four bytes.
-/

namespace AccessPolicy

theorem option_mapM_eq_some_iff {α β : Type} {f : α → Option β} {as : List α} {bs : List β} :
    as.mapM f = some bs ↔ List.Forall₂ (fun a b => f a = some b) as bs := by
  induction as generalizing bs with
  | nil =>
    constructor
    · rintro ⟨⟩
      exact .nil
    · rintro ⟨⟩
      rfl
  | cons a as ih =>
    simp only [List.mapM_cons, Option.bind_eq_bind, Option.bind_eq_some_iff, Option.pure_def, Option.some.injEq, ih]
    constructor
    · rintro ⟨b, hb, bs, hbs, rfl⟩
      exact .cons hb hbs
    · rintro (_ | ⟨hb, hbs⟩)
      exact ⟨_, hb, _, hbs, rfl⟩

theorem forall₂_mem_left {α β : Type} {R : α → β → Prop} {as : List α} {bs : List β} (h : List.Forall₂ R as bs)
    {a : α} (ha : a ∈ as) : ∃ b ∈ bs, R a b := by
  induction h with
  | nil => cases ha
  | cons hab _ ih =>
    rcases List.mem_cons.mp ha with rfl | ha
    · exact ⟨_, List.mem_cons_self, hab⟩
    · obtain ⟨b, hb, hR⟩ := ih ha
      exact ⟨b, List.mem_cons_of_mem _ hb, hR⟩

namespace Text

/-- The parts of a text between the occurrences of a character. -/
structure Parts (c : Char) (cs : List Char) (parts : List (List Char)) : Prop where
  joined : [c].intercalate parts = cs
  nonempty : parts ≠ []
  whole : ∀ p ∈ parts, c ∉ p

theorem Parts.unique {c : Char} {cs : List Char} {parts parts' : List (List Char)} (h : Parts c cs parts)
    (h' : Parts c cs parts') : parts = parts' := by
  rw [← List.splitOn_intercalate c h.whole h.nonempty, h.joined, ← h'.joined,
    List.splitOn_intercalate c h'.whole h'.nonempty]

theorem find?_char (c : Char) (cs : List Char) :
    (find? [c] cs = none ∧ c ∉ cs) ∨
      ∃ part rest, cs = part ++ c :: rest ∧ c ∉ part ∧ find? [c] cs = some part.length := by
  induction cs with
  | nil => exact .inl ⟨rfl, List.not_mem_nil⟩
  | cons d cs ih =>
    have hprefix : [c].isPrefixOf (d :: cs) = (c == d) := by
      rw [List.isPrefixOf_cons_cons, List.isPrefixOf_nil_left, Bool.and_true]
    rw [find?, hprefix]
    by_cases hc : c = d
    · exact .inr ⟨[], cs, by rw [hc, List.nil_append], List.not_mem_nil, by rw [beq_iff_eq.mpr hc]; rfl⟩
    · rw [beq_false_of_ne hc]
      rcases ih with ⟨hnone, hnot⟩ | ⟨part, rest, hcs, hpart, hsome⟩
      · exact .inl ⟨by rw [hnone]; rfl, List.not_mem_cons_of_ne_of_not_mem hc hnot⟩
      · exact .inr ⟨d :: part, rest, by rw [hcs, List.cons_append], List.not_mem_cons_of_ne_of_not_mem hc hpart,
          by rw [hsome]; rfl⟩

theorem intercalate_append {c : Char} {xs ys : List (List Char)} (hx : xs ≠ []) (hy : ys ≠ []) :
    [c].intercalate (xs ++ ys) = [c].intercalate xs ++ c :: [c].intercalate ys := by
  induction xs with
  | nil => exact absurd rfl hx
  | cons x xs ih =>
    cases xs with
    | nil =>
      obtain ⟨y, ys, rfl⟩ := List.exists_cons_of_ne_nil hy
      rw [List.singleton_append, List.intercalate_cons_cons, List.intercalate_singleton, List.append_assoc]
      rfl
    | cons x' xs =>
      rw [List.cons_append, List.cons_append, List.intercalate_cons_cons, ← List.cons_append,
        ih (List.cons_ne_nil _ _), List.intercalate_cons_cons]
      simp only [List.append_assoc]

theorem mem_intercalate {c d : Char} {ps : List (List Char)} (h : c ∈ [d].intercalate ps) :
    c = d ∨ ∃ p ∈ ps, c ∈ p := by
  induction ps with
  | nil => cases h
  | cons p ps ih =>
    cases ps with
    | nil =>
      rw [List.intercalate_singleton] at h
      exact .inr ⟨p, List.mem_cons_self, h⟩
    | cons q ps =>
      rw [List.intercalate_cons_cons, List.mem_append, List.mem_append, List.mem_singleton] at h
      rcases h with (hp | rfl) | hrest
      · exact .inr ⟨p, List.mem_cons_self, hp⟩
      · exact .inl rfl
      · exact (ih hrest).imp_right fun ⟨r, hr, hc⟩ => ⟨r, List.mem_cons_of_mem _ hr, hc⟩

theorem Parts.cons {c : Char} {part rest : List Char} {parts : List (List Char)} (hpart : c ∉ part)
    (h : Parts c rest parts) : Parts c (part ++ c :: rest) (part :: parts) where
  joined := by
    change [c].intercalate ([part] ++ parts) = _
    rw [intercalate_append (List.cons_ne_nil _ _) h.nonempty, h.joined, List.intercalate_singleton]
  nonempty := List.cons_ne_nil _ _
  whole := List.forall_mem_cons.mpr ⟨hpart, h.whole⟩

theorem parts_splitAt {c : Char} {n : Nat} {cs : List Char} (hn : cs.length ≤ n) :
    Parts c cs (splitAt [c] n cs) := by
  induction n generalizing cs with
  | zero =>
    obtain rfl : cs = [] := List.length_eq_zero_iff.mp (Nat.le_zero.mp hn)
    exact ⟨rfl, List.cons_ne_nil _ _, by simp [splitAt]⟩
  | succ n ih =>
    rw [splitAt]
    rcases find?_char c cs with ⟨hnone, hnot⟩ | ⟨part, rest, rfl, hpart, hsome⟩
    · rw [hnone]
      exact ⟨List.intercalate_singleton, List.cons_ne_nil _ _, by simpa using hnot⟩
    · rw [hsome]
      have hdrop : (part ++ c :: rest).drop (part.length + [c].length) = rest := by
        rw [← List.drop_drop, List.drop_left]
        rfl
      dsimp only
      rw [List.take_left, hdrop]
      refine .cons hpart (ih ?_)
      rw [List.length_append, List.length_cons] at hn
      omega

theorem splitAt_eq_iff {c : Char} {cs : List Char} {parts : List (List Char)} :
    splitAt [c] cs.length cs = parts ↔ Parts c cs parts :=
  ⟨fun h => h ▸ parts_splitAt (Nat.le_refl _), (parts_splitAt (Nat.le_refl _)).unique⟩

end Text

namespace Number

theorem Notation.length_le {n k : Nat} {ds : List Char} (h : Notation n ds) (hk : 0 < k) (hn : n < 10 ^ k) :
    ds.length ≤ k := by
  obtain ⟨c, cs, rfl⟩ := List.exists_cons_of_ne_nil h.nonempty
  by_cases hc : c = '0'
  · rw [h.lead (by rw [hc, List.head?_cons])]
    exact hk
  · have hbounds := digit_bounds (h.digits c List.mem_cons_self)
    have hne : c.toNat ≠ 48 := fun heq => hc (Char.toNat_inj.mp heq)
    have hvalue := h.value
    rw [Nat.ofDigitChars_cons, Nat.ofDigitChars_eq_ofDigitChars_zero] at hvalue
    have hfirst : 10 ^ cs.length * 1 ≤ 10 ^ cs.length * (10 * 0 + (c.toNat - '0'.toNat)) :=
      Nat.mul_le_mul_left _ (show 1 ≤ 10 * 0 + (c.toNat - 48) by omega)
    have hpower : 10 ^ cs.length < 10 ^ k := by omega
    exact (Nat.pow_lt_pow_iff_right (by decide)).mp hpower

theorem ofDigits_lt {base : Nat} {ds : List Nat} (h : ∀ d ∈ ds, d < base) : ofDigits base ds < base ^ ds.length := by
  have hfold (n : Nat) : ds.foldl (fun n d => n * base + d) n < (n + 1) * base ^ ds.length := by
    induction ds generalizing n with
    | nil => simp
    | cons d ds ih =>
      obtain ⟨hd, hds⟩ := List.forall_mem_cons.mp h
      calc (d :: ds).foldl (fun n d => n * base + d) n
          < (n * base + d + 1) * base ^ ds.length := ih hds (n * base + d)
        _ ≤ ((n + 1) * base) * base ^ ds.length :=
          Nat.mul_le_mul_right _ (by rw [Nat.add_mul, Nat.one_mul]; omega)
        _ = (n + 1) * base ^ (d :: ds).length := by rw [List.length_cons, Nat.pow_succ', Nat.mul_assoc]
  simpa [ofDigits] using hfold 0

theorem hexDigit?_lt {c : Char} {d : Nat} (h : hexDigit? c = some d) : d < 16 := by
  unfold hexDigit? at h
  split at h
  next hc =>
    cases h
    have hbounds := digit_bounds hc
    omega
  next =>
    split at h
    next hc =>
      cases h
      have hlast : c.toNat ≤ 102 := hc.2
      omega
    next =>
      split at h
      next hc =>
        cases h
        have hlast : c.toNat ≤ 70 := hc.2
        omega
      next => cases h

theorem isDigit_of_hexDigit? {c : Char} (h : hexDigit? c = none) : c.isDigit = false := by
  unfold hexDigit? at h
  split at h
  next => cases h
  next hc => exact Bool.not_eq_true _ ▸ hc

theorem digitBelow?_sixteen (c : Char) : digitBelow? 16 c = hexDigit? c := by
  unfold digitBelow?
  cases hd : hexDigit? c with
  | none => rfl
  | some d => exact if_pos (hexDigit?_lt hd)

end Number

namespace Address

theorem decimal?_eq_some_iff {cs : List Char} {n : Nat} :
    decimal? cs = some n ↔ cs ≠ [] ∧ (∀ c ∈ cs, c.isDigit = true) ∧ Nat.ofDigitChars 10 cs 0 = n := by
  unfold decimal?
  simp only [Nat.ofDigitChars_eq_foldl, Option.ite_none_left_eq_some, Bool.or_eq_true, not_or, Bool.not_eq_true,
    List.isEmpty_eq_false_iff, Bool.not_eq_false', List.all_eq_true, Option.some.injEq, and_assoc]

/-- A byte as an address writes it. -/
structure Octet (n : Nat) (cs : List Char) : Prop where
  number : Number.Notation n cs
  small : n < 256

theorem octet?_eq_some_iff {cs : List Char} {n : Nat} : octet? cs = some n ↔ Octet n cs := by
  unfold octet?
  simp only [Option.bind_eq_bind, Option.bind_eq_some_iff, decimal?_eq_some_iff]
  constructor
  · rintro ⟨m, ⟨hne, hdigits, hvalue⟩, h⟩
    split at h
    next => cases h
    next hcheck =>
      cases h
      simp only [Bool.or_eq_true, Bool.and_eq_true, beq_iff_eq, decide_eq_true_eq, not_or, not_and] at hcheck
      obtain ⟨⟨_, hlead⟩, hsmall⟩ := hcheck
      refine ⟨⟨hne, hdigits, hvalue, fun hzero => ?_⟩, by omega⟩
      obtain ⟨c, cs, rfl⟩ := List.exists_cons_of_ne_nil hne
      have hlength := hlead hzero
      cases cs with
      | nil => rw [Option.some.inj hzero]
      | cons => exact absurd (by simp) hlength
  · rintro ⟨hn, hsmall⟩
    refine ⟨n, ⟨hn.nonempty, hn.digits, hn.value⟩, if_neg ?_⟩
    have hlength : cs.length ≤ 3 := hn.length_le (by decide) (by omega)
    simp only [Bool.or_eq_true, Bool.and_eq_true, beq_iff_eq, decide_eq_true_eq, not_or, not_and]
    refine ⟨⟨by omega, fun hzero => ?_⟩, by omega⟩
    rw [hn.lead hzero]
    decide

/-- Four bytes with dots between them, and the number that they make. -/
inductive Dotted : Nat → List Char → Prop
  | bytes {a b c d : Nat} {as bs cs ds : List Char} :
      Octet a as → Octet b bs → Octet c cs → Octet d ds →
        Dotted (((a * 256 + b) * 256 + c) * 256 + d) (['.'].intercalate [as, bs, cs, ds])

theorem dotted?_eq_some_iff {cs : List Char} {n : Nat} : dotted? cs = some n ↔ Dotted n cs := by
  unfold dotted?
  simp only [Option.bind_eq_bind, Option.bind_eq_some_iff, option_mapM_eq_some_iff]
  constructor
  · rintro ⟨ns, hparts, h⟩
    generalize hsplit : Text.splitAt ['.'] cs.length cs = parts at hparts
    split at h
    next =>
      cases h
      obtain _ | ⟨ha, _ | ⟨hb, _ | ⟨hc, _ | ⟨hd, ⟨⟩⟩⟩⟩⟩ := hparts
      rw [← (Text.splitAt_eq_iff.mp hsplit).joined]
      simp only [octet?_eq_some_iff] at ha hb hc hd
      exact .bytes ha hb hc hd
    next => cases h
  · rintro ⟨ha, hb, hc, hd⟩
    have hparts : Text.Parts '.' _ _ := ⟨rfl, List.cons_ne_nil _ _, List.forall_mem_cons.mpr ⟨ha.number.not_mem rfl,
      List.forall_mem_cons.mpr ⟨hb.number.not_mem rfl, List.forall_mem_cons.mpr ⟨hc.number.not_mem rfl,
      List.forall_mem_singleton.mpr (hd.number.not_mem rfl)⟩⟩⟩⟩
    rw [Text.splitAt_eq_iff.mpr hparts]
    simp only [← octet?_eq_some_iff] at ha hb hc hd
    exact ⟨_, .cons ha (.cons hb (.cons hc (.cons hd .nil))), rfl⟩

/-- Two bytes as an address writes them: up to four hexadecimal digits. -/
structure Group (n : Nat) (cs : List Char) : Prop where
  nonempty : cs ≠ []
  short : cs.length ≤ 4
  digits : ∃ ds, List.Forall₂ (fun c d => Number.hexDigit? c = some d) cs ds ∧ Number.ofDigits 16 ds = n

theorem group?_eq_some_iff {cs : List Char} {n : Nat} : group? cs = some n ↔ Group n cs := by
  have hdigits : Number.digitBelow? 16 = Number.hexDigit? := funext Number.digitBelow?_sixteen
  unfold group?
  rw [hdigits]
  simp only [Option.ite_none_left_eq_some, Bool.or_eq_true, List.isEmpty_iff, decide_eq_true_eq, not_or,
    Nat.not_lt, Option.bind_eq_bind, Option.bind_eq_some_iff, option_mapM_eq_some_iff, Option.pure_def,
    Option.some.injEq]
  constructor
  · rintro ⟨⟨hne, hshort⟩, hdigits⟩
    exact ⟨hne, hshort, hdigits⟩
  · rintro ⟨hne, hshort, hdigits⟩
    exact ⟨⟨hne, hshort⟩, hdigits⟩

theorem Group.unique {n m : Nat} {cs : List Char} (h : Group n cs) (h' : Group m cs) : n = m :=
  Option.some.inj ((group?_eq_some_iff.mpr h).symm.trans (group?_eq_some_iff.mpr h'))

theorem Group.hexadecimal {n : Nat} {cs : List Char} (h : Group n cs) {c : Char} (hc : c ∈ cs) :
    (Number.hexDigit? c).isSome = true := by
  obtain ⟨ds, hds, _⟩ := h.digits
  obtain ⟨d, _, hd⟩ := forall₂_mem_left hds hc
  rw [hd]
  rfl

theorem Group.not_mem {n : Nat} {cs : List Char} (h : Group n cs) {c : Char} (hc : Number.hexDigit? c = none) :
    c ∉ cs := by
  intro hmem
  have hsome := h.hexadecimal hmem
  rw [hc] at hsome
  cases hsome

theorem toDigits_sixteen (n : Nat) :
    ∃ ds, List.Forall₂ (fun c d => Number.hexDigit? c = some d) (Nat.toDigits 16 n) ds ∧
      Number.ofDigits 16 ds = n := by
  have hdigit : ∀ d < 16, Number.hexDigit? (Nat.digitChar d) = some d := by decide
  induction n using Nat.strong_induction_on with
  | h n ih =>
    by_cases hn : n < 16
    · rw [Nat.toDigits_of_lt_base hn]
      exact ⟨[n], .cons (hdigit n hn) .nil, by simp [Number.ofDigits]⟩
    · rw [Nat.toDigits_of_base_le (by decide) (by omega)]
      obtain ⟨ds, hds, hvalue⟩ := ih (n / 16) (by omega)
      refine ⟨ds ++ [n % 16], List.rel_append hds (.cons (hdigit _ (by omega)) .nil), ?_⟩
      unfold Number.ofDigits at hvalue ⊢
      rw [List.foldl_append, hvalue, List.foldl_cons, List.foldl_nil]
      omega

theorem group_toDigits {n : Nat} (hn : n < 65536) : Group n (Nat.toDigits 16 n) where
  nonempty := Nat.toDigits_ne_nil
  short := Nat.toDigits_length 16 n 4 (by decide) hn
  digits := toDigits_sixteen n

theorem Group.lt {n : Nat} {cs : List Char} (h : Group n cs) : n < 65536 := by
  obtain ⟨ds, hds, rfl⟩ := h.digits
  have hsmall : ∀ d ∈ ds, d < 16 := by
    intro d hd
    obtain ⟨c, _, hc⟩ := forall₂_mem_left hds.flip hd
    exact Number.hexDigit?_lt hc
  calc Number.ofDigits 16 ds
      < 16 ^ ds.length := Number.ofDigits_lt hsmall
    _ ≤ 16 ^ 4 := Nat.pow_le_pow_right (by decide) (hds.length_eq ▸ h.short)

theorem Dotted.dot {n : Nat} {cs : List Char} (h : Dotted n cs) : '.' ∈ cs := by
  cases h
  simp [List.intercalate]

theorem Dotted.lt {n : Nat} {cs : List Char} (h : Dotted n cs) : n < 2 ^ 32 := by
  obtain ⟨ha, hb, hc, hd⟩ := h
  have ha := ha.small
  have hb := hb.small
  have hc := hc.small
  have hd := hd.small
  omega

theorem Dotted.not_mem {n : Nat} {cs : List Char} (h : Dotted n cs) {c : Char} (hc : c.isDigit = false)
    (hdot : c ≠ '.') : c ∉ cs := by
  obtain ⟨ha, hb, hc', hd⟩ := h
  simp only [List.intercalate_cons_cons, List.intercalate_singleton, List.mem_append, List.mem_singleton, not_or]
  exact ⟨⟨ha.number.not_mem hc, hdot⟩, ⟨hb.number.not_mem hc, hdot⟩, ⟨hc'.number.not_mem hc, hdot⟩,
    hd.number.not_mem hc⟩

/-- Groups of an address, of which the last two can be written as four bytes. -/
inductive Groups : List Nat → List (List Char) → Prop
  | nil : Groups [] []
  | dotted {n : Nat} {cs : List Char} : Dotted n cs → Groups [n / 65536, n % 65536] [cs]
  | cons {g : Nat} {gs : List Nat} {p : List Char} {ps : List (List Char)} :
      Group g p → Groups gs ps → Groups (g :: gs) (p :: ps)

theorem expandDotted?_singleton (p : List Char) :
    expandDotted? [p] =
      if '.' ∈ p then (dotted? p).map fun n => [Nat.toDigits 16 (n / 65536), Nat.toDigits 16 (n % 65536)]
      else some [p] := by
  unfold expandDotted?
  simp only [List.getLast?_singleton, List.contains_iff_mem]
  split
  next => cases dotted? p <;> rfl
  next => rfl

theorem expandDotted?_append {xs ys : List (List Char)} (hy : ys ≠ []) :
    expandDotted? (xs ++ ys) = (expandDotted? ys).map (xs ++ ·) := by
  obtain ⟨init, last, rfl⟩ := (List.eq_nil_or_concat ys).resolve_left hy
  unfold expandDotted?
  rw [List.concat_eq_append, ← List.append_assoc, List.getLast?_concat, List.getLast?_concat]
  dsimp only
  rw [List.dropLast_concat, List.dropLast_concat]
  split
  next => cases dotted? last <;> simp
  next => rw [Option.map_some, List.append_assoc]

/-- What the last part of an address is written as, once no part has dots. -/
theorem expandDotted?_last {p : List Char} {qs : List (List Char)} (h : expandDotted? [p] = some qs) :
    qs = [p] ∨ ∃ a b, qs = [a, b] ∧ a ≠ [] ∧ b ≠ [] := by
  rw [expandDotted?_singleton] at h
  split at h
  next =>
    obtain ⟨n, _, rfl⟩ := Option.map_eq_some_iff.mp h
    exact .inr ⟨_, _, rfl, Nat.toDigits_ne_nil, Nat.toDigits_ne_nil⟩
  next =>
    cases h
    exact .inl rfl

theorem groups_singleton {p : List Char} {gs : List Nat} :
    Groups gs [p] ↔ ∃ qs, expandDotted? [p] = some qs ∧ List.Forall₂ Group gs qs := by
  rw [expandDotted?_singleton]
  constructor
  · rintro (_ | hp | ⟨hp, ⟨⟩⟩)
    · refine ⟨_, by rw [if_pos hp.dot, dotted?_eq_some_iff.mpr hp]; rfl, ?_⟩
      have hlt := hp.lt
      exact .cons (group_toDigits (by omega)) (.cons (group_toDigits (by omega)) .nil)
    · exact ⟨[p], if_neg (hp.not_mem (by decide)), .cons hp .nil⟩
  · rintro ⟨qs, hqs, hgs⟩
    split at hqs
    next =>
      obtain ⟨n, hn, rfl⟩ := Option.map_eq_some_iff.mp hqs
      have hp := dotted?_eq_some_iff.mp hn
      have hlt := hp.lt
      obtain _ | ⟨hhigh, _ | ⟨hlow, ⟨⟩⟩⟩ := hgs
      rw [hhigh.unique (group_toDigits (by omega)), hlow.unique (group_toDigits (by omega))]
      exact .dotted hp
    next =>
      cases hqs
      obtain _ | ⟨hp, ⟨⟩⟩ := hgs
      exact .cons hp .nil

theorem groups_iff {ps : List (List Char)} {gs : List Nat} :
    Groups gs ps ↔ ∃ qs, expandDotted? ps = some qs ∧ List.Forall₂ Group gs qs := by
  induction ps generalizing gs with
  | nil =>
    constructor
    · rintro ⟨⟩
      exact ⟨[], rfl, .nil⟩
    · rintro ⟨qs, hqs, hgs⟩
      cases hqs
      cases hgs
      exact .nil
  | cons p ps ih =>
    cases ps with
    | nil => exact groups_singleton
    | cons q ps =>
      rw [← List.singleton_append, expandDotted?_append (List.cons_ne_nil _ _)]
      constructor
      · rintro (_ | _ | ⟨hp, hps⟩)
        obtain ⟨qs, hqs, hgs⟩ := ih.mp hps
        exact ⟨p :: qs, by rw [hqs]; rfl, .cons hp hgs⟩
      · rintro ⟨_, hexpanded, hgs⟩
        obtain ⟨qs, hqs, rfl⟩ := Option.map_eq_some_iff.mp hexpanded
        obtain _ | ⟨hp, hgs⟩ := hgs
        exact .cons hp (ih.mpr ⟨qs, hqs, hgs⟩)

theorem Groups.small {gs : List Nat} {ps : List (List Char)} (h : Groups gs ps) : ∀ g ∈ gs, g < 65536 := by
  induction h with
  | nil => simp
  | dotted hp =>
    have hlt := hp.lt
    simp only [List.forall_mem_cons, List.not_mem_nil, false_imp_iff, implies_true, and_true]
    omega
  | cons hp _ ih => exact List.forall_mem_cons.mpr ⟨hp.lt, ih⟩

theorem Groups.length_le {gs : List Nat} {ps : List (List Char)} (h : Groups gs ps) : gs.length ≤ ps.length + 1 := by
  induction h with
  | nil => simp
  | dotted => simp
  | cons _ _ ih => simpa using ih

theorem Groups.not_mem {gs : List Nat} {ps : List (List Char)} (h : Groups gs ps) {c : Char}
    (hc : Number.hexDigit? c = none) (hdot : c ≠ '.') : ∀ p ∈ ps, c ∉ p := by
  induction h with
  | nil => simp
  | dotted hp => simpa using hp.not_mem (Number.isDigit_of_hexDigit? hc) hdot
  | cons hp _ ih => exact List.forall_mem_cons.mpr ⟨hp.not_mem hc, ih⟩

theorem Groups.of_plain {gs : List Nat} {ps : List (List Char)} (h : List.Forall₂ Group gs ps) : Groups gs ps := by
  induction h with
  | nil => exact .nil
  | cons hp _ ih => exact .cons hp ih

end Address

end AccessPolicy
