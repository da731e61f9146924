import Mathlib.Data.List.Basic
import Mathlib.Data.List.TakeWhile
import Mathlib.Data.Nat.Digits.Defs
import AccessPolicy.Checked.Lenient
import AccessPolicy.Http.Credentials

/-!
Whole numbers in decimal notation. Every way of reading a whole number off a text reads the notation of a number
as that number; and of a text of digits it is known when it is a number.
-/

namespace AccessPolicy

theorem digit_bounds {c : Char} (h : c.isDigit = true) : 48 ≤ c.toNat ∧ c.toNat ≤ 57 := by
  simp only [Char.isDigit, Bool.and_eq_true, decide_eq_true_eq] at h
  exact h

namespace Number

/-- The notation of a natural number: its digits, without a zero in front. -/
structure Notation (m : Nat) (ds : List Char) : Prop where
  nonempty : ds ≠ []
  digits : ∀ c ∈ ds, c.isDigit = true
  value : Nat.ofDigitChars 10 ds 0 = m
  lead : ds.head? = some '0' → ds = ['0']

theorem lead_toDigits (m : Nat) (h : (Nat.toDigits 10 m).head? = some '0') : Nat.toDigits 10 m = ['0'] := by
  induction m using Nat.strong_induction_on with
  | h m ih =>
    by_cases hm : m < 10
    · rw [Nat.toDigits_of_lt_base hm] at h ⊢
      rw [List.head?_cons, Option.some.injEq] at h
      rw [h]
    · have hrec := Nat.toDigits_of_base_le (b := 10) (n := m) (by omega) (by omega)
      have hhead : (Nat.toDigits 10 m).head? = (Nat.toDigits 10 (m / 10)).head? := by
        rw [hrec, List.head?_append_of_ne_nil _ Nat.toDigits_ne_nil]
      have hzero := ih (m / 10) (by omega) (hhead ▸ h)
      have hvalue := Nat.ofDigitChars_ten_toDigits (n := m / 10)
      rw [hzero] at hvalue
      have hnone : Nat.ofDigitChars 10 ['0'] 0 = 0 := by decide
      omega

theorem notation_toDigits (m : Nat) : Notation m (Nat.toDigits 10 m) where
  nonempty := Nat.toDigits_ne_nil
  digits _ hc := Nat.isDigit_of_mem_toDigits (by omega) (by omega) hc
  value := Nat.ofDigitChars_ten_toDigits
  lead := lead_toDigits m

theorem toString_cases (n : Int) :
    (0 ≤ n ∧ (toString n).toList = Nat.toDigits 10 n.natAbs) ∨
      (n < 0 ∧ (toString n).toList = '-' :: Nat.toDigits 10 n.natAbs) := by
  cases n with
  | ofNat m =>
    left
    refine ⟨Int.natCast_nonneg m, ?_⟩
    change m.repr.toList = _
    rw [Nat.repr_eq_ofList_toDigits, String.toList_ofList]
    rfl
  | negSucc m =>
    right
    refine ⟨Int.negSucc_lt_zero m, ?_⟩
    change ("-" ++ m.succ.repr).toList = _
    simp only [String.toList_append, Nat.repr_eq_ofList_toDigits, String.toList_ofList]
    rfl

namespace Notation

variable {m : Nat} {ds : List Char}

theorem not_mem (h : Notation m ds) {c : Char} (hc : c.isDigit = false) : c ∉ ds := by
  intro hmem
  rw [h.digits c hmem] at hc
  cases hc

end Notation

/-- Without separators every character is a digit of the number. -/
theorem separatedDigits?_eq_some_iff {digit? : Char → Option Nat} {cs : List Char} {ds : List Nat} (hne : cs ≠ [])
    (hseparator : '_' ∉ cs) : separatedDigits? digit? cs = some ds ↔ cs.map digit? = ds.map some := by
  induction cs generalizing ds with
  | nil => exact absurd rfl hne
  | cons c cs ih =>
    obtain ⟨_, hcs⟩ := not_or.mp (mt List.mem_cons.mpr hseparator)
    rw [separatedDigits?, List.map_cons]
    cases hc : digit? c with
    | none => cases ds <;> simp
    | some d =>
      cases cs with
      | nil =>
        change some [d] = some ds ↔ [d].map some = ds.map some
        rw [Option.some.injEq, List.map_inj_right fun _ _ h => Option.some.inj h]
      | cons e cs =>
        have he : e ≠ '_' := fun heq => hcs (heq ▸ List.mem_cons_self)
        have hrest {rest : List Nat} : separatedDigits? digit? (e :: cs) = some rest ↔
            (e :: cs).map digit? = rest.map some := ih (List.cons_ne_nil e cs) hcs
        dsimp only
        split
        next heq => cases heq
        next heq => exact absurd (List.cons.inj heq).1 he
        next heq =>
          cases heq
          rw [Option.map_eq_some_iff]
          cases ds with
          | nil => simp
          | cons d' ds => simp [hrest, and_comm, eq_comm]

theorem separatedDigits?_isSome_iff {digit? : Char → Option Nat} {cs : List Char} (hne : cs ≠ [])
    (hseparator : '_' ∉ cs) : (separatedDigits? digit? cs).isSome = true ↔ ∀ c ∈ cs, (digit? c).isSome = true := by
  constructor
  · intro h c hc
    obtain ⟨ds, hds⟩ := Option.isSome_iff_exists.mp h
    have hmap := (separatedDigits?_eq_some_iff hne hseparator).mp hds
    have hmem : digit? c ∈ ds.map some := hmap ▸ List.mem_map_of_mem hc
    obtain ⟨d, _, hd⟩ := List.mem_map.mp hmem
    rw [← hd]
    rfl
  · intro h
    have hmap : cs.map digit? = (cs.map fun c => (digit? c).getD 0).map some := by
      rw [List.map_map]
      refine List.map_congr_left fun c hc => ?_
      obtain ⟨d, hd⟩ := Option.isSome_iff_exists.mp (h c hc)
      simp [hd]
    rw [(separatedDigits?_eq_some_iff hne hseparator).mpr hmap]
    rfl

end Number

namespace Text

theorem trimBoth_eq_self {p : Char → Bool} {cs : List Char} (h : ∀ c ∈ cs, p c = false) : trimBoth p cs = cs := by
  have hdrop {cs : List Char} (h : ∀ c ∈ cs, p c = false) : cs.dropWhile p = cs := by
    cases cs with
    | nil => rfl
    | cons c cs => rw [List.dropWhile_cons_of_neg (by simp [h c List.mem_cons_self])]
  unfold trimBoth
  rw [hdrop h, hdrop fun c hc => h c (List.mem_reverse.mp hc), List.reverse_reverse]

/-- The white space characters by their numbers. -/
def spaces : List Nat :=
  List.range' 9 5 ++ List.range' 28 5 ++ [0x85, 0xA0, 0x1680] ++ List.range' 0x2000 11 ++
    [0x2028, 0x2029, 0x202F, 0x205F, 0x3000]

theorem mem_spaces {c : Char} (h : isSpace c = true) : c.toNat ∈ spaces := by
  simp only [isSpace, Bool.or_eq_true, Bool.and_eq_true, decide_eq_true_eq, beq_iff_eq] at h
  simp only [spaces, List.mem_append, List.mem_range'_1, List.mem_cons, List.not_mem_nil, or_false]
  omega

theorem isSpace_digitLike {c : Char} (h : isDigitLike c = true) : isSpace c = false := by
  have hspaces : ∀ n ∈ spaces, isDigitLike (Char.ofNat n) = false := by decide
  by_contra hspace
  have hnone := hspaces c.toNat (mem_spaces (Bool.not_eq_false _ ▸ hspace))
  rw [Char.ofNat_toNat, h] at hnone
  cases hnone

end Text

namespace Number

theorem isMargin_digitLike {c : Char} (h : Text.isDigitLike c = true) : isMargin c = false := by
  unfold isMargin
  rw [Text.isSpace_digitLike h, Bool.false_and]

section DigitLike

variable {s : String}

/-- A text of characters with digit values has no sign and no margin. -/
theorem integer?_digitLike (h : ∀ c ∈ s.toList, Text.isDigitLike c = true) :
    integer? s = (natural? s.toList).map fun n : Nat => (n : Int) := by
  unfold integer?
  rw [Text.trimBoth_eq_self fun c hc => isMargin_digitLike (h c hc)]
  split
  next heq =>
    have hsign := h '-' (heq ▸ List.mem_cons_self)
    cases hsign
  next heq =>
    have hsign := h '+' (heq ▸ List.mem_cons_self)
    cases hsign
  next => rfl

/-- Such a text writes a number if all its characters are decimal digits, of which there are not too many. -/
theorem integer?_isSome_iff (hne : s ≠ "") (h : ∀ c ∈ s.toList, Text.isDigitLike c = true) :
    (integer? s).isSome = true ↔
      (∀ c ∈ s.toList, (Text.decimalDigit? c).isSome = true) ∧ s.toList.length ≤ maxDigits := by
  have hcs : s.toList ≠ [] := mt String.toList_eq_nil_iff.mp hne
  have hseparator : '_' ∉ s.toList := fun hc => by cases h '_' hc
  rw [integer?_digitLike h, Option.isSome_map, ← separatedDigits?_isSome_iff hcs hseparator]
  unfold natural?
  cases hds : separatedDigits? Text.decimalDigit? s.toList with
  | none => simp
  | some ds =>
    have hlength : ds.length = s.toList.length := by
      have hmap := congrArg List.length ((separatedDigits?_eq_some_iff hcs hseparator).mp hds)
      rw [List.length_map, List.length_map] at hmap
      exact hmap.symm
    simp [hlength]

end DigitLike

variable {n : Int}

theorem not_mem_toString (n : Int) {c : Char} (hc : c.isDigit = false) (hsign : c ≠ '-') : c ∉ (toString n).toList := by
  have hds := notation_toDigits n.natAbs
  rcases toString_cases n with ⟨_, hcs⟩ | ⟨_, hcs⟩
  · rw [hcs]
    exact hds.not_mem hc
  · rw [hcs, List.mem_cons, not_or]
    exact ⟨hsign, hds.not_mem hc⟩

end Number

namespace Checked

variable {n : Int}

section Digits

variable {m : Nat} {ds : List Char}

end Digits

end Checked

end AccessPolicy
