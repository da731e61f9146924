import Mathlib.Data.Nat.Bitwise
import AccessPolicy.Subject
import AccessPolicy.Proofs.AddressTexts
import AccessPolicy.Proofs.Outcome

/-!
Ranges of addresses. A range is written as an address, alone or with the length of a prefix after a slash, and
holds the addresses that begin with the same bits. Whether a request comes from a range is told by the address
that the request tells, and by nothing else.
-/

namespace AccessPolicy

namespace Network

/-- The mask whose first bits are ones, of an address of four bytes. -/
def mask (n : Nat) : Nat := 2 ^ 32 - 2 ^ (32 - n)

/-- How the length of a prefix is written: as a number, or for an address of four bytes as the mask of the prefix
or of what is after it. -/
inductive LengthWritten : Family → Nat → List Char → Prop
  | decimal {family : Family} {cs : List Char} {n : Nat} :
      cs ≠ [] → (∀ c ∈ cs, c.isDigit = true) → Nat.ofDigitChars 10 cs 0 = n →
        cs.length ≤ Number.maxDigits → n ≤ family.width → LengthWritten family n cs
  | netMask {cs : List Char} {n : Nat} : Address.Dotted (mask n) cs → n ≤ 32 → LengthWritten .v4 n cs
  | hostMask {cs : List Char} {n : Nat} :
      Address.Dotted (2 ^ 32 - 1 - mask n) cs → 0 < n → n < 32 → LengthWritten .v4 n cs

theorem mask_injective {n m : Nat} (hn : n ≤ 32) (hm : m ≤ 32) (h : mask n = mask m) : n = m := by
  unfold mask at h
  have hpown : 2 ^ (32 - n) ≤ 2 ^ 32 := Nat.pow_le_pow_right (by decide) (by omega)
  have hpowm : 2 ^ (32 - m) ≤ 2 ^ 32 := Nat.pow_le_pow_right (by decide) (by omega)
  have hpow : 2 ^ (32 - n) = 2 ^ (32 - m) := by omega
  have hexponent := Nat.pow_right_injective (le_refl 2) hpow
  omega

theorem maskLength?_eq_some_iff {m n : Nat} : maskLength? m = some n ↔ n ≤ 32 ∧ m = mask n := by
  have hmask {k : Nat} (hk : k ≤ 32) : (Nat.pow 2 k - 1) * Nat.pow 2 (32 - k) = mask k := by
    change (2 ^ k - 1) * 2 ^ (32 - k) = _
    rw [Nat.sub_mul, ← Nat.pow_add, Nat.add_sub_cancel' hk, Nat.one_mul]
    rfl
  unfold maskLength?
  rw [List.find?_range_eq_some]
  constructor
  · rintro ⟨h, hlt, _⟩
    have hn : n ≤ 32 := by simpa [Nat.lt_succ_iff] using hlt
    exact ⟨hn, (beq_iff_eq.mp h).trans (hmask hn)⟩
  · rintro ⟨hn, rfl⟩
    refine ⟨beq_iff_eq.mpr (hmask hn).symm, by simpa [Nat.lt_succ_iff] using hn, fun k hk => ?_⟩
    rw [hmask (by omega), Bool.not_eq_true', beq_eq_false_iff_ne]
    intro h
    have heq := mask_injective hn (by omega) h
    omega

theorem mask_lt (n : Nat) : mask n < 2 ^ 32 := by
  have hpos : 0 < 2 ^ (32 - n) := Nat.pow_pos (by decide)
  unfold mask
  omega

/-- The mask of what is after a prefix is the mask of no prefix itself. -/
theorem hostMask_ne_mask {n m : Nat} (hn : 0 < n) (hn' : n < 32) : 2 ^ 32 - 1 - mask n ≠ mask m := by
  unfold mask
  intro h
  have hpow : 2 ^ (32 - n) ≤ 2 ^ 31 := Nat.pow_le_pow_right (by decide) (by omega)
  have hpow' : 2 ^ 1 ≤ 2 ^ (32 - n) := Nat.pow_le_pow_right (by decide) (by omega)
  by_cases hm : m = 0
  · subst hm
    omega
  · have hpowm : 2 ^ (32 - m) ≤ 2 ^ 31 := Nat.pow_le_pow_right (by decide) (by omega)
    omega

theorem maskLength?_mask {n : Nat} (hn : n ≤ 32) : maskLength? (mask n) = some n :=
  maskLength?_eq_some_iff.mpr ⟨hn, rfl⟩

theorem LengthWritten.of_dotted {m n : Nat} {cs : List Char} (hm : Address.Dotted m cs)
    (h : ((maskLength? m).orElse fun _ => maskLength? (2 ^ 32 - 1 - m)) = some n) : LengthWritten .v4 n cs := by
  cases hmask : maskLength? m with
  | some k =>
    rw [hmask] at h
    obtain rfl : k = n := Option.some.inj h
    obtain ⟨hk, rfl⟩ := maskLength?_eq_some_iff.mp hmask
    exact .netMask hm hk
  | none =>
    rw [hmask] at h
    obtain ⟨hn, hrest⟩ := maskLength?_eq_some_iff.mp h
    have hlt := hm.lt
    have hnot {k : Nat} (hk : k ≤ 32) : m ≠ mask k := by
      rintro rfl
      rw [maskLength?_mask hk] at hmask
      cases hmask
    have hzero : mask 0 = 0 := rfl
    have hfull : mask 32 = 2 ^ 32 - 1 := rfl
    have hpos : n ≠ 0 := by
      rintro rfl
      exact hnot (le_refl 32) (by omega)
    have hsmall : n ≠ 32 := by
      rintro rfl
      exact hnot (Nat.zero_le 32) (by omega)
    obtain rfl : m = 2 ^ 32 - 1 - mask n := by omega
    exact .hostMask hm (by omega) (by omega)

theorem lengthOfText?_eq_some_iff {family : Family} {cs : List Char} {n : Nat} :
    lengthOfText? family cs = some n ↔ LengthWritten family n cs := by
  constructor
  · intro h
    unfold lengthOfText? at h
    split at h
    next hdecimal =>
      obtain ⟨hne, hdigits, hvalue⟩ := Address.decimal?_eq_some_iff.mp hdecimal
      rw [Option.ite_none_right_eq_some, Bool.and_eq_true, decide_eq_true_eq, decide_eq_true_eq] at h
      obtain ⟨⟨hlength, hn⟩, h⟩ := h
      cases h
      exact .decimal hne hdigits hvalue hlength hn
    next =>
      obtain ⟨m, hm, h⟩ := Option.bind_eq_some_iff.mp h
      exact .of_dotted (Address.dotted?_eq_some_iff.mp hm) h
    next => cases h
  · intro h
    have hdotted {m : Nat} (hm : Address.Dotted m cs) : lengthOfText? .v4 cs =
        (maskLength? m).orElse fun _ => maskLength? (2 ^ 32 - 1 - m) := by
      have hnone : Address.decimal? cs = none := by
        rw [Option.eq_none_iff_forall_ne_some]
        intro k hk
        have hdigit := (Address.decimal?_eq_some_iff.mp hk).2.1 '.' hm.dot
        cases hdigit
      unfold lengthOfText?
      rw [hnone]
      dsimp only
      rw [Address.dotted?_eq_some_iff.mpr hm]
      rfl
    cases h with
    | decimal hne hdigits hvalue hlength hn =>
      unfold lengthOfText?
      rw [Address.decimal?_eq_some_iff.mpr ⟨hne, hdigits, hvalue⟩]
      exact if_pos (by simp [hlength, hn])
    | netMask hm hn =>
      rw [hdotted hm, maskLength?_mask hn]
      rfl
    | hostMask hm hpos hn =>
      have hnone : maskLength? (2 ^ 32 - 1 - mask n) = none := by
        rw [Option.eq_none_iff_forall_ne_some]
        intro k hk
        exact hostMask_ne_mask hpos hn (maskLength?_eq_some_iff.mp hk).2
      have hlt := mask_lt n
      rw [hdotted hm, hnone, show 2 ^ 32 - 1 - (2 ^ 32 - 1 - mask n) = mask n by omega]
      exact maskLength?_mask (Nat.le_of_lt hn)

/-- A range and how it is written. -/
inductive Written : Network → List Char → Prop
  | whole {a : Address} {cs : List Char} : a.Written cs → Written ⟨a.family, a.bits, a.family.width⟩ cs
  | sized {a : Address} {cs ds : List Char} {n : Nat} :
      a.Written cs → LengthWritten a.family n ds → Written ⟨a.family, a.bits, n⟩ (cs ++ '/' :: ds)

theorem LengthWritten.le {family : Family} {n : Nat} {cs : List Char} (h : LengthWritten family n cs) :
    n ≤ family.width := by
  cases h with
  | decimal _ _ _ _ hn => exact hn
  | netMask _ hn => exact hn
  | hostMask _ _ hn => exact Nat.le_of_lt hn

theorem LengthWritten.not_mem {family : Family} {n : Nat} {cs : List Char} (h : LengthWritten family n cs) {c : Char}
    (hc : c.isDigit = false) (hdot : c ≠ '.') : c ∉ cs := by
  cases h with
  | decimal _ hdigits =>
    intro hmem
    rw [hdigits c hmem] at hc
    cases hc
  | netMask hm | hostMask hm => exact hm.not_mem hc hdot

theorem Written.le {n : Network} {cs : List Char} (h : n.Written cs) : n.length ≤ n.family.width := by
  cases h with
  | whole => exact Nat.le_refl _
  | sized _ hn => exact hn.le

theorem Written.base_lt {n : Network} {cs : List Char} (h : n.Written cs) : n.base < 2 ^ n.family.width := by
  cases h with
  | whole ha | sized ha => exact ha.bits_lt

theorem Written.colon_iff {n : Network} {cs : List Char} (h : n.Written cs) : ':' ∈ cs ↔ n.family = .v6 := by
  cases h with
  | whole ha => exact ha.colon_iff
  | sized ha hn =>
    rw [List.mem_append, List.mem_cons, ha.colon_iff]
    simp [hn.not_mem]

theorem Written.parts {n : Network} {cs : List Char} (h : n.Written cs) :
    (∃ a : Address, a.Written cs ∧ n = ⟨a.family, a.bits, a.family.width⟩ ∧ Text.Parts '/' cs [cs]) ∨
      ∃ (a : Address) (as ds : List Char) (k : Nat), a.Written as ∧ LengthWritten a.family k ds ∧
        n = ⟨a.family, a.bits, k⟩ ∧ Text.Parts '/' cs [as, ds] := by
  cases h with
  | whole ha =>
    exact .inl ⟨_, ha, rfl, List.intercalate_singleton, List.cons_ne_nil _ _, by simpa using ha.slashless⟩
  | sized ha hn =>
    have hds := hn.not_mem (c := '/') (by decide) (by decide)
    refine .inr ⟨_, _, _, _, ha, hn, rfl, .cons ha.slashless ?_⟩
    exact ⟨List.intercalate_singleton, List.cons_ne_nil _ _, by simpa using hds⟩

theorem of?_whole (family : Family) (as : List Char) :
    of? family (.text (String.ofList as)) (.int family.width) =
      .ok ((Address.ofText? family as).map fun a => ⟨family, a.bits, family.width⟩) := by
  have hlength : lengthOfValue? family (.int family.width) = .ok (some family.width) := by
    cases family <;> rfl
  unfold of?
  rw [Address.ofValue?_ofList, hlength]
  cases Address.ofText? family as <;> rfl

theorem of?_sized (family : Family) (as ds : List Char) :
    of? family (.text (String.ofList as)) (.text (String.ofList ds)) =
      .ok ((Address.ofText? family as).bind fun a => (lengthOfText? family ds).map fun k => ⟨family, a.bits, k⟩) := by
  have hlength : lengthOfValue? family (.text (String.ofList ds)) = .ok (lengthOfText? family ds) := by
    change Except.ok (lengthOfText? family (String.ofList ds).toList) = _
    rw [String.toList_ofList]
  unfold of?
  rw [Address.ofValue?_ofList, hlength]
  cases Address.ofText? family as <;> rfl

/-- The range of a family that the parts of a text write, between slashes. -/
def ofParts? (family : Family) : List (List Char) → Option Network
  | [as] => (Address.ofText? family as).map fun a => ⟨family, a.bits, family.width⟩
  | [as, ds] =>
    (Address.ofText? family as).bind fun a => (lengthOfText? family ds).map fun k => ⟨family, a.bits, k⟩
  | _ => none

theorem ofValue?_parts (family : Family) {s : String} {parts : List (List Char)}
    (h : Text.Parts '/' s.toList parts) : ofValue? family (.text s) = .ok (ofParts? family parts) := by
  rw [← Text.splitAt_eq_iff.mpr h]
  change (match Text.splitAt ['/'] s.toList.length s.toList with
    | [as] => of? family (.text (String.ofList as)) (.int family.width)
    | [as, ds] => of? family (.text (String.ofList as)) (.text (String.ofList ds))
    | _ => .ok none) = _
  split
  next heq => rw [heq, of?_whole, ofParts?]
  next heq => rw [heq, of?_sized, ofParts?]
  next hone htwo => rw [ofParts?.eq_3 _ _ hone htwo]

theorem ofParts?_eq_some_iff {family : Family} {cs : List Char} {parts : List (List Char)}
    (h : Text.Parts '/' cs parts) {n : Network} :
    ofParts? family parts = some n ↔ n.family = family ∧ n.Written cs := by
  constructor
  · intro hread
    unfold ofParts? at hread
    split at hread
    next =>
      obtain ⟨a, ha, rfl⟩ := Option.map_eq_some_iff.mp hread
      obtain ⟨rfl, hwritten⟩ := Address.ofText?_eq_some_iff.mp ha
      refine ⟨rfl, ?_⟩
      rw [← h.joined, List.intercalate_singleton]
      exact .whole hwritten
    next =>
      obtain ⟨a, ha, hread⟩ := Option.bind_eq_some_iff.mp hread
      obtain ⟨k, hk, rfl⟩ := Option.map_eq_some_iff.mp hread
      obtain ⟨rfl, hwritten⟩ := Address.ofText?_eq_some_iff.mp ha
      refine ⟨rfl, ?_⟩
      rw [← h.joined, List.intercalate_cons_cons, List.intercalate_singleton, List.append_assoc]
      exact .sized hwritten (lengthOfText?_eq_some_iff.mp hk)
    next => cases hread
  · rintro ⟨rfl, hn⟩
    rcases hn.parts with ⟨a, ha, rfl, hone⟩ | ⟨a, as, ds, k, ha, hk, rfl, htwo⟩
    · rw [h.unique hone]
      exact Option.map_eq_some_iff.mpr ⟨a, Address.ofText?_eq_some_iff.mpr ⟨rfl, ha⟩, rfl⟩
    · rw [h.unique htwo]
      exact Option.bind_eq_some_iff.mpr ⟨a, Address.ofText?_eq_some_iff.mpr ⟨rfl, ha⟩,
        Option.map_eq_some_iff.mpr ⟨k, lengthOfText?_eq_some_iff.mpr hk, rfl⟩⟩

theorem Written.unique {n m : Network} {cs : List Char} (hn : n.Written cs) (hm : m.Written cs) : n = m := by
  have hparts : Text.Parts '/' cs (Text.splitAt ['/'] cs.length cs) := Text.splitAt_eq_iff.mp rfl
  have hfamily : m.family = n.family := by
    have hiff := hm.colon_iff.symm.trans hn.colon_iff
    cases hfn : n.family <;> cases hfm : m.family <;> simp [hfn, hfm] at hiff ⊢
  exact Option.some.inj (((ofParts?_eq_some_iff hparts).mpr ⟨rfl, hn⟩).symm.trans
    ((ofParts?_eq_some_iff hparts).mpr ⟨hfamily, hm⟩))

/-- The range that a text denotes is the one that is written there; reading a text never fails. -/
theorem read?_text (s : String) :
    ∃ found, read? (.text s) = .ok found ∧ ∀ n, found = some n ↔ n.Written s.toList := by
  have hparts : Text.Parts '/' s.toList (Text.splitAt ['/'] s.toList.length s.toList) := Text.splitAt_eq_iff.mp rfl
  generalize Text.splitAt ['/'] s.toList.length s.toList = parts at hparts
  have hread : read? (.text s) = .ok ((ofParts? .v4 parts).or (ofParts? .v6 parts)) := by
    unfold read?
    rw [ofValue?_parts .v4 hparts, ofValue?_parts .v6 hparts]
    cases ofParts? .v4 parts <;> rfl
  refine ⟨_, hread, fun n => ?_⟩
  rw [Option.or_eq_some_iff, ofParts?_eq_some_iff hparts, ofParts?_eq_some_iff hparts]
  constructor
  · rintro (⟨_, hn⟩ | ⟨_, _, hn⟩) <;> exact hn
  · intro hn
    cases hf : n.family with
    | v4 => exact .inl ⟨rfl, hn⟩
    | v6 =>
      refine .inr ⟨?_, rfl, hn⟩
      rw [Option.eq_none_iff_forall_ne_some]
      intro m hm
      obtain ⟨hfamily, hm⟩ := (ofParts?_eq_some_iff hparts).mp hm
      rw [hm.unique hn, hf] at hfamily
      cases hfamily

theorem written_of_read {s : String} {n : Network} (h : read? (.text s) = .ok (some n)) : n.Written s.toList := by
  obtain ⟨found, hread, hfound⟩ := read?_text s
  exact (hfound n).mp (Except.ok.inj (hread.symm.trans h))

/-- Whether a range has an address: whether it begins with the bits of the range. -/
def Has (n : Network) (a : Address) : Prop :=
  a.family = n.family ∧
    ∀ i < n.length, a.bits.testBit (n.family.width - 1 - i) = n.base.testBit (n.family.width - 1 - i)

/-- Numbers of so many bits have the same ones at the beginning if they are the same without the others. -/
theorem shiftRight_eq_iff {w l a b : Nat} (hl : l ≤ w) (ha : a < 2 ^ w) (hb : b < 2 ^ w) :
    a >>> (w - l) = b >>> (w - l) ↔ ∀ i < l, a.testBit (w - 1 - i) = b.testBit (w - 1 - i) := by
  constructor
  · intro h i hi
    have hbit := congrArg (fun m => m.testBit (l - 1 - i)) h
    rwa [Nat.testBit_shiftRight, Nat.testBit_shiftRight, show w - l + (l - 1 - i) = w - 1 - i by omega] at hbit
  · intro h
    refine Nat.eq_of_testBit_eq fun j => ?_
    rw [Nat.testBit_shiftRight, Nat.testBit_shiftRight]
    by_cases hj : j < l
    · have hbit := h (l - 1 - j) (by omega)
      rwa [show w - 1 - (l - 1 - j) = w - l + j by omega] at hbit
    · have hpow : 2 ^ w ≤ 2 ^ (w - l + j) := Nat.pow_le_pow_right (by decide) (by omega)
      rw [Nat.testBit_lt_two_pow (by omega), Nat.testBit_lt_two_pow (by omega)]

theorem contains_iff {n : Network} {a : Address} (hlength : n.length ≤ n.family.width)
    (hbase : n.base < 2 ^ n.family.width) (ha : a.bits < 2 ^ a.family.width) : n.contains a = true ↔ n.Has a := by
  unfold contains Has
  rw [Bool.and_eq_true, beq_iff_eq, beq_iff_eq]
  refine and_congr_right fun hfamily => ?_
  exact shiftRight_eq_iff hlength (hfamily ▸ ha) hbase

/-- Whether all addresses of a range are those of another. -/
def Within (n m : Network) : Prop :=
  ∀ a : Address, a.bits < 2 ^ a.family.width → n.Has a → m.Has a

/-- One range is within another exactly if its addresses begin with at least as many bits, and with those of the
other. -/
theorem within_iff {n m : Network} (hn : n.length ≤ n.family.width) (hbase : n.base < 2 ^ n.family.width)
    (hm : m.length ≤ m.family.width) : n.Within m ↔ m.length ≤ n.length ∧ m.Has ⟨n.family, n.base⟩ := by
  constructor
  · intro h
    have hfirst : m.Has ⟨n.family, n.base⟩ := h _ hbase ⟨rfl, fun _ _ => rfl⟩
    refine ⟨Nat.le_of_not_lt fun hlt => ?_, hfirst⟩
    obtain ⟨hfamily, hbits⟩ := hfirst
    change n.family = m.family at hfamily
    have hwidth : m.length ≤ n.family.width := hfamily ▸ hm
    -- the address that differs from the base of the first range in the bit after its prefix
    let other := n.base ^^^ 2 ^ (n.family.width - 1 - n.length)
    have hother : other < 2 ^ n.family.width :=
      Nat.xor_lt_two_pow hbase (Nat.pow_lt_pow_right (by decide) (by omega))
    have hkept : n.Has ⟨n.family, other⟩ := by
      refine ⟨rfl, fun i hi => ?_⟩
      rw [Nat.testBit_xor, Nat.testBit_two_pow_of_ne (by omega), Bool.xor_false]
    have hflipped := (h _ hother hkept).2 n.length hlt
    rw [← hbits n.length hlt, ← hfamily, Nat.testBit_xor, Nat.testBit_two_pow_self] at hflipped
    simp at hflipped
  · rintro ⟨hlength, hfamily, hbits⟩ a _ ⟨hfamily', hbits'⟩
    change n.family = m.family at hfamily
    refine ⟨hfamily'.trans hfamily, fun i hi => ?_⟩
    rw [← hbits i hi, ← hfamily]
    exact hbits' i (by omega)

end Network

/-- A text that may be missing. -/
inductive Told : Option Value → Option String → Prop
  | text (s : String) : Told (some (.text s)) (some s)
  | null : Told (some .null) none
  | missing : Told none none

theorem Value.remoteAddress_told {request : Value} {host remote : Option String}
    (hhost : Told ((request.attribute? "client").bind (·.attribute? "host")) host)
    (hremote : Told (request.attribute? "remote_addr") remote) :
    request.remoteAddress = (host.or remote).elim .null .text := by
  unfold remoteAddress
  generalize (request.attribute? "client").bind (·.attribute? "host") = client at hhost ⊢
  generalize request.attribute? "remote_addr" = address at hremote ⊢
  cases hhost <;> cases hremote <;> rfl

section Decision

variable {σ : Type} {request : Value} {host remote : Option String}

theorem isFrom_unwritten {range : String} (h : ¬ ∃ n : Network, n.Written range.toList) :
    isFrom request (.text range) = .error (.addressRange (.text range)) := by
  obtain ⟨found, hread, hfound⟩ := Network.read?_text range
  cases found with
  | none =>
    unfold isFrom
    rw [hread]
  | some n => exact absurd ⟨n, (hfound n).mp rfl⟩ h

theorem isFrom_written (hhost : Told ((request.attribute? "client").bind (·.attribute? "host")) host)
    (hremote : Told (request.attribute? "remote_addr") remote) {range : String} {n : Network}
    (hn : n.Written range.toList) :
    ∃ b, isFrom request (.text range) = .ok b ∧
      (b = true ↔ ∃ (sender : String) (a : Address),
        host.or remote = some sender ∧ a.Written sender.toList ∧ n.Has a) := by
  obtain ⟨found, hread, hfound⟩ := Network.read?_text range
  obtain rfl := (hfound n).mpr hn
  unfold isFrom
  rw [hread]
  dsimp only
  rw [Value.remoteAddress_told hhost hremote]
  cases htold : host.or remote with
  | none => exact ⟨false, rfl, by simp⟩
  | some sender =>
    refine ⟨_, rfl, ?_⟩
    rw [Option.any_eq_true]
    constructor
    · rintro ⟨a, ha, hcontains⟩
      have hwritten := Address.read?_text.mp ha
      exact ⟨sender, a, rfl, hwritten, (Network.contains_iff hn.le hn.base_lt hwritten.bits_lt).mp hcontains⟩
    · rintro ⟨_, a, hsender, ha, hhas⟩
      cases hsender
      exact ⟨a, Address.read?_text.mpr ha, (Network.contains_iff hn.le hn.base_lt ha.bits_lt).mpr hhas⟩

theorem Subject.outcome_hasIpAddress (s : Subject σ) (range : Value) (world : σ) :
    (s.decide request .hasIpAddress [range] []).outcome world = ((isFrom request range).map .bool, world) := by
  simp only [decide, oneArgument, pure_bind]
  cases isFrom request range <;> rfl

/-- How the question ends whether a request that tells its sender in texts comes from a range: in a fault exactly
if the range is not written like one, and otherwise with whether the sender, told by the host of the client or
else by the remote address, has an address that begins with the bits of the range. So what comes from a range
comes from every range that it is within. -/
theorem sender_decided (s : Subject σ) (world : σ)
    (hhost : Told ((request.attribute? "client").bind (·.attribute? "host")) host)
    (hremote : Told (request.attribute? "remote_addr") remote) :
    (∀ range : String,
      (∃ f, ((s.decide request .hasIpAddress [.text range] []).outcome world).1 = .error f) ↔
        ¬ ∃ n : Network, n.Written range.toList) ∧
    (∀ (range : String) (n : Network), n.Written range.toList →
      ∃ b, (s.decide request .hasIpAddress [.text range] []).outcome world = (.ok (.bool b), world) ∧
        (b = true ↔ ∃ (sender : String) (a : Address),
          host.or remote = some sender ∧ a.Written sender.toList ∧ n.Has a)) ∧
    ∀ (inner outer : String) (n m : Network), n.Written inner.toList → m.Written outer.toList → n.Within m →
      (s.decide request .hasIpAddress [.text inner] []).outcome world = (.ok (.bool true), world) →
        (s.decide request .hasIpAddress [.text outer] []).outcome world = (.ok (.bool true), world) := by
  simp only [Subject.outcome_hasIpAddress]
  refine ⟨fun range => ?_, fun range n hn => ?_, fun inner outer n m hn hm hwithin hinner => ?_⟩
  · constructor
    · rintro ⟨f, hf⟩ ⟨n, hn⟩
      obtain ⟨b, hb, _⟩ := isFrom_written hhost hremote hn
      rw [hb] at hf
      cases hf
    · intro hnone
      rw [isFrom_unwritten hnone]
      exact ⟨_, rfl⟩
  · obtain ⟨b, hb, hiff⟩ := isFrom_written hhost hremote hn
    rw [hb]
    exact ⟨b, rfl, hiff⟩
  · obtain ⟨b, hb, hb'⟩ := isFrom_written hhost hremote hn
    obtain ⟨c, hc, hc'⟩ := isFrom_written hhost hremote hm
    rw [hb] at hinner
    obtain rfl : b = true := by simpa [Except.map] using hinner
    obtain ⟨sender, a, hsender, ha, hhas⟩ := hb'.mp rfl
    obtain rfl : c = true := hc'.mpr ⟨sender, a, hsender, ha, hwithin a ha.bits_lt hhas⟩
    rw [hc]
    rfl

/-- A request from a host whose address has the given text. -/
def requestFrom (host : String) : Value := .request { client := some host }

theorem requestFrom_host (host : String) :
    Told (((requestFrom host).attribute? "client").bind (·.attribute? "host")) (some host) :=
  .text host

theorem requestFrom_remote (host : String) : Told ((requestFrom host).attribute? "remote_addr") none := .missing

theorem sender_decided_network :
    ∃ n m : Network, n.Written "10.1.0.0/16".toList ∧ m.Written "10.9.9.9/255.0.0.0".toList ∧ n.Within m ∧
      ∀ range ∈ ["10.1.0.0/16", "10.9.9.9/255.0.0.0"],
        (({ identity := none } : Subject Unit).decide (requestFrom "10.1.2.3") .hasIpAddress [.text range] []).outcome
          () = (.ok (.bool true), ()) := by
  have hinner : Network.Written ⟨.v4, 0x0a010000, 16⟩ "10.1.0.0/16".toList :=
    Network.written_of_read (by decide)
  have houter : Network.Written ⟨.v4, 0x0a090909, 8⟩ "10.9.9.9/255.0.0.0".toList :=
    Network.written_of_read (by decide)
  have hwithin : Network.Within ⟨.v4, 0x0a010000, 16⟩ ⟨.v4, 0x0a090909, 8⟩ :=
    (Network.within_iff (by decide) (by decide) (by decide)).mpr ⟨by decide, rfl, by decide⟩
  have hsender : Address.Written ⟨.v4, 0x0a010203⟩ "10.1.2.3".toList := Address.read?_text.mp (by decide)
  obtain ⟨_, hdecided, hwider⟩ := sender_decided ({ identity := none } : Subject Unit) ()
    (requestFrom_host "10.1.2.3") (requestFrom_remote "10.1.2.3")
  obtain ⟨b, hb, hiff⟩ := hdecided _ _ hinner
  obtain rfl : b = true := hiff.mpr ⟨"10.1.2.3", _, rfl, hsender, rfl, by decide⟩
  refine ⟨_, _, hinner, houter, hwithin, ?_⟩
  simp only [List.forall_mem_cons, List.not_mem_nil, false_imp_iff, implies_true, and_true]
  exact ⟨hb, hwider _ _ _ _ hinner houter hwithin hb⟩

end Decision

end AccessPolicy
