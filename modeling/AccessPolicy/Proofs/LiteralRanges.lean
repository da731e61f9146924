import AccessPolicy.Proofs.Accepted
import AccessPolicy.Proofs.Formulas
import AccessPolicy.Proofs.LiteralCalls
import AccessPolicy.Proofs.Ranges

/-!
Literal ranges in accepted guards. A guard is checked with the text that a literal is shown as, and evaluated with
the value of the literal; the two agree because no literal but a text is shown as a range.
-/

namespace AccessPolicy

/-- A text without colons and with few dots. -/
structure Sparse (k : Nat) (cs : List Char) : Prop where
  colonless : ':' ∉ cs
  dots : cs.count '.' ≤ k

namespace Sparse

variable {k l : Nat} {as bs : List Char}

theorem append (ha : Sparse k as) (hb : Sparse l bs) : Sparse (k + l) (as ++ bs) where
  colonless := by
    rw [List.mem_append, not_or]
    exact ⟨ha.colonless, hb.colonless⟩
  dots := by
    rw [List.count_append]
    exact Nat.add_le_add ha.dots hb.dots

theorem mono (h : Sparse k as) (hkl : k ≤ l) : Sparse l as := ⟨h.colonless, h.dots.trans hkl⟩

theorem sublist (h : Sparse k bs) (hs : as.Sublist bs) : Sparse k as where
  colonless hmem := h.colonless (hs.subset hmem)
  dots := (hs.count_le '.').trans h.dots

theorem of_digits (h : ∀ c ∈ as, c.isDigit = true) : Sparse 0 as where
  colonless hmem := by cases h ':' hmem
  dots := by
    rw [Nat.le_zero, List.count_eq_zero]
    intro hmem
    cases h '.' hmem

end Sparse

instance (k : Nat) (cs : List Char) : Decidable (Sparse k cs) :=
  decidable_of_iff (':' ∉ cs ∧ cs.count '.' ≤ k) ⟨fun ⟨h, h'⟩ => ⟨h, h'⟩, fun ⟨h, h'⟩ => ⟨h, h'⟩⟩

namespace Number

theorem isDigit_digits (n : Nat) : ∀ c ∈ digits n, c.isDigit = true :=
  (notation_toDigits n).digits

theorem isDigit_zeros (n : Nat) : ∀ c ∈ List.replicate n '0', c.isDigit = true := by
  intro c hc
  rw [List.eq_of_mem_replicate hc]
  rfl

theorem isDigit_dropTrailingZeros {ds : List Char} (h : ∀ c ∈ ds, c.isDigit = true) :
    ∀ c ∈ dropTrailingZeros ds, c.isDigit = true := by
  intro c hc
  have hkept := (List.dropWhile_sublist (· == '0')).subset (List.mem_reverse.mp hc)
  exact h c (List.mem_reverse.mp hkept)

theorem sparse_exponentText (e : Int) : Sparse 0 (exponentText e) := by
  have hsign : Sparse 0 ['e', if e < 0 then '-' else '+'] := by
    split <;> decide
  have hdigits : ∀ c ∈ if (digits e.natAbs).length < 2 then '0' :: digits e.natAbs else digits e.natAbs,
      c.isDigit = true := by
    split
    next => exact List.forall_mem_cons.mpr ⟨rfl, isDigit_digits _⟩
    next => exact isDigit_digits _
  exact hsign.append (.of_digits hdigits)

theorem sparse_pointed {as bs : List Char} (ha : ∀ c ∈ as, c.isDigit = true) (hb : ∀ c ∈ bs, c.isDigit = true) :
    Sparse 1 (as ++ '.' :: bs) := by
  have hpoint : Sparse 1 ['.'] := by decide
  exact (Sparse.of_digits ha).append (hpoint.append (.of_digits hb))

theorem sparse_positional {ds : List Char} (h : ∀ c ∈ ds, c.isDigit = true) (point : Int) :
    Sparse 1 (positional ds point) := by
  unfold positional
  split
  next =>
    exact sparse_pointed (isDigit_zeros 1) (List.forall_mem_append.mpr ⟨isDigit_zeros _, h⟩)
  next =>
    dsimp only
    split
    next =>
      exact sparse_pointed (List.forall_mem_append.mpr ⟨h, isDigit_zeros _⟩) (isDigit_zeros 1)
    next =>
      exact sparse_pointed (fun c hc => h c (List.mem_of_mem_take hc)) fun c hc => h c (List.mem_of_mem_drop hc)

theorem sparse_floatText (x : Float) : Sparse 1 (floatText x).toList := by
  unfold floatText
  cases Binary.ofFloat x with
  | nan => decide
  | infinite negative => cases negative <;> decide
  | finite negative m e =>
    have hsign : Sparse 0 (if negative then ['-'] else []) := by
      cases negative <;> decide
    have hdigits := isDigit_dropTrailingZeros (isDigit_digits (shortest m e).1)
    dsimp only
    split
    next =>
      rw [String.toList_ofList]
      exact hsign.append (by decide : Sparse 1 "0.0".toList)
    next =>
      rw [String.toList_ofList]
      refine Sparse.append (k := 0) (l := 1) hsign ?_
      split
      next => exact sparse_positional hdigits _
      next =>
        refine Sparse.append (k := 1) (l := 0) ?_ (sparse_exponentText _)
        split
        next first heq =>
          rw [heq] at hdigits
          exact (Sparse.of_digits hdigits).mono (by decide)
        next first rest _ heq =>
          rw [heq] at hdigits
          obtain ⟨hfirst, hrest⟩ := List.forall_mem_cons.mp hdigits
          exact sparse_pointed (List.forall_mem_singleton.mpr hfirst) hrest
        next => decide

end Number

theorem toList_dropEnd_sublist (s : String) (n : Nat) : (s.dropEnd n).toString.toList.Sublist s.toList := by
  have hsplits := (s.toSlice.endPos.prevn n).splits.eq_append
  rw [String.copy_toSlice] at hsplits
  have happend := congrArg String.toList hsplits
  rw [String.toList_append] at happend
  unfold String.dropEnd String.Slice.dropEnd
  rw [String.Slice.toString_eq, happend]
  exact List.sublist_append_left _ _

theorem sparse_complexPart (x : Float) : Sparse 1 (complexPart x).toList := by
  unfold complexPart
  dsimp only
  split
  next => exact (Number.sparse_floatText x).sublist (toList_dropEnd_sublist _ _)
  next => exact Number.sparse_floatText x

theorem sparse_complexText (re im : Float) : Sparse 2 (complexText re im).toList := by
  have hend : Sparse 0 "j".toList := by decide
  unfold complexText
  split
  next =>
    rw [String.toList_append]
    exact ((sparse_complexPart im).append hend).mono (by decide)
  next =>
    have hopen : Sparse 0 "(".toList := by decide
    have hsign : Sparse 0 (if Number.isNegative im && !im.isNaN then "" else "+").toList := by
      cases Number.isNegative im && !im.isNaN <;> decide
    have hclose : Sparse 0 "j)".toList := by decide
    simp only [String.toList_append]
    exact ((((hopen.append (sparse_complexPart re)).append hsign).append (sparse_complexPart im)).append hclose).mono
      (by decide)

theorem sparse_toString (n : Int) : Sparse 0 (toString n).toList where
  colonless := Number.not_mem_toString n rfl (by decide)
  dots := by
    rw [Nat.le_zero, List.count_eq_zero]
    exact Number.not_mem_toString n rfl (by decide)

/-- No literal but a text or bytes is shown with a colon, or with more than two dots. -/
theorem Literal.sparse_shown : ∀ c : Literal, (∃ s, c = .text s) ∨ (∃ data, c = .bytes data) ∨
    Sparse 2 c.value.shown.toList
  | .null => .inr (.inr (by decide))
  | .bool b => .inr (.inr (by cases b <;> decide))
  | .int n => .inr (.inr ((sparse_toString n).mono (by decide)))
  | .float x => .inr (.inr ((Number.sparse_floatText x).mono (by decide)))
  | .imaginary x => .inr (.inr (sparse_complexText _ x))
  | .ellipsis => .inr (.inr (by decide))
  | .text s => .inl ⟨s, rfl⟩
  | .bytes data => .inr (.inl ⟨data, rfl⟩)

theorem Text.quoteFor_cases (holds : Char → Bool) : quoteFor holds = '\'' ∨ quoteFor holds = '"' := by
  unfold quoteFor
  split
  next => exact .inr rfl
  next => exact .inl rfl

namespace Address

theorem Dotted.dots {n : Nat} {cs : List Char} (h : Dotted n cs) : 3 ≤ cs.count '.' := by
  cases h
  simp only [List.intercalate_cons_cons, List.count_append, List.count_singleton_self]
  omega

theorem Coloned.colons {n : Nat} {cs : List Char} (h : Coloned n cs) : 2 ≤ cs.count ':' := by
  cases h with
  | @full gs ps hps hgs =>
    have hlength := hps.length_le
    match ps with
    | [] | [_] | [_, _] => simp at hlength; omega
    | p :: q :: r :: ps =>
      simp only [List.intercalate_cons_cons, List.count_append, List.count_singleton_self]
      omega
  | shortened =>
    rw [List.count_append, List.count_cons_self, List.count_cons_self]
    omega

/-- A written address begins with hexadecimal digits, dots and colons, at least two of them. -/
theorem Written.beginning {a : Address} {cs : List Char} (h : a.Written cs) :
    ∃ as rest, cs = as ++ rest ∧ 2 ≤ as.length ∧
      ∀ c, Number.hexDigit? c = none → c ≠ '.' → c ≠ ':' → c ∉ as := by
  cases h with
  | dotted hn =>
    have hlength := hn.dots.trans List.count_le_length
    refine ⟨cs, [], (List.append_nil cs).symm, by omega, fun c hc hdot _ => ?_⟩
    exact hn.not_mem (Number.isDigit_of_hexDigit? hc) hdot
  | coloned hn =>
    exact ⟨cs, [], (List.append_nil cs).symm, hn.colons.trans List.count_le_length, fun c => hn.not_mem⟩
  | zoned hn => exact ⟨_, _, rfl, hn.colons.trans List.count_le_length, fun c => hn.not_mem⟩

end Address

namespace Network

theorem Written.address {n : Network} {cs : List Char} (h : n.Written cs) :
    ∃ (a : Address) (as rest : List Char), cs = as ++ rest ∧ a.Written as := by
  cases h with
  | whole ha => exact ⟨_, cs, [], (List.append_nil cs).symm, ha⟩
  | sized ha => exact ⟨_, _, _, rfl, ha⟩

theorem Written.not_sparse {n : Network} {cs : List Char} (h : n.Written cs) : ¬ Sparse 2 cs := by
  intro hsparse
  obtain ⟨a, as, rest, rfl, ha⟩ := h.address
  have hsparse := hsparse.sublist (List.sublist_append_left as rest)
  cases ha with
  | dotted hn => exact absurd hsparse.dots (Nat.not_le_of_lt hn.dots)
  | coloned hn => exact hsparse.colonless hn.colon
  | zoned hn => exact hsparse.colonless (List.mem_append_left _ hn.colon)

/-- Quotation marks are not among the first two characters of a written range. -/
theorem Written.not_quoted {n : Network} {cs : List Char} {c d : Char} (h : n.Written (c :: d :: cs))
    (hd : d = '\'' ∨ d = '"') : False := by
  obtain ⟨a, as, rest, heq, ha⟩ := h.address
  obtain ⟨bs, rest', rfl, hlength, hnot⟩ := ha.beginning
  match bs with
  | [] | [_] => simp at hlength
  | x :: y :: bs =>
    obtain rfl : d = y := by
      simp only [List.cons_append, List.cons.injEq] at heq
      exact heq.2.1
    have hmem : d ∈ x :: d :: bs := by simp
    rcases hd with rfl | rfl
    · exact hnot _ (by decide) (by decide) (by decide) hmem
    · exact hnot _ (by decide) (by decide) (by decide) hmem

end Network

theorem Literal.text_of_range {c : Literal} {n : Network} (h : n.Written c.value.shown.toList) :
    ∃ s, c = .text s := by
  rcases c.sparse_shown with htext | ⟨data, rfl⟩ | hsparse
  · exact htext
  · have hshown : (Literal.bytes data).value.shown.toList =
        'b' :: Text.quoteFor (fun c => data.any (·.toNat == c.toNat)) ::
          (data.flatMap (Text.quotedByte (Text.quoteFor fun c => data.any (·.toNat == c.toNat))) ++
            [Text.quoteFor fun c => data.any (·.toNat == c.toNat)]) := String.toList_ofList
    rw [hshown] at h
    exact (h.not_quoted (Text.quoteFor_cases _)).elim
  · exact absurd hsparse h.not_sparse

theorem except_forM_ok {ε α : Type} {f : α → Except ε Unit} {as : List α} (h : as.forM f = .ok ()) :
    ∀ a ∈ as, f a = .ok () := by
  induction as with
  | nil => simp
  | cons a as ih =>
    obtain ⟨⟨⟩, ha, has⟩ := except_bind_ok h
    exact List.forall_mem_cons.mpr ⟨ha, ih has⟩

namespace Handler

variable {σ : Type} {h : Handler σ} {g : Guard} {extra : List String}

theorem checkRange_ok {label : String} {args : List Literal} (hargs : checkRange label args = .ok ()) :
    ∃ (c : Literal) (n : Network), args = [c] ∧ n.Written c.value.shown.toList := by
  unfold checkRange at hargs
  split at hargs
  next c =>
    dsimp only at hargs
    split at hargs
    next n hread => exact ⟨c, n, rfl, Network.written_of_read hread⟩
    next => cases hargs
  next => cases hargs

/-- The literal calls of the address predicate in a guard that was accepted for requests have one argument, which
is shown as a range. -/
theorem validate_ranges (hv : h.validate g extra true = .ok ()) :
    ∀ args ∈ g.literalArguments "hasIpAddress", checkRange g.label args = .ok () := by
  unfold validate at hv
  dsimp only at hv
  split at hv
  next => cases hv
  next =>
    split at hv
    next => cases hv
    next => exact except_forM_ok hv

theorem mem_literalArguments {f : String} {args : List Literal} {keywords : List Keyword}
    (hcall : .call (.name f) (args.map .literal) keywords ∈ g.expr.subexpressions) : args ∈ g.literalArguments f := by
  have hmem : ⟨f, args⟩ ∈ g.expr.literalCalls := Expr.mem_literalCalls.mpr ⟨keywords, hcall⟩
  exact List.mem_map.mpr ⟨_, List.mem_filter.mpr ⟨hmem, beq_self_eq_true f⟩, rfl⟩

theorem function?_hasIpAddress (k : Handler σ) (who : Option Authentication) (request : Value) (vars : Bindings) :
    (k.webContext who request vars).function? "hasIpAddress" = some (.predicate .hasIpAddress) := by
  have hfind : (Predicate.common ++ [Predicate.hasIpAddress]).find? (fun q => q.name == "hasIpAddress") =
      some .hasIpAddress := by decide +kernel
  unfold Context.function? webContext contextOver
  rw [hfind]

section Calls

variable (k : Handler σ) (who : Option Authentication) (request : Value) (vars : Bindings) (source : String)
  (bound : Bindings) {c : Literal}

theorem eval_range_brief (hc : ¬c.Overlong) {b : Bool} (hb : isFrom request c.value = .ok b) :
    Evaluation.eval (k.webContext who request vars) source bound (.call (.name "hasIpAddress") [.literal c] []) =
      pure (.bool b) := by
  have hdecide : (k.webContext who request vars).decide .hasIpAddress [c.value] [] = pure (.bool b) := by
    change (k.subject who).decide request .hasIpAddress [c.value] [] = _
    simp only [Subject.decide, Subject.oneArgument, pure_bind, hb]
  simp only [Evaluation.eval, function?_hasIpAddress, Evaluation.evalAll, Evaluation.evalKeywords, literal_brief hc,
    pure_bind, Context.call, hdecide, liftM_pure]

theorem eval_range_overlong (hc : c.Overlong) : ∃ n, maxLength < n ∧
    Evaluation.eval (k.webContext who request vars) source bound (.call (.name "hasIpAddress") [.literal c] []) =
      Evaluation.fault (.iterableTooLong (.literal n)) := by
  obtain ⟨n, hn, hfault⟩ := literal_overlong hc
  refine ⟨n, hn, ?_⟩
  simp only [Evaluation.eval, function?_hasIpAddress, Evaluation.evalAll, hfault]
  rfl

end Calls

end Handler

theorem isFrom_total {range : Value} {n : Network} (h : Network.read? range = .ok (some n)) (request : Value) :
    ∃ b, isFrom request range = .ok b := by
  unfold isFrom
  rw [h]
  dsimp only
  split <;> exact ⟨_, rfl⟩

/-- In a guard that was accepted for requests, the literal of a call of the address predicate is a range wherever
the call stands: the predicate itself answers about it for every request. So does the evaluation of the call,
whoever asks and whatever is bound around it, unless the literal is too long to be evaluated. -/
theorem literal_range_decided {σ : Type} {h : Handler σ} {g : Guard} {extra : List String}
    (hv : h.validate g extra true = .ok ()) {c : Literal}
    (hc : .call (.name "hasIpAddress") [.literal c] [] ∈ g.expr.subexpressions) (request : Value) :
    ∃ b, isFrom request c.value = .ok b ∧
      ∀ (k : Handler σ) (who : Option Authentication) (vars : Bindings) (source : String) (bound : Bindings),
        (¬c.Overlong → Evaluation.eval (k.webContext who request vars) source bound
          (.call (.name "hasIpAddress") [.literal c] []) = pure (.bool b)) ∧
        (c.Overlong → ∃ n, maxLength < n ∧ Evaluation.eval (k.webContext who request vars) source bound
          (.call (.name "hasIpAddress") [.literal c] []) = Evaluation.fault (.iterableTooLong (.literal n))) := by
  have hcall : .call (.name "hasIpAddress") ([c].map .literal) [] ∈ g.expr.subexpressions := hc
  obtain ⟨d, n, hd, hn⟩ := Handler.checkRange_ok (Handler.validate_ranges hv _ (Handler.mem_literalArguments hcall))
  obtain rfl := List.singleton_inj.mp hd
  obtain ⟨s, rfl⟩ := Literal.text_of_range hn
  obtain ⟨found, hread, hfound⟩ := Network.read?_text s
  obtain rfl := (hfound n).mpr hn
  obtain ⟨b, hb⟩ := isFrom_total hread request
  refine ⟨b, hb, fun k who vars source bound => ⟨fun hbrief => ?_, fun hlong => ?_⟩⟩
  · exact Handler.eval_range_brief k who request vars source bound hbrief hb
  · exact Handler.eval_range_overlong k who request vars source bound hlong

/-- The question whether a request comes from a range that a literal text writes. -/
def rangeGuard (range : String) : Guard where
  source := "permitAll if hasIpAddress('" ++ range ++ "') else denyAll"
  label := "rule"
  expr := .conditional (.call (.name "hasIpAddress") [.literal (.text range)] []) (.name "permitAll")
    (.name "denyAll")

theorem rangeGuard_validated {range : String} {n : Network} (hn : n.Written range.toList) :
    refusingHandler.validate (rangeGuard range) [] true = .ok () := by
  have hnames : (rangeGuard range).names = ["denyAll", "hasIpAddress", "permitAll"] := by rfl
  have hranges : (rangeGuard range).literalArguments "hasIpAddress" = [[.text range]] := by rfl
  refine Handler.validate_total rfl (fun m hm => ?_) fun _ args hargs => ?_
  · rw [hnames] at hm
    revert m
    decide
  · rw [hranges] at hargs
    obtain rfl := List.mem_singleton.mp hargs
    obtain ⟨found, hread, hfound⟩ := Network.read?_text range
    obtain rfl := (hfound n).mpr hn
    have hshown : (Literal.text range).value.shown = range := rfl
    unfold Handler.checkRange
    dsimp only
    rw [hshown, hread]

theorem range_in_guard (range : String) :
    .call (.name "hasIpAddress") [.literal (.text range)] [] ∈ (rangeGuard range).expr.subexpressions :=
  List.mem_cons_of_mem _ (List.mem_append_left _ (List.mem_append_left _ List.mem_cons_self))

theorem office_range_decided :
    ∃ n : Network, n.Written "10.0.0.0/8".toList ∧
      refusingHandler.validate (rangeGuard "10.0.0.0/8") [] true = .ok () ∧
      Evaluation.eval (refusingHandler.webContext none (requestFrom "10.1.2.3") []) "" []
        (.call (.name "hasIpAddress") [.literal (.text "10.0.0.0/8")] []) = pure (.bool true) := by
  have hn : Network.Written ⟨.v4, 0x0a000000, 8⟩ "10.0.0.0/8".toList := Network.written_of_read (by decide)
  have hv := rangeGuard_validated hn
  refine ⟨_, hn, hv, ?_⟩
  obtain ⟨b, hb, heval⟩ := literal_range_decided hv (range_in_guard "10.0.0.0/8") (requestFrom "10.1.2.3")
  have hsender : Address.Written ⟨.v4, 0x0a010203⟩ "10.1.2.3".toList := Address.read?_text.mp (by decide)
  obtain ⟨b', hb', hiff⟩ := isFrom_written (requestFrom_host "10.1.2.3") (requestFrom_remote "10.1.2.3") hn
  obtain rfl : b = true :=
    (Except.ok.inj (hb.symm.trans hb')).trans (hiff.mpr ⟨"10.1.2.3", _, rfl, hsender, rfl, by decide⟩)
  exact (heval refusingHandler none [] "" []).1 (by decide)

/-- An address in a zone whose name is just too long for the address to be evaluated. -/
def longAddress : String := "::1%" ++ Formula.repeated maxLength

theorem longAddress_written : Network.Written ⟨.v6, 1, 128⟩ longAddress.toList := by
  have hone : Address.Coloned 1 "::1".toList := Address.coloned?_eq_some_iff.mp (by decide)
  have hzone {c : Char} (hc : c ≠ 'a') : c ∉ List.replicate maxLength 'a' := by
    intro hmem
    exact hc (List.eq_of_mem_replicate hmem)
  have hne : List.replicate maxLength 'a' ≠ [] := by
    intro hnil
    have hlength := congrArg List.length hnil
    rw [List.length_replicate] at hlength
    cases hlength
  have htext : longAddress.toList = "::1".toList ++ '%' :: List.replicate maxLength 'a' := by
    have hhead : "::1%".toList = "::1".toList ++ ['%'] := by decide
    have htail : (Formula.repeated maxLength).toList = List.replicate maxLength 'a' := String.toList_ofList
    rw [longAddress, String.toList_append, hhead, htail, List.append_assoc, List.singleton_append]
  rw [htext]
  exact .whole (.zoned hone hne (hzone (by decide)) (hzone (by decide)))

/-- An accepted guard can ask about a literal range whose question is not answered. -/
theorem long_address_unanswered :
    refusingHandler.validate (rangeGuard longAddress) [] true = .ok () ∧
      .call (.name "hasIpAddress") [.literal (.text longAddress)] [] ∈ (rangeGuard longAddress).expr.subexpressions ∧
      ¬∃ v, Evaluation.eval (refusingHandler.webContext none .null []) (rangeGuard longAddress).source []
        (.call (.name "hasIpAddress") [.literal (.text longAddress)] []) = pure v := by
  have hlong : (Literal.text longAddress).Overlong := by
    change maxLength < longAddress.length
    rw [longAddress, String.length_append, Formula.length_repeated]
    exact Nat.lt_add_of_pos_left (by decide)
  refine ⟨rangeGuard_validated longAddress_written, range_in_guard longAddress, ?_⟩
  rintro ⟨v, hv⟩
  obtain ⟨n, _, hfault⟩ := Handler.eval_range_overlong refusingHandler none .null []
    (rangeGuard longAddress).source [] hlong
  rw [hfault] at hv
  have houtcome := congrArg (fun x => (Evaluation.outcome x 0 ()).1) hv
  cases houtcome

end AccessPolicy
