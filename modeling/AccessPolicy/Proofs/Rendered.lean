import AccessPolicy.Proofs.Fitting

/-!
Templates as texts with holes. Values for the variables turn the text of a template into a path. A path that
matches the pattern of a template is such a text, but for a line break that may follow it; and where variables
are whole segments, the path of any values matches and gives the values back.
-/

namespace AccessPolicy

namespace PathTemplate

/-- The text of a template, and the path that it stands for once every variable has a value. A brace stands for
itself unless a name and a closing brace follow it. -/
inductive Renders (value : String → String) : List Char → List Char → Prop
  | done : Renders value [] []
  | char {c : Char} {text path : List Char} :
      (∀ raw rest, raw ≠ [] → (∀ d ∈ raw, endsName d = false) → c :: text ≠ '\x7b' :: (raw ++ '\x7d' :: rest)) →
      Renders value text path → Renders value (c :: text) (c :: path)
  | variable {raw text path : List Char} :
      raw ≠ [] → (∀ d ∈ raw, endsName d = false) → Renders value text path →
      Renders value ('\x7b' :: (raw ++ '\x7d' :: text)) ((value (Text.strip (String.ofList raw))).toList ++ path)

/-- The values of a template's variables, in their order. -/
def assigned (value : String → String) (t : PathTemplate) : List (String × String) :=
  t.variableNames.map fun n => (n, value n)

theorem takeVariable?_eq_some_iff {cs rest : List Char} {n : String} :
    takeVariable? cs = some (n, rest) ↔ ∃ raw, raw ≠ [] ∧ (∀ d ∈ raw, endsName d = false) ∧
      cs = '\x7b' :: (raw ++ '\x7d' :: rest) ∧ n = Text.strip (String.ofList raw) := by
  constructor
  · intro h
    unfold takeVariable? at h
    split at h
    next cs =>
      split at h
      next => cases h
      next _ _ hdrop hname =>
        simp only [Option.some.injEq, Prod.mk.injEq] at h
        obtain ⟨rfl, rfl⟩ := h
        refine ⟨_, hname, ?_, ?_, rfl⟩
        · intro d hd
          exact (Bool.not_eq_true' _).mp (List.all_eq_true.mp List.all_takeWhile d hd)
        · rw [← hdrop, List.takeWhile_append_dropWhile]
      next => cases h
    next => cases h
  · rintro ⟨raw, hnonempty, hname, rfl, rfl⟩
    have hall : ∀ d ∈ raw, (!endsName d) = true := fun d hd => by rw [hname d hd]; rfl
    have htake : (raw ++ '\x7d' :: rest).takeWhile (fun c => !endsName c) = raw := Text.takeWhile_cut hall rfl
    have hdrop : (raw ++ '\x7d' :: rest).dropWhile (fun c => !endsName c) = '\x7d' :: rest :=
      Text.dropWhile_cut hall rfl
    cases raw with
    | nil => exact absurd rfl hnonempty
    | cons c raw => simp only [takeVariable?, htake, hdrop]

/-- Read part by part, the text of a template stands for the path that its parts are filled to. -/
theorem renders_go (value : String → String) {fuel : Nat} {cs : List Char} (hfuel : cs.length ≤ fuel) :
    Renders value cs (fill (parts.go fuel cs) (assigned value (parts.go fuel cs))) := by
  induction fuel generalizing cs with
  | zero =>
    rw [List.length_eq_zero_iff.mp (Nat.le_zero.mp hfuel)]
    exact .done
  | succ fuel ih =>
    cases cs with
    | nil => exact .done
    | cons c cs =>
      rw [parts.go]
      cases hv : takeVariable? (c :: cs) with
      | some found =>
        obtain ⟨n, rest⟩ := found
        obtain ⟨raw, hnonempty, hname, hcs, rfl⟩ := takeVariable?_eq_some_iff.mp hv
        have hlength := congrArg List.length hcs
        simp only [List.length_cons, List.length_append] at hlength hfuel
        rw [hcs]
        exact .variable hnonempty hname (ih (by omega))
      | none =>
        refine .char ?_ (ih (Nat.le_of_succ_le_succ hfuel))
        intro raw rest hnonempty hname hcs
        rw [takeVariable?_eq_some_iff.mpr ⟨raw, hnonempty, hname, hcs, rfl⟩] at hv
        cases hv

theorem renders_parts (value : String → String) (s : String) :
    Renders value s.toList (fill (parts s) (assigned value (parts s))) :=
  renders_go value (Nat.le_of_eq String.length_toList)

theorem Renders.unique {value : String → String} {cs ds es : List Char} (hd : Renders value cs ds)
    (he : Renders value cs es) : ds = es := by
  induction hd generalizing es with
  | done =>
    cases he
    rfl
  | char hplain _ ih =>
    generalize hcs : _ :: _ = whole at he hplain
    cases he with
    | done => cases hcs
    | char _ he =>
      cases hcs
      exact congrArg _ (ih he)
    | «variable» hnonempty hname => exact absurd rfl (hplain _ _ hnonempty hname)
  | «variable» hnonempty hname _ ih =>
    generalize hcs : _ :: _ = whole at he
    cases he with
    | done => cases hcs
    | char hplain => exact absurd hcs.symm (hplain _ _ hnonempty hname)
    | «variable» hnonempty' hname' he =>
      have hfound := takeVariable?_eq_some_iff.mpr ⟨_, hnonempty, hname, hcs.symm, rfl⟩
      rw [takeVariable?_eq_some_iff.mpr ⟨_, hnonempty', hname', rfl, rfl⟩] at hfound
      simp only [Option.some.injEq, Prod.mk.injEq] at hfound
      obtain ⟨hname, rfl⟩ := hfound
      rw [hname, ih he]

/-! ### Paths that match -/

/-- The value that a list of values has for a name. -/
def valueIn (vs : List (String × String)) (n : String) : String := (vs.lookup n).getD ""

theorem assigned_valueIn {t : PathTemplate} {vs : List (String × String)} (hnames : vs.map Prod.fst = t.variableNames)
    (hnodup : t.variableNames.Nodup) : assigned (valueIn vs) t = vs := by
  unfold assigned
  rw [← hnames, List.map_map]
  rw [← hnames] at hnodup
  refine (List.map_congr_left fun v hv => ?_).trans (List.map_id vs)
  obtain ⟨n, value⟩ := v
  simp [valueIn, lookup_of_mem_nodup hnodup hv]

theorem Fits.values {t : PathTemplate} {cs : List Char} {vs : List (String × String)} (h : Fits t cs vs) :
    ∀ v ∈ vs, v.2 ≠ "" ∧ '/' ∉ v.2.toList := by
  induction h with
  | done => exact List.forall_mem_nil _
  | char _ ih => exact ih
  | «variable» hsegment hslash _ ih =>
    refine List.forall_mem_cons.mpr ⟨⟨?_, ?_⟩, ih⟩
    · simpa [← String.toList_inj] using hsegment
    · simpa using hslash

/-- A path that matches the pattern of a template is the template's text with the captured values for its
variables, none of them empty or with a slash in it; but for a line break that may follow such a path if the
template does not end with a variable. -/
theorem matched_path_rendered {s : String} {t : PathTemplate} (ht : read s = .ok t) {path : String}
    {vs : List (String × String)} (hm : Text.Regex.match? t.pattern path = some vs) :
    vs.map Prod.fst = t.variableNames ∧ (∀ v ∈ vs, v.2 ≠ "" ∧ '/' ∉ v.2.toList) ∧
      (path.toList.getLast? ≠ some '\n' ∨ EndsInVariable t → Renders (valueIn vs) s.toList path.toList) ∧
      (¬Renders (valueIn vs) s.toList path.toList →
        ∃ before, path.toList = before ++ ['\n'] ∧ Renders (valueIn vs) s.toList before) := by
  obtain ⟨rfl, hidentifiers, hnodup⟩ := read_ok ht
  rw [match?_pattern hidentifiers hnodup] at hm
  have hnames := fit?_names hm
  have hrenders : ∀ {cs}, Fits (parts s) cs vs → Renders (valueIn vs) s.toList cs := by
    intro cs hfits
    have hfill := renders_parts (valueIn vs) s
    rwa [assigned_valueIn hnames hnodup, ← hfits.eq_fill] at hfill
  rcases fits_or_break hm with hfits | ⟨hlast, before, hpath, hfits⟩
  · exact ⟨hnames, hfits.values, fun _ => hrenders hfits, fun hnot => absurd (hrenders hfits) hnot⟩
  · refine ⟨hnames, hfits.values, ?_, fun _ => ⟨before, hpath, hrenders hfits⟩⟩
    rintro (hend | hend)
    · exact absurd (by rw [hpath, List.getLast?_concat]) hend
    · exact absurd hend hlast

/-- Two variables in one segment, of which the name of one is padded. -/
def fileTemplate : String := "/\x7b name \x7d.v\x7bversion\x7d/raw"

theorem matched_path_rendered_file :
    read fileTemplate = .ok (parts fileTemplate) ∧
      Text.Regex.match? (pattern (parts fileTemplate)) "/a.v1.v2/raw" = some [("name", "a.v1"), ("version", "2")] ∧
      Renders (valueIn [("name", "a.v1"), ("version", "2")]) fileTemplate.toList "/a.v1.v2/raw".toList := by
  have ht : read fileTemplate = .ok (parts fileTemplate) := by rfl
  have hm : Text.Regex.match? (pattern (parts fileTemplate)) "/a.v1.v2/raw" =
      some [("name", "a.v1"), ("version", "2")] := by
    decide +kernel
  exact ⟨ht, hm, (matched_path_rendered ht hm).2.2.1 (.inl (by decide))⟩

/-- A line break behind a path is matched, and it is in no value. -/
theorem break_not_rendered :
    read fileTemplate = .ok (parts fileTemplate) ∧
      Text.Regex.match? (pattern (parts fileTemplate)) "/a.v1/raw\n" = some [("name", "a"), ("version", "1")] ∧
      ¬Renders (valueIn [("name", "a"), ("version", "1")]) fileTemplate.toList "/a.v1/raw\n".toList := by
  refine ⟨by rfl, by decide +kernel, fun h => ?_⟩
  have hpath := h.unique (renders_parts _ fileTemplate)
  revert hpath
  decide +kernel

/-! ### Variables that are whole segments -/

/-- Whether every variable of a template fills a segment: one between slashes that holds a variable holds
nothing else. -/
def InWholeSegments (t : PathTemplate) : Prop :=
  ∀ segment ∈ t.splitOn (.char '/'), variableNames segment = [] ∨ segment.length = 1

instance (t : PathTemplate) : Decidable (InWholeSegments t) :=
  inferInstanceAs (Decidable (∀ segment ∈ t.splitOn (.char '/'), variableNames segment = [] ∨ segment.length = 1))

theorem splitOn_slash (t : PathTemplate) :
    (PathPart.char '/' :: t).splitOn (.char '/') = [] :: t.splitOn (.char '/') := by
  simp [List.splitOn, List.splitOnP_cons_eq_if_modifyHead]

/-- What is no slash goes into the first segment of the rest. -/
theorem splitOn_cons {part : PathPart} (hpart : part ≠ .char '/') (t : PathTemplate) :
    ∃ segment segments, t.splitOn (.char '/') = segment :: segments ∧
      (part :: t).splitOn (.char '/') = (part :: segment) :: segments := by
  obtain ⟨segment, segments, ht⟩ := List.exists_cons_of_ne_nil (List.splitOnP_ne_nil (· == PathPart.char '/') t)
  refine ⟨segment, segments, ht, ?_⟩
  rw [List.splitOn, List.splitOnP_cons_eq_if_modifyHead, if_neg (by simpa using hpart), ht]
  rfl

theorem InWholeSegments.tail {part : PathPart} {t : PathTemplate} (h : InWholeSegments (part :: t)) :
    InWholeSegments t := by
  by_cases hpart : part = .char '/'
  · rw [InWholeSegments, hpart, splitOn_slash] at h
    exact (List.forall_mem_cons.mp h).2
  · obtain ⟨segment, segments, ht, hcons⟩ := splitOn_cons hpart t
    rw [InWholeSegments, hcons] at h
    obtain ⟨hfirst, hrest⟩ := List.forall_mem_cons.mp h
    rw [InWholeSegments, ht]
    refine List.forall_mem_cons.mpr ⟨.inl ?_, hrest⟩
    rcases hfirst with hplain | hlength
    · cases part with
      | char c => exact hplain
      | «variable» m => cases hplain
    · rw [List.length_eq_zero_iff.mp (Nat.succ.inj hlength)]
      rfl

/-- A variable that fills a segment is followed by a slash or by nothing. -/
theorem InWholeSegments.after_variable {n : String} {t : PathTemplate} (h : InWholeSegments (.variable n :: t)) :
    t = [] ∨ ∃ u, t = .char '/' :: u := by
  obtain ⟨segment, segments, ht, hcons⟩ := splitOn_cons (show PathPart.variable n ≠ .char '/' by simp) t
  rw [InWholeSegments, hcons] at h
  obtain rfl : segment = [] := by
    rcases (List.forall_mem_cons.mp h).1 with hplain | hlength
    · cases hplain
    · exact List.length_eq_zero_iff.mp (Nat.succ.inj hlength)
  cases t with
  | nil => exact .inl rfl
  | cons q u =>
    by_cases hq : q = .char '/'
    · exact .inr ⟨u, by rw [hq]⟩
    · obtain ⟨first, more, _, hmore⟩ := splitOn_cons hq u
      rw [hmore] at ht
      cases ht

/-- The path that values give a template whose variables are whole segments is found to have these values. -/
theorem fit?_fill {value : String → String} {t : PathTemplate} (ht : InWholeSegments t)
    (hvalues : ∀ n ∈ t.variableNames, value n ≠ "" ∧ '/' ∉ (value n).toList) :
    fit? t (fill t (assigned value t)) = some (assigned value t) := by
  induction t with
  | nil => rfl
  | cons part t ih =>
    cases part with
    | char c =>
      change fit? (.char c :: t) (c :: fill t (assigned value t)) = _
      rw [fit?, beq_self_eq_true, if_pos rfl]
      exact ih ht.tail hvalues
    | «variable» n =>
      obtain ⟨⟨hvalue, hslash⟩, hrest⟩ := List.forall_mem_cons.mp hvalues
      change fit? (.variable n :: t) ((value n).toList ++ fill t (assigned value t)) =
        some ((n, value n) :: assigned value t)
      have hsegment : ((value n).toList ++ fill t (assigned value t)).takeWhile (· != '/') = (value n).toList := by
        rw [takeWhile_segment hslash]
        rcases ht.after_variable with rfl | ⟨u, rfl⟩
        · exact List.append_nil _
        · exact List.append_nil _
      obtain ⟨k, hk⟩ : ∃ k, (value n).toList.length = k + 1 := by
        refine Nat.exists_eq_succ_of_ne_zero fun hzero => hvalue ?_
        rwa [List.length_eq_zero_iff, String.toList_eq_nil_iff] at hzero
      have hdrop : ((value n).toList ++ fill t (assigned value t)).drop (k + 1) = fill t (assigned value t) := by
        rw [← hk, List.drop_left]
      have htake : (value n).toList.take (k + 1) = (value n).toList := by
        rw [← hk, List.take_length]
      -- the longest text for the variable is the whole segment, and the rest fits behind it
      rw [fit?, hsegment, hk, List.range_succ, List.reverse_append, List.reverse_singleton, List.singleton_append,
        List.findSome?_cons, hdrop, ih ht.tail hrest, htake]
      simp

/-- Where variables are whole segments, values that are neither empty nor hold a slash give a path that matches
the pattern of the template, and the captured values are these. -/
theorem rendered_path_matched {s : String} {t : PathTemplate} (ht : read s = .ok t) (hwhole : InWholeSegments t)
    {value : String → String} (hvalues : ∀ n ∈ t.variableNames, value n ≠ "" ∧ '/' ∉ (value n).toList) :
    (∃ path : String, Renders value s.toList path.toList) ∧
      ∀ path : String, Renders value s.toList path.toList →
        Text.Regex.match? t.pattern path = some (t.variableNames.map fun n => (n, value n)) := by
  obtain ⟨rfl, hidentifiers, hnodup⟩ := read_ok ht
  have hfill := renders_parts value s
  constructor
  · exact ⟨String.ofList (fill (parts s) (assigned value (parts s))), by rwa [String.toList_ofList]⟩
  · intro path hpath
    rw [match?_pattern hidentifiers hnodup, hpath.unique hfill]
    exact fit?_fill hwhole hvalues

/-- Two variables, and values for them with a dot, a brace and a line break. -/
def documentTemplate : String := "/users/\x7busername\x7d/documents/\x7bid\x7d"

def documentValues (name : String) : String := if name = "id" then "7\n" else "a.b\x7bid\x7d"

theorem rendered_path_matched_document :
    read documentTemplate = .ok (parts documentTemplate) ∧ InWholeSegments (parts documentTemplate) ∧
      (∀ n ∈ variableNames (parts documentTemplate), documentValues n ≠ "" ∧ '/' ∉ (documentValues n).toList) ∧
      Text.Regex.match? (pattern (parts documentTemplate)) "/users/a.b\x7bid\x7d/documents/7\n" =
        some [("username", "a.b\x7bid\x7d"), ("id", "7\n")] := by
  have ht : read documentTemplate = .ok (parts documentTemplate) := by rfl
  have hwhole : InWholeSegments (parts documentTemplate) := by decide +kernel
  have hvalues : ∀ n ∈ variableNames (parts documentTemplate),
      documentValues n ≠ "" ∧ '/' ∉ (documentValues n).toList := by
    decide +kernel
  refine ⟨ht, hwhole, hvalues, ?_⟩
  have hpath : fill (parts documentTemplate) (assigned documentValues (parts documentTemplate)) =
      "/users/a.b\x7bid\x7d/documents/7\n".toList := by
    decide +kernel
  rw [(rendered_path_matched ht hwhole hvalues).2 _ (hpath ▸ renders_parts documentValues documentTemplate)]
  decide +kernel

end PathTemplate

end AccessPolicy
