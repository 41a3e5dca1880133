import ImageGate.Proofs.Constraint.Acceptance

/-!
# Bare versions

A full version without an operator asks for that version: what is admitted has its three numbers and
its pre-release (`Constraint.parse_bare`). But whether a version is taken for a full one is decided by
looking for a wildcard among all pieces between its dots, those of the pre-release and of the build
metadata included. A version with such an identifier is left without an equals sign, and so it is
read as a caret and admits what comes after it, up to the next change of the leftmost number that is
not zero (`IsCaretOf`).
-/

namespace ImageGate

open Text Version Comparator Constraint

variable {v w : Version} {k : Comparison}

/-! ## What the comparators of a full version admit -/

/-- At least the version, and with the same leftmost number that is not zero. A pre-release is
admitted only if it is one of the version itself. -/
structure Version.IsCaretOf (v w : Version) : Prop where
  leading : throughNonzero v.parts <+: w.parts
  not_below : Differ (· > ·) w.parts v.parts ∨
    (w.parts = v.parts ∧ (comparePre w.pre v.pre).isGE = true)
  pre : w.pre = [] ∨ (v.pre ≠ [] ∧ w.parts = v.parts)

theorem Comparator.agrees_ofVersion_iff :
    (ofVersion k v).agrees w = true ↔ w.parts = v.parts ∧ w.pre = v.pre := by
  simp [agrees, ofVersion, Version.parts, and_assoc]

theorem Comparator.holdsCaret_ofVersion_iff : (ofVersion k v).holdsCaret w = true ↔
    throughNonzero v.parts <+: w.parts ∧ (Differ (· > ·) w.parts v.parts ∨
      (w.parts = v.parts ∧ (comparePre w.pre v.pre).isGE = true)) := by
  simp only [holdsCaret, ofVersion, Version.parts, throughNonzero]
  generalize (comparePre w.pre v.pre).isGE = pre
  by_cases hmajor : v.major = 0 <;> by_cases hminor : v.minor = 0 <;>
    by_cases hsame : w.minor = v.minor <;> by_cases hpatch : w.patch = v.patch <;>
      cases pre <;> simp [hmajor, hminor, hsame, hpatch, Nat.pos_iff_ne_zero] <;> omega

theorem Comparator.namesPreOf_ofVersion_iff :
    (ofVersion k v).namesPreOf w = true ↔ w.parts = v.parts ∧ v.pre ≠ [] := by
  rw [eq_comm (a := w.parts)]
  simp [namesPreOf, ofVersion, Version.parts, and_assoc]

/-- A constraint of a single comparator. -/
def Constraint.ofComparator (c : Comparator) : Constraint :=
  ⟨[⟨⟨[c]⟩, []⟩]⟩

theorem Constraint.admits_ofComparator_iff {c : Comparator} :
    (ofComparator c).admits w = true ↔
      c.holds w = true ∧ (w.pre = [] ∨ c.namesPreOf w = true) := by
  simp [ofComparator, Constraint.admits, Alternative.admits, Requirement.admits]

theorem Constraint.admits_exact_iff :
    (ofComparator (ofVersion .exact v)).admits w = true ↔ w.parts = v.parts ∧ w.pre = v.pre := by
  have hholds : (ofVersion .exact v).holds w = (ofVersion .exact v).agrees w := rfl
  rw [admits_ofComparator_iff, hholds, agrees_ofVersion_iff, namesPreOf_ofVersion_iff]
  constructor
  · exact And.left
  · rintro ⟨hparts, hpre⟩
    refine ⟨⟨hparts, hpre⟩, ?_⟩
    by_cases hnil : w.pre = []
    · exact .inl hnil
    · exact .inr ⟨hparts, hpre ▸ hnil⟩

theorem Constraint.admits_caret_iff :
    (ofComparator (ofVersion .caret v)).admits w = true ↔ v.IsCaretOf w := by
  have hholds : (ofVersion .caret v).holds w = (ofVersion .caret v).holdsCaret w := rfl
  rw [admits_ofComparator_iff, hholds, holdsCaret_ofVersion_iff, namesPreOf_ofVersion_iff]
  constructor
  · rintro ⟨⟨hleading, hbelow⟩, hpre⟩
    exact ⟨hleading, hbelow, hpre.imp_right And.symm⟩
  · rintro ⟨hleading, hbelow, hpre⟩
    exact ⟨⟨hleading, hbelow⟩, hpre.imp_right And.symm⟩

/-! ## How a bare version is read -/

theorem Comparator.reads_full (hv : v.IsValid) : Reads v.text (ofVersion .caret v) :=
  reads_plain (IsVersion.full hv).exists_cons fun _ _ hrest hop => read_full hv hrest hop

theorem Comparator.reads_sign_full (k : Comparison) (hv : v.IsValid) :
    Reads (k.sign ++ v.text) (ofVersion k v) :=
  reads_signed (IsVersion.full hv).exists_cons fun _ _ hrest hop => read_full hv hrest hop

namespace Constraint

/-- The comparator that a bare version is read as. -/
def bare (v : Version) : Comparator :=
  if hasWildcard v.text then ofVersion .caret v else ofVersion .exact v

theorem reads_rewritten (hv : v.IsValid) : Reads (rewritten [] v.text) (bare v) := by
  rw [rewritten, bare]
  split
  · exact reads_full hv
  · exact reads_sign_full .exact hv

theorem readAlternative_bare {cs : List Char} (hv : v.IsValid) (hcs : IsVersionWord cs)
    (hdrop : dropV cs = v.text) : readAlternative cs = .ok ⟨⟨[bare v]⟩, []⟩ := by
  have htokens : tokens cs = [cs] := by
    obtain ⟨d, hmem, -⟩ := hcs.exists_isDigit
    have hword : tokens (cs ++ []) = cs :: tokens [] :=
      tokens_word hcs.not_separator (List.ne_nil_of_mem hmem) nofun
    rwa [List.append_nil] at hword
  have hitem : itemOf cs = .ok (.required [rewritten [] v.text]) := by
    rw [itemOf_plain hcs.head?_not_operatorChar, hdrop]
  have hsource : Source [cs] (.required [rewritten [] v.text]) := .comparator hcs.glued hitem
  have hitems : readItems [cs] = .ok [.required [rewritten [] v.text]] :=
    readItems_flatten (.cons hsource .nil) (by simpa using hcs.ne_dash)
  have hrequired := Requirement.ofTexts_singleton (reads_rewritten hv)
  unfold readAlternative
  rw [htokens, hitems]
  simp only [List.isEmpty_cons, Bool.false_eq_true, if_false, bind, Except.bind]
  rw [show requiredTexts [Item.required [rewritten [] v.text]] = [rewritten [] v.text] from rfl,
    hrequired]
  rfl

theorem ofChars_bare {cs : List Char} (hv : v.IsValid) (hcs : cs = v.text ∨ cs = 'v' :: v.text) :
    ofChars cs = .ok (ofComparator (bare v)) := by
  have hversion : IsVersion v.text := .full hv
  have hword : IsVersionWord cs := by
    rcases hcs with rfl | rfl
    · exact .plain hversion
    · exact .prefixed hversion
  have hdrop : dropV cs = v.text := by
    rcases hcs with rfl | rfl
    · exact hversion.dropV_eq
    · rfl
  rw [ofChars, piecesAt_of_not_mem '|' hword.bar_not_mem, List.mapM_cons,
    readAlternative_bare hv hword hdrop]
  rfl

theorem hasWildcard_text_iff (hv : v.IsValid) :
    hasWildcard v.text = true ↔ HasWildcardPart v.render.toList := by
  rw [toList_render]
  exact hasWildcard_iff (IsComparator.plain (.full hv)).head?_not_wildcard

/-! ## Main statement -/

/-- **A bare version is an exact match**, unless an identifier of it, but for the first one behind
the numbers, is spelled like a wildcard. Then it is a caret. -/
theorem parse_bare {s : String} (hv : v.IsValid) (hs : s = v.render ∨ s = "v" ++ v.render) :
    ∃ c, parse s = .ok c ∧
      (¬ HasWildcardPart v.render.toList →
        ∀ w : Version, c.admits w = true ↔ w.parts = v.parts ∧ w.pre = v.pre) ∧
      (HasWildcardPart v.render.toList →
        ∀ w : Version, c.admits w = true ↔ v.IsCaretOf w) := by
  have hcs : s.toList = v.text ∨ s.toList = 'v' :: v.text := by
    rcases hs with rfl | rfl
    · exact .inl (toList_render v)
    · rw [String.toList_append, toList_render v]
      exact .inr rfl
  refine ⟨_, ofChars_bare hv hcs, fun hnot w => ?_, fun hwild w => ?_⟩
  · rw [← hasWildcard_text_iff hv] at hnot
    rw [bare, if_neg hnot, admits_exact_iff]
  · rw [← hasWildcard_text_iff hv] at hwild
    rw [bare, if_pos hwild, admits_caret_iff]

/-- The build metadata of the version that is admitted does not matter. -/
theorem parse_bare_of_prerelease : ∃ c, parse "v1.2.3-rc.1" = .ok c ∧
    c.admits ⟨1, 2, 3, [['r', 'c'], ['1']], [['b']]⟩ = true ∧
    c.admits ⟨1, 2, 3, [], []⟩ = false := by
  let v : Version := ⟨1, 2, 3, [['r', 'c'], ['1']], []⟩
  have hv : v.IsValid := by decide
  have hnot : ¬ HasWildcardPart v.render.toList := by
    rw [← hasWildcard_text_iff hv]
    decide
  obtain ⟨c, hparse, hexact, -⟩ := parse_bare hv (s := "v1.2.3-rc.1") (.inr (by decide))
  refine ⟨c, hparse, (hexact hnot _).2 (by decide), ?_⟩
  rw [← Bool.not_eq_true, hexact hnot]
  decide

/-- With an identifier that is spelled like a wildcard, other versions are admitted too. -/
theorem admits_of_wildcard_identifier :
    ∃ c, parse "1.2.3-a.x" = .ok c ∧ c.admits ⟨1, 9, 0, [], []⟩ = true := by
  let v : Version := ⟨1, 2, 3, [['a'], ['x']], []⟩
  have hv : v.IsValid := by decide
  exact ⟨_, ofChars_bare hv (.inl (by decide)), by decide⟩

end Constraint

end ImageGate
