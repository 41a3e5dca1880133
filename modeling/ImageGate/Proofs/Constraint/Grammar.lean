import ImageGate.Constraint.Parser
import ImageGate.Proofs.Constraint.Meaning
import ImageGate.Proofs.Text.Digits

/-!
# How constraints are written

The texts of alternatives of conditions, rule by rule. A condition can be written in many ways:
operators have several spellings, wildcards may stand for the parts that a version leaves absent, a
version may carry a `v`, and there is room for white space and commas. None of this changes what it
says, so a text is related to its conditions and not computed from them.

What the rules have in common is told by characters: those of versions, those of operators and those
of gaps are kept apart, and a bar is none of them.
-/

namespace ImageGate

open Text

/-! ## Versions -/

namespace PartialVersion

/-- The parts behind the first one, each with its dot, and wildcards for absent parts. -/
def behind (p : PartialVersion) (wildcards : List Char) : List Char :=
  p.more.flatMap (fun n => '.' :: Nat.toDigits 10 n) ++ wildcards.flatMap (fun w => ['.', w])

/-- The numbers of a partial version with dots between them, and wildcards for absent parts. -/
def text (p : PartialVersion) (wildcards : List Char) : List Char :=
  Nat.toDigits 10 p.major ++ p.behind wildcards

/-- Wildcards stand for parts that are absent. -/
structure AllowsWildcards (p : PartialVersion) (wildcards : List Char) : Prop where
  wildcard : ∀ w ∈ wildcards, w ∈ ['*', 'x', 'X']
  length_le : p.more.length + wildcards.length ≤ 2

/-- A partial version as it is written. -/
inductive Written (p : PartialVersion) : List Char → Prop
  | plain {wildcards : List Char} : p.AllowsWildcards wildcards → Written p (p.text wildcards)
  | prefixed {wildcards : List Char} : p.AllowsWildcards wildcards →
      Written p ('v' :: p.text wildcards)

end PartialVersion

/-! ## Conditions -/

/-- The operators of a comparison; without one, a version is agreed with. -/
def Comparison.spellings : Comparison → List (List Char)
  | .exact => [[], ['='], ['=', '=']]
  | .greater => [['>']]
  | .greaterEq => [['>', '='], ['=', '>']]
  | .less => [['<']]
  | .lessEq => [['<', '='], ['=', '<']]
  | .tilde => [['~']]
  | .caret => [['^']]

def IsSpace (gap : List Char) : Prop :=
  ∀ c ∈ gap, isBlank c = true

def IsGap (gap : List Char) : Prop :=
  ∀ c ∈ gap, c = ',' ∨ isBlank c = true

instance : DecidablePred IsSpace :=
  fun gap => List.decidableBAll _ gap

instance : DecidablePred IsGap :=
  fun gap => List.decidableBAll _ gap

namespace Condition

/-- A condition is written with this operator in front of this version. -/
inductive HasOperator : Condition → List Char → List Char → Prop
  | require {k : Comparison} {p : PartialVersion} {operator version : List Char} :
      operator ∈ k.spellings → p.Written version → HasOperator (.require k p) operator version
  | exclude {p : PartialVersion} {version : List Char} : p.Written version →
      HasOperator (.exclude p) ['!', '='] version

/-- A condition as it is written. -/
inductive Written : Condition → List Char → Prop
  | operator {c : Condition} {operator gap version : List Char} :
      c.HasOperator operator version → IsSpace gap → Written c (operator ++ (gap ++ version))
  | range {lower upper : PartialVersion} {a b gap gap' : List Char} : lower.Written a →
      upper.Written b → IsSpace gap → gap ≠ [] → IsSpace gap' → gap' ≠ [] →
      Written (.range lower upper) (a ++ (gap ++ '-' :: (gap' ++ b)))

/-- Conditions with gaps between them and behind the last one. -/
inductive Listed : List Condition → List Char → Prop
  | one {c : Condition} {w gap : List Char} : c.Written w → IsGap gap → Listed [c] (w ++ gap)
  | more {c : Condition} {cs : List Condition} {w gap rest : List Char} : c.Written w →
      IsGap gap → gap ≠ [] → Listed cs rest → Listed (c :: cs) (w ++ (gap ++ rest))

/-- The conditions of an alternative as they are written, with or without a gap in front. -/
inductive Spaced : List Condition → List Char → Prop
  | gap {conditions : List Condition} {gap w : List Char} : IsGap gap → Listed conditions w →
      Spaced conditions (gap ++ w)

end Condition

/-- Alternatives with two bars between them. -/
inductive Constraint.Written : List (List Condition) → List Char → Prop
  | one {conditions : List Condition} {w : List Char} : Condition.Spaced conditions w →
      Written [conditions] w
  | more {conditions : List Condition} {alternatives : List (List Condition)}
      {w rest : List Char} : Condition.Spaced conditions w → Written alternatives rest →
      Written (conditions :: alternatives) (w ++ '|' :: '|' :: rest)

/-! ## Characters -/

/-- The characters of versions. -/
def IsVersionChar (c : Char) : Prop :=
  c.isDigit = true ∨ c ∈ ['.', '*', 'x', 'X', 'v']

/-- What separates tokens. -/
def isSeparator (c : Char) : Bool :=
  c == ',' || isBlank c

theorem isSeparator_iff {c : Char} : isSeparator c = true ↔ c = ',' ∨ isBlank c = true := by
  simp [isSeparator]

section Classes

variable {c : Char}

theorem IsVersionChar.not_separator (h : IsVersionChar c) : isSeparator c = false := by
  rcases h with h | h
  · have hne : c ≠ ',' := by
      rintro rfl
      exact absurd h (by decide)
    simp [isSeparator, hne, isBlank_of_isDigit h]
  · simp only [List.mem_cons, List.not_mem_nil, or_false] at h
    rcases h with rfl | rfl | rfl | rfl | rfl <;> decide

theorem IsVersionChar.not_operatorChar (h : IsVersionChar c) :
    Constraint.isOperatorChar c = false := by
  rcases h with h | h
  · refine Bool.eq_false_iff.2 fun hop => ?_
    simp only [Constraint.isOperatorChar, Bool.or_eq_true, beq_iff_eq] at hop
    rcases hop with ((((rfl | rfl) | rfl) | rfl) | rfl) | rfl <;> exact absurd h (by decide)
  · simp only [List.mem_cons, List.not_mem_nil, or_false] at h
    rcases h with rfl | rfl | rfl | rfl | rfl <;> decide

theorem not_separator_of_isOperatorChar (h : Constraint.isOperatorChar c = true) :
    isSeparator c = false := by
  simp only [Constraint.isOperatorChar, Bool.or_eq_true, beq_iff_eq] at h
  rcases h with ((((rfl | rfl) | rfl) | rfl) | rfl) | rfl <;> decide

end Classes

namespace PartialVersion

variable {p : PartialVersion} {wildcards version : List Char}

theorem isVersionChar_of_mem_text (h : p.AllowsWildcards wildcards) :
    ∀ c ∈ p.text wildcards, IsVersionChar c := by
  intro c hc
  simp only [text, behind, List.mem_append, List.mem_flatMap, List.mem_cons,
    List.not_mem_nil, or_false] at hc
  rcases hc with hc | ⟨n, -, rfl | hc⟩ | ⟨w, hw, rfl | rfl⟩
  · exact .inl (isDigit_of_mem_toDigits hc)
  · exact .inr (by decide)
  · exact .inl (isDigit_of_mem_toDigits hc)
  · exact .inr (by decide)
  · exact .inr (List.mem_cons_of_mem _ (List.mem_append_left ['v'] (h.wildcard _ hw)))

theorem Written.isVersionChar (h : p.Written version) : ∀ c ∈ version, IsVersionChar c := by
  cases h with
  | plain h => exact isVersionChar_of_mem_text h
  | prefixed h =>
    rw [List.forall_mem_cons]
    exact ⟨.inr (by decide), isVersionChar_of_mem_text h⟩

theorem text_ne_nil : p.text wildcards ≠ [] :=
  List.append_ne_nil_of_left_ne_nil Nat.toDigits_ne_nil _

theorem Written.ne_nil (h : p.Written version) : version ≠ [] := by
  cases h with
  | plain => exact text_ne_nil
  | prefixed => exact List.cons_ne_nil _ _

end PartialVersion

/-- The characters of conditions. -/
inductive IsConditionChar : Char → Prop
  | version {c : Char} : IsVersionChar c → IsConditionChar c
  | operator {c : Char} : Constraint.isOperatorChar c = true → IsConditionChar c
  | separator {c : Char} : isSeparator c = true → IsConditionChar c
  | dash : IsConditionChar '-'

theorem not_isConditionChar_bar : ¬ IsConditionChar '|' := by
  intro h
  cases h with
  | version h => rcases h with h | h <;> exact absurd h (by decide)
  | operator h => exact absurd h (by decide)
  | separator h => exact absurd h (by decide)

theorem IsSpace.isSeparator {gap : List Char} (h : IsSpace gap) :
    ∀ c ∈ gap, isSeparator c = true :=
  fun c hc => isSeparator_iff.2 (.inr (h c hc))

theorem IsGap.isSeparator {gap : List Char} (h : IsGap gap) : ∀ c ∈ gap, isSeparator c = true :=
  fun c hc => isSeparator_iff.2 (h c hc)

theorem Comparison.isOperatorChar_of_mem_spellings (k : Comparison) :
    ∀ operator ∈ k.spellings, ∀ c ∈ operator, Constraint.isOperatorChar c = true := by
  cases k <;> simp [spellings, Constraint.isOperatorChar]

namespace Condition

variable {c : Condition} {conditions : List Condition} {operator version w : List Char}

theorem HasOperator.isOperatorChar (h : c.HasOperator operator version) :
    ∀ d ∈ operator, Constraint.isOperatorChar d = true := by
  cases h with
  | require hop => exact Comparison.isOperatorChar_of_mem_spellings _ _ hop
  | exclude => simp [Constraint.isOperatorChar]

theorem HasOperator.isVersionChar (h : c.HasOperator operator version) :
    ∀ d ∈ version, IsVersionChar d := by
  cases h with
  | require _ hversion => exact hversion.isVersionChar
  | exclude hversion => exact hversion.isVersionChar

theorem HasOperator.ne_nil (h : c.HasOperator operator version) : version ≠ [] := by
  cases h with
  | require _ hversion => exact hversion.ne_nil
  | exclude hversion => exact hversion.ne_nil

theorem Written.isConditionChar (h : c.Written w) : ∀ d ∈ w, IsConditionChar d := by
  cases h with
  | operator hop hgap =>
    simp only [List.forall_mem_append]
    exact ⟨fun d hd => .operator (hop.isOperatorChar d hd),
      fun d hd => .separator (hgap.isSeparator d hd),
      fun d hd => .version (hop.isVersionChar d hd)⟩
  | range ha hb hgap _ hgap' _ =>
    simp only [List.forall_mem_append, List.forall_mem_cons]
    exact ⟨fun d hd => .version (ha.isVersionChar d hd),
      fun d hd => .separator (hgap.isSeparator d hd), .dash,
      fun d hd => .separator (hgap'.isSeparator d hd),
      fun d hd => .version (hb.isVersionChar d hd)⟩

theorem Listed.isConditionChar (h : Listed conditions w) : ∀ d ∈ w, IsConditionChar d := by
  induction h with
  | one hw hgap =>
    rw [List.forall_mem_append]
    exact ⟨hw.isConditionChar, fun d hd => .separator (hgap.isSeparator d hd)⟩
  | more hw hgap _ _ ih =>
    simp only [List.forall_mem_append]
    exact ⟨hw.isConditionChar, fun d hd => .separator (hgap.isSeparator d hd), ih⟩

theorem Listed.ne_nil (h : Listed conditions w) : conditions ≠ [] := by
  cases h <;> exact List.cons_ne_nil _ _

theorem Spaced.ne_nil (h : Spaced conditions w) : conditions ≠ [] := by
  cases h with
  | gap _ hlisted => exact hlisted.ne_nil

theorem Spaced.bar_not_mem (h : Spaced conditions w) : '|' ∉ w := by
  have hchars : ∀ d ∈ w, IsConditionChar d := by
    cases h with
    | gap hgap hlisted =>
      rw [List.forall_mem_append]
      exact ⟨fun d hd => .separator (hgap.isSeparator d hd), hlisted.isConditionChar⟩
  exact not_mem_of_forall hchars not_isConditionChar_bar

end Condition

end ImageGate
