import ImageGate.Proofs.Constraint.Parsing
import ImageGate.Proofs.Constraint.Recognition

/-!
# The language of constraints

A constraint is made of alternatives with two bars between them, an alternative of tokens with gaps
between them, and the tokens are read as items: ranges, requirements and exclusions. `InLanguage`
says which texts that leaves, rule by rule.

The rules have a parameter, because the reader takes more than they say. An operator is looked for
in front of the `v` of a version, and once the `v` has been dropped, the operator and what is left
are put together and read again. Where an operator character stands behind the `v`, the two can make
an operator that nobody has written, or one that should have been refused (`Misread`).
-/

namespace ImageGate.Constraint

open Text Version Comparator

/-! ## The language -/

/-- A version with or without a `v` in front. -/
inductive IsVersionWord : List Char → Prop
  | plain {core : List Char} : IsVersion core → IsVersionWord core
  | prefixed {core : List Char} : IsVersion core → IsVersionWord ('v' :: core)

/-- A wildcard for a version as a whole. -/
inductive IsLoneWildcard : Token → Prop
  | plain {w : Char} : w ∈ ['*', 'x', 'X'] → IsLoneWildcard [w]
  | prefixed {w : Char} : w ∈ ['*', 'x', 'X'] → IsLoneWildcard ['v', w]

/-- The tokens that a comparator is read from: one token, or two if there are only operator
characters in the first one. -/
inductive Glued : List Token → List Char → Prop
  | one {t : Token} : (∃ c ∈ t, isOperatorChar c = false) → Glued [t] t
  | two {operator t : Token} : (∀ c ∈ operator, isOperatorChar c = true) →
      Glued [operator, t] (operator ++ t)

/-- An item and the number of its comparators. `Stray operator version` are comparators that are
taken besides those that the rules provide for. -/
inductive IsItem (Stray : List Char → List Char → Prop) : Nat → List Token → Prop
  | range {a b : Token} : IsVersionWord a → IsVersionWord b → IsItem Stray 2 [a, ['-'], b]
  | require {k : Comparison} {operator version : List Char} {ts : List Token} :
      operator ∈ k.spellings → IsVersionWord version → Glued ts (operator ++ version) →
      IsItem Stray 1 ts
  | exclude {version : List Char} {ts : List Token} : IsVersionWord version →
      Glued ts (['!', '='] ++ version) → IsItem Stray 0 ts
  | stray {operator version : List Char} {ts : List Token} : Stray operator version →
      Glued ts (operator ++ version) → IsItem Stray 1 ts

/-- Items one behind the other, and the number of all their comparators. -/
inductive IsItems (Stray : List Char → List Char → Prop) : Nat → List Token → Prop
  | nil : IsItems Stray 0 []
  | cons {m n : Nat} {ts more : List Token} : IsItem Stray m ts → IsItems Stray n more →
      IsItems Stray (m + n) (ts ++ more)

/-- The tokens of an alternative. A lone wildcard can only have exclusions beside it. -/
inductive IsAlternative (Stray : List Char → List Char → Prop) : List Token → Prop
  | items {n : Nat} {ts : List Token} : IsItems Stray n ts → ts ≠ [] → n ≤ 32 →
      IsAlternative Stray ts
  | wildcard {before behind : List Token} {t : Token} : IsItems Stray 0 before →
      IsLoneWildcard t → IsItems Stray 0 behind → IsAlternative Stray (before ++ t :: behind)

/-- A text and its tokens, which separators, or the ends of the text, enclose. -/
inductive Tokenized : List Token → List Char → Prop
  | nil : Tokenized [] []
  | gap {ts : List Token} {s : Char} {rest : List Char} : isSeparator s = true →
      Tokenized ts rest → Tokenized ts (s :: rest)
  | word {ts : List Token} {w : Token} {rest : List Char} : w ≠ [] →
      (∀ c ∈ w, isSeparator c = false) → (∀ c ∈ rest.head?, isSeparator c = true) →
      Tokenized ts rest → Tokenized (w :: ts) (w ++ rest)

/-- Alternatives with two bars between them. -/
def InLanguage (Stray : List Char → List Char → Prop) : List Char → Prop :=
  JoinedAt (fun a => ∃ ts, Tokenized ts a ∧ IsAlternative Stray ts) '|' '|'

/-- Among the pieces between the dots, but for the first one, there is a wildcard. -/
def HasWildcardPart (text : List Char) : Prop :=
  ∃ before w behind, text = before ++ '.' :: w :: behind ∧ w ∈ ['*', 'x', 'X'] ∧
    ∀ c ∈ behind.head?, c = '.'

/-- What is read as a comparator although the rules do not provide for it. An equals sign behind the
`v` joins the operator in front of it, and an operator behind the `v` is taken for a part of the
version if there is a wildcard in what follows. -/
inductive Misread : List Char → List Char → Prop
  | greater {core : List Char} : IsVersion core → Misread ['>'] ('v' :: '=' :: core)
  | less {core : List Char} : IsVersion core → Misread ['<'] ('v' :: '=' :: core)
  | wildcard (k : Comparison) {core : List Char} : IsVersion core →
      HasWildcardPart (k.sign ++ core) → Misread [] ('v' :: (k.sign ++ core))

/-- No comparators besides those that the rules provide for. -/
def NoStray (_operator _version : List Char) : Prop :=
  False

/-- No operator character stands directly behind a `v`. -/
def VApart (cs : List Char) : Prop :=
  cs.IsChain fun c d => c = 'v' → isOperatorChar d = false

/-! ## Tokens -/

theorem Tokenized.eq_tokens {ts : List Token} {cs : List Char} (h : Tokenized ts cs) :
    ts = tokens cs := by
  induction h with
  | nil => rfl
  | gap hs _ ih => rw [tokens_cons hs, ih]
  | word hne hw hrest _ ih => rw [tokens_word hw hne hrest, ih]

theorem tokenized_tokens (cs : List Char) : Tokenized (tokens cs) cs := by
  match cs with
  | [] => exact .nil
  | c :: cs =>
    by_cases hc : isSeparator c = true
    · rw [tokens_cons hc]
      exact .gap hc (tokenized_tokens cs)
    · let w := (c :: cs).takeWhile (!isSeparator ·)
      let rest := (c :: cs).dropWhile (!isSeparator ·)
      have hcut : w ++ rest = c :: cs := List.takeWhile_append_dropWhile
      have hw : ∀ d ∈ w, isSeparator d = false := fun d hd => by
        simpa using List.mem_takeWhile_imp hd
      have hne : w ≠ [] := by simp [w, hc]
      have hrest : ∀ d ∈ rest.head?, isSeparator d = true := fun d hd => by
        simpa using of_mem_head?_dropWhile hd
      have hlt : rest.length < (c :: cs).length := by
        rw [← hcut, List.length_append]
        have := List.length_pos_iff.2 hne
        omega
      rw [← hcut, tokens_word hw hne hrest]
      exact .word hne hw hrest (tokenized_tokens rest)
termination_by cs.length
decreasing_by
  · exact Nat.lt_succ_self _
  · exact hlt

/-! ## Versions and wildcards -/

section Versions

variable {core version : List Char}

theorem isOperatorChar_of_isDigit {c : Char} (h : c.isDigit = true) : isOperatorChar c = false :=
  IsVersionChar.not_operatorChar (.inl h)

theorem IsVersion.dropV_eq (h : IsVersion core) : dropV core = core := by
  obtain ⟨d, ds, rfl, hd⟩ := h.exists_cons
  have hne : d ≠ 'v' := by
    rintro rfl
    exact absurd hd (by decide)
  simp [dropV, hne]

theorem isVersionWord_iff : IsVersionWord version ↔ IsVersion (dropV version) := by
  constructor
  · intro h
    cases h with
    | plain h => rwa [h.dropV_eq]
    | prefixed h => exact h
  · intro h
    unfold dropV at h
    split at h
    · exact .prefixed h
    · exact .plain h

/-- No version begins with an operator character, with or without a `v`. -/
theorem IsVersionWord.head?_not_operatorChar (h : IsVersionWord version) :
    ∀ c ∈ version.head?, isOperatorChar c = false := by
  cases h with
  | plain h =>
    obtain ⟨d, ds, rfl, hd⟩ := h.exists_cons
    simpa using isOperatorChar_of_isDigit hd
  | prefixed => simp [isOperatorChar]

theorem IsVersion.exists_isDigit (h : IsVersion core) : ∃ c ∈ core, c.isDigit = true := by
  obtain ⟨d, ds, rfl, hd⟩ := h.exists_cons
  exact ⟨d, List.mem_cons_self, hd⟩

theorem IsVersionWord.exists_isDigit (h : IsVersionWord version) :
    ∃ c ∈ version, c.isDigit = true := by
  cases h with
  | plain h => exact h.exists_isDigit
  | prefixed h =>
    obtain ⟨d, hmem, hd⟩ := h.exists_isDigit
    exact ⟨d, List.mem_cons_of_mem _ hmem, hd⟩

theorem IsVersionWord.glued (h : IsVersionWord version) : Glued [version] version := by
  obtain ⟨d, hmem, hd⟩ := h.exists_isDigit
  exact .one ⟨d, hmem, isOperatorChar_of_isDigit hd⟩

theorem IsVersionWord.ne_dash (h : IsVersionWord version) : version ≠ ['-'] := by
  rintro rfl
  obtain ⟨d, hmem, hd⟩ := h.exists_isDigit
  obtain rfl := List.mem_singleton.1 hmem
  exact absurd hd (by decide)

/-- A dropped `v` is all that can hide an operator character. -/
theorem eq_cons_of_dropV {c : Char} {cs : List Char} (h : dropV version = c :: cs)
    (hc : isOperatorChar c = true) (hhead : ∀ d ∈ version.head?, isOperatorChar d = false) :
    version = 'v' :: c :: cs := by
  unfold dropV at h
  split at h
  · rw [h]
  · rw [h] at hhead
    exact absurd hc (by simpa using hhead)

theorem IsVersionWord.not_separator (h : IsVersionWord version) :
    ∀ c ∈ version, isSeparator c = false := by
  have hchars (core : List Char) (h : IsVersion core) : ∀ c ∈ core, isSeparator c = false := by
    intro c hc
    rcases h.chars c hc with hc | hc
    · refine Bool.eq_false_iff.2 fun hsep => ?_
      rcases isSeparator_iff.1 hsep with rfl | hblank
      · exact absurd hc (by decide)
      · rw [isBlank_of_isAlphanum hc] at hblank
        cases hblank
    · simp only [List.mem_cons, List.not_mem_nil, or_false] at hc
      rcases hc with rfl | rfl | rfl | rfl <;> decide
  cases h with
  | plain h => exact hchars _ h
  | prefixed h => exact List.forall_mem_cons.2 ⟨by decide, hchars _ h⟩

theorem hasWildcard_iff {text : List Char} (hhead : ∀ c ∈ text.head?, isWildcard c = false) :
    hasWildcard text = true ↔ HasWildcardPart text := by
  have hpiece : hasWildcard text = true ↔ ∃ w ∈ ['*', 'x', 'X'], [w] ∈ pieces (· == '.') text := by
    unfold hasWildcard
    rw [List.any_eq_true]
    constructor
    · rintro ⟨piece, hmem, hpiece⟩
      split at hpiece
      · exact ⟨_, isWildcard_iff.1 hpiece, hmem⟩
      · cases hpiece
    · rintro ⟨w, hw, hmem⟩
      exact ⟨[w], hmem, isWildcard_iff.2 hw⟩
  rw [hpiece]
  constructor
  · rintro ⟨w, hw, hmem⟩
    obtain ⟨-, a, b, rfl, ha, hb⟩ := mem_pieces_iff.1 hmem
    -- The first piece begins with no wildcard, so this is not the first one.
    rcases List.eq_nil_or_concat a with rfl | ⟨a, s, rfl⟩
    · exact absurd (isWildcard_iff.2 hw) (by simpa using hhead)
    · obtain rfl : s = '.' := by simpa using ha
      exact ⟨a, w, b, by simp, hw, fun c hc => by simpa using hb c hc⟩
  · rintro ⟨before, w, behind, rfl, hw, hbehind⟩
    have hdot : w ≠ '.' := by
      rintro rfl
      exact absurd hw (by decide)
    exact ⟨w, hw, mem_pieces_iff.2 ⟨by simpa using hdot, before ++ ['.'], behind, by simp,
      by simp, fun c hc => by simpa using hbehind c hc⟩⟩

end Versions

end ImageGate.Constraint
